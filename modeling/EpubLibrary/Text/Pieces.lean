import EpubLibrary.Bytes

/-!
# Reading encoded text piece by piece

A `Piece` is what stands at the start of a byte string: characters, or bytes that spell none.
`pieces` cuts a whole byte string; `strict?` refuses a text with unreadable bytes and `replacing`
shows the replacement character for each unreadable piece.
-/

namespace EpubLibrary.Text

/-- What stands at the start of a byte string, and how many bytes it takes. -/
structure Piece where
  chars : Option (List Char)
  width : Nat

namespace Piece

def char (c : Char) (width : Nat) : Piece := ⟨some [c], width⟩

def unreadable (width : Nat) : Piece := ⟨none, width⟩

/-- A text if there is one, else one unreadable byte. -/
def ofText? (s : Option (List Char)) (width : Nat) : Piece :=
  match s with
  | some s => ⟨some s, width⟩
  | none => unreadable 1

def ofChar? (c : Option Char) (width : Nat) : Piece := ofText? (c.map ([·])) width

end Piece

/-- Cuts a byte string into pieces; `skip` bytes of the piece before are left. -/
def piecesFrom (read : Bytes → Piece) : (skip : Nat) → Bytes → List (Option (List Char))
  | _, [] => []
  | skip + 1, _ :: rest => piecesFrom read skip rest
  | 0, b :: rest =>
    let piece := read (b :: rest)
    piece.chars :: piecesFrom read (piece.width - 1) rest

def pieces (read : Bytes → Piece) (bytes : Bytes) : List (Option (List Char)) :=
  piecesFrom read 0 bytes

/-- The text, if every piece is readable. -/
def strict? : List (Option (List Char)) → Option (List Char)
  | [] => some []
  | some cs :: rest => (strict? rest).map (cs ++ ·)
  | none :: _ => none

def replacementChar : Char := '\ufffd'

/-- The text with the replacement character for each unreadable piece. -/
def replacing (ps : List (Option (List Char))) : List Char :=
  ps.flatMap (·.getD [replacementChar])

end EpubLibrary.Text
