import EpubLibrary.Text.Charset.Tables

/-!
# Seven bit text in which escapes choose the set of characters

An escape names a set by a letter, for one of three places: the set in use, the one that a control
character switches to, and the one for single characters behind a mark. `Escaping` says which sets a
form of such text knows and which places it has; `escapedFrom` reads it.
-/

namespace EpubLibrary.Text.Charset

/-- A set that can be called in. -/
structure CalledSet where
  read : Bytes → Piece
  /-- the character of one byte behind the mark for single characters -/
  single? : Nat → Option Char := fun _ => none

namespace CalledSet

def ascii : CalledSet where
  read := singleByte #[] 128
  single? b := if b < 128 then some (Char.ofNat b) else none

/-- The letters of Rome as Japan has them. -/
def roman : CalledSet where
  read
    | [] => .unreadable 1
    | b :: _ => .char (romanChar b) 1

/-- The half-width letters of the Japanese syllabary. -/
def kana : CalledSet where
  read
    | [] => .unreadable 1
    | b :: _ => .ofChar? (halfWidthChar? (b.toNat + 128)) 1

/-- Two bytes a character. -/
def double (text? : Nat → Nat → Option (List Char)) : CalledSet where
  read
    | a :: b :: _ =>
      if b < 128 then ⟨text? (a.toNat + 128) (b.toNat + 128), 2⟩ else .unreadable 2
    | _ => .unreadable 1

/-- Two bytes a character, in rows of 94. -/
def rows (text? : Nat → Option (List Char)) : CalledSet :=
  .double fun a b => (rowPlace? a b).bind text?

def korean : CalledSet := .double fun a b => (koreanRowChar? a b).map ([·])

def chinese : CalledSet := .double fun a b => (gb2312Char? a b).map ([·])

/-- The upper half of the page for the west of Europe, which has characters only behind the mark. -/
def western : CalledSet where
  read _ := .unreadable 1
  single? b := if b < 128 then some (Char.ofNat (b + 128)) else none

/-- The upper half of the page for Greek, before it had signs for money. The mark takes bytes of
either half, and changes the half. -/
def greek : CalledSet where
  read _ := .unreadable 1
  single? b :=
    if 128 ≤ b then some (Char.ofNat (b - 128))
    else if b = 0x24 ∨ b = 0x25 ∨ b = 0x2A then none
    else ((upperHalves.lookup "iso8859_7").map ofLines).bind (tableChar? · b)

end CalledSet

/-- What escapes can do in a form of seven bit text. -/
structure Escaping where
  /-- the set of one byte a character that a letter names -/
  narrow? : UInt8 → Option CalledSet
  /-- the set of two bytes a character that a letter names -/
  wide? : UInt8 → Option CalledSet
  /-- Do two control characters switch between two sets? -/
  switches : Bool := false
  /-- Is there a mark for single characters? -/
  marks : Bool := false
  /-- May an escape announce the revision of the set that it names? -/
  announces : Bool := true

/-- Where an escape that names a set ends. -/
inductive EscapeEnd where
  /-- It takes so many bytes. -/
  | after (size : Nat)
  /-- The text is over before. -/
  | unfinished
  /-- It is longer than any escape may be. -/
  | tooLong
  deriving DecidableEq

/-- The letters that end an escape. -/
def endsEscape (b : UInt8) : Bool := (65 ≤ b && b ≤ 90) || b = 64

namespace Escaping

variable (e : Escaping)

/-- Looks for the end of an escape, `done` bytes of which lie behind; an announcement `&@` in it and
the escape byte behind that, `skip` bytes of which are left, do not end it. -/
def escapeEnd : (done skip : Nat) → Bytes → EscapeEnd
  | done, skip, [] => if 16 ≤ done + skip then .tooLong else .unfinished
  | done, skip + 1, _ :: rest => escapeEnd (done + 1) skip rest
  | done, 0, b :: rest =>
    if 16 ≤ done then .tooLong
    else if endsEscape b then .after (done + 1)
    else if e.announces ∧ b = 38 ∧ rest.head? = some 64 then escapeEnd (done + 1) 2 rest
    else escapeEnd (done + 1) 0 rest

/-- The sets called in, and whether the second one is in use. -/
structure Called where
  first : CalledSet := .ascii
  second : CalledSet := .ascii
  single : CalledSet := .ascii
  switched : Bool := false

/-- The set in use. -/
def Called.current (c : Called) : CalledSet := if c.switched then c.second else c.first

/-- The sets called in behind a whole escape, which the bytes after the escape byte spell. -/
def afterEscape? (c : Called) : Bytes → Option Called
  | [36, letter] => (e.wide? letter).map fun set => { c with first := set }
  | [40, letter] => (e.narrow? letter).map fun set => { c with first := set }
  | [41, letter] => (e.narrow? letter).map fun set => { c with second := set }
  | [46, letter] =>
    if e.marks then (e.narrow? letter).map fun set => { c with single := set } else none
  | [36, 40, letter] => (e.wide? letter).map fun set => { c with first := set }
  | [36, 41, letter] => (e.wide? letter).map fun set => { c with second := set }
  | [_, _, 27, 36, 66] =>
    if e.announces then (e.wide? 66).map fun set => { c with first := set } else none
  | _ => none

/-- Reads seven bit text, in which a new line begins with the first set; `verbatim` holds behind an escape that chooses no set, up to a capital
letter, and `skip` bytes of the character before are left. -/
def escapedFrom : (verbatim : Bool) → Called → (skip : Nat) → Bytes → List (Option (List Char))
  | _, _, _, [] => []
  | verbatim, c, skip + 1, _ :: rest => escapedFrom verbatim c skip rest
  | verbatim, c, 0, a :: rest =>
    if verbatim then some [Char.ofNat a.toNat] :: escapedFrom (!endsEscape a) c 0 rest
    else if a = 0x1B then
      match rest with
      | [] => [none]
      | b :: more =>
        if b = 40 ∨ b = 41 ∨ b = 36 ∨ b = 46 ∨ b = 38 then
          match e.escapeEnd 1 0 rest with
          | .unfinished => [none]
          | .tooLong => none :: escapedFrom false c 0 rest
          | .after size =>
            match e.afterEscape? c (rest.take (size - 1)) with
            | some next => escapedFrom false next (size - 1) rest
            | none => none :: escapedFrom false c (size - 1) rest
        else if e.marks ∧ b = 78 then
          match more with
          | [] => [none]
          | d :: _ => (c.single.single? d.toNat).map ([·]) :: escapedFrom false c 2 rest
        else some ['\x1b'] :: escapedFrom true c 0 rest
    else if e.switches ∧ (a = 0x0E ∨ a = 0x0F) then
      escapedFrom false { c with switched := a = 0x0E } 0 rest
    else if a < 0x20 then
      some [Char.ofNat a.toNat] ::
        escapedFrom false { c with switched := c.switched && a ≠ 0x0A } 0 rest
    else if 128 ≤ a then none :: escapedFrom false c 0 rest
    else
      let piece := c.current.read (a :: rest)
      piece.chars :: escapedFrom false c (piece.width - 1) rest

def pieces (bytes : Bytes) : List (Option (List Char)) := e.escapedFrom false {} 0 bytes

end Escaping

/-! ## Forms of such text -/

/-- The sets that letters name. -/
def namedIn (sets : List (Char × CalledSet)) (letter : UInt8) : Option CalledSet :=
  sets.lookup (Char.ofNat letter.toNat)

def jis : CalledSet := .rows jisText?

def jisExtra : CalledSet := .rows jisExtraText?

def escapedKorean : Escaping where
  narrow? := namedIn [('B', .ascii)]
  wide? := namedIn [('C', .korean)]
  switches := true
  announces := false

def escapedJapanese : Escaping where
  narrow? := namedIn [('B', .ascii), ('J', .roman)]
  wide? := namedIn [('B', jis), ('@', jis)]

def escapedJapanese1 : Escaping where
  narrow? := escapedJapanese.narrow?
  wide? := namedIn [('B', jis), ('@', jis), ('D', jisExtra)]

/-- With sets of other countries. -/
def escapedJapanese2 : Escaping where
  narrow? := namedIn [('B', .ascii), ('J', .roman), ('A', .western), ('F', .greek)]
  wide? := namedIn [('B', jis), ('@', jis), ('D', jisExtra), ('C', .korean), ('A', .chinese)]
  marks := true

def escapedJapaneseExtended : Escaping where
  narrow? := namedIn [('B', .ascii), ('J', .roman), ('I', .kana)]
  wide? := escapedJapanese1.wide?

/-- With the later set. -/
def escapedLater (edition : Edition) : Escaping where
  narrow? := namedIn [('B', .ascii)]
  wide? := namedIn [('B', jis), ('P', .rows secondText?),
    (match edition with | .first => 'O' | .second => 'Q', .rows (laterText? edition))]

end EpubLibrary.Text.Charset
