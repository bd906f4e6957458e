import EpubLibrary.Text.Blank
import EpubLibrary.Text.DecimalDigit
import EpubLibrary.Bytes

/-!
# Integer literals

`readInteger?` reads an integer in base ten or sixteen from a whole text. Blanks may surround it, a
sign may stand before it, one underscore may stand between two digits, and the digits may be of any
script. A literal in base sixteen may carry the mark `0x`, after which an underscore may stand too.
-/

namespace EpubLibrary.Text

/-- The blanks that may surround a number: the four separators U+001C to U+001F may not. -/
def isNumberBlank (c : Char) : Bool := isBlank c && !(0x1C ≤ c.toNat && c.toNat ≤ 0x1F)

/-- The value of a digit in a base of at most sixteen. -/
def digitIn? (base : Nat) (c : Char) : Option Nat :=
  match digitValue? c with
  | some d => if d < base then some d else none
  | none =>
    match Bytes.hexValue? c with
    | some d => if d < base then some d else none
    | none => none

/-- The digits of a literal from its first digit on; an underscore must stand between digits. -/
def readDigits? (base : Nat) : List Char → Option (List Nat)
  | [] => none
  | [c] => (digitIn? base c).map ([·])
  | c :: '_' :: rest => do
    let d ← digitIn? base c
    let ds ← readDigits? base rest
    pure (d :: ds)
  | c :: rest => do
    let d ← digitIn? base c
    let ds ← readDigits? base rest
    pure (d :: ds)

/-- Takes off the mark of base sixteen, whose zero may be of any script, and the underscore behind
it. -/
def dropBaseMark (base : Nat) (s : List Char) : List Char :=
  if base ≠ 16 then s
  else
    match s with
    | zero :: x :: rest =>
      if digitValue? zero = some 0 ∧ (x = 'x' ∨ x = 'X') then
        match rest with
        | '_' :: more => more
        | _ => rest
      else s
    | _ => s

/-- The number that digits stand for, most significant first. -/
def ofDigits (base : Nat) (ds : List Nat) : Nat := ds.foldl (fun n d => n * base + d) 0

/-- A literal in base ten of more digits is refused. -/
def maxDecimalDigits : Nat := 4300

/-- Can the digits of an integer be told? -/
def isTellable (n : Int) : Bool := n.natAbs < Nat.pow 10 maxDecimalDigits

/-- What is said instead of more digits. -/
def untoldMessage : String :=
  "Exceeds the limit (4300 digits) for integer string conversion; " ++
    "use sys.set_int_max_str_digits() to increase the limit"

def readUnsigned? (base : Nat) (s : List Char) : Option Nat := do
  let ds ← readDigits? base (dropBaseMark base s)
  if base = 10 ∧ maxDecimalDigits < ds.length then none else pure (ofDigits base ds)

/-- The integer that the whole text spells in base ten or sixteen. -/
def readInteger? (base : Nat) (s : List Char) : Option Int :=
  match stripWhile isNumberBlank s with
  | '-' :: rest => (readUnsigned? base rest).map fun n => -(n : Int)
  | '+' :: rest => (readUnsigned? base rest).map fun n => (n : Int)
  | rest => (readUnsigned? base rest).map fun n => (n : Int)

end EpubLibrary.Text
