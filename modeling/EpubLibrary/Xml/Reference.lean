import EpubLibrary.Xml.Name

namespace EpubLibrary.Xml

/-- What a reference stands for. -/
inductive Reference where
  | char (c : Char)
  | entity (name : String)
  | broken

/-- The five predefined entities. -/
def predefined? (name : String) : Option Char :=
  match name with
  | "amp" => some '&'
  | "lt" => some '<'
  | "gt" => some '>'
  | "quot" => some '"'
  | "apos" => some '\''
  | _ => none

/-- The value of a digit in a base up to sixteen. -/
def digit? (base : Nat) (c : Char) : Option Nat :=
  let n := c.toNat
  let d? :=
    if 48 ≤ n ∧ n ≤ 57 then some (n - 48)
    else if 97 ≤ n ∧ n ≤ 102 then some (n - 87)
    else if 65 ≤ n ∧ n ≤ 70 then some (n - 55)
    else none
  d?.bind fun d => if d < base then some d else none

/-- Reads the digits of a character number up to a semicolon; `none` if something else stops
them. -/
def readNumber (base : Nat) : (value : Nat) → List Char → Option Nat × List Char
  | _, [] => (none, [])
  | value, c :: s =>
    if c = ';' then (some value, s)
    else
      match digit? base c with
      | some d => readNumber base (min (value * base + d) 0x110000) s
      | none => (none, c :: s)

/-- The character of a number, if a document may hold it. -/
def charOf? (n : Nat) : Option Char :=
  if n.isValidChar ∧ isChar (Char.ofNat n) then some (Char.ofNat n) else none

/-- Reads a reference from behind its ampersand. -/
def readReference (s : List Char) : Reference × List Char :=
  match s with
  | '#' :: rest =>
    let (n, rest) :=
      match rest with
      | 'x' :: digits => readNumber 16 0 digits
      | _ => readNumber 10 0 rest
    match n.bind charOf? with
    | some c => (.char c, rest)
    | none => (.broken, rest)
  | _ =>
    match readName s with
    | ([], rest) => (.broken, rest)
    | (name, ';' :: rest) => (.entity (String.ofList name), rest)
    | (_, rest) => (.broken, rest)

end EpubLibrary.Xml
