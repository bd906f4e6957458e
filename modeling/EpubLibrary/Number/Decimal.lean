import EpubLibrary.Number.Binary64
import EpubLibrary.Text.IntegerLiteral

/-!
# Decimal texts of numbers

`shortest` finds the fewest decimal digits that read back as a value, and of those the nearest.
`Binary64.text` writes them: positionally for decimal exponents from -4 to 15, else with an exponent
of at least two digits; a whole number keeps one zero behind the point. `Binary64.read?` reads a
decimal text to the nearest value. A `Number` is an integer or a binary number, as `Number.read?`
finds it written.
-/

namespace EpubLibrary

/-- Decimal digits, most significant first, and the exponent of the first of them. -/
structure Digits where
  digits : List Nat
  exponent : Int

namespace Decimal

/-- A positive quotient. -/
structure Ratio where
  num : Nat
  den : Nat

/-- Is the first quotient at most the second, or less? -/
def Ratio.le (a b : Ratio) : Bool := a.num * b.den ≤ b.num * a.den
def Ratio.lt (a b : Ratio) : Bool := a.num * b.den < b.num * a.den

/-- A value in units of `10 ^ k`. -/
def Ratio.inUnits (value : Ratio) (k : Int) : Ratio :=
  ⟨value.num * Nat.pow 10 (-k).toNat, value.den * Nat.pow 10 k.toNat⟩

/-- The quotient rounded down. -/
def Ratio.floor (value : Ratio) : Nat := value.num / value.den

/-- `n * base ^ k`. -/
def scaled (base n : Nat) (k : Int) : Ratio := ⟨n * Nat.pow base k.toNat, Nat.pow base (-k).toNat⟩

/-- The values that read as one value: from `low` to `high`, with the ends or without. -/
structure Span where
  low : Ratio
  high : Ratio
  closed : Bool

def Span.contains (s : Span) (r : Ratio) : Bool :=
  if s.closed then s.low.le r && r.le s.high else s.low.lt r && r.lt s.high

/-- What rounds to `m * 2 ^ e`. Below a power of two the values lie closer together. -/
def spanOf (m : Nat) (e : Int) : Span :=
  let low :=
    if m = 0x10000000000000 ∧ Binary64.minExponent < e then scaled 2 (4 * m - 1) (e - 2)
    else scaled 2 (2 * m - 1) (e - 1)
  ⟨low, scaled 2 (2 * m + 1) (e - 1), m % 2 = 0⟩

/-- The decimal digits of a number, most significant first, in front of others. -/
def digitsOf : (fuel n : Nat) → List Nat → List Nat
  | 0, _, ds => ds
  | fuel + 1, n, ds => if n = 0 then ds else digitsOf fuel (n / 10) (n % 10 :: ds)

/-- The digits of `n * 10 ^ k` without zeros at their end. -/
def digits (n : Nat) (k : Int) : Digits :=
  let ds := digitsOf (Nat.log2 n + 1) n []
  ⟨(ds.reverse.dropWhile (· = 0)).reverse, ds.length - 1 + k⟩

/-- Of the two neighbours of a value on the grid of `10 ^ k`, one that reads back: the nearer if
both do, the even one of a tie. -/
def onGrid? (value : Ratio) (span : Span) (k : Int) : Option Nat :=
  let inside := value.inUnits k
  let below := inside.floor
  match span.contains (scaled 10 below k), span.contains (scaled 10 (below + 1) k) with
  | true, true => some (Binary64.roundDiv inside.num inside.den)
  | true, false => some below
  | false, true => some (below + 1)
  | false, false => none

/-- Tries finer and finer grids, from that of `10 ^ k` on. -/
def search (value : Ratio) (span : Span) : (fuel : Nat) → (k : Int) → Digits
  | 0, k => digits (value.inUnits k).floor k
  | fuel + 1, k =>
    match onGrid? value span k with
    | some n => if n = 0 then search value span fuel (k - 1) else digits n k
    | none => search value span fuel (k - 1)

/-- An exponent of ten above the value: a little more than the logarithm. -/
def startExponent (m : Nat) (e : Int) : Int := ((Nat.log2 m : Int) + 1 + e) * 30103 / 100000 + 1

/-- The shortest digits that read back as `m * 2 ^ e`. -/
def shortest (m : Nat) (e : Int) : Digits :=
  search (scaled 2 m e) (spanOf m e) 20 (startExponent m e)

/-- One digit as a character. -/
def digitChar (d : Nat) : Char := Char.ofNat (48 + d)

def digitText (ds : List Nat) : List Char := ds.map digitChar

/-- An exponent with its sign and at least two digits. -/
def exponentText (e : Int) : List Char :=
  let n := e.natAbs
  (if e < 0 then '-' else '+') :: (if n < 10 then ['0'] else []) ++ (toString n).toList

/-- The layout of the digits of a positive number. -/
def layout (d : Digits) : List Char :=
  let ds := digitText d.digits
  let e := d.exponent
  if -4 ≤ e ∧ e < 0 then
    '0' :: '.' :: List.replicate ((-e).toNat - 1) '0' ++ ds
  else if 0 ≤ e ∧ e ≤ 15 then
    let whole := e.toNat + 1
    let front := ds.take whole ++ List.replicate (whole - ds.length) '0'
    let back := ds.drop whole
    front ++ '.' :: (if back = [] then ['0'] else back)
  else
    let front := ds.take 1
    let back := ds.drop 1
    front ++ (if back = [] then [] else '.' :: back) ++ 'e' :: exponentText e

end Decimal

namespace Binary64

/-- The text of a value. -/
def text : Binary64 → String
  | .nan => "nan"
  | .infinite negative => if negative then "-inf" else "inf"
  | .finite negative m e =>
    let body := if m = 0 then ['0', '.', '0'] else Decimal.layout (Decimal.shortest m e)
    String.ofList (if negative then '-' :: body else body)

/-- The value of a digit. -/
def digit? (c : Char) : Option Nat := if '0' ≤ c ∧ c ≤ '9' then some (c.toNat - 48) else none

/-- The digits at the front of a text, and the rest of it. -/
def leadingDigits (s : List Char) : List Nat × List Char :=
  (s.takeWhile (digit? · |>.isSome) |>.filterMap digit?, s.dropWhile (digit? · |>.isSome))

/-- A number from its digits. -/
def ofDigits (ds : List Nat) : Nat := ds.foldl (fun n d => 10 * n + d) 0

/-- The value nearest to `n * 10 ^ k`; far outside the range no power is computed. -/
def ofScaled (negative : Bool) (n : Nat) (k : Int) : Binary64 :=
  if n = 0 then zero negative
  else
    let top := k + (toString n).length
    if 400 < top then .infinite negative
    else if top < -400 then zero negative
    else
      let r := Decimal.scaled 10 n k
      ofRatio negative r.num r.den

/-- The exponent that stands behind the digits, if nothing else does. -/
def readExponent? (s : List Char) : Option Int :=
  match s with
  | [] => some 0
  | e :: rest =>
    if e = 'e' ∨ e = 'E' then
      let (negative, rest) :=
        match rest with
        | '-' :: more => (true, more)
        | '+' :: more => (false, more)
        | _ => (false, rest)
      let (ds, rest) := leadingDigits rest
      if ds = [] ∨ rest ≠ [] then none else some (signed negative (ofDigits ds))
    else none

/-- Reads digits with an optional point and exponent. -/
def readUnsigned? (negative : Bool) (s : List Char) : Option Binary64 := do
  let (whole, rest) := leadingDigits s
  let (part, rest) :=
    match rest with
    | '.' :: more => leadingDigits more
    | _ => ([], rest)
  let e ← readExponent? rest
  if whole = [] ∧ part = [] then none
  else pure (ofScaled negative (ofDigits (whole ++ part)) (e - part.length))

/-- Reads a decimal text, an infinity or the mark of no number. -/
def read? (s : List Char) : Option Binary64 :=
  let (negative, body) :=
    match s with
    | '-' :: rest => (true, rest)
    | '+' :: rest => (false, rest)
    | _ => (false, s)
  let word := String.ofList (body.map Char.toLower)
  if word = "nan" then some .nan
  else if word = "inf" ∨ word = "infinity" then some (.infinite negative)
  else readUnsigned? negative body

end Binary64

/-- A number as it is given: an integer of any size, or a binary number. -/
inductive Number where
  | integer (n : Int)
  | binary (x : Binary64)
  deriving DecidableEq

namespace Number

def text : Number → String
  | .integer n => toString n
  | .binary x => x.text

/-- Can the number be written? Integers of more than 4300 digits are not. -/
def isWritable : Number → Bool
  | .integer n => Text.isTellable n
  | .binary _ => true

/-- Reads a number: digits alone, with a sign or without, are an integer. -/
def read? (s : String) : Option Number :=
  let cs := s.toList
  let (negative, body) :=
    match cs with
    | '-' :: rest => (true, rest)
    | _ => (false, cs)
  let (ds, rest) := Binary64.leadingDigits body
  if ds ≠ [] ∧ rest = [] then some (.integer (Binary64.signed negative (Binary64.ofDigits ds)))
  else (Binary64.read? cs).map .binary

/-- Does the number lie between zero and one? -/
def isFraction : Number → Bool
  | .integer n => 0 ≤ n && n ≤ 1
  | .binary x => (Binary64.zero false).le x && x.le (.finite false (0x10000000000000) (-52))

/-- The binary number nearest to it, if it is not too large. -/
def toBinary? : Number → Option Binary64
  | .integer n => Binary64.ofInt? n
  | .binary x => some x

end Number
end EpubLibrary
