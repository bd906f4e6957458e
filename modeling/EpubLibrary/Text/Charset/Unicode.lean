import EpubLibrary.Text.Pieces
import EpubLibrary.Text.Quoted

/-!
# Sixteen, thirty-two and seven bit forms of Unicode

`utf16` and `utf32` read units of two or four bytes in a given order. `utf7Pieces` reads plain
characters with runs of base 64 between them, and `utf7Stray?` finds the first surrogates that stand
alone there.
-/

namespace EpubLibrary.Text.Charset

inductive ByteOrder where
  | little
  | big
  deriving DecidableEq

/-- The number that bytes spell in an order. -/
def ByteOrder.number (order : ByteOrder) (bytes : Bytes) : Nat :=
  match order with
  | .little => Bytes.natLe bytes
  | .big => Bytes.natBe bytes

def isHighSurrogate (n : Nat) : Bool := 0xD800 ≤ n && n < 0xDC00

def isLowSurrogate (n : Nat) : Bool := 0xDC00 ≤ n && n < 0xE000

/-- The character of two surrogates. -/
def joinSurrogates (high low : Nat) : Char :=
  Char.ofNat (0x10000 + (high - 0xD800) * 0x400 + (low - 0xDC00))

def utf16 (order : ByteOrder) (bytes : Bytes) : Piece :=
  match bytes with
  | a :: b :: rest =>
    let unit := order.number [a, b]
    if isHighSurrogate unit then
      match rest with
      | c :: d :: _ =>
        let low := order.number [c, d]
        if isLowSurrogate low then .char (joinSurrogates unit low) 4 else .unreadable 2
      | _ => .unreadable bytes.length
    else if isLowSurrogate unit then .unreadable 2
    else .char (Char.ofNat unit) 2
  | _ => .unreadable bytes.length

def utf32 (order : ByteOrder) (bytes : Bytes) : Piece :=
  match bytes with
  | a :: b :: c :: d :: _ =>
    let n := order.number [a, b, c, d]
    if n < 0xD800 ∨ (0xE000 ≤ n ∧ n < 0x110000) then .char (Char.ofNat n) 4 else .unreadable 4
  | _ => .unreadable bytes.length

/-! ## Seven bits -/

/-- The value of a base 64 digit. -/
def base64Value? (b : Nat) : Option Nat :=
  if 65 ≤ b ∧ b ≤ 90 then some (b - 65)
  else if 97 ≤ b ∧ b ≤ 122 then some (b - 71)
  else if 48 ≤ b ∧ b ≤ 57 then some (b + 4)
  else if b = 43 then some 62
  else if b = 47 then some 63
  else none

/-- Inside a run of base 64: bits not yet used, and a surrogate that waits for its partner. -/
structure Run where
  bits : Nat
  count : Nat
  high : Option Nat

/-- The surrogate that waits is left alone. -/
def Run.flush (r : Run) : List (Option Nat) := r.high.toList.map some

/-- Takes a unit of sixteen bits. -/
def Run.take (r : Run) (unit : Nat) : List (Option Nat) × Run :=
  match r.high with
  | some high =>
    if isLowSurrogate unit then
      ([some (joinSurrogates high unit).toNat], { r with high := none })
    else if isHighSurrogate unit then ([some high], { r with high := some unit })
    else ([some high, some unit], { r with high := none })
  | none => if isHighSurrogate unit then ([], { r with high := some unit }) else ([some unit], r)

/-- Takes a base 64 digit, and the unit that it completes. -/
def Run.push (r : Run) (digit : Nat) : List (Option Nat) × Run :=
  let bits := r.bits * 64 + digit
  let count := r.count + 6
  if 16 ≤ count then
    let extra := count - 16
    let unit := bits / Nat.pow 2 extra
    { r with bits := bits % Nat.pow 2 extra, count := extra : Run }.take unit
  else ([], { r with bits, count })

/-- Are the bits that a run leaves unused too many, or not all zero? -/
def Run.isDirty (r : Run) : Bool := 6 ≤ r.count || r.bits ≠ 0

/-- Where a reader of seven bit text stands: among plain characters, behind the sign that begins a
run of base 64, or inside a run. -/
inductive Place7 where
  | plain
  | begun
  | inside (r : Run)

/-- Reads seven bit text as code points; nothing stands for bytes that spell none. -/
def utf7From : Place7 → Bytes → List (Option Nat)
  | .inside r, [] => if r.high.isSome || r.isDirty then [none] else []
  | _, [] => []
  | .plain, b :: rest =>
    if b = 43 then utf7From .begun rest
    else if b < 128 then some b.toNat :: utf7From .plain rest
    else none :: utf7From .plain rest
  | .begun, b :: rest =>
    match base64Value? b.toNat with
    | some digit => utf7From (.inside ⟨digit, 6, none⟩) rest
    | none => (if b = 45 then some 43 else none) :: utf7From .plain rest
  | .inside r, b :: rest =>
    match base64Value? b.toNat with
    | some digit =>
      let (shown, r) := r.push digit
      shown ++ utf7From (.inside r) rest
    | none =>
      if r.isDirty then none :: utf7From .plain rest
      else if b = 45 then r.flush ++ utf7From .plain rest
      else if b < 128 then r.flush ++ some b.toNat :: utf7From .plain rest
      else none :: utf7From .plain rest

def isSurrogate (n : Nat) : Bool := isHighSurrogate n || isLowSurrogate n

/-- The text of code points; a surrogate that is left alone shows as the replacement character. -/
def shownPoints (points : List (Option Nat)) : List (Option (List Char)) :=
  points.map fun n => n.map fun n => [if isSurrogate n then replacementChar else Char.ofNat n]

/-- Surrogates left alone in a text: where the first ones stand, and which they are. -/
structure Stray where
  position : Nat
  units : List Nat
  deriving DecidableEq

/-- How surrogates that have no bytes are told. -/
def Stray.message (s : Stray) : String :=
  let start := "'utf-8' codec can't encode character"
  match s.units with
  | [unit] =>
    start ++ " '\\u" ++ String.ofList (hexDigits 4 unit) ++ "' in position " ++
      toString s.position ++ ": surrogates not allowed"
  | units =>
    start ++ "s in position " ++ toString s.position ++ "-" ++
      toString (s.position + units.length - 1) ++ ": surrogates not allowed"

/-- The first surrogates that code points leave alone. -/
def strayIn? (points : List (Option Nat)) : Option Stray :=
  let points := points.map (·.getD 0)
  match points.dropWhile (!isSurrogate ·) with
  | [] => none
  | rest => some ⟨points.length - rest.length, rest.takeWhile isSurrogate⟩

end EpubLibrary.Text.Charset
