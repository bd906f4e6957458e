import EpubLibrary.Text.Charset.Unicode

/-!
# Text with backslashes

Bytes that stand for the characters of the same numbers, but for backslashes and what they escape.
Numbers of characters may be those of surrogates.
-/

namespace EpubLibrary.Text.Charset

def hexValue? (b : UInt8) : Option Nat :=
  if 48 ≤ b ∧ b ≤ 57 then some (b.toNat - 48)
  else if 65 ≤ b ∧ b ≤ 70 then some (b.toNat - 55)
  else if 97 ≤ b ∧ b ≤ 102 then some (b.toNat - 87)
  else none

/-- What a backslash and the bytes behind it spell, and how many of these belong to it. -/
structure Escape where
  points : List (Option Nat)
  width : Nat

namespace Escape

/-- A number of so many digits behind the letter of an escape. -/
def number (count : Nat) (rest : Bytes) : Escape :=
  let digits := (rest.take count).map hexValue? |>.takeWhile (·.isSome)
  let value := digits.foldl (fun n d => n * 16 + d.getD 0) 0
  ⟨[if digits.length = count ∧ value < 0x110000 then some value else none], digits.length + 1⟩

/-- The escapes that hold for every character: numbers of four or eight digits. -/
def raw : Bytes → Escape
  | [] => ⟨[some 92], 0⟩
  | b :: rest =>
    if b = 117 then number 4 rest
    else if b = 85 then number 8 rest
    else ⟨[some 92, some b.toNat], 1⟩

/-- Characters that a letter behind a backslash stands for. -/
def letters : List (Nat × Nat) :=
  [(92, 92), (39, 39), (34, 34), (98, 8), (102, 12), (116, 9), (110, 10), (114, 13), (118, 11), (97, 7)]

/-- The value of up to three digits to base eight. -/
def octal (bytes : Bytes) : Escape :=
  let digits := (bytes.take 3).takeWhile fun b => 48 ≤ b && b ≤ 55
  ⟨[some (digits.foldl (fun n d => n * 8 + (d.toNat - 48)) 0)], digits.length⟩

/-- A character by its name in braces; no names are known. -/
def named : Bytes → Escape
  | 123 :: rest =>
    let name := rest.takeWhile (· ≠ 125)
    ⟨[none], if name.isEmpty then 2 else min (name.length + 3) (rest.length + 2)⟩
  | _ => ⟨[none], 1⟩

/-- The escapes of strings in program texts. -/
def full : Bytes → Escape
  | [] => ⟨[none], 0⟩
  | b :: rest =>
    if b = 10 then ⟨[], 1⟩
    else if 48 ≤ b ∧ b ≤ 55 then octal (b :: rest)
    else if b = 120 then number 2 rest
    else if b = 78 then named rest
    else
      match letters.lookup b.toNat with
      | some n => ⟨[some n], 1⟩
      | none => raw (b :: rest)

end Escape

/-- Reads text with backslashes; `skip` bytes of the escape before are left. -/
def backslashedFrom (escape : Bytes → Escape) : (skip : Nat) → Bytes → List (Option Nat)
  | _, [] => []
  | skip + 1, _ :: rest => backslashedFrom escape skip rest
  | 0, b :: rest =>
    if b = 92 then (escape rest).points ++ backslashedFrom escape (escape rest).width rest
    else some b.toNat :: backslashedFrom escape 0 rest

end EpubLibrary.Text.Charset
