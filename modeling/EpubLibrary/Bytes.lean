/-!
# Byte strings

A byte string is a list of bytes, so that its parts are spoken of by `take`, `drop` and `++`.
`ofNatLe` and `natLe` write and read a number with the least significant byte first; `natLe_ofNatLe`
says that reading undoes writing. `hex` writes two lower-case digits a byte.
-/

namespace EpubLibrary

/-- A byte string. -/
abbrev Bytes := List UInt8

namespace Bytes

/-- The number whose base 256 digits are the bytes, least significant first. -/
def natLe : Bytes → Nat
  | [] => 0
  | b :: rest => b.toNat + 256 * natLe rest

/-- The number whose base 256 digits are the bytes, most significant first. -/
def natBe (bytes : Bytes) : Nat := bytes.foldl (fun n b => n * 256 + b.toNat) 0

/-- The lowest `width` base 256 digits of a number, least significant first. -/
def ofNatLe : (width : Nat) → Nat → Bytes
  | 0, _ => []
  | width + 1, n => UInt8.ofNat (n % 256) :: ofNatLe width (n / 256)

/-- The lowest `width` base 256 digits of a number, most significant first. -/
def ofNatBe (width n : Nat) : Bytes := (ofNatLe width n).reverse

@[simp] theorem length_ofNatLe (width n : Nat) : (ofNatLe width n).length = width := by
  induction width generalizing n with
  | zero => rfl
  | succ width ih => simp [ofNatLe, ih]

/-- Reading back a number that fits gives the number. -/
theorem natLe_ofNatLe (width n : Nat) : natLe (ofNatLe width n) = n % Nat.pow 256 width := by
  induction width generalizing n with
  | zero => simp [ofNatLe, natLe, Nat.mod_one]
  | succ width ih =>
    have byte : (UInt8.ofNat (n % 256)).toNat = n % 256 := by
      simp [UInt8.toNat_ofNat']
    rw [ofNatLe, natLe, ih, byte, Nat.pow_eq, Nat.pow_eq, Nat.pow_succ', Nat.mod_mul]

theorem natLe_lt (bytes : Bytes) : natLe bytes < Nat.pow 256 bytes.length := by
  induction bytes with
  | nil => exact Nat.one_pos
  | cons b rest ih =>
    have byte := b.toNat_lt
    simp only [natLe, List.length_cons, Nat.pow_eq, Nat.pow_succ] at ih ⊢
    omega

/-- Writing the number that was read gives the bytes. -/
theorem ofNatLe_natLe (bytes : Bytes) : ofNatLe bytes.length (natLe bytes) = bytes := by
  induction bytes with
  | nil => rfl
  | cons b rest ih =>
    have byte := b.toNat_lt
    have low : (b.toNat + 256 * natLe rest) % 256 = b.toNat := by omega
    have high : (b.toNat + 256 * natLe rest) / 256 = natLe rest := by omega
    rw [natLe, List.length_cons, ofNatLe, low, high, ih, UInt8.ofNat_toNat]

/-- One hexadecimal digit, in lower case. -/
def hexDigit (n : Nat) : Char :=
  if n < 10 then Char.ofNat (48 + n) else Char.ofNat (87 + n)

/-- The two hexadecimal digits of a byte. -/
def hexByte (b : UInt8) : List Char := [hexDigit (b.toNat / 16), hexDigit (b.toNat % 16)]

/-- Two lower-case hexadecimal digits for every byte. -/
def hex (bytes : Bytes) : String := String.ofList (bytes.flatMap hexByte)

/-- The value of a hexadecimal digit of either case. -/
def hexValue? (c : Char) : Option Nat :=
  if '0' ≤ c ∧ c ≤ '9' then some (c.toNat - 48)
  else if 'a' ≤ c ∧ c ≤ 'f' then some (c.toNat - 87)
  else if 'A' ≤ c ∧ c ≤ 'F' then some (c.toNat - 55)
  else none

/-- The UTF-8 form of a text. -/
def ofText (text : String) : Bytes := text.toUTF8.toList

end Bytes
end EpubLibrary
