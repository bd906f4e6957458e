import EpubLibrary.Proofs.Text.Utf8
import EpubLibrary.Text.Charset.Basic

namespace EpubLibrary.Text

/-! ## Units -/

/-- The two bytes of a unit of sixteen bits. -/
def Charset.ByteOrder.unit (order : ByteOrder) (n : Nat) : Bytes :=
  match order with
  | .little => [UInt8.ofNat (n % 256), UInt8.ofNat (n / 256)]
  | .big => [UInt8.ofNat (n / 256), UInt8.ofNat (n % 256)]

namespace Utf16

open Charset

theorem exists_unit (order : ByteOrder) {n : Nat} (fits : n < 0x10000) :
    ∃ a b, order.unit n = [a, b] ∧ order.number [a, b] = n := by
  have low := Utf8.toNat_ofNat (n := n % 256) (by omega)
  have high := Utf8.toNat_ofNat (n := n / 256) (by omega)
  cases order with
  | little =>
    refine ⟨_, _, rfl, ?_⟩
    simp only [ByteOrder.number, Bytes.natLe, low, high]
    omega
  | big =>
    refine ⟨_, _, rfl, ?_⟩
    simp only [ByteOrder.number, Bytes.natBe, List.foldl_cons, List.foldl_nil, low, high]
    omega

/-! ## Characters -/

def encodeChar (order : ByteOrder) (c : Char) : Bytes :=
  let n := c.toNat
  if n < 0x10000 then order.unit n
  else order.unit (0xD800 + (n - 0x10000) / 0x400) ++ order.unit (0xDC00 + (n - 0x10000) % 0x400)

def encode (order : ByteOrder) (s : List Char) : Bytes := s.flatMap (encodeChar order)

example : encode .big ['a', '😀'] = [0x00, 0x61, 0xD8, 0x3D, 0xDE, 0x00] := by decide

def mark (order : ByteOrder) : Bytes := order.unit 0xFEFF

/-- The bytes of a character begin with a unit, which is zero for the character of number zero
only. -/
theorem encodeChar_begins (order : ByteOrder) (c : Char) : ∃ a b more,
    encodeChar order c = a :: b :: more ∧ (c ≠ '\x00' → ¬(a = 0 ∧ b = 0)) := by
  have scalar := Utf8.toNat_scalar c
  have zero : c.toNat = 0 → c = '\x00' := fun h => Char.toNat_inj.1 h
  have nonzero {a b : UInt8} (number : order.number [a, b] ≠ 0) : ¬(a = 0 ∧ b = 0) := by
    rintro ⟨rfl, rfl⟩
    cases order with
    | little => exact number rfl
    | big => exact number rfl
  unfold encodeChar
  dsimp only
  split
  · obtain ⟨a, b, pair, number⟩ := exists_unit order (n := c.toNat) (by omega)
    refine ⟨a, b, [], pair, ?_⟩
    intro other
    apply nonzero
    rw [number]
    exact fun h => other (zero h)
  · obtain ⟨a, b, pair, number⟩ :=
      exists_unit order (n := 0xD800 + (c.toNat - 0x10000) / 0x400) (by omega)
    refine ⟨a, b, _, by rw [pair]; rfl, ?_⟩
    intro _
    apply nonzero
    omega

/-- At the start of the bytes of a character stands that character. -/
theorem read_encodeChar (order : ByteOrder) (c : Char) (rest : Bytes) :
    utf16 order (encodeChar order c ++ rest) = .char c (encodeChar order c).length := by
  have scalar := Utf8.toNat_scalar c
  have same : Char.ofNat c.toNat = c := Char.ofNat_toNat c
  unfold encodeChar
  generalize c.toNat = n at scalar same
  dsimp only
  split
  · obtain ⟨a, b, pair, number⟩ := exists_unit order (n := n) (by omega)
    have notHigh : isHighSurrogate n = false := by simp [isHighSurrogate]; omega
    have notLow : isLowSurrogate n = false := by simp [isLowSurrogate]; omega
    rw [pair]
    simp [utf16, number, notHigh, notLow, same]
  · obtain ⟨a, b, first, high⟩ :=
      exists_unit order (n := 0xD800 + (n - 0x10000) / 0x400) (by omega)
    obtain ⟨d, e, second, low⟩ :=
      exists_unit order (n := 0xDC00 + (n - 0x10000) % 0x400) (by omega)
    have isHigh : isHighSurrogate (0xD800 + (n - 0x10000) / 0x400) = true := by
      simp [isHighSurrogate]; omega
    have isLow : isLowSurrogate (0xDC00 + (n - 0x10000) % 0x400) = true := by
      simp [isLowSurrogate]; omega
    have joined : joinSurrogates (0xD800 + (n - 0x10000) / 0x400)
        (0xDC00 + (n - 0x10000) % 0x400) = c := by
      have value : 0x10000 + (0xD800 + (n - 0x10000) / 0x400 - 0xD800) * 0x400 +
          (0xDC00 + (n - 0x10000) % 0x400 - 0xDC00) = n := by omega
      rw [joinSurrogates, value, same]
    rw [first, second]
    simp [utf16, high, low, isHigh, isLow, joined]

/-! ## Whole texts -/

theorem encodeChar_ne_nil (order : ByteOrder) (c : Char) : encodeChar order c ≠ [] := by
  obtain ⟨a, b, more, begins, -⟩ := encodeChar_begins order c
  rw [begins]
  exact List.cons_ne_nil a _

/-- Decoding undoes encoding. -/
theorem decode?_encode (order : ByteOrder) (s : List Char) :
    (ofRead (utf16 order)).decode? (encode order s) = some s :=
  strict?_pieces_flatMap (encodeChar_ne_nil order) (read_encodeChar order) s

end Utf16
end EpubLibrary.Text
