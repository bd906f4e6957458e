import EpubLibrary.Proofs.Text.Utf8
import EpubLibrary.Text.Percent

namespace EpubLibrary.Text.Percent

def IsHex (n : Nat) (c : Char) : Prop := c = Bytes.hexDigit n ∨ c = (Bytes.hexDigit n).toUpper

/-- The escapes of bytes, one behind the other. -/
inductive Escapes : Bytes → List Char → Prop where
  | nil : Escapes [] []
  | cons {b : UInt8} {bytes : Bytes} {x y : Char} {t : List Char} :
    IsHex (b.toNat / 16) x → IsHex (b.toNat % 16) y → Escapes bytes t →
      Escapes (b :: bytes) ('%' :: x :: y :: t)

/-- Each character is written as itself, unless it is a sign of its own in a reference, or by the
escapes of all its bytes. -/
inductive Written : List Char → List Char → Prop where
  | nil : Written [] []
  | plain {c : Char} {s t : List Char} :
    c ≠ '%' → c ≠ '#' → Written s t → Written (c :: s) (c :: t)
  | escaped {c : Char} {s e t : List Char} :
    Escapes (Utf8.encodeChar c) e → Written s t → Written (c :: s) (e ++ t)

theorem hexValue?_hexDigit : ∀ n < 16, Bytes.hexValue? (Bytes.hexDigit n) = some n ∧
    Bytes.hexValue? (Bytes.hexDigit n).toUpper = some n := by
  decide

theorem IsHex.value {n : Nat} {c : Char} (h : IsHex n c) (small : n < 16) :
    Bytes.hexValue? c = some n := by
  rcases h with rfl | rfl
  · exact (hexValue?_hexDigit n small).1
  · exact (hexValue?_hexDigit n small).2

theorem IsHex.ne_hash {n : Nat} {c : Char} (h : IsHex n c) (small : n < 16) : c ≠ '#' := by
  rintro rfl
  have none : Bytes.hexValue? '#' = none := by decide
  rw [h.value small] at none
  cases none

/-! ## Decoding -/

theorem decodeFrom_escape (run : Bytes) {b : UInt8} {x y : Char} (t : List Char)
    (high : IsHex (b.toNat / 16) x) (low : IsHex (b.toNat % 16) y) :
    decodeFrom run ('%' :: x :: y :: t) = decodeFrom (b :: run) t := by
  have bound := b.toNat_lt
  have value : UInt8.ofNat (16 * (b.toNat / 16) + b.toNat % 16) = b := by
    rw [Nat.div_add_mod, UInt8.ofNat_toNat]
  rw [decodeFrom, high.value (by omega), low.value (by omega)]
  dsimp only
  rw [value]

/-- Escapes are read as the bytes that they stand for. -/
theorem decodeFrom_escapes (run : Bytes) {bytes : Bytes} {e : List Char} (h : Escapes bytes e)
    (t : List Char) : decodeFrom run (e ++ t) = decodeFrom (bytes.reverse ++ run) t := by
  induction h generalizing run with
  | nil => rfl
  | cons high low _ ih =>
    rw [List.cons_append, List.cons_append, List.cons_append, decodeFrom_escape run _ high low, ih,
      List.reverse_cons, List.append_assoc, List.singleton_append]

theorem decodeFrom_plain (run : Bytes) {c : Char} (t : List Char) (plain : c ≠ '%') :
    decodeFrom run (c :: t) =
      if c.toNat < 128 then decodeFrom (UInt8.ofNat c.toNat :: run) t
      else Utf8.decodeReplacing run.reverse ++ c :: decodeFrom [] t := by
  rw [decodeFrom]
  rintro a b s rfl
  exact absurd rfl plain

/-- A run that spells the characters before it goes on to spell what is written. -/
theorem decodeFrom_written {before s t : List Char} {run : Bytes} (h : Written s t)
    (spelled : run.reverse = Utf8.encode before) : decodeFrom run t = before ++ s := by
  have longer : ∀ (before : List Char) (c : Char),
      Utf8.encode (before ++ [c]) = Utf8.encode before ++ Utf8.encodeChar c := by
    intro before c
    simp [Utf8.encode]
  induction h generalizing before run with
  | nil => rw [decodeFrom, spelled, Utf8.decodeReplacing_encode, List.append_nil]
  | @plain c s t sign _ _ ih =>
    rw [decodeFrom_plain run t sign]
    by_cases ascii : c.toNat < 128
    · have byte : Utf8.encodeChar c = [UInt8.ofNat c.toNat] := if_pos ascii
      have next : (UInt8.ofNat c.toNat :: run).reverse = Utf8.encode (before ++ [c]) := by
        rw [List.reverse_cons, spelled, longer, byte]
      rw [if_pos ascii, ih next, List.append_assoc, List.singleton_append]
    · -- a character of several bytes ends the run, and the next one starts with none
      have next : ([] : Bytes).reverse = Utf8.encode [] := rfl
      rw [if_neg ascii, spelled, Utf8.decodeReplacing_encode, ih next, List.nil_append]
  | @escaped c s e t escapes _ ih =>
    have next : ((Utf8.encodeChar c).reverse ++ run).reverse = Utf8.encode (before ++ [c]) := by
      rw [List.reverse_append, List.reverse_reverse, spelled, longer]
    rw [decodeFrom_escapes run escapes t, ih next, List.append_assoc, List.singleton_append]

/-- Decoding undoes every way to write a text. -/
theorem decode_written {s t : List Char} (h : Written s t) : decode t = s := by
  have start : ([] : Bytes).reverse = Utf8.encode [] := rfl
  exact decodeFrom_written h start

/-! ## What is not written -/

theorem hash_not_mem_escapes {bytes : Bytes} {e : List Char} (h : Escapes bytes e) : '#' ∉ e := by
  induction h with
  | nil => exact List.not_mem_nil
  | @cons b _ x y t high low _ ih =>
    have bound := b.toNat_lt
    have first : x ≠ '#' := high.ne_hash (by omega)
    have second : y ≠ '#' := low.ne_hash (by omega)
    simp [Ne.symm first, Ne.symm second, ih]

/-- No `#` is written, so what follows one is not part of the text. -/
theorem hash_not_mem_written {s t : List Char} (h : Written s t) : '#' ∉ t := by
  induction h with
  | nil => exact List.not_mem_nil
  | plain _ sign _ ih => simp [Ne.symm sign, ih]
  | escaped escapes _ ih => simp [hash_not_mem_escapes escapes, ih]

end EpubLibrary.Text.Percent
