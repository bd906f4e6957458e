import EpubLibrary.Uuid
import Mathlib.Data.List.Basic

namespace EpubLibrary

namespace Bytes

theorem natBe_append (bytes : Bytes) (b : UInt8) :
    natBe (bytes ++ [b]) = natBe bytes * 256 + b.toNat := by
  simp [natBe]

theorem natBe_reverse (bytes : Bytes) : natBe bytes.reverse = natLe bytes := by
  induction bytes with
  | nil => rfl
  | cons b rest ih =>
    rw [List.reverse_cons, natBe_append, ih, natLe]
    omega

/-- Reading the bytes of a number, most significant first, gives the number. -/
theorem natBe_ofNatBe {width n : Nat} (fits : n < Nat.pow 256 width) :
    natBe (ofNatBe width n) = n := by
  rw [ofNatBe, natBe_reverse, natLe_ofNatLe, Nat.mod_eq_of_lt fits]

@[simp] theorem length_ofNatBe (width n : Nat) : (ofNatBe width n).length = width := by
  rw [ofNatBe, List.length_reverse, length_ofNatLe]

theorem length_flatMap_hexByte (bytes : Bytes) :
    (bytes.flatMap hexByte).length = 2 * bytes.length := by
  induction bytes with
  | nil => rfl
  | cons b rest ih =>
    rw [List.flatMap_cons, List.length_append, ih, List.length_cons]
    simp only [hexByte, List.length_cons, List.length_nil]
    omega

/-- Every digit of a written byte is one of sixteen. -/
theorem exists_hexDigit {bytes : Bytes} {c : Char} (mem : c ∈ bytes.flatMap hexByte) :
    ∃ n < 16, c = hexDigit n := by
  obtain ⟨b, _, digit⟩ := List.mem_flatMap.1 mem
  have small := b.toNat_lt
  simp only [hexByte, List.mem_cons, List.not_mem_nil, or_false] at digit
  rcases digit with rfl | rfl
  · exact ⟨_, by omega, rfl⟩
  · exact ⟨_, by omega, rfl⟩

/-- A character that is no hexadecimal digit does not occur in written bytes. -/
theorem not_mem_flatMap_hexByte {c : Char} (other : ∀ n < 16, hexDigit n ≠ c) (bytes : Bytes) :
    c ∉ bytes.flatMap hexByte := by
  intro mem
  obtain ⟨n, small, same⟩ := exists_hexDigit mem
  exact other n small same.symm

end Bytes

/-! ## Reading digits -/

namespace Text

open Bytes

theorem digitIn?_hexDigit : ∀ n < 16, digitIn? 16 (hexDigit n) = some n := by decide

theorem readDigits?_hexDigits {ns : List Nat} (some : ns ≠ []) (small : ∀ n ∈ ns, n < 16) :
    readDigits? 16 (ns.map hexDigit) = .some ns := by
  induction ns with
  | nil => exact absurd rfl some
  | cons n ns ih =>
    have first := digitIn?_hexDigit n (small n List.mem_cons_self)
    cases ns with
    | nil => simp [readDigits?, first]
    | cons m ns =>
      have rest := ih (List.cons_ne_nil _ _) fun k hk => small k (List.mem_cons_of_mem _ hk)
      have joined : ∀ k < 16, hexDigit k ≠ '_' := by decide
      have second := joined m (small m (by simp))
      rw [List.map_cons] at rest
      rw [List.map_cons, List.map_cons, readDigits?, first, rest]
      · rfl
      · exact List.cons_ne_nil _ _
      · intro s same
        exact second (List.cons.inj same).1

theorem stripWhile_eq_self {p : Char → Bool} {s : List Char} (none : ∀ c ∈ s, p c = false) :
    stripWhile p s = s := by
  have keep {t : List Char} (none : ∀ c ∈ t, p c = false) : t.dropWhile p = t := by
    cases t with
    | nil => rfl
    | cons c t => rw [List.dropWhile_cons_of_neg (by simp [none c List.mem_cons_self])]
  rw [stripWhile, dropEndWhile, keep none, keep (by simpa using none), List.reverse_reverse]

def nibbles (bytes : Bytes) : List Nat := bytes.flatMap fun b => [b.toNat / 16, b.toNat % 16]

theorem map_hexDigit_nibbles (bytes : Bytes) :
    (nibbles bytes).map hexDigit = bytes.flatMap hexByte := by
  rw [nibbles, List.map_flatMap]
  rfl

theorem nibbles_lt {bytes : Bytes} {n : Nat} (mem : n ∈ nibbles bytes) : n < 16 := by
  obtain ⟨b, _, digit⟩ := List.mem_flatMap.1 mem
  have small := b.toNat_lt
  simp only [List.mem_cons, List.not_mem_nil, or_false] at digit
  omega

theorem foldl_nibbles (bytes : Bytes) (n : Nat) :
    (nibbles bytes).foldl (fun n d => n * 16 + d) n =
      bytes.foldl (fun n b => n * 256 + b.toNat) n := by
  induction bytes generalizing n with
  | nil => rfl
  | cons b bytes ih =>
    have both : (n * 16 + b.toNat / 16) * 16 + b.toNat % 16 = n * 256 + b.toNat := by omega
    rw [nibbles, List.flatMap_cons, List.foldl_append, ← nibbles, ih]
    simp only [List.foldl_cons, List.foldl_nil, both]

/-- The digits of bytes stand for the number of the bytes. -/
theorem ofDigits_nibbles (bytes : Bytes) : ofDigits 16 (nibbles bytes) = natBe bytes :=
  foldl_nibbles bytes 0

theorem readInteger?_hex {bytes : Bytes} (some : bytes ≠ []) :
    readInteger? 16 (bytes.flatMap hexByte) = .some (natBe bytes : Int) := by
  have blanks : ∀ n < 16, isNumberBlank (hexDigit n) = false := by decide
  have signs : ∀ n < 16,
      hexDigit n ≠ '-' ∧ hexDigit n ≠ '+' ∧ hexDigit n ≠ 'x' ∧ hexDigit n ≠ 'X' := by
    decide
  have plain : stripWhile isNumberBlank (bytes.flatMap hexByte) = bytes.flatMap hexByte := by
    refine stripWhile_eq_self fun c hc => ?_
    obtain ⟨n, small, rfl⟩ := exists_hexDigit hc
    exact blanks n small
  have unmarked : dropBaseMark 16 (bytes.flatMap hexByte) = bytes.flatMap hexByte := by
    unfold dropBaseMark
    rw [if_neg (by decide)]
    split
    · next zero x rest eq =>
      have mem : x ∈ bytes.flatMap hexByte := by rw [eq]; simp
      obtain ⟨n, small, rfl⟩ := exists_hexDigit mem
      rw [if_neg (by simp [signs n small])]
    · rfl
  have digits : readUnsigned? 16 (bytes.flatMap hexByte) = .some (natBe bytes) := by
    have some : nibbles bytes ≠ [] := by
      cases bytes with
      | nil => exact absurd rfl some
      | cons b rest => simp [nibbles]
    rw [readUnsigned?, unmarked, ← map_hexDigit_nibbles,
      readDigits?_hexDigits some fun n => nibbles_lt]
    simp [ofDigits_nibbles]
  -- Neither sign is a digit, so the first character is taken for none.
  unfold readInteger?
  rw [plain]
  split
  · next rest eq =>
    have mem : '-' ∈ bytes.flatMap hexByte := by rw [eq]; simp
    exact absurd mem (not_mem_flatMap_hexByte (fun n small => (signs n small).1) bytes)
  · next rest eq =>
    have mem : '+' ∈ bytes.flatMap hexByte := by rw [eq]; simp
    exact absurd mem (not_mem_flatMap_hexByte (fun n small => (signs n small).2.1) bytes)
  · rw [digits]
    rfl

end Text

namespace Uuid

open Bytes

theorem natBe_bytes (u : Uuid) : natBe u.bytes = u.value := natBe_ofNatBe u.isLt

@[simp] theorem length_bytes (u : Uuid) : u.bytes.length = 16 := length_ofNatBe 16 u.value

/-- An identifier is known by its bytes. -/
theorem bytes_inj {u v : Uuid} (h : u.bytes = v.bytes) : u = v := by
  have same : u.value = v.value := by rw [← natBe_bytes u, h, natBe_bytes]
  cases u
  cases v
  cases same
  rfl

theorem removeMark_eq_self {mark : List Char} {c : Char} (begins : mark.head? = some c)
    {s : List Char} (none : c ∉ s) : removeMark mark 0 s = s := by
  induction s with
  | nil => rfl
  | cons d s ih =>
    have other : mark.isPrefixOf (d :: s) = false := by
      cases mark with
      | nil => cases begins
      | cons e mark =>
        obtain rfl := Option.some.inj begins
        have ne : e ≠ d := fun same => none (same ▸ List.mem_cons_self)
        simp [List.isPrefixOf, ne]
    rw [removeMark, other, ih fun mem => none (List.mem_cons_of_mem _ mem)]
    rfl

theorem length_digits (u : Uuid) : u.digits.length = 32 := by
  rw [digits, length_flatMap_hexByte, length_bytes]

theorem not_mem_digits {c : Char} (other : ∀ n < 16, hexDigit n ≠ c) (u : Uuid) : c ∉ u.digits :=
  not_mem_flatMap_hexByte other u.bytes

/-- The printed form holds digits and hyphens only. -/
theorem mem_digits_of_mem_toText {u : Uuid} {c : Char} (mem : c ∈ u.toText.toList) :
    c ∈ u.digits ∨ c = '-' := by
  rw [toText, String.toList_ofList] at mem
  simp only [List.mem_append, List.mem_cons] at mem
  rcases mem with h | rfl | h | rfl | h | rfl | h | rfl | h
  · exact .inl (List.mem_of_mem_take h)
  · exact .inr rfl
  · exact .inl (List.mem_of_mem_drop (List.mem_of_mem_take h))
  · exact .inr rfl
  · exact .inl (List.mem_of_mem_drop (List.mem_of_mem_take h))
  · exact .inr rfl
  · exact .inl (List.mem_of_mem_drop (List.mem_of_mem_take h))
  · exact .inr rfl
  · exact .inl (List.mem_of_mem_drop h)

theorem not_mem_toText {c : Char} (other : ∀ n < 16, hexDigit n ≠ c) (hyphen : c ≠ '-')
    (u : Uuid) : c ∉ u.toText.toList :=
  fun mem => (mem_digits_of_mem_toText mem).elim (not_mem_digits other u) hyphen

/-- The groups of digits of the printed form make up the digits. -/
theorem digits_groups (u : Uuid) :
    u.digits.take 8 ++ ((u.digits.drop 8).take 4 ++ ((u.digits.drop 12).take 4 ++
      ((u.digits.drop 16).take 4 ++ u.digits.drop 20))) = u.digits := by
  have group (n : Nat) : (u.digits.drop n).take 4 ++ u.digits.drop (n + 4) = u.digits.drop n := by
    rw [← List.drop_drop, List.take_append_drop]
  rw [group 16, group 12, group 8, List.take_append_drop]

/-- The printed form without its hyphens. -/
theorem filter_toText (u : Uuid) : u.toText.toList.filter (· ≠ '-') = u.digits := by
  have keep {l : List Char} (part : ∀ c ∈ l, c ∈ u.digits) : l.filter (· ≠ '-') = l := by
    refine List.filter_eq_self.2 fun c hc => decide_eq_true ?_
    rintro rfl
    exact not_mem_digits (by decide) u (part _ hc)
  have skip (l : List Char) : ('-' :: l).filter (· ≠ '-') = l.filter (· ≠ '-') :=
    List.filter_cons_of_neg (by decide)
  have four (n : Nat) : ∀ c ∈ (u.digits.drop n).take 4, c ∈ u.digits :=
    fun c hc => List.mem_of_mem_drop (List.mem_of_mem_take hc)
  rw [toText, String.toList_ofList]
  simp only [List.filter_append, skip]
  rw [keep fun c => List.mem_of_mem_take, keep (four 8), keep (four 12), keep (four 16),
    keep fun c => List.mem_of_mem_drop, digits_groups]

/-- Without its hyphens, the printed form is the digits. -/
theorem bare_toText (u : Uuid) : bare u.toText.toList = u.digits := by
  have noMark : 'u' ∉ u.toText.toList := not_mem_toText (by decide) (by decide) u
  have noBrace : ∀ c ∈ u.toText.toList, (c = '\x7b' || c = '\x7d') = false := by
    rintro c mem
    rw [Bool.or_eq_false_iff, decide_eq_false_iff_not, decide_eq_false_iff_not]
    constructor
    · rintro rfl
      exact not_mem_toText (by decide) (by decide) u mem
    · rintro rfl
      exact not_mem_toText (by decide) (by decide) u mem
  unfold bare
  dsimp only
  rw [removeMark_eq_self rfl noMark, removeMark_eq_self rfl noMark,
    Text.stripWhile_eq_self noBrace, filter_toText]

/-- The printed form of an identifier is parsed as the identifier. -/
theorem parse_toText (u : Uuid) : parse u.toText = .ok u := by
  have read : Text.readInteger? 16 u.digits = some (u.value : Int) := by
    rw [digits, Text.readInteger?_hex, natBe_bytes]
    exact List.ne_nil_of_length_eq_add_one (length_bytes u)
  have long : ¬ u.digits.length ≠ 32 := by rw [length_digits]; simp
  unfold parse
  dsimp only
  rw [bare_toText, if_neg long, read]
  exact dif_pos u.isLt

/-- An identifier is known by its printed form. -/
theorem toText_inj {u v : Uuid} (h : u.toText = v.toText) : u = v := by
  have same := parse_toText u
  rw [h, parse_toText v] at same
  exact (Except.ok.inj same).symm

end Uuid
end EpubLibrary
