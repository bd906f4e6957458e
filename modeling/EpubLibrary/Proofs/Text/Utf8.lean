import EpubLibrary.Text.Utf8

namespace EpubLibrary

open Text

namespace Text

/-! ## Pieces of a written text -/

theorem piecesFrom_skip (read : Bytes → Piece) (bytes rest : Bytes) :
    piecesFrom read bytes.length (bytes ++ rest) = pieces read rest := by
  induction bytes with
  | nil => rfl
  | cons b bytes ih => exact ih

/-- Where the bytes of every character are read as that character, a whole text is read back. -/
theorem strict?_pieces_flatMap {read : Bytes → Piece} {encodeChar : Char → Bytes}
    (some : ∀ c, encodeChar c ≠ [])
    (reads : ∀ c rest, read (encodeChar c ++ rest) = .char c (encodeChar c).length)
    (s : List Char) : strict? (pieces read (s.flatMap encodeChar)) = .some s := by
  induction s with
  | nil => rfl
  | cons c s ih =>
    have first := reads c (s.flatMap encodeChar)
    rw [List.flatMap_cons]
    cases bytes : encodeChar c with
    | nil => exact absurd bytes (some c)
    | cons b more =>
      rw [bytes, List.cons_append] at first
      rw [List.cons_append, pieces, piecesFrom]
      simp only [first, Piece.char, List.length_cons, Nat.add_sub_cancel, piecesFrom_skip]
      rw [strict?, ih]
      rfl

/-- A text whose pieces are all readable has nothing to replace. -/
theorem replacing_of_strict? {ps : List (Option (List Char))} {s : List Char}
    (h : strict? ps = some s) : replacing ps = s := by
  induction ps generalizing s with
  | nil => exact Option.some.inj h
  | cons piece ps ih =>
    cases piece with
    | none => cases h
    | some first =>
      obtain ⟨more, rest, rfl⟩ := Option.map_eq_some_iff.1 h
      rw [← ih rest, replacing, List.flatMap_cons]
      rfl

end Text

namespace Text.Utf8

theorem toNat_ofNat {n : Nat} (h : n < 256) : (UInt8.ofNat n).toNat = n := by
  rw [UInt8.toNat_ofNat']
  exact Nat.mod_eq_of_lt h

/-- The number of a character is a scalar value. -/
theorem toNat_scalar (c : Char) : c.toNat < 0xD800 ∨ 0xE000 ≤ c.toNat ∧ c.toNat < 0x110000 := by
  have valid := c.valid
  rcases valid with low | ⟨high, top⟩
  · exact .inl low
  · have high : 0xDFFF < c.toNat := high
    exact .inr ⟨by omega, top⟩

/-! ## Characters by their width -/

section
variable {a b c d : UInt8} {rest : Bytes}

theorem read_one (low : a.toNat < 0x80) : read (a :: rest) = .char (Char.ofNat a.toNat) 1 := by
  unfold read
  dsimp only
  rw [if_pos low]

theorem read_two (first : 0xC2 ≤ a.toNat ∧ a.toNat < 0xE0)
    (follows : mayFollow a.toNat b.toNat = true) : read (a :: b :: rest) =
      .char (Char.ofNat ((a.toNat - 0xC0) * 64 + (b.toNat - 0x80))) 2 := by
  unfold read
  dsimp only
  rw [if_neg (by omega), if_neg (by omega), if_neg (by simp [follows]), if_pos first.2]

theorem read_three (first : 0xE0 ≤ a.toNat ∧ a.toNat < 0xF0)
    (follows : mayFollow a.toNat b.toNat = true) (third : isContinuation c.toNat = true) :
    read (a :: b :: c :: rest) = .char (Char.ofNat ((a.toNat - 0xE0) * 4096 +
      (b.toNat - 0x80) * 64 + (c.toNat - 0x80))) 3 := by
  unfold read
  dsimp only
  rw [if_neg (by omega), if_neg (by omega), if_neg (by simp [follows]), if_neg (by omega),
    if_neg (by simp [third]), if_pos first.2]

theorem read_four (first : 0xF0 ≤ a.toNat ∧ a.toNat < 0xF5)
    (follows : mayFollow a.toNat b.toNat = true) (third : isContinuation c.toNat = true)
    (fourth : isContinuation d.toNat = true) : read (a :: b :: c :: d :: rest) =
      .char (Char.ofNat ((a.toNat - 0xF0) * 262144 + (b.toNat - 0x80) * 4096 +
        (c.toNat - 0x80) * 64 + (d.toNat - 0x80))) 4 := by
  unfold read
  dsimp only
  rw [if_neg (by omega), if_neg (by omega), if_neg (by simp [follows]), if_neg (by omega),
    if_neg (by simp [third]), if_neg (by omega), if_neg (by simp [fourth])]

end

theorem isContinuation_iff {n : Nat} : isContinuation n = true ↔ 0x80 ≤ n ∧ n ≤ 0xBF := by
  simp [isContinuation]

theorem mayFollow_iff {a b : Nat} : mayFollow a b = true ↔ (0x80 ≤ b ∧ b ≤ 0xBF) ∧
    (a = 0xE0 → 0xA0 ≤ b) ∧ (a = 0xED → b ≤ 0x9F) ∧ (a = 0xF0 → 0x90 ≤ b) ∧
    (a = 0xF4 → b ≤ 0x8F) := by
  unfold mayFollow
  rw [Bool.and_eq_true, isContinuation_iff]
  split
  · simp only [decide_eq_true_eq]
    omega
  split
  · simp only [decide_eq_true_eq]
    omega
  split
  · simp only [decide_eq_true_eq]
    omega
  split
  · simp only [decide_eq_true_eq]
    omega
  · simp only [and_true]
    omega

/-- At the start of the bytes of a character stands that character. -/
theorem read_encodeChar (c : Char) (rest : Bytes) :
    read (encodeChar c ++ rest) = .char c (encodeChar c).length := by
  have scalar := toNat_scalar c
  have same : Char.ofNat c.toNat = c := Char.ofNat_toNat c
  unfold encodeChar
  generalize c.toNat = n at scalar same
  dsimp only
  split
  · have byte := toNat_ofNat (n := n) (by omega)
    rw [List.singleton_append, read_one (by omega), byte, same]
    rfl
  split
  · have first := toNat_ofNat (n := 0xC0 + n / 64) (by omega)
    have second := toNat_ofNat (n := 0x80 + n % 64) (by omega)
    have value : (0xC0 + n / 64 - 0xC0) * 64 + (0x80 + n % 64 - 0x80) = n := by omega
    rw [List.cons_append, List.singleton_append, read_two, first, second, value, same]
    · rfl
    · rw [first]
      omega
    · rw [first, second, mayFollow_iff]
      omega
  split
  · have first := toNat_ofNat (n := 0xE0 + n / 4096) (by omega)
    have second := toNat_ofNat (n := 0x80 + n / 64 % 64) (by omega)
    have third := toNat_ofNat (n := 0x80 + n % 64) (by omega)
    have value : (0xE0 + n / 4096 - 0xE0) * 4096 + (0x80 + n / 64 % 64 - 0x80) * 64 +
        (0x80 + n % 64 - 0x80) = n := by omega
    rw [List.cons_append, List.cons_append, List.singleton_append, read_three, first, second,
      third, value, same]
    · rfl
    · rw [first]
      omega
    · rw [first, second, mayFollow_iff]
      omega
    · rw [third, isContinuation_iff]
      omega
  · have first := toNat_ofNat (n := 0xF0 + n / 262144) (by omega)
    have second := toNat_ofNat (n := 0x80 + n / 4096 % 64) (by omega)
    have third := toNat_ofNat (n := 0x80 + n / 64 % 64) (by omega)
    have fourth := toNat_ofNat (n := 0x80 + n % 64) (by omega)
    have value : (0xF0 + n / 262144 - 0xF0) * 262144 + (0x80 + n / 4096 % 64 - 0x80) * 4096 +
        (0x80 + n / 64 % 64 - 0x80) * 64 + (0x80 + n % 64 - 0x80) = n := by omega
    rw [List.cons_append, List.cons_append, List.cons_append, List.singleton_append, read_four,
      first, second, third, fourth, value, same]
    · rfl
    · rw [first]
      omega
    · rw [first, second, mayFollow_iff]
      omega
    · rw [third, isContinuation_iff]
      omega
    · rw [fourth, isContinuation_iff]
      omega

/-! ## Whole texts -/

theorem encodeChar_ne_nil (c : Char) : encodeChar c ≠ [] := by
  unfold encodeChar
  dsimp only
  split
  · simp
  split
  · simp
  split <;> simp

/-- Decoding undoes encoding. -/
theorem decode?_encode (s : List Char) : decode? (encode s) = some s :=
  strict?_pieces_flatMap encodeChar_ne_nil read_encodeChar s

/-- In a text that was encoded nothing is replaced. -/
theorem decodeReplacing_encode (s : List Char) : decodeReplacing (encode s) = s :=
  replacing_of_strict? (decode?_encode s)

end Text.Utf8

/-! ## Strings -/

theorem encodeChar_eq (c : Char) : Utf8.encodeChar c = String.utf8EncodeChar c := by
  have scalar := Utf8.toNat_scalar c
  have number : c.val.toNat = c.toNat := rfl
  unfold Utf8.encodeChar String.utf8EncodeChar
  rw [number]
  generalize c.toNat = n at scalar
  dsimp only
  have one : n ≤ 0x7F ↔ n < 0x80 := by omega
  have two : n ≤ 0x7FF ↔ n < 0x800 := by omega
  have three : n ≤ 0xFFFF ↔ n < 0x10000 := by omega
  simp only [one, two, three]
  split
  · rfl
  split
  · rw [Nat.mod_eq_of_lt (a := n / 64) (by omega), Nat.add_comm, Nat.add_comm 0x80]
  split
  · rw [Nat.mod_eq_of_lt (a := n / 4096) (by omega), Nat.add_comm, Nat.add_comm 0x80,
      Nat.add_comm 0x80]
  · rw [Nat.mod_eq_of_lt (a := n / 262144) (by omega), Nat.add_comm, Nat.add_comm 0x80,
      Nat.add_comm 0x80, Nat.add_comm 0x80]

/-- The loop that lists the bytes of an array has those from a position on left to do. -/
theorem toList_loop (bytes : ByteArray) (i : Nat) (done : Bytes) :
    ByteArray.toList.loop bytes i done = done.reverse ++ bytes.data.toList.drop i := by
  induction h : bytes.size - i generalizing i done with
  | zero =>
    have past : bytes.data.toList.length ≤ i := by
      rw [Array.length_toList]
      exact Nat.le_of_sub_eq_zero h
    rw [ByteArray.toList.loop, if_neg (by omega), List.drop_eq_nil_of_le past, List.append_nil]
  | succ n ih =>
    have inside : i < bytes.size := by omega
    have inside' : i < bytes.data.toList.length := by
      rw [Array.length_toList]
      exact inside
    have byte : bytes.get! i = bytes.data.toList[i] := by
      rw [Array.getElem_toList]
      exact getElem!_pos bytes.data i inside
    rw [ByteArray.toList.loop, if_pos inside, ih (i + 1) _ (by omega),
      List.drop_eq_getElem_cons inside', byte]
    simp

/-- The bytes of a text are those of its characters. -/
theorem ofText_eq (text : String) : Bytes.ofText text = Utf8.encode text.toList := by
  have bytes : text.toUTF8 = text.toList.utf8Encode := String.utf8Encode_toList.symm
  rw [Bytes.ofText, ByteArray.toList, toList_loop, bytes, List.utf8Encode,
    List.toList_data_toByteArray]
  exact congrArg (text.toList.flatMap ·) (funext fun c => (encodeChar_eq c).symm)

/-- The bytes of a text are read back. -/
theorem decode?_ofText (text : String) : Utf8.decode? (Bytes.ofText text) = some text.toList := by
  rw [ofText_eq, Utf8.decode?_encode]

end EpubLibrary
