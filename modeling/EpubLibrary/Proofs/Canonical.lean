import EpubLibrary.Identity
import EpubLibrary.Proofs.Results
import EpubLibrary.Proofs.Uuid

namespace EpubLibrary

namespace Text

/-! ## Bounds of literals -/

theorem length_stripWhile_le (p : Char → Bool) (s : List Char) :
    (stripWhile p s).length ≤ s.length := by
  have stop : (stripWhile p s).length ≤ (s.dropWhile p).length :=
    (prefix_dropEndWhile p (s.dropWhile p)).length_le
  have start : (s.dropWhile p).length ≤ s.length := (List.dropWhile_suffix p).length_le
  omega

theorem mem_of_mem_stripWhile {p : Char → Bool} {s : List Char} {c : Char}
    (mem : c ∈ stripWhile p s) : c ∈ s :=
  (List.dropWhile_suffix p).subset ((prefix_dropEndWhile p (s.dropWhile p)).subset mem)

theorem length_dropBaseMark_le (base : Nat) (s : List Char) :
    (dropBaseMark base s).length ≤ s.length := by
  unfold dropBaseMark
  split
  · exact Nat.le_refl _
  split
  · split
    · split <;> simp only [List.length_cons] <;> omega
    · exact Nat.le_refl _
  · exact Nat.le_refl _

theorem digitIn?_lt {base d : Nat} {c : Char} (h : digitIn? base c = some d) : d < base := by
  unfold digitIn? at h
  split at h
  · split at h
    · next small =>
      cases h
      exact small
    · cases h
  · split at h
    · split at h
      · next small =>
        cases h
        exact small
      · cases h
    · cases h

/-- The digits of a literal are digits of the base, and no more than its characters. -/
theorem readDigits?_bounds {base : Nat} {s : List Char} {ds : List Nat}
    (h : readDigits? base s = some ds) : ds.length ≤ s.length ∧ ∀ d ∈ ds, d < base := by
  have grow {c : Char} {d : Nat} {ds' : List Nat} {t : List Char} (first : digitIn? base c = some d)
      (ih : ds'.length ≤ t.length ∧ ∀ d ∈ ds', d < base) :
      (d :: ds').length ≤ (c :: t).length ∧ ∀ e ∈ d :: ds', e < base := by
    refine ⟨by simpa using ih.1, ?_⟩
    intro e mem
    rcases List.mem_cons.1 mem with rfl | mem
    · exact digitIn?_lt first
    · exact ih.2 e mem
  induction s using readDigits?.induct generalizing ds with
  | case1 => cases h
  | case2 c =>
    obtain ⟨d, first, rfl⟩ := Option.map_eq_some_iff.1 h
    exact grow first ⟨Nat.le_refl _, by simp⟩
  | case3 c rest ih =>
    rw [readDigits?] at h
    obtain ⟨d, first, h⟩ := Option.bind_eq_some_iff.1 h
    obtain ⟨more, read, h⟩ := Option.bind_eq_some_iff.1 h
    cases h
    have bounds := ih read
    refine grow first ⟨?_, bounds.2⟩
    simp only [List.length_cons]
    omega
  | case4 c rest some plain ih =>
    rw [readDigits?] at h
    · obtain ⟨d, first, h⟩ := Option.bind_eq_some_iff.1 h
      obtain ⟨more, read, h⟩ := Option.bind_eq_some_iff.1 h
      cases h
      exact grow first (ih read)
    · exact some
    · exact plain

theorem foldl_digits_lt {base : Nat} {ds : List Nat} (small : ∀ d ∈ ds, d < base) {n k : Nat}
    (start : n < Nat.pow base k) :
    ds.foldl (fun n d => n * base + d) n < Nat.pow base (k + ds.length) := by
  induction ds generalizing n k with
  | nil => exact start
  | cons d ds ih =>
    have first := small d List.mem_cons_self
    have step : n * base + d < Nat.pow base (k + 1) := by
      have room : (n + 1) * base ≤ Nat.pow base k * base := Nat.mul_le_mul_right base start
      have next : Nat.pow base (k + 1) = Nat.pow base k * base := rfl
      rw [Nat.succ_mul] at room
      omega
    have rest := ih (fun e mem => small e (List.mem_cons_of_mem d mem)) step
    have count : k + (ds.length + 1) = k + 1 + ds.length := by omega
    rw [List.foldl_cons, List.length_cons, count]
    exact rest

theorem ofDigits_lt {base : Nat} {ds : List Nat} (small : ∀ d ∈ ds, d < base) :
    ofDigits base ds < Nat.pow base ds.length := by
  have bound := foldl_digits_lt small (n := 0) (k := 0) Nat.one_pos
  rw [Nat.zero_add] at bound
  exact bound

theorem readUnsigned?_lt {base n : Nat} {s : List Char} (positive : 0 < base)
    (h : readUnsigned? base s = some n) : n < Nat.pow base s.length := by
  obtain ⟨ds, read, h⟩ := Option.bind_eq_some_iff.1 h
  split at h
  · cases h
  cases h
  obtain ⟨count, small⟩ := readDigits?_bounds read
  have shorter := length_dropBaseMark_le base s
  have grows : Nat.pow base ds.length ≤ Nat.pow base s.length :=
    Nat.pow_le_pow_right positive (by omega)
  exact Nat.lt_of_lt_of_le (ofDigits_lt small) grows

/-- A literal without a hyphen spells a natural number, and one that its characters have room
for. -/
theorem readInteger?_bounds {base : Nat} {s : List Char} {n : Int} (positive : 0 < base)
    (unsigned : '-' ∉ s) (h : readInteger? base s = some n) :
    0 ≤ n ∧ n < (Nat.pow base s.length : Nat) := by
  have bound {t : List Char} (shorter : t.length ≤ s.length)
      (h : (readUnsigned? base t).map (fun n => (n : Int)) = some n) :
      0 ≤ n ∧ n < (Nat.pow base s.length : Nat) := by
    obtain ⟨m, read, rfl⟩ : ∃ m, readUnsigned? base t = some m ∧ (m : Int) = n := by
      simpa [Option.bind_eq_some_iff] using h
    have grows : Nat.pow base t.length ≤ Nat.pow base s.length :=
      Nat.pow_le_pow_right positive shorter
    have less := readUnsigned?_lt positive read
    omega
  have shorter := length_stripWhile_le isNumberBlank s
  unfold readInteger? at h
  split at h
  · next rest eq =>
    -- A minus sign would be a hyphen of the text.
    have mem : '-' ∈ stripWhile isNumberBlank s := by rw [eq]; exact List.mem_cons_self
    exact absurd (mem_of_mem_stripWhile mem) unsigned
  · next rest eq =>
    rw [eq, List.length_cons] at shorter
    exact bound (by omega) h
  · exact bound shorter h

/-! ## Digits that are known by their number -/

/-- Digits are known by the number that they spell, if their count is known. -/
theorem foldl_digits_inj {ds es : List Nat} (smallD : ∀ d ∈ ds, d < 16) (smallE : ∀ e ∈ es, e < 16)
    (long : ds.length = es.length) {n m : Nat}
    (same : ds.foldl (fun n d => n * 16 + d) n = es.foldl (fun n d => n * 16 + d) m) :
    n = m ∧ ds = es := by
  induction ds generalizing es n m with
  | nil =>
    cases es with
    | nil => exact ⟨same, rfl⟩
    | cons e es => cases long
  | cons d ds ih =>
    cases es with
    | nil => cases long
    | cons e es =>
      have headD := smallD d List.mem_cons_self
      have headE := smallE e List.mem_cons_self
      obtain ⟨step, rfl⟩ := ih (fun k mem => smallD k (List.mem_cons_of_mem d mem))
        (fun k mem => smallE k (List.mem_cons_of_mem e mem)) (Nat.succ.inj long) same
      have step : n * 16 + d = m * 16 + e := step
      have digit : d = e := by omega
      exact ⟨by omega, by rw [digit]⟩

end Text

namespace Uuid

open Bytes

/-! ## Canonical texts -/

/-- Is the text one that an identifier is printed as: lower-case hexadecimal digits in groups of 8,
4, 4, 4 and 12, with hyphens between them? -/
def Canonical (text : String) : Prop :=
  ∃ a b c d e : List Char,
    text.toList = a ++ '-' :: (b ++ '-' :: (c ++ '-' :: (d ++ '-' :: e))) ∧
    (a.length = 8 ∧ b.length = 4 ∧ c.length = 4 ∧ d.length = 4 ∧ e.length = 12) ∧
    ∀ x ∈ a ++ (b ++ (c ++ (d ++ e))), ∃ n < 16, x = hexDigit n

theorem Canonical.length {text : String} (h : Canonical text) : text.toList.length = 36 := by
  obtain ⟨a, b, c, d, e, eq, ⟨ha, hb, hc, hd, he⟩, -⟩ := h
  rw [eq]
  simp only [List.length_append, List.length_cons]
  omega

theorem canonical_toText (u : Uuid) : Canonical u.toText := by
  have long := length_digits u
  refine ⟨u.digits.take 8, (u.digits.drop 8).take 4, (u.digits.drop 12).take 4,
    (u.digits.drop 16).take 4, u.digits.drop 20, String.toList_ofList, ?_, ?_⟩
  · simp only [List.length_take, List.length_drop, long]
    decide
  · rw [digits_groups]
    intro x mem
    exact exists_hexDigit mem

/-- Digits that stand for the number of an identifier are the ones it is printed with. -/
theorem digits_eq_of_value {u : Uuid} {ns : List Nat} (small : ∀ n ∈ ns, n < 16)
    (long : ns.length = 32) (same : Text.ofDigits 16 ns = u.value) :
    u.digits = ns.map hexDigit := by
  have count : (Text.nibbles u.bytes).length = ns.length := by
    rw [long, ← length_digits u, digits, ← Text.map_hexDigit_nibbles, List.length_map]
  have value : Text.ofDigits 16 (Text.nibbles u.bytes) = Text.ofDigits 16 ns := by
    rw [Text.ofDigits_nibbles, natBe_bytes, same]
  have equal := (Text.foldl_digits_inj (fun n => Text.nibbles_lt) small count value).2
  rw [digits, ← Text.map_hexDigit_nibbles, equal]

theorem exists_digits {s : List Char} (hex : ∀ x ∈ s, ∃ n < 16, x = hexDigit n) :
    ∃ ns : List Nat, s = ns.map hexDigit ∧ ∀ n ∈ ns, n < 16 := by
  induction s with
  | nil => exact ⟨[], rfl, by simp⟩
  | cons x s ih =>
    obtain ⟨n, small, rfl⟩ := hex x List.mem_cons_self
    obtain ⟨ns, rfl, rest⟩ := ih fun y mem => hex y (List.mem_cons_of_mem _ mem)
    refine ⟨n :: ns, rfl, ?_⟩
    intro m mem
    rcases List.mem_cons.1 mem with rfl | mem
    · exact small
    · exact rest m mem

/-- The canonical texts are the printed forms. -/
theorem canonical_iff {text : String} : Canonical text ↔ ∃ u : Uuid, text = u.toText := by
  constructor
  · rintro ⟨a, b, c, d, e, eq, ⟨ha, hb, hc, hd, he⟩, hex⟩
    obtain ⟨ns, groups, small⟩ := exists_digits hex
    have long : ns.length = 32 := by
      rw [← List.length_map (f := hexDigit), ← groups]
      simp only [List.length_append]
      omega
    have fits : Text.ofDigits 16 ns < 0x100000000000000000000000000000000 := by
      have bound := Text.ofDigits_lt small
      rw [long] at bound
      exact bound
    have digits : (⟨_, fits⟩ : Uuid).digits = a ++ (b ++ (c ++ (d ++ e))) := by
      rw [digits_eq_of_value small long rfl, groups]
    refine ⟨⟨_, fits⟩, String.toList_inj.1 ?_⟩
    have past8 : (a ++ (b ++ (c ++ (d ++ e)))).drop 8 = b ++ (c ++ (d ++ e)) := List.drop_left' ha
    have past12 : (a ++ (b ++ (c ++ (d ++ e)))).drop 12 = c ++ (d ++ e) := by
      rw [← List.drop_drop (i := 4) (j := 8), past8, List.drop_left' hb]
    have past16 : (a ++ (b ++ (c ++ (d ++ e)))).drop 16 = d ++ e := by
      rw [← List.drop_drop (i := 4) (j := 12), past12, List.drop_left' hc]
    have past20 : (a ++ (b ++ (c ++ (d ++ e)))).drop 20 = e := by
      rw [← List.drop_drop (i := 4) (j := 16), past16, List.drop_left' hd]
    rw [eq, toText, String.toList_ofList, digits, past8, past12, past16, past20]
    rw [List.take_left' ha, List.take_left' hb, List.take_left' hc, List.take_left' hd]
  · rintro ⟨u, rfl⟩
    exact canonical_toText u

/-- Of the spellings of an identifier only the printed form is canonical. -/
theorem eq_toText_of_canonical {text : String} {u : Uuid} (canonical : Canonical text)
    (accepted : parse text = .ok u) : text = u.toText := by
  obtain ⟨v, rfl⟩ := canonical_iff.1 canonical
  rw [parse_toText] at accepted
  cases accepted
  rfl

/-! ## Accepted texts -/

/-- What 32 characters spell in base sixteen is an identifier: none is out of range. -/
theorem parse_spelled {text : String} {n : Int} (long : (bare text.toList).length = 32)
    (spelled : Text.readInteger? 16 (bare text.toList) = some n) :
    ∃ u : Uuid, parse text = .ok u ∧ (u.value : Int) = n := by
  have unsigned : '-' ∉ bare text.toList := by
    intro mem
    have kept := (List.mem_filter.1 mem).2
    exact absurd kept (by decide)
  have room : Nat.pow 16 32 = 0x100000000000000000000000000000000 := rfl
  obtain ⟨low, high⟩ := Text.readInteger?_bounds (by decide) unsigned spelled
  rw [long, room] at high
  obtain ⟨m, rfl⟩ := Int.eq_ofNat_of_zero_le low
  have fits : m < 0x100000000000000000000000000000000 := by omega
  refine ⟨⟨m, fits⟩, ?_, rfl⟩
  unfold parse
  dsimp only
  rw [if_neg (by rw [long]; simp), spelled]
  exact dif_pos fits

/-- An accepted text spells the number of its identifier with 32 characters. -/
theorem spelled_of_parse {text : String} {u : Uuid} (accepted : parse text = .ok u) :
    (bare text.toList).length = 32 ∧
      Text.readInteger? 16 (bare text.toList) = some (u.value : Int) := by
  unfold parse at accepted
  dsimp only at accepted
  split at accepted
  · cases accepted
  next long =>
    refine ⟨by simpa using long, ?_⟩
    split at accepted
    · next n spelled =>
      split at accepted
      · cases accepted
        exact spelled
      · cases accepted
    · cases accepted

/-! ## Version and variant -/

/-- The four bits that tell how an identifier was made. -/
def version (u : Uuid) : Nat := u.value / Nat.pow 2 76 % 16

def variant (u : Uuid) : Nat := u.value / Nat.pow 2 62 % 4

def standardVariant : Nat := 2

theorem version_named (parent : Uuid) (name : Bytes) : (parent.named name).version = 5 := by
  unfold version named ofNat stamp
  dsimp only
  generalize natBe ((Sha1.digest (parent.bytes ++ name)).take 16) = n
  simp only [Nat.pow_eq, Nat.reducePow]
  omega

theorem variant_named (parent : Uuid) (name : Bytes) :
    (parent.named name).variant = standardVariant := by
  unfold variant named ofNat stamp standardVariant
  dsimp only
  generalize natBe ((Sha1.digest (parent.bytes ++ name)).take 16) = n
  simp only [Nat.pow_eq, Nat.reducePow]
  omega

end Uuid

namespace Identity

/-! ## Derived identifiers -/

/-- Is the text the printed form of an identifier of version 5 and the variant of the standard? -/
def IsNamed (text : String) : Prop :=
  Uuid.Canonical text ∧
    ∃ u, Uuid.parse text = .ok u ∧ u.version = 5 ∧ u.variant = Uuid.standardVariant

/-- Whatever is hashed, what is derived from a name carries the version and the variant. -/
theorem isNamed_named (parent : Uuid) (name : Bytes) : IsNamed (parent.named name).toText :=
  ⟨Uuid.canonical_toText _, _, Uuid.parse_toText _, Uuid.version_named parent name,
    Uuid.variant_named parent name⟩

/-- Do two texts spell parents with the same books, chapters and entries below them? -/
structure SameBelow (a b : String) : Prop where
  book : ∀ digest, bookUnder a digest = bookUnder b digest
  chapter : ∀ index content, chapterUnder a index content = chapterUnder b index content
  tocEntry : ∀ index, tocEntryUnder a index = tocEntryUnder b index

/-- Does a text spell a parent under which all can be derived, every identifier a named one? Only
positions with more digits than are told have no identifier. -/
structure Derives (text : String) : Prop where
  book : ∀ digest, ∃ id, bookUnder text digest = .ok id ∧ IsNamed id
  chapter : ∀ index content, Text.isTellable index = true →
    ∃ id, chapterUnder text index content = .ok id ∧ IsNamed id
  tocEntry : ∀ index, Text.isTellable index = true →
    ∃ id, tocEntryUnder text index = .ok id ∧ IsNamed id
  untold : ∀ index content, Text.isTellable index = false →
    chapterUnder text index content = .error .untold ∧ tocEntryUnder text index = .error .untold

section
variable {text other : String} {u : Uuid}

theorem parent_of_parse (accepted : Uuid.parse text = .ok u) : parent text = .ok u := by
  rw [parent, accepted]
  rfl

/-- Below a parent, only the parsed identifier shows, and not how it was spelled. -/
theorem sameBelow_of_parse (accepted : Uuid.parse text = .ok u)
    (same : Uuid.parse other = .ok u) : SameBelow text other := by
  have eq : parent text = parent other := by rw [parent_of_parse accepted, parent_of_parse same]
  constructor
  · intro digest
    rw [bookUnder, bookUnder, eq]
  · intro index content
    rw [chapterUnder, chapterUnder, eq]
  · intro index
    rw [tocEntryUnder, tocEntryUnder, eq]

theorem derives_of_parse (accepted : Uuid.parse text = .ok u) : Derives text := by
  have spelled := parent_of_parse accepted
  constructor
  · intro digest
    refine ⟨(book u digest).toText, ?_, isNamed_named u _⟩
    rw [bookUnder, spelled]
    rfl
  · intro index content told
    refine ⟨(chapter u index content).toText, ?_, isNamed_named u _⟩
    rw [chapterUnder, position, if_pos told, spelled]
    rfl
  · intro index told
    refine ⟨(tocEntry u index).toText, ?_, isNamed_named u _⟩
    rw [tocEntryUnder, position, if_pos told, spelled]
    rfl
  · intro index content long
    rw [chapterUnder, tocEntryUnder, position, if_neg (by simp [long]), spelled]
    exact ⟨rfl, rfl⟩

end

/-- A text is accepted exactly if 32 characters are left that spell a number in base sixteen; it is
the number of the identifier, and below 2^128. The identifier is printed canonically, its printed
form is read as the identifier again, and no other of its spellings is canonical. All its spellings
have the same books, chapters and entries below them, and these can be derived at every position
that is told: each is a named identifier in its canonical text, and chapters and entries of a derived
book can be derived in turn. -/
theorem spellings_canonical (text : String) :
    ((∃ u, Uuid.parse text = .ok u) ↔ (Uuid.bare text.toList).length = 32 ∧
      ∃ n, Text.readInteger? 16 (Uuid.bare text.toList) = some n) ∧
    ∀ u, Uuid.parse text = .ok u →
      (Text.readInteger? 16 (Uuid.bare text.toList) = some (u.value : Int) ∧
        u.value < 0x100000000000000000000000000000000) ∧
      (Uuid.Canonical u.toText ∧ u.toText.toList.length = 36 ∧ Uuid.parse u.toText = .ok u) ∧
      (∀ other, Uuid.parse other = .ok u →
        SameBelow text other ∧ (Uuid.Canonical other → other = u.toText)) ∧
      Derives text ∧ ∀ digest id, bookUnder text digest = .ok id → Derives id := by
  constructor
  · constructor
    · rintro ⟨u, accepted⟩
      obtain ⟨long, spelled⟩ := Uuid.spelled_of_parse accepted
      exact ⟨long, _, spelled⟩
    · rintro ⟨long, n, spelled⟩
      obtain ⟨u, accepted, -⟩ := Uuid.parse_spelled long spelled
      exact ⟨u, accepted⟩
  · intro u accepted
    have canonical := Uuid.canonical_toText u
    refine ⟨⟨(Uuid.spelled_of_parse accepted).2, u.isLt⟩,
      ⟨canonical, canonical.length, Uuid.parse_toText u⟩, ?_, derives_of_parse accepted, ?_⟩
    · intro other same
      exact ⟨sameBelow_of_parse accepted same,
        fun canonical => Uuid.eq_toText_of_canonical canonical same⟩
    · intro digest id derived
      rw [bookUnder, parent_of_parse accepted] at derived
      cases derived
      exact derives_of_parse (Uuid.parse_toText _)

/-- Marks inside each other, a plus sign, an Arabic zero before the `x`, an underscore behind it,
and digits of both cases: of 32 characters, 28 are digits. -/
theorem spellings_canonical_marks :
    Uuid.parse "\x7buurn:uid:+٠X_6F-0c3a529D1e5b7a8c442e51d0a9\x7d" =
        .ok ⟨0x6f0c3a529d1e5b7a8c442e51d0a9, by decide⟩ ∧
      Uuid.parse "00006f0c-3a52-9d1e-5b7a-8c442e51d0a9" =
        .ok ⟨0x6f0c3a529d1e5b7a8c442e51d0a9, by decide⟩ ∧
      SameBelow "\x7buurn:uid:+٠X_6F-0c3a529D1e5b7a8c442e51d0a9\x7d"
        "00006f0c-3a52-9d1e-5b7a-8c442e51d0a9" ∧
      Derives "\x7buurn:uid:+٠X_6F-0c3a529D1e5b7a8c442e51d0a9\x7d" := by
  have marked : Uuid.parse "\x7buurn:uid:+٠X_6F-0c3a529D1e5b7a8c442e51d0a9\x7d" =
      .ok ⟨0x6f0c3a529d1e5b7a8c442e51d0a9, by decide⟩ :=
    toOption_eq_some_iff.1 (by decide +kernel)
  have plain : Uuid.parse "00006f0c-3a52-9d1e-5b7a-8c442e51d0a9" =
      .ok ⟨0x6f0c3a529d1e5b7a8c442e51d0a9, by decide⟩ :=
    toOption_eq_some_iff.1 (by decide +kernel)
  obtain ⟨-, -, same, derives, -⟩ := (spellings_canonical _).2 _ marked
  exact ⟨marked, plain, (same _ plain).1, derives⟩

/-- A derived book has no chapter and no entry at the first position of 4301 digits. -/
theorem untold_position : ∃ id,
    bookUnder "00006f0c-3a52-9d1e-5b7a-8c442e51d0a9" "ab" = .ok id ∧
      chapterUnder id (Nat.pow 10 4300 : Nat) [] = .error .untold ∧
      tocEntryUnder id (Nat.pow 10 4300 : Nat) = .error .untold := by
  have plain : Uuid.parse "00006f0c-3a52-9d1e-5b7a-8c442e51d0a9" =
      .ok ⟨0x6f0c3a529d1e5b7a8c442e51d0a9, by decide⟩ :=
    toOption_eq_some_iff.1 (by decide +kernel)
  refine ⟨_, by rw [bookUnder, parent_of_parse plain]; rfl, ?_⟩
  exact (derives_of_parse (Uuid.parse_toText _)).untold _ _ (by decide +kernel)

end Identity
end EpubLibrary
