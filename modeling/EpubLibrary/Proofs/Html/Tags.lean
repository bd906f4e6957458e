import EpubLibrary.Proofs.Html.References

namespace EpubLibrary.Html

/-! ## Stopping at a character -/

theorem takeWhile_append_stop {p : Char → Bool} {s rest : List Char} {c : Char}
    (inside : ∀ d ∈ s, p d = true) (stop : p c = false) :
    (s ++ c :: rest).takeWhile p = s := by
  rw [List.takeWhile_append_of_pos inside, List.takeWhile_cons_of_neg (by simp [stop]),
    List.append_nil]

theorem dropWhile_append_stop {p : Char → Bool} {s rest : List Char} {c : Char}
    (inside : ∀ d ∈ s, p d = true) (stop : p c = false) :
    (s ++ c :: rest).dropWhile p = c :: rest := by
  rw [List.dropWhile_append_of_pos inside, List.dropWhile_cons_of_neg (by simp [stop])]

theorem skipSpace_cons {c : Char} (h : isSpace c = false) (s : List Char) :
    skipSpace (c :: s) = c :: s := by
  rw [skipSpace, List.dropWhile_cons_of_neg (by simp [h])]

/-! ## Characters of names -/

/-- How a character of a name is read. -/
def nameChar (c : Char) : Char := showNull (lower c)

/-- The characters that reading a name changes. -/
theorem nameChar_cases (c : Char) :
    nameChar c = c ∨ (c = '\x00' ∧ nameChar c = replacement) ∨
      ∃ k < 26, c = Char.ofNat (65 + k) ∧ nameChar c = Char.ofNat (97 + k) := by
  by_cases upper : 'A' ≤ c ∧ c ≤ 'Z'
  · have low : 65 ≤ c.toNat := UInt32.le_iff_toNat_le.1 upper.1
    have high : c.toNat ≤ 90 := UInt32.le_iff_toNat_le.1 upper.2
    have spelled : c = Char.ofNat (65 + (c.toNat - 65)) := by
      rw [Nat.add_sub_cancel' low, Char.ofNat_toNat]
    have lowered : ∀ k < 26, nameChar (Char.ofNat (65 + k)) = Char.ofNat (97 + k) := by decide
    refine .inr (.inr ⟨c.toNat - 65, by omega, spelled, ?_⟩)
    conv => lhs; rw [spelled]
    exact lowered _ (by omega)
  · have same : lower c = c := by
      rw [lower, if_neg (by simpa using upper)]
    unfold nameChar showNull
    rw [same]
    split
    · next null => exact .inr (.inl ⟨null, rfl⟩)
    · exact .inl rfl

/-- What holds of every changed character and its reading holds of every character and its. -/
theorem nameChar_induction {p : Char → Char → Prop} (same : ∀ c, p c c)
    (null : p '\x00' replacement) (letter : ∀ k < 26, p (Char.ofNat (65 + k)) (Char.ofNat (97 + k)))
    (c : Char) : p c (nameChar c) := by
  rcases nameChar_cases c with h | ⟨rfl, h⟩ | ⟨k, hk, hc, h⟩ <;> rw [h]
  · exact same c
  · exact null
  · rw [hc]
    exact letter k hk

@[simp] theorem endsTagName_nameChar (c : Char) : endsTagName (nameChar c) = endsTagName c :=
  nameChar_induction (p := fun c d => endsTagName d = endsTagName c) (fun _ => rfl) (by decide)
    (by decide) c

@[simp] theorem endsAttributeName_nameChar (c : Char) :
    endsAttributeName (nameChar c) = endsAttributeName c :=
  nameChar_induction (p := fun c d => endsAttributeName d = endsAttributeName c) (fun _ => rfl)
    (by decide) (by decide) c

@[simp] theorem isLetter_nameChar (c : Char) : isLetter (nameChar c) = isLetter c :=
  nameChar_induction (p := fun c d => isLetter d = isLetter c) (fun _ => rfl) (by decide)
    (by decide) c

@[simp] theorem nameChar_nameChar (c : Char) : nameChar (nameChar c) = nameChar c := by
  rcases nameChar_cases c with h | ⟨rfl, -⟩ | ⟨k, hk, -, h⟩
  · rw [h, h]
  · decide
  · have settled : ∀ k < 26, nameChar (Char.ofNat (97 + k)) = Char.ofNat (97 + k) := by decide
    rw [h, settled k hk]

theorem map_nameChar_eq_self {s : List Char} (h : ∀ c ∈ s, nameChar c = c) :
    s.map nameChar = s := by
  conv => rhs; rw [← List.map_id s]
  exact List.map_congr_left h

/-- A name that a tag can have. -/
structure TagName (name : String) : Prop where
  begins : name.toList.head?.any isLetter = true
  inside : ∀ c ∈ name.toList, endsTagName c = false
  settled : ∀ c ∈ name.toList, nameChar c = c

theorem TagName.of_all {name : String} (begins : name.toList.head?.any isLetter = true)
    (all : name.toList.all (fun c => !endsTagName c && nameChar c == c) = true) : TagName name := by
  simp only [List.all_eq_true, Bool.and_eq_true, Bool.not_eq_true', beq_iff_eq] at all
  exact ⟨begins, fun c hc => (all c hc).1, fun c hc => (all c hc).2⟩

/-- A name that an attribute can have; only an equals sign may start it and not go on. -/
structure AttributeName (name : String) : Prop where
  begins : name.toList.head?.any (fun c => !isSpace c && c != '>' && c != '/') = true
  inside : ∀ c ∈ name.toList.drop 1, endsAttributeName c = false
  settled : ∀ c ∈ name.toList, nameChar c = c

structure Attributes.Readable (attributes : Attributes) : Prop where
  distinct : (attributes.map (·.1)).Nodup
  names : ∀ a ∈ attributes, AttributeName a.1
  values : ∀ a ∈ attributes, '\x00' ∉ a.2.toList

/-! ## Reading what was printed -/

/-- A character that no escape holds is written only where it was. -/
theorem not_mem_flatMap_write {write : Char → List Char} (h : Escapes write) {c : Char}
    (spare : ∀ e ∈ escapes, c ∉ '&' :: e.1) {s : List Char} (hs : c ∉ s) : c ∉ s.flatMap write := by
  rw [List.mem_flatMap]
  rintro ⟨d, hd, written⟩
  rcases h d with ⟨-, writes⟩ | ⟨e, he, -, writes⟩ <;> rw [writes] at written
  · obtain rfl := List.mem_singleton.1 written
    exact hs hd
  · exact spare e he written

def quoteChar (c : Char) : List Char := if c = '"' then "&quot;".toList else [c]

theorem escapes_quoteChar : Escapes fun c => (escapeChar c).flatMap quoteChar := by
  intro c
  dsimp only [escapeChar]
  split_ifs with amp lt gt
  · exact .inr ⟨_, .head _, amp.symm, rfl⟩
  · exact .inr ⟨_, .tail _ (.head _), lt.symm, rfl⟩
  · exact .inr ⟨_, .tail _ (.tail _ (.head _)), gt.symm, rfl⟩
  · by_cases quote : c = '"'
    · exact .inr ⟨_, .tail _ (.tail _ (.tail _ (.head _))), quote.symm, by simp [quoteChar, quote]⟩
    · exact .inl ⟨amp, by simp [quoteChar, quote]⟩

/-- A quoted value ends at the next quote of its kind. -/
theorem readValue_quote {quote : Char} (hq : quote = '"' ∨ quote = '\'') {body : List Char}
    (h : quote ∉ body) (rest : List Char) :
    readValue (quote :: body ++ quote :: rest) = (body, rest) := by
  have inside : ∀ d ∈ body, decide (d ≠ quote) = true := fun d hd => by
    simpa using ne_of_mem_of_not_mem hd h
  have stop : decide (quote ≠ quote) = false := by simp
  rcases hq with rfl | rfl <;>
    simp only [readValue, List.cons_append, takeWhile_append_stop inside stop,
      dropWhile_append_stop inside stop, List.drop_succ_cons, List.drop_zero]

/-- A printed value is read up to its closing quote, and decodes to what was printed. -/
theorem readValue_quoteValue (value rest : List Char) (noNull : '\x00' ∉ value) :
    ∃ body, readValue (quoteValue (escapeText value) ++ rest) = (body, rest) ∧
      decodeReferences true (body.map showNull) = value := by
  have plain : '\x00' ∉ escapeText value :=
    not_mem_flatMap_write escapes_escapeChar (by decide) noNull
  unfold quoteValue
  split_ifs with double single
  · refine ⟨(escapeText value).flatMap quoteChar, ?_, ?_⟩
    · have none : '"' ∉ (escapeText value).flatMap quoteChar := by
        simp only [List.mem_flatMap, quoteChar]
        rintro ⟨c, -, written⟩
        split at written
        · revert written; decide
        · next other => exact other (List.mem_singleton.1 written).symm
      rw [List.append_assoc]
      exact readValue_quote (.inl rfl) none rest
    · have written : (escapeText value).flatMap quoteChar =
          value.flatMap fun c => (escapeChar c).flatMap quoteChar := by
        rw [escapeText, List.flatMap_assoc]
      rw [written, map_showNull_eq_self
        (not_mem_flatMap_write escapes_quoteChar (by decide) noNull)]
      exact decodeReferences_flatMap true escapes_quoteChar value
  · refine ⟨escapeText value, ?_, ?_⟩
    · rw [List.append_assoc]
      exact readValue_quote (.inr rfl) (by simpa using single) rest
    · rw [map_showNull_eq_self plain, decodeReferences_escapeText]
  · refine ⟨escapeText value, ?_, ?_⟩
    · rw [List.append_assoc]
      exact readValue_quote (.inl rfl) (by simpa using double) rest
    · rw [map_showNull_eq_self plain, decodeReferences_escapeText]

/-- A printed attribute is read with its value. -/
theorem readAttribute_render {name : String} (h : AttributeName name) (value rest : List Char)
    (noNull : '\x00' ∉ value) :
    ∃ body, readAttribute (name.toList ++ '=' :: quoteValue (escapeText value) ++ rest) =
        ((name.toList, body), rest) ∧
      decodeReferences true (body.map showNull) = value := by
  obtain ⟨body, reads, decodes⟩ := readValue_quoteValue value rest noNull
  refine ⟨body, ?_, decodes⟩
  cases hn : name.toList with
  | nil => simpa [hn] using h.begins
  | cons c s =>
    have inside : ∀ d ∈ s, (!endsAttributeName d) = true := by
      simpa [hn] using h.inside
    have stop : (!endsAttributeName '=') = false := by decide
    have quoted : skipSpace (quoteValue (escapeText value) ++ rest) =
        quoteValue (escapeText value) ++ rest := by
      unfold quoteValue
      split_ifs <;> exact skipSpace_cons (by decide) _
    simp only [readAttribute, List.cons_append, List.append_assoc, List.take_succ_cons,
      List.take_zero, List.drop_succ_cons, List.drop_zero, List.nil_append,
      takeWhile_append_stop inside stop, dropWhile_append_stop inside stop]
    rw [skipSpace_cons (by decide)]
    simp only [quoted, reads]

theorem addAttribute_of_new {attributes : Attributes} {name value : String}
    (h : name ∉ attributes.map (·.1)) :
    addAttribute attributes name value = attributes ++ [(name, value)] := by
  rw [addAttribute, if_neg]
  simpa using h

/-- A round of `readAttributes` at the start of a name. -/
theorem readAttributes_name {b c : Char} {bound s t name value rest : List Char}
    {found : Attributes} (hs : skipSpace s = c :: t) (hc : c ≠ '>' ∧ c ≠ '/')
    (reads : readAttribute (c :: t) = ((name, value), rest)) :
    readAttributes (b :: bound) s found =
      readAttributes bound rest (addAttribute found (String.ofList (name.map nameChar))
        (String.ofList (decodeReferences true (value.map showNull)))) := by
  rw [readAttributes, hs]
  split
  · contradiction
  · next h => exact absurd (List.cons.inj h).1 hc.1
  · next h => exact absurd (List.cons.inj h).1 hc.2
  · next h => exact absurd (List.cons.inj h).1 hc.2
  · rw [reads]
    rfl

/-- Printed attributes are read one by one, up to the end of the tag. -/
theorem readAttributes_render {found attributes : Attributes}
    (h : (found ++ attributes).Readable) {tail rest : List Char} {ending : TagEnd}
    (ends : tail = '>' :: rest ∧ ending = .closed ∨
      tail = '/' :: '>' :: rest ∧ ending = .selfClosed)
    {bound : List Char} (enough : attributes.length < bound.length) :
    readAttributes bound (attributes.flatMap renderAttribute ++ tail) found =
      (found ++ attributes, ending, rest) := by
  induction attributes generalizing found bound with
  | nil =>
    cases bound with
    | nil => simp at enough
    | cons b bound =>
      rcases ends with ⟨rfl, rfl⟩ | ⟨rfl, rfl⟩ <;>
        simp [readAttributes, skipSpace_cons, show isSpace '>' = false by decide,
          show isSpace '/' = false by decide]
  | cons a attributes ih =>
    cases bound with
    | nil => simp at enough
    | cons b bound =>
      obtain ⟨name, value⟩ := a
      have readable : AttributeName name := h.names (name, value) (by simp)
      obtain ⟨body, reads, decodes⟩ := readAttribute_render readable value.toList
        (attributes.flatMap renderAttribute ++ tail) (h.values (name, value) (by simp))
      have new : name ∉ found.map (·.1) := by
        have := h.distinct
        simp only [List.map_append, List.map_cons] at this
        exact fun old => (List.nodup_append.1 this).2.2 _ old _ List.mem_cons_self rfl
      have again : (found ++ [(name, value)] ++ attributes).Readable := by simpa using h
      have settled := map_nameChar_eq_self readable.settled
      cases hn : name.toList with
      | nil => simpa [hn] using readable.begins
      | cons c s =>
        have begins : isSpace c = false ∧ c ≠ '>' ∧ c ≠ '/' := by
          simpa [hn, and_assoc] using readable.begins
        simp only [hn, List.cons_append, List.append_assoc] at reads
        have skipped : skipSpace (((name, value) :: attributes).flatMap renderAttribute ++ tail) =
            c :: (s ++ '=' :: (quoteValue (escapeText value.toList) ++
              (attributes.flatMap renderAttribute ++ tail))) := by
          simp only [List.flatMap_cons, renderAttribute, hn, List.cons_append, List.append_assoc]
          exact skipSpace_cons begins.1 _
        rw [readAttributes_name skipped begins.2 reads, ← hn, settled, decodes,
          String.ofList_toList, String.ofList_toList, addAttribute_of_new new, ih again]
        · simp
        · simpa using enough

theorem length_le_flatMap_renderAttribute (attributes : Attributes) :
    attributes.length ≤ (attributes.flatMap renderAttribute).length := by
  induction attributes with
  | nil => exact Nat.zero_le _
  | cons a attributes ih =>
    simp only [List.flatMap_cons, List.length_append, renderAttribute, List.length_cons]
    omega

/-- A printed tag reads as the tag that was printed. -/
theorem Tag.read_render {name : String} {attributes : Attributes} (hn : TagName name)
    (ha : attributes.Readable) {tail rest : List Char} {ending : TagEnd}
    (ends : tail = '>' :: rest ∧ ending = .closed ∨
      tail = '/' :: '>' :: rest ∧ ending = .selfClosed) :
    Tag.read (name.toList ++ attributes.flatMap renderAttribute ++ tail) =
      (⟨name, attributes, ending⟩, rest) := by
  have inside : ∀ c ∈ name.toList, (!endsTagName c) = true := by simpa using hn.inside
  obtain ⟨c, s, stop, hs⟩ : ∃ c s, (!endsTagName c) = false ∧
      attributes.flatMap renderAttribute ++ tail = c :: s := by
    cases attributes with
    | nil => rcases ends with ⟨rfl, -⟩ | ⟨rfl, -⟩ <;> exact ⟨_, _, by decide, rfl⟩
    | cons a attributes => exact ⟨' ', _, by decide, rfl⟩
  have enough : attributes.length <
      (' ' :: (name.toList ++ attributes.flatMap renderAttribute ++ tail)).length := by
    have := length_le_flatMap_renderAttribute attributes
    simp only [List.length_cons, List.length_append]
    omega
  have reads : readAttributes _ (attributes.flatMap renderAttribute ++ tail) [] =
      ([] ++ attributes, ending, rest) := readAttributes_render (by simpa using ha) ends enough
  simp only [Tag.read, List.append_assoc, hs, takeWhile_append_stop inside stop,
    dropWhile_append_stop inside stop]
  simp only [hs, List.append_assoc, List.nil_append] at reads
  have settled : name.toList.map (showNull ∘ lower) = name.toList := map_nameChar_eq_self hn.settled
  rw [reads, settled, String.ofList_toList]

/-! ## What reading finds -/

theorem isSpace_of_skipSpace {s t : List Char} {c : Char} (h : skipSpace s = c :: t) :
    isSpace c = false := by
  have := List.head?_dropWhile_not isSpace s
  rw [skipSpace] at h
  simpa [h] using this

theorem length_skipSpace_le (s : List Char) : (skipSpace s).length ≤ s.length :=
  (List.dropWhile_sublist _).length_le

theorem length_readValue_le (s : List Char) : (readValue s).2.length ≤ s.length := by
  have behind (p : Char → Bool) (t : List Char) : (t.dropWhile p).length ≤ t.length :=
    (List.dropWhile_sublist _).length_le
  unfold readValue
  split
  · next t =>
    have := behind (· ≠ '"') t
    simp only [List.length_drop, List.length_cons]
    omega
  · next t =>
    have := behind (· ≠ '\'') t
    simp only [List.length_drop, List.length_cons]
    omega
  · exact behind _ _

theorem length_readAttribute_le (c : Char) (t : List Char) :
    (readAttribute (c :: t)).2.length ≤ t.length := by
  have behind : (t.dropWhile (!endsAttributeName ·)).length ≤ t.length :=
    (List.dropWhile_sublist _).length_le
  have skipped := length_skipSpace_le (t.dropWhile (!endsAttributeName ·))
  simp only [readAttribute, List.drop_succ_cons, List.drop_zero]
  split
  · next more h =>
    have := length_readValue_le (skipSpace more)
    have := length_skipSpace_le more
    rw [h, List.length_cons] at skipped
    dsimp only
    omega
  · exact behind

/-- One round of `readAttributes`: the tag ends, or a solidus is passed, or a name is read. -/
theorem readAttributes_cases (b : Char) (bound s : List Char) (found : Attributes) :
    (∃ ending rest, ending ≠ .unfinished ∧
      readAttributes (b :: bound) s found = (found, ending, rest)) ∨
    readAttributes (b :: bound) s found = (found, .unfinished, []) ∨
    (∃ rest, rest.length < s.length ∧
      readAttributes (b :: bound) s found = readAttributes bound rest found) ∨
    ∃ c t name value rest, skipSpace s = c :: t ∧ c ≠ '>' ∧ c ≠ '/' ∧
      readAttribute (c :: t) = ((name, value), rest) ∧ rest.length < s.length ∧
      readAttributes (b :: bound) s found =
        readAttributes bound rest (addAttribute found (String.ofList (name.map nameChar))
          (String.ofList (decodeReferences true (value.map showNull)))) := by
  have skipped := length_skipSpace_le s
  cases hs : skipSpace s with
  | nil => exact .inr (.inl (by simp [readAttributes, hs]))
  | cons c t =>
    rw [hs, List.length_cons] at skipped
    by_cases closes : c = '>'
    · subst closes
      exact .inl ⟨.closed, t, by decide, by simp [readAttributes, hs]⟩
    · by_cases solidus : c = '/'
      · subst solidus
        cases t with
        | nil => exact .inr (.inr (.inl ⟨[], by omega, by simp [readAttributes, hs]⟩))
        | cons d t =>
          by_cases ends : d = '>'
          · subst ends
            exact .inl ⟨.selfClosed, t, by decide, by simp [readAttributes, hs]⟩
          · refine .inr (.inr (.inl ⟨d :: t, by omega, ?_⟩))
            rw [readAttributes, hs]
            split
            · next h => cases h
            · next h => exact absurd (List.cons.inj h).1 (by decide)
            · next h => exact absurd (List.cons.inj (List.cons.inj h).2).1 ends
            · next h => rw [(List.cons.inj h).2]
            · next other => exact absurd rfl (other _)
      · have shorter := length_readAttribute_le c t
        rcases hr : readAttribute (c :: t) with ⟨⟨name, value⟩, rest⟩
        have shorter : rest.length ≤ t.length := by simpa [hr] using shorter
        exact .inr (.inr (.inr ⟨c, t, name, value, rest, rfl, closes, solidus, hr, by omega,
          readAttributes_name hs ⟨closes, solidus⟩ hr⟩))

/-- The bound is never reached: a tag without an end takes the whole text. -/
theorem readAttributes_unfinished {bound s : List Char} {found : Attributes}
    (enough : s.length < bound.length)
    (h : (readAttributes bound s found).2.1 = .unfinished) :
    (readAttributes bound s found).2.2 = [] := by
  induction bound generalizing s found with
  | nil => simp at enough
  | cons b bound ih =>
    rw [List.length_cons] at enough
    rcases readAttributes_cases b bound s found with ⟨ending, rest, ends, e⟩ | e |
      ⟨rest, shorter, e⟩ | ⟨c, t, name, value, rest, -, -, -, -, shorter, e⟩ <;> rw [e] at h ⊢
    · exact absurd h ends
    · exact ih (by omega) h
    · exact ih (by omega) h

theorem begins_nameChar (c : Char) :
    (!isSpace (nameChar c) && nameChar c != '>' && nameChar c != '/') =
      (!isSpace c && c != '>' && c != '/') :=
  nameChar_induction (p := fun c d => (!isSpace d && d != '>' && d != '/') =
    (!isSpace c && c != '>' && c != '/')) (fun _ => rfl) (by decide) (by decide) c

theorem attributeName_of_read {s t name value rest : List Char} {c : Char}
    (hs : skipSpace s = c :: t) (hc : c ≠ '>' ∧ c ≠ '/')
    (reads : readAttribute (c :: t) = ((name, value), rest)) :
    AttributeName (String.ofList (name.map nameChar)) := by
  have spelled : name = c :: t.takeWhile (!endsAttributeName ·) := by
    have := congrArg (·.1.1) reads
    simp only [readAttribute] at this
    split at this <;> exact this.symm
  subst spelled
  refine ⟨?_, ?_, ?_⟩
  · simpa [begins_nameChar, hc] using isSpace_of_skipSpace hs
  · intro d hd
    simp only [String.toList_ofList, List.map_cons, List.drop_succ_cons, List.drop_zero,
      List.mem_map] at hd
    obtain ⟨d, hd, rfl⟩ := hd
    simpa using List.all_eq_true.1 (List.all_takeWhile (p := (!endsAttributeName ·))) d hd
  · intro d hd
    rw [String.toList_ofList, List.mem_map] at hd
    obtain ⟨d, -, rfl⟩ := hd
    exact nameChar_nameChar d

theorem Attributes.Readable.add {found : Attributes} (h : found.Readable) {name value : String}
    (hn : AttributeName name) (hv : '\x00' ∉ value.toList) :
    Attributes.Readable (addAttribute found name value) := by
  unfold addAttribute
  split
  · exact h
  · next new =>
    refine ⟨?_, ?_, ?_⟩
    · simp only [List.map_append, List.map_cons, List.map_nil, List.nodup_append, h.distinct,
        List.nodup_cons, List.not_mem_nil, not_false_eq_true, List.nodup_nil, true_and,
        List.mem_singleton]
      rintro a ha _ rfl rfl
      obtain ⟨b, hb, rfl⟩ := List.mem_map.1 ha
      exact new (List.any_eq_true.2 ⟨b, hb, by simp⟩)
    · simpa [or_imp, forall_and, hn] using h.names
    · simpa [or_imp, forall_and, hv] using h.values

/-- What reading finds are names and values that attributes can have. -/
theorem readAttributes_readable {bound s : List Char} {found : Attributes}
    (h : found.Readable) : (readAttributes bound s found).1.Readable := by
  induction bound generalizing s found with
  | nil => exact h
  | cons b bound ih =>
    rcases readAttributes_cases b bound s found with ⟨ending, rest, -, e⟩ | e |
      ⟨rest, -, e⟩ | ⟨c, t, name, value, rest, hs, hc, hc', reads, -, e⟩ <;> rw [e]
    · exact h
    · exact h
    · exact ih h
    · refine ih (h.add (attributeName_of_read hs ⟨hc, hc'⟩ reads) ?_)
      rw [String.toList_ofList]
      exact null_not_mem_decodeReferences true (null_not_mem_map_showNull value)

theorem Attributes.Readable.nil : Attributes.Readable [] := ⟨.nil, by simp, by simp⟩

theorem Tag.read_eq (s : List Char) :
    let found := readAttributes (' ' :: s) (s.dropWhile (!endsTagName ·)) []
    Tag.read s = (⟨String.ofList ((s.takeWhile (!endsTagName ·)).map nameChar), found.1, found.2.1⟩,
      found.2.2) := rfl

theorem endsTagName_of_isLetter {c : Char} (h : isLetter c = true) : endsTagName c = false := by
  cases ends : endsTagName c with
  | false => rfl
  | true =>
    simp only [endsTagName, isSpace, Bool.or_eq_true, decide_eq_true_eq, or_assoc] at ends
    rcases ends with rfl | rfl | rfl | rfl | rfl | rfl | rfl <;> exact absurd h (by decide)

/-- A tag that begins with a letter reads with a name and attributes that read back. -/
theorem Tag.read_readable {c : Char} (letter : isLetter c = true) (s : List Char) :
    TagName (Tag.read (c :: s)).1.name ∧ (Tag.read (c :: s)).1.attributes.Readable := by
  have inside := endsTagName_of_isLetter letter
  rw [Tag.read_eq]
  refine ⟨⟨?_, ?_, ?_⟩, readAttributes_readable .nil⟩
  · simp [inside, letter]
  · intro d hd
    rw [String.toList_ofList, List.mem_map] at hd
    obtain ⟨d, hd, rfl⟩ := hd
    simpa using List.all_eq_true.1 (List.all_takeWhile (p := (!endsTagName ·))) d hd
  · intro d hd
    rw [String.toList_ofList, List.mem_map] at hd
    obtain ⟨d, -, rfl⟩ := hd
    exact nameChar_nameChar d

/-- A tag that does not end takes the rest of the text. -/
theorem Tag.read_unfinished {s : List Char} (h : (Tag.read s).1.ending = .unfinished) :
    (Tag.read s).2 = [] := by
  rw [Tag.read_eq] at h ⊢
  refine readAttributes_unfinished ?_ h
  have := (List.dropWhile_sublist (l := s) (!endsTagName ·)).length_le
  rw [List.length_cons]
  omega

end EpubLibrary.Html
