import EpubLibrary.Proofs.Html.Tags
import EpubLibrary.Proofs.Lookup

namespace EpubLibrary.Html

/-! ## Order -/

def Ordered (attributes : Attributes) : Prop := attributes.Pairwise fun a b => a.1 ≤ b.1

theorem perm_insertAttribute (a : String × String) (attributes : Attributes) :
    (insertAttribute a attributes).Perm (a :: attributes) := by
  induction attributes with
  | nil => exact .refl _
  | cons b rest ih =>
    rw [insertAttribute]
    split
    · exact (ih.cons b).trans (.swap a b rest)
    · exact .refl _

theorem perm_sortAttributes (attributes : Attributes) :
    (sortAttributes attributes).Perm attributes := by
  induction attributes with
  | nil => exact .refl _
  | cons a rest ih => exact (perm_insertAttribute a _).trans (ih.cons a)

theorem Ordered.insert {a : String × String} {attributes : Attributes} (h : Ordered attributes) :
    Ordered (insertAttribute a attributes) := by
  induction attributes with
  | nil => exact List.pairwise_singleton _ _
  | cons b rest ih =>
    obtain ⟨first, ordered⟩ := List.pairwise_cons.1 h
    rw [insertAttribute]
    split
    · next below =>
      refine List.pairwise_cons.2 ⟨fun c hc => ?_, ih ordered⟩
      rcases List.mem_cons.1 ((perm_insertAttribute a rest).subset hc) with rfl | hc
      · rcases String.le_total b.1 c.1 with le | le
        · exact le
        · exact absurd below (String.not_lt.2 le)
      · exact first c hc
    · next above =>
      have under : a.1 ≤ b.1 := String.not_lt.1 above
      refine List.pairwise_cons.2 ⟨fun c hc => ?_, h⟩
      rcases List.mem_cons.1 hc with rfl | hc
      · exact under
      · exact String.le_trans under (first c hc)

/-- What was sorted is in order. -/
theorem ordered_sortAttributes (attributes : Attributes) : Ordered (sortAttributes attributes) := by
  induction attributes with
  | nil => exact .nil
  | cons a rest ih => exact ih.insert

/-- Sorting what is in order changes nothing. -/
theorem sortAttributes_eq_self {attributes : Attributes} (h : Ordered attributes) :
    sortAttributes attributes = attributes := by
  induction attributes with
  | nil => rfl
  | cons a rest ih =>
    obtain ⟨first, ordered⟩ := List.pairwise_cons.1 h
    rw [sortAttributes, List.foldr_cons]
    rw [sortAttributes] at ih
    rw [ih ordered]
    cases rest with
    | nil => rfl
    | cons b rest => rw [insertAttribute, if_neg (String.not_lt.2 (first b List.mem_cons_self))]

/-! ## Set attributes -/

@[simp] theorem map_fst_setAttribute (attributes : Attributes) (name value : String) :
    (setAttribute attributes name value).map (·.1) = attributes.map (·.1) := by
  rw [setAttribute, List.map_map]
  refine List.map_congr_left fun a _ => ?_
  rw [Function.comp_apply]
  split
  · next same => exact same.symm
  · rfl

theorem lookup_setAttribute (attributes : Attributes) (name value other : String) :
    (setAttribute attributes name value).lookup other =
      if other = name then (attributes.lookup name).map fun _ => value
      else attributes.lookup other := by
  unfold setAttribute
  induction attributes with
  | nil => simp
  | cons a rest ih =>
    rw [List.map_cons, lookup_cons_eq, lookup_cons_eq, lookup_cons_eq, ih]
    by_cases here : a.1 = name
    · subst here
      by_cases asked : other = a.1 <;> simp [asked]
    · have apart : name ≠ a.1 := Ne.symm here
      by_cases asked : other = name
      · simp [here, asked, apart]
      · simp [here, asked]

/-- Setting an attribute to what it is changes nothing. -/
theorem setAttribute_eq_self {attributes : Attributes} (distinct : (attributes.map (·.1)).Nodup)
    {name value : String} (h : attributes.lookup name = some value) :
    setAttribute attributes name value = attributes := by
  conv => rhs; rw [← List.map_id attributes]
  refine List.map_congr_left fun a ha => ?_
  split
  · next same =>
    have := (lookup_eq_some_iff_mem distinct).2 (same ▸ ha : (name, a.2) ∈ attributes)
    rw [h] at this
    exact Prod.ext same.symm (Option.some.inj this)
  · rfl

/-! ## Declared encodings -/

/-- The search for a declaration looks eight characters ahead, and those are the same before and
behind a change. -/
theorem take_declareUtf8 (fuel : Nat) (previous : Option Char) (s : List Char) :
    (declareUtf8 fuel previous s).take 8 = s.take 8 := by
  induction fuel generalizing previous s with
  | zero => rw [declareUtf8]
  | succ fuel ih =>
    cases s with
    | nil => rfl
    | cons c s =>
      rw [declareUtf8]
      split
      · next found =>
        obtain ⟨t, ht⟩ := List.isPrefixOf_iff_prefix.1 (Bool.and_eq_true_iff.1 found).2
        rw [← ht]
        rfl
      · have := congrArg (List.take 7) (ih (some c) s)
        rw [List.take_take, List.take_take] at this
        simpa using this

theorem prefix_iff_take {mark s t : List Char} (h : s.take mark.length = t.take mark.length) :
    mark.isPrefixOf s = mark.isPrefixOf t := by
  rw [Bool.eq_iff_iff, List.isPrefixOf_iff_prefix, List.isPrefixOf_iff_prefix,
    List.prefix_iff_eq_take, List.prefix_iff_eq_take, h]

theorem declareUtf8_nil (fuel : Nat) (previous : Option Char) :
    declareUtf8 fuel previous [] = [] := by
  cases fuel <;> rfl

/-- Behind a declaration there is nothing or the semicolon that ends it. -/
theorem declareUtf8_behind (fuel : Nat) (s : List Char) :
    (declareUtf8 fuel (some 'x') (s.dropWhile (· ≠ ';'))).dropWhile (· ≠ ';') =
      declareUtf8 fuel (some 'x') (s.dropWhile (· ≠ ';')) := by
  have stop := List.head?_dropWhile_not (· ≠ ';') s
  cases h : s.dropWhile (· ≠ ';') with
  | nil => rw [declareUtf8_nil, List.dropWhile_nil]
  | cons c t =>
    obtain rfl : c = ';' := by
      rw [h] at stop
      simpa using stop
    have starts := congrArg List.head? (take_declareUtf8 fuel (some 'x') (';' :: t))
    cases hd : declareUtf8 fuel (some 'x') (';' :: t) with
    | nil => simp [hd] at starts
    | cons d u =>
      obtain rfl : d = ';' := by simpa [hd] using starts
      rw [List.dropWhile_cons_of_neg (by simp)]

theorem declareUtf8_found {n : Nat} {previous : Option Char} {c : Char} {s : List Char}
    (found : (separatesCharset previous && "charset=".toList.isPrefixOf (c :: s)) = true) :
    declareUtf8 (n + 1) previous (c :: s) = "charset=utf-8".toList ++
      declareUtf8 n (some 'x') ((s.drop 7).dropWhile (· ≠ ';')) := by
  rw [declareUtf8, if_pos found]

theorem declareUtf8_passed {fuel : Nat} {previous : Option Char} {c : Char} {s : List Char}
    (passed : ¬ (separatesCharset previous && "charset=".toList.isPrefixOf (c :: s)) = true) :
    declareUtf8 (fuel + 1) previous (c :: s) = c :: declareUtf8 fuel (some c) s := by
  rw [declareUtf8, if_neg passed]

/-- Declarations that were written say `utf-8` already. -/
theorem declareUtf8_declareUtf8 {fuel more : Nat} {previous : Option Char} {s : List Char}
    (room : s.length ≤ fuel) (enough : (declareUtf8 fuel previous s).length ≤ more) :
    declareUtf8 more previous (declareUtf8 fuel previous s) = declareUtf8 fuel previous s := by
  induction fuel generalizing previous s more with
  | zero =>
    obtain rfl := List.length_eq_zero_iff.1 (Nat.le_zero.1 room)
    exact declareUtf8_nil more previous
  | succ fuel ih =>
    cases s with
    | nil => exact declareUtf8_nil more previous
    | cons c s =>
      rw [List.length_cons] at room
      by_cases found : (separatesCharset previous && "charset=".toList.isPrefixOf (c :: s)) = true
      · rw [declareUtf8_found found] at enough ⊢
        have shorter : ((s.drop 7).dropWhile (· ≠ ';')).length ≤ fuel := by
          have := (List.dropWhile_sublist (· ≠ ';') (l := s.drop 7)).length_le
          rw [List.length_drop] at this
          omega
        have behind := declareUtf8_behind fuel (s.drop 7)
        generalize (s.drop 7).dropWhile (· ≠ ';') = rest at enough shorter behind ⊢
        have long : 13 ≤ more := by
          rw [List.length_append] at enough
          exact Nat.le_trans (Nat.le_add_right _ _) enough
        obtain ⟨more, rfl⟩ : ∃ k, more = k + 1 := ⟨more - 1, by omega⟩
        have declared : (separatesCharset previous && "charset=".toList.isPrefixOf
            ('c' :: ("harset=utf-8".toList ++ declareUtf8 fuel (some 'x') rest))) = true :=
          Bool.and_eq_true_iff.2 ⟨(Bool.and_eq_true_iff.1 found).1, rfl⟩
        have again : (("harset=utf-8".toList ++ declareUtf8 fuel (some 'x') rest).drop 7).dropWhile
            (· ≠ ';') = declareUtf8 fuel (some 'x') rest := behind
        have settled : declareUtf8 more (some 'x') (declareUtf8 fuel (some 'x') rest) =
            declareUtf8 fuel (some 'x') rest := by
          apply ih shorter
          have : "charset=utf-8".toList.length = 13 := rfl
          rw [List.length_append] at enough
          omega
        have := declareUtf8_found (n := more) declared
        rw [again, settled] at this
        exact this
      · rw [declareUtf8_passed found] at enough ⊢
        rw [List.length_cons] at enough
        obtain ⟨more, rfl⟩ : ∃ k, more = k + 1 := ⟨more - 1, by omega⟩
        have same : "charset=".toList.isPrefixOf (c :: declareUtf8 fuel (some c) s) =
            "charset=".toList.isPrefixOf (c :: s) := by
          apply prefix_iff_take
          have := congrArg (List.take 7) (take_declareUtf8 fuel (some c) s)
          rw [List.take_take, List.take_take] at this
          simpa using this
        rw [declareUtf8_passed (same ▸ found), ih (by omega) (by omega)]

/-- The text of a `content` attribute with its declarations made to say `utf-8`. -/
def declaredContent (content : String) : String :=
  String.ofList (declareUtf8 (content.length + 1) none content.toList)

/-- What was made to say `utf-8` says so already. -/
theorem declaredContent_declaredContent (content : String) :
    declaredContent (declaredContent content) = declaredContent content := by
  have room : content.toList.length ≤ content.length + 1 := by
    rw [String.length_toList]
    omega
  unfold declaredContent
  rw [String.toList_ofList, declareUtf8_declareUtf8 room]
  rw [String.length_ofList]
  omega

/-- What `declareEncoding` makes sure of. -/
structure Declared (attributes : Attributes) : Prop where
  charset : ∀ charset, attributes.lookup "charset" = some charset → charset = "utf-8"
  content : ∀ content equiv, attributes.lookup "charset" = none →
    attributes.lookup "content" = some content → attributes.lookup "http-equiv" = some equiv →
      equiv.toList.map lower = "content-type".toList → declaredContent content = content

theorem Declared.perm {l m : Attributes} (h : Declared l) (p : l.Perm m)
    (distinct : (l.map (·.1)).Nodup) : Declared m := by
  have same := lookup_perm p distinct
  refine ⟨fun charset => ?_, fun content equiv => ?_⟩
  · rw [← same]
    exact h.charset charset
  · rw [← same, ← same, ← same]
    exact h.content content equiv

/-- Attributes that declare `utf-8` are left as they are. -/
theorem declareEncoding_eq_self {attributes : Attributes}
    (distinct : (attributes.map (·.1)).Nodup) (h : Declared attributes) :
    declareEncoding attributes = attributes := by
  unfold declareEncoding
  cases hc : attributes.lookup "charset" with
  | some charset =>
    rw [if_pos (by simp)]
    exact setAttribute_eq_self distinct (h.charset charset hc ▸ hc)
  | none =>
    rw [if_neg (by simp)]
    split
    · next content equiv hcontent hequiv =>
      split
      · next typed =>
        have settled := h.content content equiv hc hcontent hequiv typed
        rw [declaredContent] at settled
        rw [settled]
        exact setAttribute_eq_self distinct hcontent
      · rfl
    · rfl

theorem declared_declareEncoding (attributes : Attributes) :
    Declared (declareEncoding attributes) := by
  unfold declareEncoding
  cases hc : attributes.lookup "charset" with
  | some charset =>
    rw [if_pos (by simp)]
    have set : (setAttribute attributes "charset" "utf-8").lookup "charset" = some "utf-8" := by
      rw [lookup_setAttribute, if_pos rfl, hc, Option.map_some]
    exact ⟨fun value h => Option.some.inj (h.symm.trans set),
      fun content equiv h => by simp [set] at h⟩
  | none =>
    rw [if_neg (by simp)]
    split
    · next content equiv hcontent hequiv =>
      split
      · have none : (setAttribute attributes "content" (declaredContent content)).lookup "charset" =
            none := by
          rw [lookup_setAttribute, if_neg (by decide), hc]
        have set : (setAttribute attributes "content" (declaredContent content)).lookup "content" =
            some (declaredContent content) := by
          rw [lookup_setAttribute, if_pos rfl, hcontent, Option.map_some]
        refine ⟨fun value h => ?_, fun declared equiv' _ h _ _ => ?_⟩
        · cases none.symm.trans h
        · obtain rfl := Option.some.inj (set.symm.trans h)
          exact declaredContent_declaredContent content
      · next untyped =>
        refine ⟨fun value h => ?_, fun _ equiv' _ _ h typed => ?_⟩
        · cases hc.symm.trans h
        · exact absurd (Option.some.inj (hequiv.symm.trans h) ▸ typed) untyped
    · next incomplete =>
      refine ⟨fun value h => ?_, fun content equiv _ hcontent hequiv => ?_⟩
      · cases hc.symm.trans h
      · exact absurd hequiv (incomplete content equiv hcontent)

theorem map_fst_declareEncoding (attributes : Attributes) :
    (declareEncoding attributes).map (·.1) = attributes.map (·.1) := by
  unfold declareEncoding
  split
  · exact map_fst_setAttribute _ _ _
  · split
    · split
      · exact map_fst_setAttribute _ _ _
      · rfl
    · rfl

/-! ## Values -/

/-- The text of a value as the tree shows it. -/
def shownText (element name value : String) : String := (Value.ofText element name value).toText

/-- A word of a list: it is there, and it holds no blank. -/
def IsWord (w : List Char) : Prop := w ≠ [] ∧ ∀ c ∈ w, Text.isBlank c = false

theorem splitWords_cons (c : Char) (s : List Char) :
    splitWords (c :: s) =
      if Text.isBlank c then splitWords s
      else
        match s, splitWords s with
        | d :: _, w :: ws => if Text.isBlank d then [c] :: w :: ws else (c :: w) :: ws
        | _, ws => [c] :: ws := rfl

theorem isWord_of_splitWords (s : List Char) : ∀ w ∈ splitWords s, IsWord w := by
  induction s with
  | nil => simp [splitWords]
  | cons c s ih =>
    rw [splitWords_cons]
    split
    · exact ih
    · next nonblank =>
      have single : IsWord [c] := ⟨List.cons_ne_nil _ _, by simpa using nonblank⟩
      split
      · next d t w ws _ e =>
        rw [e] at ih
        have first := (List.forall_mem_cons.1 ih).1
        split
        · exact List.forall_mem_cons.2 ⟨single, ih⟩
        · refine List.forall_mem_cons.2 ⟨⟨List.cons_ne_nil _ _, ?_⟩, (List.forall_mem_cons.1 ih).2⟩
          exact List.forall_mem_cons.2 ⟨by simpa using nonblank, first.2⟩
      · exact List.forall_mem_cons.2 ⟨single, ih⟩

theorem splitWords_append {w : List Char} (h : IsWord w) (rest : List Char) :
    splitWords (w ++ ' ' :: rest) = w :: splitWords rest := by
  have space : splitWords (' ' :: rest) = splitWords rest := by
    rw [splitWords_cons, if_pos (by decide)]
  obtain ⟨there, nonblank⟩ := h
  induction w with
  | nil => contradiction
  | cons c w ih =>
    rw [List.forall_mem_cons] at nonblank
    rw [List.cons_append, splitWords_cons, if_neg (by simp [nonblank.1])]
    cases w with
    | nil =>
      rw [List.nil_append, space]
      split
      · next e e' =>
        obtain ⟨rfl, rfl⟩ := List.cons.inj e
        rw [if_pos (by decide), e']
      · rfl
    | cons d w =>
      rw [ih (List.cons_ne_nil _ _) nonblank.2]
      simp [(List.forall_mem_cons.1 nonblank.2).1]

theorem splitWords_word {w : List Char} (h : IsWord w) : splitWords w = [w] := by
  obtain ⟨there, nonblank⟩ := h
  induction w with
  | nil => contradiction
  | cons c w ih =>
    rw [List.forall_mem_cons] at nonblank
    rw [splitWords_cons, if_neg (by simp [nonblank.1])]
    cases w with
    | nil => rfl
    | cons d w =>
      rw [ih (List.cons_ne_nil _ _) nonblank.2]
      simp [(List.forall_mem_cons.1 nonblank.2).1]

/-- Words are found again between the blanks that join them. -/
theorem splitWords_intercalate {ws : List (List Char)} (h : ∀ w ∈ ws, IsWord w) :
    splitWords (List.intercalate [' '] ws) = ws := by
  induction ws with
  | nil => rfl
  | cons w ws ih =>
    rw [List.forall_mem_cons] at h
    cases ws with
    | nil => simpa [List.intercalate] using splitWords_word h.1
    | cons v ws =>
      have joined : List.intercalate [' '] (w :: v :: ws) =
          w ++ ' ' :: List.intercalate [' '] (v :: ws) := by
        simp [List.intercalate]
      rw [joined, splitWords_append h.1, ih h.2]

theorem toList_words (s : List Char) :
    (Value.words ((splitWords s).map String.ofList)).toText.toList =
    List.intercalate [' '] (splitWords s) := by
  rw [Value.toText, String.toList_intercalate, List.map_map]
  congr 1
  conv => rhs; rw [← List.map_id (splitWords s)]
  exact List.map_congr_left fun w _ => String.toList_ofList

theorem shownText_eq_self {element name : String} (h : isWordList element name = false)
    (value : String) : shownText element name value = value := by
  rw [shownText, Value.ofText, if_neg (by simp [h])]
  rfl

/-- A value that was shown reads as it is shown. -/
theorem shownText_shownText (element name value : String) :
    shownText element name (shownText element name value) = shownText element name value := by
  unfold shownText Value.ofText
  split
  · next list =>
    rw [toList_words, splitWords_intercalate (isWord_of_splitWords _)]
  · rfl

/-! ## No null character -/

theorem subset_of_splitWords (s : List Char) : ∀ w ∈ splitWords s, w ⊆ s := by
  induction s with
  | nil => simp [splitWords]
  | cons c s ih =>
    have behind : ∀ w ∈ splitWords s, w ⊆ c :: s := fun w hw =>
      List.subset_cons_of_subset c (ih w hw)
    have single : [c] ⊆ c :: s := by simp
    rw [splitWords_cons]
    split
    · exact behind
    · split
      · next d t w ws _ e =>
        rw [e] at behind
        have first := List.forall_mem_cons.1 behind
        split
        · exact List.forall_mem_cons.2 ⟨single, behind⟩
        · exact List.forall_mem_cons.2 ⟨List.cons_subset.2 ⟨List.mem_cons_self, first.1⟩, first.2⟩
      · exact List.forall_mem_cons.2 ⟨single, behind⟩

theorem not_mem_intercalate {c : Char} (hc : c ≠ ' ') {ws : List (List Char)}
    (h : ∀ w ∈ ws, c ∉ w) : c ∉ List.intercalate [' '] ws := by
  induction ws with
  | nil => simp [List.intercalate]
  | cons w ws ih =>
    rw [List.forall_mem_cons] at h
    cases ws with
    | nil => simpa [List.intercalate] using h.1
    | cons v ws =>
      have joined : List.intercalate [' '] (w :: v :: ws) =
          w ++ ' ' :: List.intercalate [' '] (v :: ws) := by
        simp [List.intercalate]
      rw [joined, List.mem_append, List.mem_cons, not_or, not_or]
      exact ⟨h.1, hc, ih h.2⟩

theorem null_not_mem_shownText {element name value : String} (h : '\x00' ∉ value.toList) :
    '\x00' ∉ (shownText element name value).toList := by
  unfold shownText Value.ofText
  split
  · rw [toList_words]
    exact not_mem_intercalate (by decide) fun w hw null => h (subset_of_splitWords _ w hw null)
  · exact h

theorem null_not_mem_declareUtf8 {s : List Char} (h : '\x00' ∉ s) (fuel : Nat)
    (previous : Option Char) : '\x00' ∉ declareUtf8 fuel previous s := by
  induction fuel generalizing previous s with
  | zero => exact h
  | succ fuel ih =>
    cases s with
    | nil => exact h
    | cons c s =>
      have behind : '\x00' ∉ s := fun null => h (List.mem_cons_of_mem c null)
      rw [declareUtf8]
      split
      · rw [List.mem_append, not_or]
        have inRest : '\x00' ∉ (s.drop 7).dropWhile (· ≠ ';') := fun null =>
          behind (List.mem_of_mem_drop ((List.dropWhile_sublist _).subset null))
        exact ⟨by decide, ih inRest _⟩
      · rw [List.mem_cons, not_or] at h ⊢
        exact ⟨h.1, ih behind _⟩

/-! ## Written attributes -/

theorem mem_setAttribute {attributes : Attributes} {name value : String} {a : String × String}
    (h : a ∈ setAttribute attributes name value) : a ∈ attributes ∨ a = (name, value) := by
  obtain ⟨b, hb, rfl⟩ := List.mem_map.1 h
  split
  · exact .inr rfl
  · exact .inl hb

/-- What declaring an encoding can write: what was there, or a changed `charset` or `content`. -/
theorem mem_declareEncoding {attributes : Attributes} {a : String × String}
    (h : a ∈ declareEncoding attributes) :
    a ∈ attributes ∨ a = ("charset", "utf-8") ∨
      ∃ content, attributes.lookup "content" = some content ∧
        a = ("content", declaredContent content) := by
  unfold declareEncoding at h
  split at h
  · exact (mem_setAttribute h).imp_right .inl
  · split at h
    · next content _ hcontent _ =>
      split at h
      · exact (mem_setAttribute h).imp_right fun e => .inr ⟨content, hcontent, e⟩
      · exact .inl h
    · exact .inl h

def shownAttributes (element : String) (attributes : Attributes) : Attributes :=
  attributes.map fun a => (a.1, shownText element a.1 a.2)

theorem writtenAttributes_eq (element : String) (raw : Attributes) :
    writtenAttributes element (keptAttributes element raw) =
      sortAttributes (if element = "meta" then declareEncoding (shownAttributes element raw)
        else shownAttributes element raw) := by
  unfold writtenAttributes keptAttributes
  rw [List.map_map]
  rfl

theorem Attributes.Readable.shown {raw : Attributes} (h : raw.Readable) (element : String) :
    (shownAttributes element raw).Readable := by
  refine ⟨?_, ?_, ?_⟩
  · rw [shownAttributes, List.map_map]
    exact h.distinct
  · intro a ha
    obtain ⟨b, hb, rfl⟩ := List.mem_map.1 ha
    exact h.names b hb
  · intro a ha
    obtain ⟨b, hb, rfl⟩ := List.mem_map.1 ha
    exact null_not_mem_shownText (h.values b hb)

theorem Attributes.Readable.perm {l m : Attributes} (h : l.Readable) (p : m.Perm l) : m.Readable :=
  ⟨(p.map (·.1)).nodup_iff.2 h.distinct, fun a ha => h.names a (p.subset ha),
    fun a ha => h.values a (p.subset ha)⟩

theorem Attributes.Readable.declare {attributes : Attributes} (h : attributes.Readable) :
    Attributes.Readable (declareEncoding attributes) := by
  have names := map_fst_declareEncoding attributes
  refine ⟨names ▸ h.distinct, fun a ha => ?_, fun a ha => ?_⟩
  · have : a.1 ∈ attributes.map (·.1) := names ▸ List.mem_map_of_mem ha
    obtain ⟨b, hb, e⟩ := List.mem_map.1 this
    exact e ▸ h.names b hb
  · rcases mem_declareEncoding ha with old | rfl | ⟨content, hcontent, rfl⟩
    · exact h.values a old
    · decide
    · have := h.values _ ((lookup_eq_some_iff_mem h.distinct).1 hcontent)
      rw [declaredContent, String.toList_ofList]
      exact null_not_mem_declareUtf8 this _ _

/-- Values that a second reading shows as they are. -/
def Shown (element : String) (attributes : Attributes) : Prop :=
  ∀ a ∈ attributes, shownText element a.1 a.2 = a.2

theorem shownAttributes_eq_self {element : String} {attributes : Attributes}
    (h : Shown element attributes) : shownAttributes element attributes = attributes := by
  conv => rhs; rw [← List.map_id attributes]
  exact List.map_congr_left fun a ha => Prod.ext rfl (h a ha)

theorem shown_shownAttributes (element : String) (raw : Attributes) :
    Shown element (shownAttributes element raw) := by
  intro a ha
  obtain ⟨b, -, rfl⟩ := List.mem_map.1 ha
  exact shownText_shownText _ _ _

theorem Shown.declare {attributes : Attributes} (h : Shown "meta" attributes) :
    Shown "meta" (declareEncoding attributes) := by
  intro a ha
  rcases mem_declareEncoding ha with old | rfl | ⟨content, -, rfl⟩
  · exact h a old
  · exact shownText_eq_self (show isWordList "meta" "charset" = false by decide) _
  · exact shownText_eq_self (show isWordList "meta" "content" = false by decide) _

theorem Attributes.Readable.written {raw : Attributes} (h : raw.Readable) (element : String) :
    (writtenAttributes element (keptAttributes element raw)).Readable := by
  rw [writtenAttributes_eq]
  refine Attributes.Readable.perm ?_ (perm_sortAttributes _)
  split
  · exact (h.shown element).declare
  · exact h.shown element

/-- Attributes that were written and read again are written as they were. -/
theorem writtenAttributes_kept {raw : Attributes} (h : raw.Readable) (element : String) :
    let written := writtenAttributes element (keptAttributes element raw)
    writtenAttributes element (keptAttributes element written) = written := by
  have readable := h.written element
  have ordered : Ordered (writtenAttributes element (keptAttributes element raw)) := by
    rw [writtenAttributes_eq]
    exact ordered_sortAttributes _
  dsimp only
  rw [writtenAttributes_eq element (writtenAttributes _ _)]
  by_cases isMeta : element = "meta"
  · subst isMeta
    have shown : Shown "meta" (writtenAttributes "meta" (keptAttributes "meta" raw)) := by
      rw [writtenAttributes_eq, if_pos rfl]
      exact fun a ha =>
        (shown_shownAttributes "meta" raw).declare a ((perm_sortAttributes _).subset ha)
    have declared : Declared (writtenAttributes "meta" (keptAttributes "meta" raw)) := by
      rw [writtenAttributes_eq, if_pos rfl]
      exact (declared_declareEncoding _).perm (perm_sortAttributes _).symm
        (h.shown "meta").declare.distinct
    rw [if_pos rfl, shownAttributes_eq_self shown, declareEncoding_eq_self readable.distinct declared,
      sortAttributes_eq_self ordered]
  · have shown : Shown element (writtenAttributes element (keptAttributes element raw)) := by
      rw [writtenAttributes_eq, if_neg isMeta]
      exact fun a ha => shown_shownAttributes element raw a ((perm_sortAttributes _).subset ha)
    rw [if_neg isMeta, shownAttributes_eq_self shown, sortAttributes_eq_self ordered]

end EpubLibrary.Html
