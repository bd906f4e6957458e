import EpubLibrary.Proofs.Html.Tags

namespace EpubLibrary.Html

/-! ## Comments -/

structure NoEndMark (s : List Char) : Prop where
  plain : ¬ ['-', '-', '>'] <:+: s
  bang : ¬ ['-', '-', '!', '>'] <:+: s

/-- A text that reads back when it is printed as a comment. -/
structure CommentText (s : List Char) : Prop where
  noNull : '\x00' ∉ s
  noEnd : NoEndMark s
  notEmpty : ¬ ['>'] <+: s
  notShort : ¬ ['-', '>'] <+: s

theorem NoEndMark.of_not_mem {s : List Char} (h : '>' ∉ s) : NoEndMark s :=
  ⟨fun m => h (m.subset (by simp)), fun m => h (m.subset (by simp))⟩

theorem CommentText.of_not_mem {s : List Char} (h : '>' ∉ s) (noNull : '\x00' ∉ s) :
    CommentText s :=
  ⟨noNull, .of_not_mem h, fun m => h (m.subset (by simp)), fun m => h (m.subset (by simp))⟩

theorem readCommentBody_append {s : List Char} (h : NoEndMark s) (noNull : '\x00' ∉ s)
    (rest : List Char) : readCommentBody (s ++ '-' :: '-' :: '>' :: rest) = (s, rest) := by
  induction s with
  | nil => rfl
  | cons c s ih =>
    rw [List.mem_cons, not_or] at noNull
    have behind : NoEndMark s :=
      ⟨fun m => h.plain (m.trans (List.infix_cons_iff.2 (.inr List.infix_rfl))),
        fun m => h.bang (m.trans (List.infix_cons_iff.2 (.inr List.infix_rfl)))⟩
    have shown : showNull c = c := if_neg (Ne.symm noNull.1)
    rw [List.cons_append, readCommentBody, ih behind noNull.2, shown]
    -- an end mark cannot begin in the text, nor in it and end in the printed mark
    · intro t hc ht
      rcases s with _ | ⟨d, _ | ⟨e, s⟩⟩ <;> simp at ht
      exact h.plain ⟨[], s, by simp [hc, ht]⟩
    · intro t hc ht
      rcases s with _ | ⟨d, _ | ⟨e, _ | ⟨f, s⟩⟩⟩ <;> simp at ht
      exact h.bang ⟨[], s, by simp [hc, ht]⟩

/-- A comment that reading can find is read back. -/
theorem readComment_append {s : List Char} (h : CommentText s) (rest : List Char) :
    readComment (s ++ '-' :: '-' :: '>' :: rest) = (s, rest) := by
  rw [readComment, readCommentBody_append h.noEnd h.noNull]
  · intro t ht
    rcases s with _ | ⟨c, s⟩ <;> simp at ht
    exact h.notEmpty ⟨s, by simp [ht]⟩
  · intro t ht
    rcases s with _ | ⟨c, _ | ⟨d, s⟩⟩ <;> simp at ht
    exact h.notShort ⟨s, by simp [ht]⟩

/-- A body is read off the front of the text. -/
theorem readCommentBody_begins (s : List Char) :
    (readCommentBody s).1 <+: s.map showNull := by
  fun_induction readCommentBody s with
  | case1 => exact List.nil_prefix
  | case2 => exact List.nil_prefix
  | case3 c s _ _ body after e ih =>
    rw [e] at ih
    simpa using ih
  | case4 => exact List.nil_prefix

theorem showNull_eq_iff {c d : Char} (hd : d ≠ '\x00' ∧ d ≠ replacement) :
    showNull c = d ↔ c = d := by
  unfold showNull
  split
  · next null =>
    subst null
    exact ⟨fun h => absurd h.symm hd.2, fun h => absurd h.symm hd.1⟩
  · rfl

/-- The marks hold no character that `showNull` gives for another. -/
theorem prefix_of_prefix_map_showNull {mark s : List Char}
    (hm : ∀ c ∈ mark, c ≠ '\x00' ∧ c ≠ replacement) (h : mark <+: s.map showNull) : mark <+: s := by
  induction mark generalizing s with
  | nil => exact List.nil_prefix
  | cons m mark ih =>
    cases s with
    | nil => simp at h
    | cons c s =>
      rw [List.map_cons, List.cons_prefix_cons] at h
      rw [List.forall_mem_cons] at hm
      rw [List.cons_prefix_cons]
      exact ⟨((showNull_eq_iff hm.1).1 h.1.symm).symm, ih hm.2 h.2⟩

/-- What was read as a comment holds no end mark. -/
theorem noEndMark_readCommentBody (s : List Char) : NoEndMark (readCommentBody s).1 := by
  fun_induction readCommentBody s with
  | case1 => exact .of_not_mem (by simp)
  | case2 => exact .of_not_mem (by simp)
  | case3 c s plain bang body after e ih =>
    rw [e] at ih
    have begins : showNull c :: body <+: (c :: s).map showNull := by
      have := readCommentBody_begins s
      rw [e] at this
      simpa using this
    constructor
    · rw [List.infix_cons_iff, not_or]
      refine ⟨fun m => ?_, ih.plain⟩
      obtain ⟨t, ht⟩ := prefix_of_prefix_map_showNull (by simp [replacement]) (m.trans begins)
      obtain ⟨rfl, rfl⟩ := List.cons.inj ht
      exact plain t rfl rfl
    · rw [List.infix_cons_iff, not_or]
      refine ⟨fun m => ?_, ih.bang⟩
      obtain ⟨t, ht⟩ := prefix_of_prefix_map_showNull (by simp [replacement]) (m.trans begins)
      obtain ⟨rfl, rfl⟩ := List.cons.inj ht
      exact bang t rfl rfl
  | case4 => exact .of_not_mem (by simp)

theorem null_not_mem_readCommentBody (s : List Char) : '\x00' ∉ (readCommentBody s).1 :=
  fun null => null_not_mem_map_showNull s ((readCommentBody_begins s).subset null)

/-- Every comment that reading finds reads back. -/
theorem commentText_readComment (s : List Char) : CommentText (readComment s).1 := by
  unfold readComment
  split
  · exact .of_not_mem (by simp) (by simp)
  · exact .of_not_mem (by simp) (by simp)
  · next empty short =>
    refine ⟨null_not_mem_readCommentBody s, noEndMark_readCommentBody s, fun m => ?_, fun m => ?_⟩
    · obtain ⟨t, ht⟩ :=
        prefix_of_prefix_map_showNull (by simp [replacement]) (m.trans (readCommentBody_begins s))
      exact empty t ht.symm
    · obtain ⟨t, ht⟩ :=
        prefix_of_prefix_map_showNull (by simp [replacement]) (m.trans (readCommentBody_begins s))
      exact short t ht.symm

theorem commentText_readBogusComment (s : List Char) : CommentText (readBogusComment s).1 := by
  refine .of_not_mem ?_ (null_not_mem_map_showNull _)
  rw [readBogusComment, List.mem_map]
  rintro ⟨c, hc, shown⟩
  obtain rfl := (showNull_eq_iff (by decide)).1 shown
  have := List.all_eq_true.1 (List.all_takeWhile (p := (· ≠ '>'))) _ hc
  simp at this

/-! ## Document types -/

theorem takeWhile_to_stop (p : Char → Bool) {c : Char} (stop : p c = false) (s rest : List Char) :
    (s ++ c :: rest).takeWhile p = s.takeWhile p := by
  rw [List.takeWhile_append]
  split
  · next whole =>
    rw [List.takeWhile_cons_of_neg (by simp [stop]), List.append_nil]
    exact ((List.takeWhile_sublist p).eq_of_length whole).symm
  · rfl

theorem dropWhile_to_stop (p : Char → Bool) {c : Char} (stop : p c = false) (s rest : List Char) :
    (s ++ c :: rest).dropWhile p = s.dropWhile p ++ c :: rest := by
  rw [List.dropWhile_append]
  split
  · next none =>
    rw [List.isEmpty_iff.1 none, List.dropWhile_cons_of_neg (by simp [stop]), List.nil_append]
  · rfl

theorem startsWithWord_append {word : List Char} (h : '>' ∉ word) (s rest : List Char) :
    startsWithWord word (s ++ '>' :: rest) = startsWithWord word s := by
  unfold startsWithWord
  by_cases fits : word.length ≤ s.length
  · rw [List.take_append_of_le_length fits]
  · have short : (s.take word.length).map lower ≠ word := by
      intro same
      have := congrArg List.length same
      simp at this
      omega
    have long : ((s ++ '>' :: rest).take word.length).map lower ≠ word := by
      intro same
      apply h
      rw [← same, List.mem_map]
      refine ⟨'>', ?_, by decide⟩
      rw [List.take_append, List.mem_append]
      right
      rw [show word.length - s.length = word.length - s.length - 1 + 1 by omega]
      exact List.mem_cons_self
    rw [beq_eq_false_iff_ne.2 short, beq_eq_false_iff_ne.2 long]

theorem dropQuote_append {q : Char} (hq : q ≠ '>') (s rest : List Char) :
    readLiteral?.dropQuote q (s ++ '>' :: rest) =
      readLiteral?.dropQuote q s ++ '>' :: rest := by
  cases s with
  | nil => simp [readLiteral?.dropQuote, hq.symm]
  | cons c s =>
    simp only [List.cons_append, readLiteral?.dropQuote]
    split <;> rfl

/-- A literal does not reach behind the end of the document type. -/
theorem readLiteral?_append (s rest : List Char) :
    readLiteral? (s ++ '>' :: rest) =
      (readLiteral? s).map fun found => (found.1, found.2 ++ '>' :: rest) := by
  have body (quote : Char) (hq : quote ≠ '>') (t : List Char) :
      let inside := fun c => decide (c ≠ quote ∧ c ≠ '>')
      (t ++ '>' :: rest).takeWhile inside = t.takeWhile inside ∧
        (t ++ '>' :: rest).drop (t.takeWhile inside).length =
          t.drop (t.takeWhile inside).length ++ '>' :: rest :=
    ⟨takeWhile_to_stop _ (by simp) t rest,
      List.drop_append_of_le_length (List.takeWhile_sublist _).length_le⟩
  cases s with
  | nil => rfl
  | cons c t =>
    by_cases double : c = '"'
    · subst double
      have := body '"' (by decide) t
      simp only [readLiteral?, List.cons_append, this, dropQuote_append (q := '"') (by decide),
        Option.map_some]
    · by_cases single : c = '\''
      · subst single
        have := body '\'' (by decide) t
        simp only [readLiteral?, List.cons_append, this,
          dropQuote_append (q := '\'') (by decide), Option.map_some]
      · have unquoted (u : List Char) : readLiteral? (c :: u) = none := by
          unfold readLiteral?
          split
          · next h => exact absurd (List.cons.inj h).1 double
          · next h => exact absurd (List.cons.inj h).1 single
          · rfl
        rw [List.cons_append, unquoted, unquoted, Option.map_none]

theorem sublist_of_readLiteral? {s rest : List Char} {literal : String}
    (h : readLiteral? s = some (literal, rest)) : rest.Sublist s := by
  have unquoted (q : Char) (t : List Char) : (readLiteral?.dropQuote q t).Sublist t := by
    cases t with
    | nil => exact .slnil
    | cons c t =>
      simp only [readLiteral?.dropQuote]
      split
      · exact List.sublist_cons_self _ _
      · exact List.Sublist.refl _
  unfold readLiteral? at h
  split at h
  · cases h
    exact ((unquoted _ _).trans (List.drop_sublist _ _)).cons _
  · cases h
    exact ((unquoted _ _).trans (List.drop_sublist _ _)).cons _
  · cases h

theorem length_of_startsWithWord {word s : List Char} (h : startsWithWord word s = true) :
    word.length ≤ s.length := by
  have := congrArg List.length (beq_iff_eq.1 h)
  simp at this
  omega

/-- What is behind the end of a document type is not read with it. -/
theorem Doctype.read_append {s : List Char} (h : '>' ∉ s) :
    ∃ d, ∀ rest, Doctype.read (s ++ '>' :: rest) = (d, rest) := by
  have behind (u : List Char) (hu : u.Sublist s) (rest : List Char) :
      ((u ++ '>' :: rest).dropWhile (· ≠ '>')).drop 1 = rest := by
    have inside : ∀ c ∈ u, decide (c ≠ '>') = true := fun c hc => by
      simpa using ne_of_mem_of_not_mem (hu.subset hc) h
    rw [dropWhile_append_stop inside (by simp), List.drop_succ_cons, List.drop_zero]
  have skips (u rest : List Char) : skipSpace (u ++ '>' :: rest) = skipSpace u ++ '>' :: rest :=
    dropWhile_to_stop _ (by decide) u rest
  have smaller (u : List Char) : (skipSpace u).Sublist u := List.dropWhile_sublist _
  have named := @takeWhile_to_stop (fun c => !(isSpace c || decide (c = '>'))) '>' (by decide)
  have nameless := @dropWhile_to_stop (fun c => !(isSpace c || decide (c = '>'))) '>' (by decide)
  have keyword {word u : List Char} (hw : startsWithWord word u = true) (six : word.length = 6)
      (rest : List Char) : (u ++ '>' :: rest).drop 6 = u.drop 6 ++ '>' :: rest :=
    List.drop_append_of_le_length (six ▸ length_of_startsWithWord hw)
  unfold Doctype.read
  simp only [skips, named, nameless,
    startsWithWord_append (show '>' ∉ "public".toList by decide),
    startsWithWord_append (show '>' ∉ "system".toList by decide)]
  generalize String.ofList _ = name
  generalize hu : skipSpace ((skipSpace s).dropWhile fun c => !(isSpace c || decide (c = '>'))) = u
  have below : u.Sublist s := hu ▸ (smaller _).trans ((List.dropWhile_sublist _).trans (smaller s))
  have literal {t v : List Char} {id : String} (ht : t.Sublist s)
      (hl : readLiteral? (skipSpace t) = some (id, v)) : v.Sublist s :=
    (sublist_of_readLiteral? hl).trans ((smaller t).trans ht)
  by_cases isPublic : startsWithWord "public".toList u = true
  · simp only [isPublic, if_true, keyword isPublic (by decide), skips, readLiteral?_append]
    cases hp : readLiteral? (skipSpace (u.drop 6)) with
    | none => exact ⟨_, fun rest => Prod.ext rfl (behind u below rest)⟩
    | some p =>
      obtain ⟨publicId, v⟩ := p
      have inner := literal ((List.drop_sublist _ _).trans below) hp
      simp only [Option.map_some, skips, readLiteral?_append]
      cases hs : readLiteral? (skipSpace v) with
      | none => exact ⟨_, fun rest => Prod.ext rfl (behind v inner rest)⟩
      | some q => exact ⟨_, fun rest => Prod.ext rfl (behind q.2 (literal inner hs) rest)⟩
  · simp only [isPublic]
    by_cases isSystem : startsWithWord "system".toList u = true
    · simp only [isSystem, if_true, keyword isSystem (by decide), skips, readLiteral?_append]
      cases hs : readLiteral? (skipSpace (u.drop 6)) with
      | none => exact ⟨_, fun rest => Prod.ext rfl (behind u below rest)⟩
      | some q =>
        have inner := literal ((List.drop_sublist _ _).trans below) hs
        exact ⟨_, fun rest => Prod.ext rfl (behind q.2 inner rest)⟩
    · simp only [isSystem]
      exact ⟨_, fun rest => Prod.ext rfl (behind u below rest)⟩

theorem gt_not_mem_map_showNull {s : List Char} (h : '>' ∉ s) : '>' ∉ s.map showNull := by
  rw [List.mem_map]
  rintro ⟨c, hc, shown⟩
  exact h ((showNull_eq_iff (by decide)).1 shown ▸ hc)

theorem gt_not_mem_takeWhile {p : Char → Bool} (hp : p '>' = false) (s : List Char) :
    '>' ∉ s.takeWhile p := fun m => by
  have := List.all_eq_true.1 (List.all_takeWhile (p := p)) _ m
  rw [hp] at this
  cases this

theorem gt_not_mem_literal {s rest : List Char} {literal : String}
    (h : readLiteral? s = some (literal, rest)) : '>' ∉ literal.toList := by
  unfold readLiteral? at h
  split at h <;> cases h <;> rw [String.toList_ofList] <;>
    exact gt_not_mem_map_showNull (gt_not_mem_takeWhile (by decide) _)

theorem gt_not_mem_toText {d : Doctype} (hn : '>' ∉ d.name.toList)
    (hp : ∀ p, d.publicId = some p → '>' ∉ p.toList)
    (hs : ∀ p, d.systemId = some p → '>' ∉ p.toList) : '>' ∉ d.toText.toList := by
  obtain ⟨name, publicId, systemId⟩ := d
  rcases publicId with _ | p <;> rcases systemId with _ | q <;> simp_all [Doctype.toText]

/-- The text of a document type does not hold the mark that ends it. -/
theorem gt_not_mem_read (s : List Char) : '>' ∉ (Doctype.read s).1.toText.toList := by
  have name (t : List Char) : '>' ∉ (String.ofList
      ((t.takeWhile (!(fun c => isSpace c || c = '>') ·)).map showNull)).toList := by
    rw [String.toList_ofList]
    exact gt_not_mem_map_showNull (gt_not_mem_takeWhile (by decide) t)
  unfold Doctype.read
  dsimp only
  split
  · split
    · exact gt_not_mem_toText (name _) (by simp) (by simp)
    · next hp =>
      split
      · exact gt_not_mem_toText (name _) (by simpa using gt_not_mem_literal hp) (by simp)
      · next hs =>
        exact gt_not_mem_toText (name _) (by simpa using gt_not_mem_literal hp)
          (by simpa using gt_not_mem_literal hs)
  · split
    · split
      · exact gt_not_mem_toText (name _) (by simp) (by simp)
      · next hs => exact gt_not_mem_toText (name _) (by simp) (by simpa using gt_not_mem_literal hs)
    · exact gt_not_mem_toText (name _) (by simp) (by simp)

/-! ## Text without markup -/

theorem startsWithTag_iff {mark name s : List Char} :
    startsWithTag mark name s = true ↔
      ∃ n c t, s = mark ++ n ++ c :: t ∧ n.map lower = name ∧ endsTagName c = true := by
  unfold startsWithTag startsWithWord
  simp only [Bool.and_eq_true, List.isPrefixOf_iff_prefix, beq_iff_eq, and_assoc]
  constructor
  · rintro ⟨⟨s, rfl⟩, word, ends⟩
    rw [List.drop_left] at word
    rw [← List.drop_drop, List.drop_left] at ends
    cases h : s.drop name.length with
    | nil => simp [h] at ends
    | cons c t =>
      refine ⟨s.take name.length, c, t, ?_, word, by simpa [h] using ends⟩
      rw [List.append_assoc, ← h, List.take_append_drop]
  · rintro ⟨n, c, t, rfl, rfl, ends⟩
    rw [List.append_assoc, List.drop_left, ← List.drop_drop, List.drop_left, List.length_map,
      List.drop_left, List.take_left]
    exact ⟨List.prefix_append _ _, rfl, by simpa using ends⟩

/-- A tag does not begin in front of an angle bracket and go over it. -/
theorem startsWithTag_append {mark name w : List Char} (hm : '<' ∉ mark.tail) (hn : '<' ∉ name)
    (hw : w ≠ []) (rest : List Char) :
    startsWithTag mark name (w ++ '<' :: rest) = startsWithTag mark name w := by
  rw [Bool.eq_iff_iff, startsWithTag_iff, startsWithTag_iff]
  constructor
  · rintro ⟨n, c, t, e, word, ends⟩
    have inside : '<' ∉ (mark ++ n ++ [c]).tail := by
      have inName : '<' ∉ n := fun m => hn (word ▸ List.mem_map.2 ⟨_, m, by decide⟩)
      have atEnd : '<' ≠ c := by
        rintro rfl
        exact absurd ends (by decide)
      cases mark with
      | nil => exact fun m => by simpa [inName, atEnd] using List.mem_of_mem_tail m
      | cons d mark => simpa [inName, atEnd] using hm
    rw [← List.singleton_append (x := c), ← List.append_assoc, List.append_eq_append_iff] at e
    rcases e with ⟨u, long, e⟩ | ⟨u, rfl, -⟩
    · cases u with
      | nil => exact ⟨n, c, [], by simpa using long.symm, word, ends⟩
      | cons d u =>
        obtain ⟨rfl, -⟩ := List.cons.inj e
        refine absurd ?_ inside
        rw [long, List.tail_append_of_ne_nil hw]
        simp
    · exact ⟨n, c, u, by simp, word, ends⟩
  · rintro ⟨n, c, t, rfl, word, ends⟩
    exact ⟨n, c, t ++ '<' :: rest, by simp, word, ends⟩

def rawNames : List (List Char) :=
  [['s', 'c', 'r', 'i', 'p', 't'], ['p', 'l', 'a', 'i', 'n', 't', 'e', 'x', 't'],
    ['t', 'i', 't', 'l', 'e'], ['t', 'e', 'x', 't', 'a', 'r', 'e', 'a'], ['s', 't', 'y', 'l', 'e'],
    ['x', 'm', 'p'], ['i', 'f', 'r', 'a', 'm', 'e'], ['n', 'o', 'e', 'm', 'b', 'e', 'd'],
    ['n', 'o', 'f', 'r', 'a', 'm', 'e', 's']]

theorem mem_rawNames {name : String} (h : reading name ≠ .markup) : name.toList ∈ rawNames := by
  unfold reading at h
  split_ifs at h with script plaintext replaceable raw
  · subst script
    decide
  · subst plaintext
    decide
  · simp only [List.contains_eq_mem, List.mem_cons, List.not_mem_nil, or_false,
      decide_eq_true_eq] at replaceable
    rcases replaceable with rfl | rfl <;> decide
  · simp only [List.contains_eq_mem, List.mem_cons, List.not_mem_nil, or_false,
      decide_eq_true_eq] at raw
    rcases raw with rfl | rfl | rfl | rfl | rfl <;> decide
  · exact absurd rfl h

/-- What reading relies on in the name of an element without markup. -/
structure RawName (name : List Char) : Prop where
  begins : name.head?.any isLetter = true
  inside : ∀ c ∈ name, endsTagName c = false
  visible : ∀ c ∈ name, c ≠ '\x00' ∧ c ≠ replacement
  plain : '<' ∉ name
  lowered : name.map lower = name

theorem rawName_of_reading {name : String} (h : reading name ≠ .markup) : RawName name.toList := by
  have begins : ∀ n ∈ rawNames, n.head?.any isLetter = true := by decide
  have inside : ∀ n ∈ rawNames, n.all (fun c => !endsTagName c) = true := by decide
  have visible : ∀ n ∈ rawNames, n.all (fun c => c != '\x00' && c != replacement) = true := by
    decide
  have plain : ∀ n ∈ rawNames, '<' ∉ n := by decide
  have lowered : ∀ n ∈ rawNames, n.map lower = n := by decide
  have named := mem_rawNames h
  refine ⟨begins _ named, ?_, ?_, plain _ named, lowered _ named⟩
  · simpa using inside _ named
  · simpa using visible _ named

theorem reading_script {name : String} (h : reading name = .script) : name = "script" := by
  unfold reading at h
  split_ifs at h with script
  exact script

/-- No end tag of an element begins inside the text. -/
def NoEndTag (name : List Char) : List Char → Prop
  | [] => True
  | c :: s => startsWithTag ['<', '/'] name (c :: s) = false ∧ NoEndTag name s

theorem NoEndTag.of_not_mem {name s : List Char} (h : '<' ∉ s) : NoEndTag name s := by
  induction s with
  | nil => trivial
  | cons c s ih =>
    rw [List.mem_cons, not_or] at h
    refine ⟨?_, ih h.2⟩
    rw [Bool.eq_false_iff, Ne, startsWithTag_iff]
    rintro ⟨n, d, t, e, -⟩
    exact h.1 (List.cons.inj e).1.symm

theorem startsWithTag_of_append {mark name w rest : List Char}
    (h : startsWithTag mark name w = true) : startsWithTag mark name (w ++ rest) = true := by
  rw [startsWithTag_iff] at h ⊢
  obtain ⟨n, c, t, rfl, word, ends⟩ := h
  exact ⟨n, c, t ++ rest, by simp, word, ends⟩

theorem prefix_append_stop {mark w : List Char} (hm : '<' ∉ mark.tail) (hw : w ≠ [])
    (rest : List Char) : mark.isPrefixOf (w ++ '<' :: rest) = mark.isPrefixOf w := by
  rw [Bool.eq_iff_iff, List.isPrefixOf_iff_prefix, List.isPrefixOf_iff_prefix]
  constructor
  · rintro ⟨t, e⟩
    rw [List.append_eq_append_iff] at e
    rcases e with ⟨u, rfl, -⟩ | ⟨u, long, e⟩
    · exact List.prefix_append _ _
    · cases u with
      | nil => exact ⟨[], by simpa using long⟩
      | cons d u =>
        obtain ⟨rfl, -⟩ := List.cons.inj e
        refine absurd ?_ hm
        rw [long, List.tail_append_of_ne_nil hw]
        simp
  · exact fun h => h.trans (List.prefix_append _ _)

/-- The first end tag ends the text. -/
theorem rawLength_append {name t rest : List Char} (hn : '<' ∉ name) (h : NoEndTag name t)
    (ends : startsWithTag ['<', '/'] name ('<' :: rest) = true) :
    rawLength name (t ++ '<' :: rest) = t.length := by
  induction t with
  | nil => rw [List.nil_append, rawLength, if_pos ends, List.length_nil]
  | cons c t ih =>
    have inside : startsWithTag ['<', '/'] name (c :: (t ++ '<' :: rest)) =
        startsWithTag ['<', '/'] name (c :: t) :=
      startsWithTag_append (by decide) hn (List.cons_ne_nil c t) rest
    rw [List.cons_append, rawLength, inside, h.1, ih h.2, List.length_cons]
    simp

theorem map_lower_of_showNull {s name : List Char}
    (hn : ∀ c ∈ name, c ≠ '\x00' ∧ c ≠ replacement) (h : (s.map showNull).map lower = name) :
    s.map lower = name := by
  subst h
  rw [List.map_map] at hn ⊢
  refine List.map_congr_left fun c hc => ?_
  have named := hn _ (List.mem_map_of_mem hc)
  rw [Function.comp_apply] at named ⊢
  unfold showNull at named ⊢
  split
  · next null => simp [null, show lower replacement = replacement by decide] at named
  · rfl

theorem endsTagName_showNull (c : Char) : endsTagName (showNull c) = endsTagName c := by
  unfold showNull
  split
  · next null => subst null; decide
  · rfl

theorem startsWithTag_of_map_showNull {mark name w : List Char}
    (hm : ∀ c ∈ mark, c ≠ '\x00' ∧ c ≠ replacement)
    (hn : ∀ c ∈ name, c ≠ '\x00' ∧ c ≠ replacement)
    (h : startsWithTag mark name (w.map showNull) = true) : startsWithTag mark name w = true := by
  unfold startsWithTag startsWithWord at h ⊢
  simp only [Bool.and_eq_true, List.isPrefixOf_iff_prefix, beq_iff_eq, ← List.map_drop,
    ← List.map_take, List.head?_map, Option.any_map] at h ⊢
  refine ⟨⟨prefix_of_prefix_map_showNull hm h.1.1, map_lower_of_showNull hn h.1.2⟩, ?_⟩
  simpa [Function.comp_def, endsTagName_showNull] using h.2

/-- What is read as raw text holds no end tag. -/
theorem noEndTag_rawLength {name : List Char} (hn : ∀ c ∈ name, c ≠ '\x00' ∧ c ≠ replacement)
    (s : List Char) : NoEndTag name ((s.take (rawLength name s)).map showNull) := by
  induction s with
  | nil => trivial
  | cons c s ih =>
    rw [rawLength]
    split
    · trivial
    · next here =>
      refine ⟨?_, ih⟩
      rw [Bool.eq_false_iff]
      intro begins
      rw [← List.map_cons] at begins
      have whole : startsWithTag ['<', '/'] name
          (c :: s.take (rawLength name s) ++ s.drop (rawLength name s)) = true :=
        startsWithTag_of_append (startsWithTag_of_map_showNull (by simp [replacement]) hn begins)
      rw [List.cons_append, List.take_append_drop] at whole
      exact here whole

/-- Raw text goes on to an end tag or to the end of the document. -/
theorem rawLength_stops (name s : List Char) : s.drop (rawLength name s) = [] ∨
    startsWithTag ['<', '/'] name (s.drop (rawLength name s)) = true := by
  induction s with
  | nil => exact .inl rfl
  | cons c s ih =>
    rw [rawLength]
    split
    · next here => exact .inr here
    · exact ih

/-- A script goes on to the end or to an end tag of its own. -/
theorem scriptLength_stops (depth : ScriptDepth) (s : List Char) :
    s.drop (scriptLength depth s) = [] ∨
      startsWithTag ['<', '/'] "script".toList (s.drop (scriptLength depth s)) = true := by
  induction s generalizing depth with
  | nil => exact .inl rfl
  | cons c s ih =>
    cases depth <;> simp only [scriptLength]
    · split
      · next here => exact .inr here
      · split <;> exact ih _
    · split
      · next here => exact .inr here
      · split
        · exact ih _
        · split <;> exact ih _
    · split
      · exact ih _
      · split <;> exact ih _

/-- If one end tag ends a script, so does every other. -/
theorem scriptLength_append {depth : ScriptDepth} {t u v : List Char}
    (hu : startsWithTag ['<', '/'] "script".toList ('<' :: u) = true)
    (hv : startsWithTag ['<', '/'] "script".toList ('<' :: v) = true)
    (h : scriptLength depth (t ++ '<' :: u) = t.length) :
    scriptLength depth (t ++ '<' :: v) = t.length := by
  induction t generalizing depth with
  | nil =>
    cases depth
    · simp only [List.nil_append, scriptLength, hv, if_true, List.length_nil]
    · simp only [List.nil_append, scriptLength, hv, if_true, List.length_nil]
    · simp only [List.nil_append, scriptLength, hu, if_true, List.length_nil] at h
      omega
  | cons c t ih =>
    have tag (w : List Char) (rest : List Char) (hm : '<' ∉ w.tail) :
        startsWithTag w "script".toList (c :: (t ++ '<' :: rest)) =
          startsWithTag w "script".toList (c :: t) :=
      startsWithTag_append hm (by decide) (List.cons_ne_nil c t) rest
    have mark (w : List Char) (rest : List Char) (hm : '<' ∉ w.tail) :
        w.isPrefixOf (c :: (t ++ '<' :: rest)) = w.isPrefixOf (c :: t) :=
      prefix_append_stop hm (List.cons_ne_nil c t) rest
    have close (rest : List Char) := tag ['<', '/'] rest (by decide)
    have start (rest : List Char) := tag ['<'] rest (by decide)
    have comment (rest : List Char) := mark "<!--".toList rest (by decide)
    have uncomment (rest : List Char) := mark "-->".toList rest (by decide)
    cases depth <;>
      simp only [List.cons_append, scriptLength, close, start, comment, uncomment,
        List.length_cons] at h ⊢
    all_goals split_ifs at h ⊢ <;> first | omega | (rw [ih]; omega)

end EpubLibrary.Html
