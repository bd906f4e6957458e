import EpubLibrary.Epub.Toc
import EpubLibrary.Proofs.Path
import EpubLibrary.Proofs.Text.Percent
import Mathlib.Data.List.Forall2
import Mathlib.Data.Set.Basic
import Mathlib.Order.Bounds.Defs

namespace EpubLibrary.Epub

/-! ## Components -/

def nameParts (name : String) : List Component := Path.split (Path.normalText name.toList)

/-- The components of the normal form of what a reference leads to, counted from any root. -/
def targetParts (href : String) : List Component :=
  Path.split ((Path.normalText (targetPath href)).dropWhile (· = '/'))

/-- One of two lists of components is the end of the other, and not all of it. -/
def EndAlike (a b : List Component) : Prop := (a <:+ b ∨ b <:+ a) ∧ a ≠ b

def wholeMatches (href : String) (names : List String) : Set Nat :=
  {i | ∃ name, names[i]? = some name ∧ nameParts name = targetParts href}

def endMatches (href : String) (names : List String) : Set Nat :=
  {i | ∃ name, names[i]? = some name ∧ EndAlike (targetParts href) (nameParts name)}

/-- What a reference leads to among items with the given names. -/
inductive Finds (href : String) (names : List String) : Option Nat → Prop where
  | empty : targetPath href = [] → Finds href names none
  | whole {i : Nat} :
    targetPath href ≠ [] → IsLeast (wholeMatches href names) i → Finds href names (some i)
  | byEnd {i : Nat} :
    targetPath href ≠ [] → wholeMatches href names = ∅ → IsLeast (endMatches href names) i →
      Finds href names (some i)
  | nowhere :
    targetPath href ≠ [] → wholeMatches href names = ∅ → endMatches href names = ∅ →
      Finds href names none

theorem split_inj {s t : List Char} : Path.split s = Path.split t ↔ s = t := by
  constructor
  · intro same
    rw [← Path.joinParts_split s, same, Path.joinParts_split]
  · exact congrArg Path.split

/-- Written paths end alike exactly if their components do, as no component holds a slash. -/
theorem endsAlike_iff {s t : List Char} :
    endsAlike s t = true ↔ EndAlike (Path.split s) (Path.split t) := by
  simp only [endsAlike, Bool.or_eq_true, List.isSuffixOf_iff_suffix, Path.slash_suffix_iff,
    EndAlike]
  grind

/-! ## Searching -/

section
variable {α : Type} {p : α → Bool} {l : List α}

theorem findIdx?_eq_some_iff_isLeast {i : Nat} :
    l.findIdx? p = some i ↔ IsLeast {i | ∃ a, l[i]? = some a ∧ p a = true} i := by
  rw [List.findIdx?_eq_some_iff_getElem]
  constructor
  · rintro ⟨inside, holds, first⟩
    refine ⟨⟨l[i], List.getElem?_eq_getElem inside, holds⟩, ?_⟩
    rintro j ⟨a, there, good⟩
    obtain ⟨j_inside, rfl⟩ := List.getElem?_eq_some_iff.1 there
    by_contra before
    exact first j (by omega) good
  · rintro ⟨⟨a, here, holds⟩, least⟩
    obtain ⟨inside, rfl⟩ := List.getElem?_eq_some_iff.1 here
    refine ⟨inside, holds, fun j before good => ?_⟩
    have j_inside : j < l.length := by omega
    have := least ⟨l[j], List.getElem?_eq_getElem j_inside, good⟩
    omega

theorem findIdx?_eq_none_iff_empty :
    l.findIdx? p = none ↔ {i | ∃ a, l[i]? = some a ∧ p a = true} = (∅ : Set Nat) := by
  rw [List.findIdx?_eq_none_iff, Set.eq_empty_iff_forall_notMem]
  constructor
  · rintro none i ⟨a, here, good⟩
    have bad := none a (List.mem_of_getElem? here)
    rw [good] at bad
    cases bad
  · intro empty a mem
    obtain ⟨i, here⟩ := List.getElem?_of_mem mem
    by_contra good
    exact empty i ⟨a, here, by simpa using good⟩

end

theorem target?_of_empty {href : String} (names : List String) (empty : targetPath href = []) :
    target? href names = none := by
  rw [target?, if_pos empty]

/-- Of a reference, only the normal form of its path matters. -/
theorem target?_of_ne_nil {href : String} (names : List String) (filled : targetPath href ≠ []) :
    target? href names =
      (names.findIdx? fun name => nameParts name = targetParts href).or
        (names.findIdx? fun name =>
          endsAlike ((Path.normalText (targetPath href)).dropWhile (· = '/'))
            (Path.normalText name.toList)) := by
  rw [target?, if_neg filled]
  simp only [List.findIdx?_map, Function.comp_def, nameParts, targetParts, split_inj]
  split
  · rename_i whole
    rw [whole, Option.some_or]
  · rename_i none
    rw [none, Option.none_or]

theorem wholeMatches_eq (href : String) (names : List String) : wholeMatches href names =
    {i | ∃ name, names[i]? = some name ∧ decide (nameParts name = targetParts href) = true} := by
  simp only [wholeMatches, decide_eq_true_eq]

theorem endMatches_eq (href : String) (names : List String) : endMatches href names =
    {i | ∃ name, names[i]? = some name ∧
      endsAlike ((Path.normalText (targetPath href)).dropWhile (· = '/'))
        (Path.normalText name.toList) = true} := by
  simp only [endMatches, endsAlike_iff, nameParts, targetParts]

/-- What is found is what the components say. -/
theorem finds_target? (href : String) (names : List String) :
    Finds href names (target? href names) := by
  by_cases empty : targetPath href = []
  · rw [target?_of_empty names empty]
    exact .empty empty
  · rw [target?_of_ne_nil names empty]
    cases whole : names.findIdx? fun name => decide (nameParts name = targetParts href) with
    | some i =>
      rw [findIdx?_eq_some_iff_isLeast, ← wholeMatches_eq] at whole
      exact .whole empty whole
    | none =>
      rw [findIdx?_eq_none_iff_empty, ← wholeMatches_eq] at whole
      rw [Option.none_or]
      cases byEnd : names.findIdx? fun name =>
          endsAlike ((Path.normalText (targetPath href)).dropWhile (· = '/'))
            (Path.normalText name.toList) with
      | some i =>
        rw [findIdx?_eq_some_iff_isLeast, ← endMatches_eq] at byEnd
        exact .byEnd empty whole byEnd
      | none =>
        rw [findIdx?_eq_none_iff_empty, ← endMatches_eq] at byEnd
        exact .nowhere empty whole byEnd

theorem Finds.target?_eq {href : String} {names : List String} {found : Option Nat}
    (h : Finds href names found) : target? href names = found := by
  cases h with
  | empty blank => exact target?_of_empty names blank
  | whole filled least =>
    rw [wholeMatches_eq, ← findIdx?_eq_some_iff_isLeast] at least
    rw [target?_of_ne_nil names filled, least, Option.some_or]
  | byEnd filled none least =>
    rw [wholeMatches_eq, ← findIdx?_eq_none_iff_empty] at none
    rw [endMatches_eq, ← findIdx?_eq_some_iff_isLeast] at least
    rw [target?_of_ne_nil names filled, none, least, Option.none_or]
  | nowhere filled none empty =>
    rw [wholeMatches_eq, ← findIdx?_eq_none_iff_empty] at none
    rw [endMatches_eq, ← findIdx?_eq_none_iff_empty] at empty
    rw [target?_of_ne_nil names filled, none, empty, Option.none_or]

/-- A reference leads to what its components find. -/
theorem target?_eq_iff {href : String} {names : List String} {found : Option Nat} :
    target? href names = found ↔ Finds href names found := by
  constructor
  · rintro rfl
    exact finds_target? href names
  · exact Finds.target?_eq

/-! ## Written forms -/

/-- A name or its normal form. -/
def SameName (name other : String) : Prop :=
  other = name ∨ other = String.ofList (Path.normalText name.toList)

theorem SameName.normal {name other : String} (h : SameName name other) :
    Path.normalText other.toList = Path.normalText name.toList := by
  rcases h with rfl | rfl
  · rfl
  · rw [String.toList_ofList, Path.normalText_normalText]

/-- Of names, only the normal forms matter. -/
theorem target?_of_names (href : String) {names others : List String}
    (same : List.Forall₂ SameName names others) : target? href others = target? href names := by
  have normal : others.map (fun name => Path.normalText name.toList) =
      names.map fun name => Path.normalText name.toList := by
    induction same with
    | nil => rfl
    | cons first _ ih => rw [List.map_cons, List.map_cons, first.normal, ih]
  rw [target?, target?, normal]

/-- A path that says something may be replaced by its normal form. -/
theorem target?_of_normal {href other : String} (names : List String)
    (filled : targetPath href ≠ [])
    (normal : targetPath other = Path.normalText (targetPath href)) :
    target? other names = target? href names := by
  have filled' : targetPath other ≠ [] := by
    rw [normal]
    exact Path.toText_ne_nil _
  have parts : targetParts other = targetParts href := by
    rw [targetParts, normal, Path.normalText_normalText, targetParts]
  rw [target?_of_ne_nil names filled', target?_of_ne_nil names filled, parts, normal,
    Path.normalText_normalText]

/-- A reference leads where the components of its path say, whichever way it and the names are
written. -/
theorem target?_by_components (href : String) (names : List String) :
    (∀ found, target? href names = found ↔ Finds href names found) ∧
    (∀ others, List.Forall₂ SameName names others → target? href others = target? href names) ∧
    (∀ other, targetPath href ≠ [] → targetPath other = Path.normalText (targetPath href) →
      target? other names = target? href names) := by
  refine ⟨fun _ => target?_eq_iff, fun _ same => target?_of_names href same, ?_⟩
  intro other filled normal
  exact target?_of_normal names filled normal

theorem target?_by_components_chapter :
    Finds "b/../text/c%31.xhtml#top" ["x.xhtml", "OEBPS/./text/c1.xhtml"] (some 1) ∧
    target? "b/../text/c%31.xhtml#top" ["x.xhtml", "OEBPS/text/c1.xhtml"] =
      target? "b/../text/c%31.xhtml#top" ["x.xhtml", "OEBPS/./text/c1.xhtml"] ∧
    target? "text/c1.xhtml" ["x.xhtml", "OEBPS/./text/c1.xhtml"] =
      target? "b/../text/c%31.xhtml#top" ["x.xhtml", "OEBPS/./text/c1.xhtml"] := by
  obtain ⟨finds, names, path⟩ :=
    target?_by_components "b/../text/c%31.xhtml#top" ["x.xhtml", "OEBPS/./text/c1.xhtml"]
  refine ⟨(finds _).1 (by decide +kernel), names _ (.cons (.inl rfl) (.cons (.inr ?_) .nil)), ?_⟩
  · decide +kernel
  · exact path "text/c1.xhtml" (by decide +kernel) (by decide +kernel)

/-- A path of nothing leads nowhere, and its normal form leads to the item of that name. -/
theorem empty_target_moves : targetPath "." = Path.normalText (targetPath "") ∧
    target? "" ["."] = none ∧ target? "." ["."] = some 0 := by
  decide +kernel

/-! ## Own names -/

def withFragment (path : List Char) (fragment : Option (List Char)) : String :=
  String.ofList (path ++ fragment.elim [] ('#' :: ·))

/-- However a path is encoded, and whatever fragment follows, it is the path that is read. -/
theorem targetPath_written {s w : List Char} (h : Text.Percent.Written s w)
    (fragment : Option (List Char)) : targetPath (withFragment w fragment) = s := by
  have clear : ∀ c ∈ w, decide (c ≠ '#') = true := by
    intro c mem
    rw [decide_eq_true_iff]
    rintro rfl
    exact Text.Percent.hash_not_mem_written h mem
  have path : (withFragment w fragment).toList.takeWhile (· ≠ '#') = w := by
    rw [withFragment, String.toList_ofList, List.takeWhile_append_of_pos clear]
    cases fragment with
    | none => exact List.append_nil w
    | some fragment => exact List.append_nil w
  rw [targetPath, path, Text.Percent.decode_written h]

/-- If any name has all the components, the first such name is found. -/
theorem target?_of_whole {href : String} {names : List String} {i : Nat}
    (filled : targetPath href ≠ []) (mem : i ∈ wholeMatches href names) :
    ∃ j, target? href names = some j ∧ IsLeast (wholeMatches href names) j := by
  have found := finds_target? href names
  generalize target? href names = result at found
  cases found with
  | empty blank => exact absurd blank filled
  | @whole j _ least => exact ⟨j, rfl, least⟩
  | byEnd _ none _ =>
    rw [none] at mem
    exact mem.elim
  | nowhere _ none _ =>
    rw [none] at mem
    exact mem.elim

/-- A reference that spells the name of an item, with or without a fragment, leads to the first item
of that name, so to the item itself if no other goes by it. -/
theorem target?_own_name {names : List String} {i : Nat} {name : String} {written : List Char}
    (here : names[i]? = some name) (named : name ≠ "") (relative : name.toList.head? ≠ some '/')
    (spelled : Text.Percent.Written name.toList written) (fragment : Option (List Char)) :
    (∃ j, target? (withFragment written fragment) names = some j ∧
      IsLeast {k | ∃ other, names[k]? = some other ∧
        Path.normalText other.toList = Path.normalText name.toList} j) ∧
    ((names.map fun other => Path.normalText other.toList).Nodup →
      target? (withFragment written fragment) names = some i) := by
  have path := targetPath_written spelled fragment
  have filled : targetPath (withFragment written fragment) ≠ [] := by
    rw [path]
    intro empty
    exact named (String.toList_eq_nil_iff.1 empty)
  have same : wholeMatches (withFragment written fragment) names =
      {k | ∃ other, names[k]? = some other ∧
        Path.normalText other.toList = Path.normalText name.toList} := by
    simp only [wholeMatches, nameParts, targetParts, path, Path.normalText_relative relative,
      split_inj]
  have mem : i ∈ wholeMatches (withFragment written fragment) names := by
    rw [same]
    exact ⟨name, here, rfl⟩
  obtain ⟨j, found, least⟩ := target?_of_whole filled mem
  rw [same] at least
  refine ⟨⟨j, found, least⟩, fun distinct => ?_⟩
  obtain ⟨other, there, alike⟩ := least.1
  have inside : j < (names.map fun other => Path.normalText other.toList).length := by
    rw [List.length_map]
    exact (List.getElem?_eq_some_iff.1 there).1
  have places : j = i := by
    refine (List.getElem?_inj inside distinct).1 ?_
    rw [List.getElem?_map, List.getElem?_map, there, here, Option.map_some, Option.map_some, alike]
  rw [found, places]

/-- An earlier name that ends in the name does not stand in its way. -/
theorem target?_own_name_accent :
    Text.Percent.Written "é%.x".toList "%C3%a9%25.x".toList ∧
    target? (withFragment "%C3%a9%25.x".toList (some "n".toList)) ["t/é%.x", "é%.x"] = some 1 := by
  have accent : Text.Percent.Escapes (Text.Utf8.encodeChar 'é') ['%', 'C', '3', '%', 'a', '9'] :=
    .cons (.inr rfl) (.inl rfl) (.cons (.inl rfl) (.inl rfl) .nil)
  have percent : Text.Percent.Escapes (Text.Utf8.encodeChar '%') ['%', '2', '5'] :=
    .cons (.inl rfl) (.inl rfl) .nil
  have spelled : Text.Percent.Written "é%.x".toList "%C3%a9%25.x".toList :=
    .escaped accent (.escaped percent (.plain (by decide) (by decide)
      (.plain (by decide) (by decide) .nil)))
  have distinct : (["t/é%.x", "é%.x"].map fun other => Path.normalText other.toList).Nodup := by
    decide +kernel
  exact ⟨spelled, (target?_own_name rfl (by decide) (by decide +kernel) spelled _).2 distinct⟩

end EpubLibrary.Epub
