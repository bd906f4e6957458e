import EpubLibrary.Proofs.Epub.Leads
import Mathlib.Data.List.Basic

/-!
# Entries of a table of contents

`Outline.At` says which entry stands at which place of a navigation tree, and `InPreorder` that a
list holds each of them once, in the order of their places. Flattening gives just that list.
-/

namespace EpubLibrary.Epub

namespace Outline

/-! ## Preorder -/

/-- The entry at a place: which child to go to at every node on the way. The head of a branch stands
at the place of the branch, before its children. -/
inductive At : Outline → List Nat → Outline → Prop where
  | leaf (kind : LeafKind) (href title : Option String) :
    At (.leaf kind href title) [] (.leaf kind href title)
  | blank : At .blank [] .blank
  | head (head : Outline) (children : List Outline) : At (.branch head children) [] head
  | child {head : Outline} {children : List Outline} {i : Nat} {node : Outline} {place : List Nat}
    {entry : Outline} : children[i]? = some node → At node place entry →
      At (.branch head children) (i :: place) entry
  | member {entries : List Outline} {i : Nat} {node : Outline} {place : List Nat}
    {entry : Outline} : entries[i]? = some node → At node place entry →
      At (.group entries) (i :: place) entry

/-- The list holds what stands at each place once, in the order of the places. -/
def InPreorder (tree : Outline) (entries : List Outline) : Prop :=
  ∃ placed : List (List Nat × Outline), placed.map (·.2) = entries ∧
    (placed.map (·.1)).Pairwise (· < ·) ∧
    ∀ place entry, (place, entry) ∈ placed ↔ tree.At place entry

theorem at_group_iff {entries : List Outline} {place : List Nat} {entry : Outline} :
    At (.group entries) place entry ↔
      ∃ i node rest, place = i :: rest ∧ entries[i]? = some node ∧ node.At rest entry := by
  constructor
  · intro h
    cases h with
    | member here inner => exact ⟨_, _, _, rfl, here, inner⟩
  · rintro ⟨i, node, rest, rfl, here, inner⟩
    exact .member here inner

theorem at_branch_iff {head : Outline} {children : List Outline} {place : List Nat}
    {entry : Outline} : At (.branch head children) place entry ↔
      (place = [] ∧ entry = head) ∨ At (.group children) place entry := by
  constructor
  · intro h
    cases h with
    | head => exact .inl ⟨rfl, rfl⟩
    | child here inner => exact .inr (.member here inner)
  · rintro (⟨rfl, rfl⟩ | h)
    · exact .head _ _
    · cases h with
      | member here inner => exact .child here inner

def nextChild : List Nat → List Nat
  | [] => []
  | i :: place => (i + 1) :: place

theorem at_group_cons_iff {node : Outline} {rest : List Outline} {place : List Nat}
    {entry : Outline} : At (.group (node :: rest)) place entry ↔
      (∃ inner, place = 0 :: inner ∧ node.At inner entry) ∨
      (∃ earlier, place = nextChild earlier ∧ At (.group rest) earlier entry) := by
  constructor
  · intro h
    obtain ⟨i, found, inner, rfl, here, stands⟩ := at_group_iff.1 h
    cases i with
    | zero =>
      rw [List.getElem?_cons_zero, Option.some_inj] at here
      subst here
      exact .inl ⟨inner, rfl, stands⟩
    | succ i =>
      rw [List.getElem?_cons_succ] at here
      exact .inr ⟨i :: inner, rfl, .member here stands⟩
  · rintro (⟨inner, rfl, h⟩ | ⟨earlier, rfl, h⟩)
    · exact .member List.getElem?_cons_zero h
    · obtain ⟨i, found, inner, rfl, here, stands⟩ := at_group_iff.1 h
      refine .member ?_ stands
      rw [List.getElem?_cons_succ, here]

theorem inPreorder_single {tree entry : Outline}
    (only : ∀ place other, tree.At place other ↔ place = [] ∧ other = entry) :
    InPreorder tree [entry] := by
  refine ⟨[([], entry)], rfl, List.pairwise_singleton _ _, fun place other => ?_⟩
  rw [List.mem_singleton, Prod.mk.injEq, only]

theorem inPreorder_group_nil : InPreorder (.group []) [] := by
  refine ⟨[], rfl, List.Pairwise.nil, fun place entry => ?_⟩
  simp [at_group_iff]

theorem inPreorder_group_cons {node : Outline} {rest entries more : List Outline}
    (first : InPreorder node entries) (others : InPreorder (.group rest) more) :
    InPreorder (.group (node :: rest)) (entries ++ more) := by
  obtain ⟨placed, rfl, ascending, exact₁⟩ := first
  obtain ⟨behind, rfl, ascending', exact₂⟩ := others
  have below : ∀ a ∈ behind, ∃ i place, a.1 = i :: place := by
    rintro ⟨place, entry⟩ mem
    obtain ⟨i, _, inner, rfl, _⟩ := at_group_iff.1 ((exact₂ place entry).1 mem)
    exact ⟨i, inner, rfl⟩
  refine ⟨placed.map (fun a => (0 :: a.1, a.2)) ++ behind.map (fun a => (nextChild a.1, a.2)),
    by simp [Function.comp_def], ?_, fun place entry => ?_⟩
  · rw [List.map_append, List.map_map, List.map_map, List.pairwise_append]
    refine ⟨?_, ?_, ?_⟩
    · rw [List.pairwise_map] at ascending ⊢
      exact ascending.imp fun lower => List.cons_lt_cons_iff.2 (.inr ⟨rfl, lower⟩)
    · rw [List.pairwise_map] at ascending' ⊢
      refine ascending'.imp_of_mem fun {a b} mem mem' lower => ?_
      obtain ⟨i, place, ha⟩ := below a mem
      obtain ⟨j, place', hb⟩ := below b mem'
      simpa [ha, hb, nextChild, List.cons_lt_cons_iff] using lower
    · intro place mem place' mem'
      obtain ⟨a, _, rfl⟩ := List.mem_map.1 mem
      obtain ⟨b, behind_b, rfl⟩ := List.mem_map.1 mem'
      obtain ⟨j, inner, hb⟩ := below b behind_b
      simp [hb, nextChild, List.cons_lt_cons_iff]
  · rw [at_group_cons_iff, List.mem_append, List.mem_map, List.mem_map]
    simp only [Prod.mk.injEq, Prod.exists, exact₁, exact₂]
    grind

/-- The head of a branch comes before its children. -/
theorem inPreorder_branch {head : Outline} {children entries : List Outline}
    (below : InPreorder (.group children) entries) :
    InPreorder (.branch head children) (head :: entries) := by
  obtain ⟨placed, rfl, ascending, exact₁⟩ := below
  refine ⟨([], head) :: placed, rfl, ?_, fun place entry => ?_⟩
  · rw [List.map_cons, List.pairwise_cons]
    refine ⟨fun place mem => ?_, ascending⟩
    obtain ⟨⟨place, entry⟩, placed_entry, rfl⟩ := List.mem_map.1 mem
    obtain ⟨i, _, inner, rfl, _⟩ := at_group_iff.1 ((exact₁ place entry).1 placed_entry)
    exact List.nil_lt_cons i inner
  · rw [List.mem_cons, Prod.mk.injEq, exact₁, at_branch_iff]

mutual

theorem inPreorder_entriesOf : (node : Outline) → InPreorder node (entriesOf node)
  | .leaf kind href title => by
    refine inPreorder_single fun place other => ⟨fun h => ?_, ?_⟩
    · cases h
      exact ⟨rfl, rfl⟩
    · rintro ⟨rfl, rfl⟩
      exact .leaf kind href title
  | .blank => by
    refine inPreorder_single fun place other => ⟨fun h => ?_, ?_⟩
    · cases h
      exact ⟨rfl, rfl⟩
    · rintro ⟨rfl, rfl⟩
      exact .blank
  | .branch _ children => inPreorder_branch (inPreorder_flatten children)
  | .group entries => inPreorder_flatten entries

theorem inPreorder_flatten : (nodes : List Outline) → InPreorder (.group nodes) (flatten nodes)
  | [] => inPreorder_group_nil
  | node :: rest => inPreorder_group_cons (inPreorder_entriesOf node) (inPreorder_flatten rest)

end

/-- Places in order leave no choice. -/
theorem InPreorder.unique {tree : Outline} {entries others : List Outline}
    (h : tree.InPreorder entries) (h' : tree.InPreorder others) : entries = others := by
  obtain ⟨placed, rfl, ascending, exact₁⟩ := h
  obtain ⟨placed', rfl, ascending', exact₂⟩ := h'
  rw [List.pairwise_map] at ascending ascending'
  have apart : ∀ {a b : List Nat × Outline}, a.1 < b.1 → a ≠ b := by
    rintro a _ lower rfl
    exact List.lt_irrefl a.1 lower
  have same : placed.Perm placed' := by
    rw [List.perm_ext_iff_of_nodup (ascending.imp apart) (ascending'.imp apart)]
    rintro ⟨place, entry⟩
    rw [exact₁, exact₂]
  have asymm : ∀ a b : List Nat × Outline, a.1 < b.1 → b.1 < a.1 → a = b :=
    fun a _ lower upper => absurd (List.lt_trans lower upper) (List.lt_irrefl a.1)
  rw [same.eq_of_pairwise (fun a b _ _ => asymm a b) ascending ascending']

/-- Flattening lists the entries of a tree in preorder. -/
theorem inPreorder_iff {tree : Outline} {entries : List Outline} :
    tree.InPreorder entries ↔ entries = flatten tree.roots := by
  have flat : tree.InPreorder (flatten tree.roots) := by
    have own := inPreorder_entriesOf tree
    cases tree with
    | group nodes => exact inPreorder_flatten nodes
    | leaf | blank | branch =>
      rw [roots, flatten, flatten, List.append_nil]
      · exact own
      · exact nofun
  constructor
  · exact fun h => h.unique flat
  · rintro rfl
    exact flat

theorem flatten_append (nodes more : List Outline) :
    flatten (nodes ++ more) = flatten nodes ++ flatten more := by
  induction nodes with
  | nil => rfl
  | cons node nodes ih => rw [List.cons_append, flatten, flatten, ih, List.append_assoc]

end Outline

/-! ## References of the entries -/

/-- Has an entry a title and a reference? -/
def Outline.refers (entry : Outline) : Bool := entry.title ≠ "" && entry.href ≠ ""

/-- An entry has a title and refers to nothing that there is. -/
def Broken (names : List String) (entry : Outline) : Prop :=
  entry.refers = true ∧ target? entry.href names = none

instance (names : List String) (entry : Outline) : Decidable (Broken names entry) :=
  inferInstanceAs (Decidable (_ ∧ _))

/-- The spine position and the title that the table of contents holds for an entry. -/
def Leads (names : List String) (entry : Outline) (pair : Nat × String) : Prop :=
  target? entry.href names = some pair.1 ∧ pair.2 = entry.title

theorem leads_unique {names : List String} {entries : List Outline}
    {pairs others : List (Nat × String)} (h : List.Forall₂ (Leads names) entries pairs)
    (h' : List.Forall₂ (Leads names) entries others) :
    pairs = others := by
  refine List.right_unique_forall₂' ?_ h h'
  rintro entry ⟨i, title⟩ ⟨j, other⟩ ⟨found, rfl⟩ ⟨found', rfl⟩
  rw [found, Option.some_inj] at found'
  exact Prod.ext found' rfl

theorem refers_iff {entry : Outline} :
    entry.refers = true ↔ ¬ (entry.title = "" ∨ entry.href = "") := by
  simp [Outline.refers]

/-- An entry without title or reference is passed over. -/
theorem resolveEntries_silent {entry : Outline} (names : List String) (rest : List Outline)
    (silent : ¬ entry.refers = true) :
    resolveEntries names (entry :: rest) = resolveEntries names rest := by
  rw [refers_iff, Classical.not_not] at silent
  rw [resolveEntries, if_pos silent]

theorem resolveEntries_lost {names : List String} {entry : Outline} (rest : List Outline)
    (broken : Broken names entry) :
    resolveEntries names (entry :: rest) = .error (.brokenReference entry.href) := by
  obtain ⟨refers, lost⟩ := broken
  rw [resolveEntries, if_neg (refers_iff.1 refers), lost]

/-- An entry that leads somewhere is put before what the others give. -/
theorem resolveEntries_found {names : List String} {entry : Outline} {i : Nat}
    (rest : List Outline) (refers : entry.refers = true)
    (found : target? entry.href names = some i) :
    resolveEntries names (entry :: rest) =
      (resolveEntries names rest).map ((i, entry.title) :: ·) := by
  rw [resolveEntries, if_neg (refers_iff.1 refers), found]
  cases resolveEntries names rest with
  | error fault => rfl
  | ok more => rfl

/-- If none is broken, the entries that refer somewhere are paired with positions, in their order.
-/
theorem resolveEntries_ok {names : List String} {entries : List Outline}
    (fine : ∀ entry ∈ entries, ¬ Broken names entry) :
    ∃ pairs, resolveEntries names entries = .ok pairs ∧
      List.Forall₂ (Leads names) (entries.filter (·.refers)) pairs := by
  induction entries with
  | nil => exact ⟨[], rfl, .nil⟩
  | cons entry rest ih =>
    rw [List.forall_mem_cons] at fine
    obtain ⟨pairs, resolved, leads⟩ := ih fine.2
    by_cases refers : entry.refers = true
    · rw [List.filter_cons_of_pos refers]
      cases found : target? entry.href names with
      | none => exact absurd ⟨refers, found⟩ fine.1
      | some i =>
        rw [resolveEntries_found rest refers found, resolved]
        exact ⟨(i, entry.title) :: pairs, rfl, .cons ⟨found, rfl⟩ leads⟩
    · rw [resolveEntries_silent names rest refers, List.filter_cons_of_neg refers]
      exact ⟨pairs, resolved, leads⟩

/-- The first broken entry is told, whatever comes after it. -/
theorem resolveEntries_broken {names : List String} {entries : List Outline} {entry : Outline}
    (first : IsFirst (Broken names) entries entry) :
    resolveEntries names entries = .error (.brokenReference entry.href) := by
  induction entries with
  | nil => exact absurd rfl first.ne_nil
  | cons node rest ih =>
    rcases first.cases with ⟨rfl, broken⟩ | ⟨fine, first⟩
    · exact resolveEntries_lost rest broken
    · by_cases refers : node.refers = true
      · cases found : target? node.href names with
        | none => exact absurd ⟨refers, found⟩ fine
        | some i =>
          rw [resolveEntries_found rest refers found, ih first]
          rfl
      · rw [resolveEntries_silent names rest refers, ih first]

/-- The table of contents of a tree of any depth pairs each entry that has a title and a reference
with the position it leads to, in preorder, or tells the first of them that leads nowhere. -/
theorem extractToc_outcome (identifier : String) (toc : Outline) (names : List String) :
    (∀ entries, toc.InPreorder entries ↔ entries = Outline.flatten toc.roots) ∧
    (∀ nodes more, Outline.flatten (nodes ++ more) =
      Outline.flatten nodes ++ Outline.flatten more) ∧
    ((∀ entry ∈ Outline.flatten toc.roots, ¬ Broken names entry) →
      ∃ pairs, extractToc identifier toc names = .ok pairs ∧
        List.Forall₂ (Leads names) ((Outline.flatten toc.roots).filter (·.refers)) pairs ∧
        ∀ pair ∈ pairs, pair.1 < names.length) ∧
    ((∃ entry ∈ Outline.flatten toc.roots, Broken names entry) →
      ∃ entry, IsFirst (Broken names) (Outline.flatten toc.roots) entry ∧
        extractToc identifier toc names =
          .error ⟨.brokenReference entry.href, declared identifier⟩) := by
  refine ⟨fun _ => Outline.inPreorder_iff, Outline.flatten_append, fun fine => ?_, fun broken => ?_⟩
  · obtain ⟨pairs, resolved, leads⟩ := resolveEntries_ok fine
    have extracted : extractToc identifier toc names = .ok pairs := mapError_ok_iff.2 resolved
    exact ⟨pairs, extracted, leads, extractToc_lt extracted⟩
  · obtain ⟨entry, first⟩ := exists_isFirst broken
    refine ⟨entry, first, ?_⟩
    rw [extractToc, resolveEntries_broken first]
    rfl

def nestedToc : Outline :=
  .group [.branch (.leaf .heading (some "a.x") (some " One "))
    [.leaf .link (some "b.x#n") (some "Two"), .blank]]

theorem extractToc_outcome_nested :
    (∃ pairs, extractToc "" nestedToc ["t/b.x", "t/a.x"] = .ok pairs ∧
      List.Forall₂ (Leads ["t/b.x", "t/a.x"])
        [.leaf .heading (some "a.x") (some " One "), .leaf .link (some "b.x#n") (some "Two")]
        pairs) ∧
    ∃ entry, IsFirst (Broken ["t/a.x"]) (Outline.flatten nestedToc.roots) entry ∧
      extractToc "" nestedToc ["t/a.x"] = .error ⟨.brokenReference entry.href, none⟩ := by
  have fine : ∀ entry ∈ Outline.flatten nestedToc.roots, ¬ Broken ["t/b.x", "t/a.x"] entry := by
    decide +kernel
  have broken : ∃ entry ∈ Outline.flatten nestedToc.roots, Broken ["t/a.x"] entry := by
    decide +kernel
  obtain ⟨pairs, done, leads, _⟩ :=
    (extractToc_outcome "" nestedToc ["t/b.x", "t/a.x"]).2.2.1 fine
  exact ⟨⟨pairs, done, leads⟩, (extractToc_outcome "" nestedToc ["t/a.x"]).2.2.2 broken⟩

end EpubLibrary.Epub
