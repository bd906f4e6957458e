import EpubLibrary.Proofs.Files.Follow

namespace EpubLibrary.FileTree

/-- Trees that are made from an empty one by changes at paths, seen from named directories. -/
inductive Built : FileTree → Prop where
  | empty : Built .empty
  | create {t u : FileTree} {cwd : Place} {p : Path} {node : FileNode} (built : Built t)
      (named : Named cwd) (made : t.create cwd p node = .ok u) : Built u
  | write {t u : FileTree} {cwd : Place} {p : Path} {content : Bytes} (built : Built t)
      (named : Named cwd) (made : t.write cwd p content = .ok u) : Built u
  | remove {t u : FileTree} {cwd : Place} {p : Path} (built : Built t)
      (made : t.remove cwd p = .ok u) : Built u

variable {t u : FileTree} {cwd place q : Place} {p : Path} {node : FileNode}
  {parts : List Component}

theorem Named.origin (named : Named cwd) (p : Path) : Named (origin cwd p) := by
  unfold FileTree.origin
  split
  · exact named
  · exact nofun

theorem Named.of_follow {last : Bool} {links : Nat} (named : Named place)
    (h : t.follow last links place parts = .ok q) : Named q := by
  have below : ∀ {place : Place} {part : Component}, Named place →
      ¬(!Path.isStep part) = true → ¬part = Path.up → ¬Path.isLong part = true →
        Named (place ++ [part]) := by
    intro place part named step down short other mem
    rcases List.mem_append.1 mem with mem | mem
    · exact named other mem
    · rw [List.mem_singleton.1 mem]
      exact ⟨by simpa using step, down, by simpa using short⟩
  fun_induction FileTree.follow t last links place parts with
  | case1 =>
    cases h
    exact named
  | case3 _ _ _ _ _ _ ih => exact ih named h
  | case4 _ _ _ _ _ ih => exact ih (fun part mem => named part (List.dropLast_subset _ mem)) h
  | case6 _ _ _ _ _ step down short =>
    cases h
    exact below named step down short
  | case8 place part rest dir step down _ target link goes links start ih =>
    refine ih ?_ h
    by_cases rooted : target.head? = some '/'
    · simp [start, rooted, Named]
    · simpa [start, rooted] using named
  | case9 _ _ _ _ _ step down short _ ih => exact ih (below named step down short) h
  | case2 => cases h
  | case5 => cases h
  | case7 => cases h
  | case10 => cases h

theorem Named.of_followPath {last : Bool} (named : Named cwd)
    (h : t.followPath last cwd p = .ok q) : Named q := by
  unfold FileTree.followPath at h
  split at h
  · cases h
  · exact (named.origin p).of_follow h

theorem Sound.of_places (h : t.Sound) (same : u.nodes.map (·.1) = t.nodes.map (·.1)) : u.Sound :=
  ⟨by rw [same]; exact h.distinct, by rw [same]; exact h.named⟩

theorem Sound.put (h : t.Sound) (named : Named place) (node : FileNode) :
    (t.put place node).Sound := by
  unfold FileTree.put
  split
  · refine h.of_places ?_
    rw [List.map_map]
    refine List.map_congr_left fun entry _ => ?_
    obtain ⟨q, n⟩ := entry
    by_cases here : q = place <;> simp [here]
  · rename_i new
    have absent : place ∉ t.nodes.map (·.1) := by
      intro mem
      obtain ⟨entry, inside, rfl⟩ := List.mem_map.1 mem
      exact new (List.lookup_isSome_iff.2 ⟨entry, inside, beq_self_eq_true _⟩)
    constructor
    case distinct =>
      rw [List.map_append, List.map_singleton]
      exact (List.nodup_append'.2 ⟨h.distinct, List.nodup_singleton _, by simpa using absent⟩)
    case named =>
      intro q mem
      rw [List.map_append, List.map_singleton, List.mem_append, List.mem_singleton] at mem
      rcases mem with mem | rfl
      · exact h.named q mem
      · exact named

/-- Whatever was changed at named paths, the nodes are told apart by their places. -/
theorem Built.sound (h : Built t) : t.Sound := by
  induction h with
  | empty => exact ⟨List.nodup_nil, nofun⟩
  | @create t u cwd p node _ named made ih =>
    obtain ⟨place, own, put⟩ := bind_ok_iff.1 made
    have place_named : Named place := named.of_followPath own
    split at put
    · cases put
    · cases put
      exact ih.put place_named node
  | @write t u cwd p content _ named made ih =>
    obtain ⟨place, there, put⟩ := bind_ok_iff.1 made
    have place_named : Named place := named.of_followPath there
    split at put
    · cases put
    · cases put
      exact ih.put place_named _
  | @remove t u cwd p _ made ih =>
    obtain ⟨place, _, gone⟩ := bind_ok_iff.1 made
    have fewer : (t.nodes.filter (·.1 ≠ place)).Sublist t.nodes := List.filter_sublist
    split at gone
    · cases gone
    · cases gone
    · cases gone
      exact ⟨ih.distinct.sublist (fewer.map _), fun q mem => ih.named q ((fewer.map _).subset mem)⟩

/-- Directories are made one by one. -/
theorem Built.makeDirectories (h : Built t) (named : Named cwd)
    (made : t.makeDirectories cwd p = .ok u) : Built u := by
  have settled : ∀ {t u : FileTree} {p : Path} {e : FileError}, Built t →
      t.settle cwd p e = .ok u → Built u := by
    intro t u p e built made
    unfold FileTree.settle at made
    split at made
    · split at made
      · cases made
        exact built
      · cases made
    · cases made
  fun_induction FileTree.makeDirectories t cwd p generalizing u with
  | case1 p v made_v =>
    cases made
    exact .create h named made_v
  | case2 => cases made
  | case3 p missing below ih =>
    obtain ⟨v, made_v, rest⟩ := bind_ok_iff.1 made
    have built := ih made_v
    split at rest
    · rename_i made_u
      cases rest
      exact .create built named made_u
    · cases rest
    · exact settled built rest
  | case4 p e _ _ => exact settled h made

end EpubLibrary.FileTree
