import EpubLibrary.Path

namespace EpubLibrary

/-- The formats that can be imported. -/
inductive Format where
  | epub
  deriving DecidableEq

namespace Format

def all : List Format := [.epub]

/-- The suffix of the files of a format, in lower case. -/
def suffix : Format → String
  | .epub => ".epub"

/-- The lower case of an ASCII letter; no other character has one of the suffixes' letters for its
lower case. -/
def lower (c : Char) : Char :=
  if 'A' ≤ c ∧ c ≤ 'Z' then Char.ofNat (c.toNat + 32) else c

/-- The format of a path, if it is supported. -/
def ofPath? (p : Path) : Option Format :=
  all.find? fun f => f.suffix.toList = p.suffix.map lower

/-- A file is supported if its name ends in `.epub`, in upper or lower case, and is longer than
that. -/
theorem isSome_ofPath?_iff {p : Path} : (ofPath? p).isSome = true ↔
    ∃ stem ending, stem ≠ [] ∧ p.name = stem ++ '.' :: ending ∧
      ending.map lower = "epub".toList := by
  have only : (ofPath? p).isSome = true ↔ p.suffix.map lower = ".epub".toList := by
    rw [ofPath?, List.find?_isSome]
    constructor
    · rintro ⟨_ | _, _, same⟩
      exact (of_decide_eq_true same).symm
    · intro same
      exact ⟨.epub, List.mem_singleton_self _, decide_eq_true same.symm⟩
  have ends {ending : Component} (same : ending.map lower = "epub".toList) :
      p.suffix = '.' :: ending ↔ ∃ stem, stem ≠ [] ∧ p.name = stem ++ '.' :: ending := by
    refine Path.suffixOf_eq_iff ?_ fun dot => ?_
    · rintro rfl
      cases same
    · have mem := List.mem_map_of_mem (f := lower) dot
      rw [same] at mem
      revert mem
      decide
  rw [only]
  constructor
  · intro h
    rcases Path.suffixOf_eq_nil_or p.name with none | ⟨ending, eq⟩
    · rw [Path.suffix, none] at h
      cases h
    · rw [Path.suffix, eq] at h
      have same : ending.map lower = "epub".toList := (List.cons.inj h).2
      obtain ⟨stem, some, name⟩ := (ends same).1 eq
      exact ⟨stem, ending, some, name, same⟩
  · rintro ⟨stem, ending, some, name, same⟩
    rw [(ends same).2 ⟨stem, some, name⟩, List.map_cons, same]
    rfl

/-- Why a path with a suffix cannot be imported. -/
def unsupportedMessage (p : Path) : String :=
  "Unsupported format: " ++ String.ofList p.suffix ++ ". Supported: " ++
    ", ".intercalate (all.map suffix)

end Format
end EpubLibrary
