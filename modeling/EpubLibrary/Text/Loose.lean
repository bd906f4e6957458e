import EpubLibrary.Text.Charset.Unicode

/-!
# Loose texts

A text in memory may hold surrogates that stand alone, for which UTF-8 has no bytes. Identifiers and
titles that come from outside may be such texts, and nothing stores them.
-/

namespace EpubLibrary

/-- The number of a surrogate, counted from the first of them. -/
abbrev Surrogate := Fin 0x800

inductive LooseText where
  | text (s : String)
  /-- what stands before the first surrogate that stands alone, the surrogate, and the rest -/
  | stray (before : String) (unit : Surrogate) (after : List (Char ⊕ Surrogate))
  deriving DecidableEq

namespace LooseText

instance : Coe String LooseText := ⟨.text⟩

def unitOf (s : Surrogate) : Nat := 0xD800 + s

/-- The surrogates at the front. -/
def leadingUnits : List (Char ⊕ Surrogate) → List Nat
  | .inr s :: rest => unitOf s :: leadingUnits rest
  | _ => []

/-- The text itself, or the first surrogates that have no bytes. -/
def strict : LooseText → Except Text.Charset.Stray String
  | .text s => .ok s
  | .stray before unit after => .error ⟨before.length, unitOf unit :: leadingUnits after⟩

/-- A surrogate as messages spell it. -/
def escape (s : Surrogate) : String := "\\u" ++ String.ofList (Text.hexDigits 4 (unitOf s))

/-- The text as messages show it. -/
def shown : LooseText → String
  | .text s => s
  | .stray before unit after =>
    before ++ escape unit ++ String.join (after.map fun
      | .inl c => String.singleton c
      | .inr s => escape s)

@[simp] theorem strict_text (s : String) : (LooseText.text s).strict = .ok s := rfl

theorem strict_ok_iff {x : LooseText} {s : String} : x.strict = .ok s ↔ x = s := by
  cases x with
  | text s => simp
  | stray before unit after => simp [strict]

end LooseText
end EpubLibrary
