import EpubLibrary.Html.Event
import EpubLibrary.Proofs.Html.Tags

namespace EpubLibrary.Html

/-! ## Steps -/

/-- Reading from one point of a markup text to another. -/
inductive Reads : Stage × Builder × List Char → Stage × Builder × List Char → Prop where
  | refl (p : Stage × Builder × List Char) : Reads p p
  | step {stage : Stage} {b : Builder} {s : List Char} {p q : Stage × Builder × List Char}
      (next : step stage b s = p) (shorter : p.2.2.length < s.length) (more : Reads p q) :
      Reads (stage, b, s) q

theorem Reads.trans {p q r : Stage × Builder × List Char} (h : Reads p q) (h' : Reads q r) :
    Reads p r := by
  induction h with
  | refl => exact h'
  | step next shorter _ ih => exact .step next shorter (ih h')

theorem Reads.one {stage : Stage} {b : Builder} {s : List Char} {p : Stage × Builder × List Char}
    (next : Html.step stage b s = p) (shorter : p.2.2.length < s.length) : Reads (stage, b, s) p :=
  .step next shorter (.refl p)

/-- A reading that ends is what `readAll` does, if it may take a step for each character. -/
theorem readAll_of_reads {p q : Stage × Builder × List Char} (h : Reads p q) (ends : q.2.2 = [])
    {fuel : Nat} (enough : p.2.2.length < fuel) : readAll fuel p.1 p.2.1 p.2.2 = q.2.1 := by
  induction h generalizing fuel with
  | refl p =>
    obtain ⟨fuel, rfl⟩ : ∃ n, fuel = n + 1 := ⟨fuel - 1, by omega⟩
    rw [ends]
    rfl
  | @step stage b s p q next shorter _ ih =>
    obtain ⟨fuel, rfl⟩ : ∃ n, fuel = n + 1 := ⟨fuel - 1, by omega⟩
    cases s with
    | nil => simp at shorter
    | cons c s =>
      rw [List.length_cons] at shorter
      simp only [List.length_cons] at enough
      have := ih ends (by omega : p.2.2.length < fuel)
      rw [← this, ← next]
      rfl

theorem skip_tag (stage : Stage) (s : List Char) :
    (if stage = .content then '<' :: s else skipSpace ('<' :: s)) = '<' :: s := by
  split
  · rfl
  · exact skipSpace_cons (by decide) s

theorem isLetter_ne {c : Char} (h : isLetter c = true) : c ≠ '!' ∧ c ≠ '?' ∧ c ≠ '/' ∧ c ≠ '>' := by
  refine ⟨?_, ?_, ?_, ?_⟩ <;> (rintro rfl; exact absurd h (by decide))

theorem step_letter (stage : Stage) (b : Builder) {c : Char} (h : isLetter c = true)
    (s : List Char) :
    step stage b ('<' :: c :: s) =
      let read := Tag.read (c :: s)
      let opened := b.start read.1
      if opened.stack.head? = some read.1.name ∧ read.1.ending = .closed ∧
          reading read.1.name ≠ .markup then (.content, readRaw opened read.1.name read.2)
      else (.content, opened, read.2) := by
  obtain ⟨notBang, notQuestion, notSlash, -⟩ := isLetter_ne h
  unfold step
  rw [skip_tag]
  generalize (if stage = .start ∨ stage = .beforeType then Stage.afterType else .content) = later
  dsimp only
  split
  · next e => exact absurd (List.cons.inj (List.cons.inj e).2).1 notBang
  · next e => exact absurd (List.cons.inj (List.cons.inj e).2).1 notQuestion
  · next e => exact absurd (List.cons.inj (List.cons.inj e).2).1 notSlash
  · next e => exact absurd (List.cons.inj (List.cons.inj e).2).1 notSlash
  · next e =>
    obtain ⟨rfl, rfl⟩ := List.cons.inj (List.cons.inj e).2
    rw [if_pos h]
  · next other => exact absurd rfl (other _ _)

theorem step_endTag (stage : Stage) (b : Builder) {c : Char} (h : isLetter c = true)
    (s : List Char) :
    step stage b ('<' :: '/' :: c :: s) =
      (.content, b.finish (Tag.read (c :: s)).1.name, (Tag.read (c :: s)).2) := by
  obtain ⟨-, -, -, notGt⟩ := isLetter_ne h
  unfold step
  rw [skip_tag]
  generalize (if stage = .start ∨ stage = .beforeType then Stage.afterType else .content) = later
  dsimp only
  split
  · next e => cases e
  · next e => cases e
  · next e => exact absurd (List.cons.inj (List.cons.inj (List.cons.inj e).2).2).1 notGt
  · next e =>
    obtain ⟨rfl, rfl⟩ := List.cons.inj (List.cons.inj (List.cons.inj e).2).2
    rw [if_pos h]
  · next slash e =>
    obtain ⟨hc, hs⟩ := List.cons.inj (List.cons.inj e).2
    exact absurd (hs.symm) (slash _ _ hc.symm)
  · next slash _ => exact absurd rfl (slash _ _)

theorem step_comment (stage : Stage) (b : Builder) (s : List Char) :
    step stage b ('<' :: '!' :: '-' :: '-' :: s) =
      (step.stay stage, b.emit (.comment (readComment s).1), (readComment s).2) := by
  unfold step
  rw [skip_tag]
  rfl

theorem stay_ne_content {stage : Stage} (h : stage ≠ .content) : step.stay stage ≠ .content := by
  cases stage with
  | content => exact absurd rfl h
  | start => decide
  | _ => exact h

/-- After a comment, a document that had no type waits for it. -/
theorem stay_of_untyped {stage : Stage} (h : stage = .start ∨ stage = .beforeType) :
    step.stay stage = .beforeType := by
  rcases h with rfl | rfl <;> rfl

theorem step_doctype (stage : Stage) (b : Builder) (s : List Char) :
    step stage b ('<' :: '!' :: 'D' :: 'O' :: 'C' :: 'T' :: 'Y' :: 'P' :: 'E' :: s) =
      (if stage = .start ∨ stage = .beforeType then .afterType else .content,
        b.emit (.doctype (Doctype.read s).1.toText), (Doctype.read s).2) := by
  have word : startsWithWord "doctype".toList ('D' :: 'O' :: 'C' :: 'T' :: 'Y' :: 'P' :: 'E' :: s) =
      true := rfl
  unfold step
  rw [skip_tag]
  generalize (if stage = .start ∨ stage = .beforeType then Stage.afterType else .content) = later
  dsimp only
  split
  · next e =>
    obtain rfl := (List.cons.inj (List.cons.inj e).2).2
    rw [if_pos word]
    rfl
  · next e => cases e
  · next e => cases e
  · next e => cases e
  · next bang _ _ _ e => exact absurd (List.cons.inj (List.cons.inj e).2).1.symm bang
  · next bang _ _ _ _ => exact absurd rfl (bang _)

theorem step_text (b : Builder) {c : Char} (h : c ≠ '<') (s : List Char) :
    step .content b (c :: s) =
      (.content, b.addText (decodeReferences false ((c :: s.takeWhile (· ≠ '<')).map showNull)),
        s.dropWhile (· ≠ '<')) := by
  unfold step
  rw [if_pos rfl]
  generalize (if Stage.content = .start ∨ Stage.content = .beforeType then Stage.afterType
    else .content) = later
  dsimp only
  split
  all_goals first | (next e => exact absurd (List.cons.inj e).1 h) | rfl

end EpubLibrary.Html
