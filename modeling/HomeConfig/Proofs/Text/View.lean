import HomeConfig.Proofs.Text.Scan

/-!
# Recognisers in another text

What is found in a text may be found in another one too: in a longer text that has it as a part, or
in the same text with other ends of lines.  Such a text has a place for every place of the first one
(`Cursor.View`), and a recogniser that reads the same at both has moved to places that belong
together again.

`Seen` says this of two recognisers, one for either text, since what is read may have to be carried
over too: an excerpt starts somewhere else in the other text.  It is enough to show it of the steps
that look at characters; putting recognisers together keeps it.
-/

namespace HomeConfig

/-- How places of a text are seen as places of another one.  From a place that is seen, a cursor
only moves to places that are seen. -/
structure Cursor.View where
  sees : Cursor → Prop
  place : Cursor → Cursor
  moves {cursor after : Cursor} {passed : Text} :
    sees cursor → cursor.Moves passed after → sees after

namespace Recogniser

variable {α β : Type} {view : Cursor.View} {carry : α → α} {carryNext : β → β}

/-- A recogniser reads in the other text what another one reads in the text, and that one only goes
on. -/
structure Seen (view : Cursor.View) (carry : α → α) (outer inner : Recogniser α) : Prop where
  same (cursor : Cursor) : view.sees cursor → StateT.run outer (view.place cursor) =
    (StateT.run inner cursor).map fun (result, after) => (carry result, view.place after)
  advances (cursor after : Cursor) (result : α) :
    StateT.run inner cursor = some (result, after) → ∃ passed, cursor.Moves passed after

namespace Seen

theorem pure (result : α) :
    Seen view carry (Pure.pure (carry result)) (Pure.pure result) where
  same := fun _ _ => rfl
  advances := by
    intro cursor after result read
    exact ⟨[], (pure_eq_some read).2 ▸ .refl _⟩

theorem bind {outer inner : Recogniser α} {outerNext innerNext : α → Recogniser β}
    (first : Seen view carry outer inner)
    (next : ∀ result, Seen view carryNext (outerNext (carry result)) (innerNext result)) :
    Seen view carryNext (outer >>= outerNext) (inner >>= innerNext) where
  same := by
    intro cursor sees
    rw [StateT.run_bind, StateT.run_bind, first.same cursor sees]
    cases read : StateT.run inner cursor with
    | none => rfl
    | some found =>
      rcases first.advances _ _ _ read with ⟨passed, moves⟩
      exact (next found.1).same found.2 (view.moves sees moves)
  advances := by
    intro cursor after result read
    rcases bind_eq_some read with ⟨found, between, here, there⟩
    rcases first.advances _ _ _ here with ⟨passed, moves⟩
    rcases (next found).advances _ _ _ there with ⟨later, goesOn⟩
    exact ⟨_, moves.trans goesOn⟩

theorem failure : Seen view carry Alternative.failure Alternative.failure where
  same := fun _ _ => rfl
  advances := nofun

theorem firstOf {choices : List (Recogniser α)}
    (all : ∀ choice ∈ choices, Seen view carry choice choice) :
    Seen view carry (firstOf choices) (firstOf choices) where
  same := by
    intro cursor sees
    induction choices with
    | nil => rfl
    | cons choice others inductionHypothesis =>
      rw [List.forall_mem_cons] at all
      have here := all.1.same cursor sees
      have there := inductionHypothesis all.2
      simp only [Recogniser.firstOf, StateT.run] at here there ⊢
      rw [here]
      cases choice cursor with
      | none => exact there
      | some found => rfl
  advances := by
    intro cursor after result read
    rcases firstOf_eq_some read with ⟨choice, member, chosen⟩
    exact (all choice member).advances _ _ _ chosen

/-- Where a character that is passed is seen, one that may be passed is seen too. -/
theorem skipOne_of_one {accepts : Char → Bool} (passed : Seen view id (one accepts) (one accepts)) :
    Seen view id (skipOne accepts) (skipOne accepts) := by
  rw [skipOne_eq_firstOf]
  apply firstOf
  intro choice member
  rcases List.mem_pair.mp member with rfl | rfl
  · apply passed.bind
    intro _
    exact pure ()
  · exact pure ()

theorem require (condition : Bool) :
    Seen view id (require condition) (require condition) := by
  unfold Recogniser.require
  split
  · exact pure ()
  · exact failure

end Seen

end Recogniser

end HomeConfig
