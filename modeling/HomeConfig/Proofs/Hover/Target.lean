import HomeConfig.Hover
import HomeConfig.Proofs.Document.Token

/-!
# What a reference is taken for

The place where a pointer rests is told by the token there and by the line, without regard to what
refers to the token.  Where the token is a reference to an entity or a service, it is found as it
stands, with the same range.  Which of the two it is taken for depends on the line alone: it is a
service if a key for services stands anywhere on the line, in lower case.
-/

namespace HomeConfig

namespace HoverTarget

open Recogniser Reference

/-- A line has a key for services at the start of a word, written in lower case. -/
def HasServiceKey (line : Text) : Prop :=
  ∃ key ∈ ["service:", "action:"], ∃ before after,
    line = before ++ key.toList ++ after ∧ Text.wordMayStart before.getLast? = true

theorem callsService_iff (line : Text) : callsService line = true ↔ HasServiceKey line := by
  constructor
  · intro calls
    rcases Option.isSome_iff_exists.mp calls with ⟨found, first⟩
    rcases Text.exists_of_mem_scan (List.mem_of_mem_head? first) with
      ⟨before, cursor, after, stands, read⟩
    rcases bind_eq_some read with ⟨_, between, required, read⟩
    rcases require_eq_some required with ⟨rfl, mayStart⟩
    rcases firstOf_eq_some read with ⟨choice, member, chosen⟩
    have literals : ∃ key ∈ ["service:", "action:"], choice = literal key.toList := by
      simpa using member
    rcases literals with ⟨key, isKey, rfl⟩
    refine ⟨key, isKey, before, after.rest, ?_, mayStart⟩
    rw [stands.rest, (literal_eq_some chosen).rest, List.append_assoc]
  · rintro ⟨key, isKey, before, after, rfl, mayStart⟩
    have some_ : key.toList ++ after ≠ [] := by
      rcases (by simpa using isKey : key = "service:" ∨ key = "action:") with rfl | rfl
      · exact List.cons_ne_nil _ _
      · exact List.cons_ne_nil _ _
    rw [List.append_assoc]
    refine Text.isSome_search some_ ?_
    have listed : literal key.toList ∈ [literal "service:".toList, literal "action:".toList] := by
      rcases (by simpa using isKey : key = "service:" ∨ key = "action:") with rfl | rfl
      · exact List.mem_cons_self
      · exact List.mem_cons_of_mem _ List.mem_cons_self
    unfold serviceKey
    rw [mayStart, StateT.run_bind]
    exact isSome_firstOf listed (by rw [run_literal_append]; rfl)

instance (line : Text) : Decidable (HasServiceKey line) :=
  decidable_of_iff _ (callsService_iff line)

theorem isDottedName_of_isDotted {name : Text} (dotted : IsDotted name) :
    isDottedName name = true := by
  rcases dotted with ⟨domain, rest, rfl, someDomain, someName, letters, chars⟩
  have noDot : '.' ∉ domain := fun dot => absurd (letters '.' dot) (by decide)
  unfold isDottedName
  rw [Text.cut_append noDot]
  simp only [Bool.and_eq_true, Bool.not_eq_true', List.isEmpty_eq_false_iff, List.all_eq_true]
  exact ⟨⟨⟨someDomain, letters⟩, someName⟩, chars⟩

/-- At every place that it touches, a reference in a text of basic characters is taken for a service
or an entity of its name, according to its line. -/
theorem find_of_mem {text : Text} (basic : ∀ c ∈ text, c.toNat < 0x80) {reference : Reference}
    (member : reference ∈ entities text ++ services text)
    (noDot : ¬ DotFollows text reference.range) {position : Position}
    (touches : reference.range.Touches position) :
    find text position =
      if HasServiceKey (Text.lineAt text reference.range.start.line) then
        .service reference.value reference.range
      else .entity reference.value reference.range := by
  rcases exists_isToken_of_mem member with ⟨excerpt, front, token⟩
  rcases token.tokenSpan_eq basic noDot touches with ⟨line, inside, span⟩
  have cut := token.stands.cut_eq
  have dotted : isDottedName ((text.take excerpt.stop).drop excerpt.start) = true := by
    rw [cut]
    exact isDottedName_of_isDotted token.dotted
  rw [find, if_neg (Nat.not_le.mpr inside)]
  simp only [span, Option.filter_some, dotted, if_true, ← callsService_iff, line]
  rw [cut, token.value, token.range]
  rfl

end HoverTarget

end HomeConfig
