import HomeConfig.Proofs.Text.Position
import HomeConfig.Text.Word
import Mathlib.Data.List.Forall2
import Mathlib.Data.List.TakeWhile

/-!
# What recognisers read

A recogniser that succeeds has moved its cursor over a part of the text (`Cursor.Moves`).  For each
way to build a recogniser there is one statement of what that part is made of, so what a whole shape
has read is found by going through its steps.
-/

namespace HomeConfig

/-- A cursor moves over a part of a text to another place. -/
structure Cursor.Moves (cursor : Cursor) (passed : Text) (after : Cursor) : Prop where
  rest : cursor.rest = passed ++ after.rest
  offset : after.offset = cursor.offset + passed.length

namespace Cursor.Moves

variable {first second third : Cursor} {passed later : Text}

theorem refl (cursor : Cursor) : cursor.Moves [] cursor :=
  ⟨rfl, rfl⟩

theorem trans (moves : first.Moves passed second) (goesOn : second.Moves later third) :
    first.Moves (passed ++ later) third := by
  constructor
  · rw [moves.rest, goesOn.rest, List.append_assoc]
  · rw [goesOn.offset, moves.offset, List.length_append, Nat.add_assoc]

end Cursor.Moves

namespace Recogniser

variable {α β : Type} {cursor after : Cursor}

theorem bind_eq_some {first : Recogniser α} {next : α → Recogniser β} {result : β}
    (read : StateT.run (first >>= next) cursor = some (result, after)) :
    ∃ found between, StateT.run first cursor = some (found, between) ∧
      StateT.run (next found) between = some (result, after) := by
  rw [StateT.run_bind] at read
  rcases Option.bind_eq_some_iff.mp read with ⟨⟨found, between⟩, first, rest⟩
  exact ⟨found, between, first, rest⟩

theorem pure_eq_some {value result : α}
    (read : StateT.run (pure value : Recogniser α) cursor = some (result, after)) :
    value = result ∧ cursor = after := by
  cases read
  exact ⟨rfl, rfl⟩

theorem run_eq_some {accepts : Char → Bool} {found : Excerpt}
    (read : StateT.run (run accepts) cursor = some (found, after)) :
    found.start = cursor.offset ∧ cursor.Moves found.text after ∧
      (∀ c ∈ found.text, accepts c = true) ∧ after.rest.head?.any accepts = false := by
  cases read
  refine ⟨rfl, ⟨List.takeWhile_append_dropWhile.symm, rfl⟩, ?_, ?_⟩
  · intro c member
    exact List.mem_takeWhile_imp member
  · have stops := List.head?_dropWhile_not accepts cursor.rest
    cases next : (cursor.rest.dropWhile accepts).head? with
    | none => rfl
    | some c => simpa [next] using stops

theorem run1_eq_some {accepts : Char → Bool} {found : Excerpt}
    (read : StateT.run (run1 accepts) cursor = some (found, after)) :
    found.start = cursor.offset ∧ cursor.Moves found.text after ∧ found.text ≠ [] ∧
      (∀ c ∈ found.text, accepts c = true) ∧ after.rest.head?.any accepts = false := by
  rcases bind_eq_some read with ⟨taken, between, first, rest⟩
  rcases run_eq_some first with ⟨start, moves, all, stops⟩
  split at rest
  · cases rest
  · next some_ =>
    rcases pure_eq_some rest with ⟨rfl, rfl⟩
    exact ⟨start, moves, by simpa using some_, all, stops⟩

theorem skip_eq_some {accepts : Char → Bool} {result : Unit}
    (read : StateT.run (skip accepts) cursor = some (result, after)) :
    ∃ passed, cursor.Moves passed after ∧ ∀ c ∈ passed, accepts c = true := by
  rcases bind_eq_some read with ⟨taken, between, first, rest⟩
  rcases run_eq_some first with ⟨_, moves, all, _⟩
  rcases pure_eq_some rest with ⟨_, rfl⟩
  exact ⟨taken.text, moves, all⟩

theorem one_eq_some {accepts : Char → Bool} {c : Char}
    (read : StateT.run (one accepts) cursor = some (c, after)) :
    cursor.Moves [c] after ∧ accepts c = true := by
  obtain ⟨offset, rest⟩ := cursor
  cases rest with
  | nil => cases read
  | cons d rest =>
    have step : (if accepts d then some (d, ⟨offset + 1, rest⟩) else none) = some (c, after) := read
    split at step
    · cases step
      exact ⟨⟨rfl, rfl⟩, ‹_›⟩
    · cases step

theorem literalBy_eq_some {same : Char → Char → Bool} {expected : Text} {result : Unit}
    (read : StateT.run (literalBy same expected) cursor = some (result, after)) :
    ∃ passed, cursor.Moves passed after ∧
      List.Forall₂ (fun wanted c => same wanted c = true) expected passed := by
  induction expected generalizing cursor with
  | nil =>
    rcases pure_eq_some read with ⟨_, rfl⟩
    exact ⟨[], .refl _, .nil⟩
  | cons wanted expected inductionHypothesis =>
    rcases bind_eq_some read with ⟨c, between, first, rest⟩
    rcases one_eq_some first with ⟨moves, accepted⟩
    rcases inductionHypothesis rest with ⟨passed, goesOn, others⟩
    exact ⟨c :: passed, moves.trans goesOn, .cons accepted others⟩

theorem literal_eq_some {expected : Text} {result : Unit}
    (read : StateT.run (literal expected) cursor = some (result, after)) :
    cursor.Moves expected after := by
  rcases literalBy_eq_some read with ⟨passed, moves, same⟩
  have equal : List.Forall₂ Eq expected passed := same.imp fun _ _ => eq_of_beq
  rw [List.forall₂_eq_eq_eq] at equal
  rw [equal]
  exact moves

/-- A text is passed where it stands. -/
theorem run_literal_append (expected rest : Text) (offset : Nat) :
    StateT.run (literal expected) ⟨offset, expected ++ rest⟩ =
      some ((), ⟨offset + expected.length, rest⟩) := by
  induction expected generalizing offset with
  | nil => rfl
  | cons c expected inductionHypothesis =>
    have passes : StateT.run (one (c == ·)) ⟨offset, c :: (expected ++ rest)⟩ =
        some (c, ⟨offset + 1, expected ++ rest⟩) := if_pos (beq_self_eq_true c)
    have goesOn := inductionHypothesis (offset + 1)
    unfold literal at goesOn ⊢
    rw [literalBy, StateT.run_bind, List.cons_append, passes]
    simp only [Option.bind_eq_bind, Option.bind_some, goesOn, List.length_cons]
    rw [Nat.add_assoc, Nat.add_comm 1]

theorem firstOf_eq_some {choices : List (Recogniser α)} {result : α}
    (read : StateT.run (firstOf choices) cursor = some (result, after)) :
    ∃ choice ∈ choices, StateT.run choice cursor = some (result, after) := by
  induction choices with
  | nil => cases read
  | cons choice others inductionHypothesis =>
    rw [firstOf] at read
    dsimp only [StateT.run] at read
    split at read
    next found => exact ⟨choice, by simp, found.trans read⟩
    next =>
      rcases inductionHypothesis read with ⟨other, member, found⟩
      exact ⟨other, List.mem_cons_of_mem _ member, found⟩

/-- To pass a character if there is one is to pass one or to stay. -/
theorem skipOne_eq_firstOf (accepts : Char → Bool) :
    skipOne accepts = firstOf [one accepts >>= fun _ => pure (), pure ()] := by
  funext cursor
  obtain ⟨offset, rest⟩ := cursor
  cases rest with
  | nil => rfl
  | cons c rest =>
    have passes : StateT.run (one accepts) ⟨offset, c :: rest⟩ =
        if accepts c then some (c, ⟨offset + 1, rest⟩) else none := rfl
    simp only [skipOne, firstOf, StateT.run_bind, passes]
    cases accepts c with
    | true => rfl
    | false => rfl

theorem skipOne_eq_some {accepts : Char → Bool} {result : Unit}
    (read : StateT.run (skipOne accepts) cursor = some (result, after)) :
    ∃ passed, cursor.Moves passed after ∧
      (passed = [] ∨ ∃ c, passed = [c] ∧ accepts c = true) := by
  rw [skipOne_eq_firstOf] at read
  rcases firstOf_eq_some read with ⟨choice, member, chosen⟩
  rcases List.mem_pair.mp member with rfl | rfl
  · rcases bind_eq_some chosen with ⟨c, between, first, rest⟩
    rcases one_eq_some first with ⟨moves, accepted⟩
    rcases pure_eq_some rest with ⟨_, rfl⟩
    exact ⟨[c], moves, Or.inr ⟨c, rfl, accepted⟩⟩
  · rcases pure_eq_some chosen with ⟨_, rfl⟩
    exact ⟨[], .refl _, Or.inl rfl⟩

/-- A choice is found where one of its cases is. -/
theorem isSome_firstOf {choices : List (Recogniser α)} {choice : Recogniser α}
    (member : choice ∈ choices) (found : (StateT.run choice cursor).isSome = true) :
    (StateT.run (firstOf choices) cursor).isSome = true := by
  induction choices with
  | nil => cases member
  | cons first others inductionHypothesis =>
    rw [firstOf]
    dsimp only [StateT.run] at found inductionHypothesis ⊢
    split
    next => rfl
    next none_ =>
      rcases List.mem_cons.mp member with rfl | later
      · rw [none_] at found
        cases found
      · exact inductionHypothesis later

theorem ahead_eq_some {accepts : Option Char → Bool} {result : Unit}
    (read : StateT.run (ahead accepts) cursor = some (result, after)) :
    cursor = after ∧ accepts after.rest.head? = true := by
  have step : (if accepts cursor.rest.head? then some ((), cursor) else none) =
      some (result, after) := read
  split at step
  · cases step
    exact ⟨rfl, ‹_›⟩
  · cases step

theorem require_eq_some {condition : Bool} {result : Unit}
    (read : StateT.run (require condition) cursor = some (result, after)) :
    cursor = after ∧ condition = true := by
  unfold require at read
  split at read
  · exact ⟨(pure_eq_some read).2, ‹_›⟩
  · cases read

/-- One of some keywords, in any case. -/
theorem anyKeyword_eq_some {words : List String} {result : Unit}
    (read : StateT.run (anyKeyword words) cursor = some (result, after)) :
    ∃ word ∈ words, ∃ passed, cursor.Moves passed after ∧
      List.Forall₂ (fun letter c => Text.sameLetter letter c = true) word.toList passed := by
  rcases firstOf_eq_some read with ⟨choice, member, found⟩
  rcases List.mem_map.mp member with ⟨word, wanted, rfl⟩
  exact ⟨word, wanted, literalBy_eq_some found⟩

/-! ## Names -/

/-- A name of letters, a dot, and letters and digits. -/
def IsDotted (text : Text) : Prop :=
  ∃ domain name, text = domain ++ '.' :: name ∧ domain ≠ [] ∧ name ≠ [] ∧
    (∀ c ∈ domain, Text.isNameLetter c = true) ∧ ∀ c ∈ name, Text.isNameChar c = true

/-- A name is read as far as it goes. -/
theorem dottedName_eq_some {found : Excerpt}
    (read : StateT.run dottedName cursor = some (found, after)) :
    found.start = cursor.offset ∧ cursor.Moves found.text after ∧ IsDotted found.text ∧
      after.rest.head?.any Text.isNameChar = false := by
  rcases bind_eq_some read with ⟨domain, second, first, read⟩
  rcases run1_eq_some first with ⟨start, moves, someDomain, letters, _⟩
  rcases bind_eq_some read with ⟨_, third, dot, read⟩
  rcases bind_eq_some read with ⟨name, fourth, last, read⟩
  rcases run1_eq_some last with ⟨_, goesOn, someName, chars, stops⟩
  rcases pure_eq_some read with ⟨rfl, rfl⟩
  refine ⟨start, ?_, ⟨domain.text, name.text, rfl, someDomain, someName, letters, chars⟩, stops⟩
  exact moves.trans ((literal_eq_some dot).trans goesOn)

end Recogniser

end HomeConfig
