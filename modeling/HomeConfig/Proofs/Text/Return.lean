import HomeConfig.Proofs.Text.Line
import HomeConfig.Proofs.Text.Part
import HomeConfig.Proofs.Text.View

/-!
# Carriage returns in front of line feeds

On some systems a line ends in a carriage return and a line feed.  `Text.withReturns` writes a text
in this way.  Every place of the text is a place of the text with returns, further on by one
character for each line that has ended, but with the same line and the same column.

A step of a recogniser that takes a carriage return for what it takes a line feed for does not see
the difference.  A shape that is made of such steps, and that does not begin at the end of a line, is
found in the text with returns just where it is found in the text (`Text.scan_withReturns`).
-/

namespace HomeConfig

namespace Text

/-- A text in which a carriage return stands in front of every line feed. -/
def withReturns : Text → Text
  | [] => []
  | c :: rest => if c = '\n' then '\r' :: '\n' :: withReturns rest else c :: withReturns rest

theorem withReturns_feed (rest : Text) :
    withReturns ('\n' :: rest) = '\r' :: '\n' :: withReturns rest :=
  if_pos rfl

theorem withReturns_cons {c : Char} (different : c ≠ '\n') (rest : Text) :
    withReturns (c :: rest) = c :: withReturns rest :=
  if_neg different

theorem withReturns_append (text more : Text) :
    withReturns (text ++ more) = withReturns text ++ withReturns more := by
  induction text with
  | nil => rfl
  | cons c text inductionHypothesis =>
    by_cases feed : c = '\n'
    · subst feed
      rw [List.cons_append, withReturns_feed, withReturns_feed, inductionHypothesis]
      rfl
    · rw [List.cons_append, withReturns_cons feed, withReturns_cons feed, inductionHypothesis]
      rfl

theorem withReturns_of_plain {text : Text} (plain : '\n' ∉ text) : withReturns text = text := by
  induction text with
  | nil => rfl
  | cons c text inductionHypothesis =>
    simp only [List.mem_cons, not_or] at plain
    rw [withReturns_cons (Ne.symm plain.1), inductionHypothesis plain.2]

theorem isEmpty_withReturns (text : Text) : (withReturns text).isEmpty = text.isEmpty := by
  cases text with
  | nil => rfl
  | cons c text =>
    unfold withReturns
    split
    · rfl
    · rfl

/-- In front of a line feed there stands a carriage return. -/
theorem getLast?_of_feed {text front rest : Text}
    (shape : withReturns text = front ++ '\n' :: rest) : front.getLast? = some '\r' := by
  induction text generalizing front with
  | nil => simp [withReturns] at shape
  | cons c text inductionHypothesis =>
    by_cases feed : c = '\n'
    · subst feed
      rw [withReturns_feed] at shape
      match front with
      | [] => simp at shape
      | [d] =>
        rw [(List.cons.inj shape).1]
        rfl
      | d :: e :: front =>
        have later := inductionHypothesis (List.cons.inj (List.cons.inj shape).2).2
        rw [List.getLast?_cons_cons, List.getLast?_cons]
        simp [later]
    · rw [withReturns_cons feed] at shape
      cases front with
      | nil => exact absurd (List.cons.inj shape).1 feed
      | cons d front =>
        have later := inductionHypothesis (List.cons.inj shape).2
        simp [List.getLast?_cons, later]

theorem takeWhile_withReturns {accepts : Char → Bool} (even : accepts '\r' = accepts '\n')
    (text : Text) :
    (withReturns text).takeWhile accepts = withReturns (text.takeWhile accepts) ∧
      (withReturns text).dropWhile accepts = withReturns (text.dropWhile accepts) := by
  induction text with
  | nil => exact ⟨rfl, rfl⟩
  | cons c text inductionHypothesis =>
    by_cases feed : c = '\n'
    · subst feed
      cases taken : accepts '\n' with
      | true => simp [withReturns_feed, even, taken, inductionHypothesis]
      | false => simp [withReturns, even, taken]
    · cases taken : accepts c with
      | true => simp [withReturns_cons feed, taken, inductionHypothesis]
      | false => simp [withReturns, feed, taken]

end Text

theorem Position.behind_withReturns (text : Text) : behind (Text.withReturns text) = behind text := by
  induction text with
  | nil => rfl
  | cons c text inductionHypothesis =>
    by_cases feed : c = '\n'
    · subst feed
      have below : (behind ('\n' :: Text.withReturns text)).line ≠ 0 := by
        rw [behind_feed]
        exact Nat.succ_ne_zero _
      rw [Text.withReturns_feed, behind_cons (by decide), if_neg below, behind_feed, behind_feed,
        inductionHypothesis]
      rfl
    · rw [Text.withReturns_cons feed, behind_cons feed, behind_cons feed, inductionHypothesis]

/-! ## Places -/

/-- A place of a text as a place of the text with returns. -/
def Cursor.withReturns (text : Text) (cursor : Cursor) : Cursor :=
  ⟨(Text.withReturns (text.take cursor.offset)).length, Text.withReturns cursor.rest⟩

/-- A part of a text as a part of the text with returns. -/
def Excerpt.withReturns (text : Text) (excerpt : Excerpt) : Excerpt :=
  ⟨(Text.withReturns (text.take excerpt.start)).length, Text.withReturns excerpt.text⟩

namespace Cursor

variable {text before passed : Text} {cursor after : Cursor}

theorem StandsBehind.take_eq (stands : cursor.StandsBehind text before) :
    text.take cursor.offset = before := by
  rw [stands.offset, stands.rest, List.take_left]

theorem StandsBehind.offset_withReturns (stands : cursor.StandsBehind text before) :
    (cursor.withReturns text).offset = (Text.withReturns before).length := by
  rw [withReturns, stands.take_eq]

/-- A cursor moves in the text with returns over what it moves over in the text, with returns. -/
theorem StandsBehind.withReturns_moves (stands : cursor.StandsBehind text before)
    (moves : cursor.Moves passed after) :
    (cursor.withReturns text).Moves (Text.withReturns passed) (after.withReturns text) := by
  constructor
  · simp only [withReturns, moves.rest, Text.withReturns_append]
  · rw [stands.offset_withReturns, (stands.move moves).offset_withReturns, Text.withReturns_append,
      List.length_append]

/-- In front of a character that is no line feed, a cursor stands in front of the same character in
the text with returns, and it moves over it in the same way. -/
theorem StandsBehind.withReturns_cons {offset : Nat} {c : Char} {rest : Text}
    (stands : (⟨offset, c :: rest⟩ : Cursor).StandsBehind text before) (different : c ≠ '\n') :
    ∃ place, withReturns text ⟨offset, c :: rest⟩ = ⟨place, c :: Text.withReturns rest⟩ ∧
      withReturns text ⟨offset + 1, rest⟩ = ⟨place + 1, Text.withReturns rest⟩ := by
  have moves : (⟨offset, c :: rest⟩ : Cursor).Moves [c] ⟨offset + 1, rest⟩ := ⟨rfl, rfl⟩
  have reached := (stands.withReturns_moves moves).offset
  rw [Text.withReturns_cons different] at reached
  refine ⟨(Text.withReturns (text.take offset)).length, ?_, ?_⟩
  · rw [withReturns, Text.withReturns_cons different]
  · exact congrArg (Cursor.mk · (Text.withReturns rest)) reached

/-- A text with returns in the place of the text. -/
def View.withReturns (text : Text) : View where
  sees := fun cursor => ∃ before, cursor.StandsBehind text before
  place := Cursor.withReturns text
  moves := fun ⟨before, stands⟩ moves => ⟨before ++ _, stands.move moves⟩

end Cursor

/-! ## Steps of recognisers -/

namespace Recogniser

variable {text : Text} {accepts : Char → Bool}

/-- What stands at the end of a line is not taken. -/
structure StopsAtEnds (accepts : Char → Bool) : Prop where
  feed : accepts '\n' = false
  return_ : accepts '\r' = false

namespace Seen

/-- What is taken is taken with the line ends in it. -/
theorem run_returns (even : accepts '\r' = accepts '\n') :
    Seen (.withReturns text) (Excerpt.withReturns text) (run accepts) (run accepts) where
  same := by
    rintro cursor ⟨before, stands⟩
    rcases Text.takeWhile_withReturns even cursor.rest with ⟨taken, dropped⟩
    have moves : cursor.Moves (cursor.rest.takeWhile accepts)
        ⟨cursor.offset + (cursor.rest.takeWhile accepts).length, cursor.rest.dropWhile accepts⟩ :=
      ⟨List.takeWhile_append_dropWhile.symm, rfl⟩
    have reached := (stands.withReturns_moves moves).offset
    simp only [Cursor.withReturns] at reached
    simp only [StateT.run, run, Cursor.View.withReturns, Cursor.withReturns, Excerpt.withReturns,
      taken, dropped, Option.map_some, reached]
  advances := by
    intro cursor after result read
    exact ⟨_, (run_eq_some read).2.1⟩

theorem run1_returns (even : accepts '\r' = accepts '\n') :
    Seen (.withReturns text) (Excerpt.withReturns text) (run1 accepts) (run1 accepts) := by
  apply (run_returns even).bind
  intro found
  have same : (found.withReturns text).text.isEmpty = found.text.isEmpty :=
    Text.isEmpty_withReturns found.text
  rw [same]
  split
  · exact failure
  · exact pure found

theorem skip_returns (even : accepts '\r' = accepts '\n') :
    Seen (.withReturns text) id (skip accepts) (skip accepts) := by
  apply (run_returns even).bind
  intro _
  exact pure ()

theorem one_returns (stops : StopsAtEnds accepts) :
    Seen (.withReturns text) id (one accepts) (one accepts) where
  same := by
    rintro ⟨offset, rest⟩ ⟨before, stands⟩
    cases rest with
    | nil => rfl
    | cons c rest =>
      by_cases feed : c = '\n'
      · subst feed
        simp [StateT.run, one, Cursor.View.withReturns, Cursor.withReturns, Text.withReturns_feed,
          stops.feed, stops.return_]
      · rcases stands.withReturns_cons feed with ⟨place, here, next⟩
        cases accepted : accepts c with
        | true => simp [StateT.run, one, Cursor.View.withReturns, here, next, accepted]
        | false => simp [StateT.run, one, Cursor.View.withReturns, here, accepted]
  advances := by
    intro cursor after result read
    exact ⟨_, (one_eq_some read).1⟩

theorem skipOne_returns (stops : StopsAtEnds accepts) :
    Seen (.withReturns text) id (skipOne accepts) (skipOne accepts) :=
  (one_returns stops).skipOne_of_one

theorem literalBy_returns {same : Char → Char → Bool} {expected : Text}
    (stops : ∀ wanted ∈ expected, StopsAtEnds (same wanted)) :
    Seen (.withReturns text) id (literalBy same expected) (literalBy same expected) := by
  induction expected with
  | nil => exact pure ()
  | cons wanted expected inductionHypothesis =>
    rw [List.forall_mem_cons] at stops
    apply (one_returns stops.1).bind
    intro _
    exact inductionHypothesis stops.2

theorem ahead_returns {accepts : Option Char → Bool}
    (even : accepts (some '\r') = accepts (some '\n')) :
    Seen (.withReturns text) id (ahead accepts) (ahead accepts) where
  same := by
    rintro ⟨offset, rest⟩ _
    have next : accepts (Text.withReturns rest).head? = accepts rest.head? := by
      cases rest with
      | nil => rfl
      | cons c rest =>
        by_cases feed : c = '\n'
        · subst feed
          exact even
        · rw [Text.withReturns_cons feed]
          rfl
    simp only [StateT.run, ahead, Cursor.View.withReturns, Cursor.withReturns, next]
    split
    · rfl
    · rfl
  advances := by
    intro cursor after result read
    exact ⟨[], (ahead_eq_some read).1 ▸ .refl _⟩

theorem dottedName_returns :
    Seen (.withReturns text) (Excerpt.withReturns text) dottedName dottedName := by
  apply (run1_returns (by decide)).bind
  intro domain
  apply (literalBy_returns (by simpa using ⟨rfl, rfl⟩)).bind
  intro _
  apply (run1_returns (by decide)).bind
  intro name
  have whole : (⟨(domain.withReturns text).start, (domain.withReturns text).text ++
        '.' :: (name.withReturns text).text⟩ : Excerpt) =
      Excerpt.withReturns text ⟨domain.start, domain.text ++ '.' :: name.text⟩ := by
    rw [Excerpt.withReturns, Excerpt.withReturns, Excerpt.withReturns, Text.withReturns_append,
      Text.withReturns_cons (by decide)]
  rw [whole]
  exact pure _

end Seen

end Recogniser

/-! ## Scanning -/

namespace Text

open Recogniser

variable {α : Type} {shape : Option Char → Recogniser α} {text : Text} {carry : α → α}

/-- A shape does not begin at the end of a line. -/
def BeginsOnLine (shape : Option Char → Recogniser α) : Prop :=
  ∀ before offset c rest, c = '\n' ∨ c = '\r' →
    StateT.run (shape before) ⟨offset, c :: rest⟩ = none

/-- A scan passes the end of a line. -/
theorem BeginsOnLine.scanFrom_cons (begins : BeginsOnLine shape) {c : Char}
    (isEnd : c = '\n' ∨ c = '\r') (last : Option Char) (offset skip : Nat) (rest : Text) :
    scanFrom shape last offset skip (c :: rest) =
      scanFrom shape (some c) (offset + 1) (skip - 1) rest := by
  cases skip with
  | succ skip => rfl
  | zero => rw [scanFrom, begins last offset c rest isEnd]

/-- What a find has passed is still to be passed, without its first character. -/
theorem length_toPass {c : Char} (different : c ≠ '\n') {passed tail : Text}
    (shape : c :: rest = passed ++ tail) :
    passed.length - 1 ≤ rest.length ∧
      (withReturns (rest.take (passed.length - 1))).length = (withReturns passed).length - 1 := by
  cases passed with
  | nil => exact ⟨Nat.zero_le _, rfl⟩
  | cons d passed =>
    rcases List.cons.inj shape with ⟨rfl, rfl⟩
    simp [withReturns_cons different]

theorem scanFrom_withReturns
    (seen : ∀ before, Seen (.withReturns text) carry (shape before) (shape before))
    (begins : BeginsOnLine shape) (before : Text) {rest : Text} {skip : Nat}
    (whole : text = before ++ rest) (inside : skip ≤ rest.length) :
    scanFrom shape before.getLast? (withReturns before).length
        (withReturns (rest.take skip)).length (withReturns rest) =
      (scanFrom shape before.getLast? before.length skip rest).map carry := by
  induction rest generalizing before skip with
  | nil => simp [withReturns, scanFrom]
  | cons c rest inductionHypothesis =>
    have goesOn {skip : Nat} (inside : skip ≤ rest.length) :
        scanFrom shape (some c) (withReturns (before ++ [c])).length
            (withReturns (rest.take skip)).length (withReturns rest) =
          (scanFrom shape (some c) (before.length + 1) skip rest).map carry := by
      have later := inductionHypothesis (before ++ [c]) (by simp [whole]) inside
      simpa using later
    rw [withReturns_append, List.length_append] at goesOn
    by_cases feed : c = '\n'
    · subst feed
      have toPass : (withReturns (('\n' :: rest).take skip)).length - 1 - 1 =
          (withReturns (rest.take (skip - 1))).length := by
        cases skip <;> rfl
      rw [withReturns_feed, begins.scanFrom_cons (Or.inr rfl), begins.scanFrom_cons (Or.inl rfl),
        begins.scanFrom_cons (Or.inl rfl), toPass]
      exact goesOn (Nat.sub_le_of_le_add inside)
    · rw [withReturns_cons feed] at goesOn ⊢
      cases skip with
      | succ skip =>
        rw [List.take_succ_cons, withReturns_cons feed]
        exact goesOn (Nat.le_of_succ_le_succ inside)
      | zero =>
        have stands : (⟨before.length, c :: rest⟩ : Cursor).StandsBehind text before := ⟨rfl, whole⟩
        have placed : (Cursor.View.withReturns text).place ⟨before.length, c :: rest⟩ =
            ⟨(withReturns before).length, c :: withReturns rest⟩ := by
          have taken := stands.take_eq
          simp only [Cursor.View.withReturns, Cursor.withReturns, taken, withReturns_cons feed]
        have here := (seen before.getLast?).same _ ⟨before, stands⟩
        rw [placed] at here
        rw [List.take_zero, scanFrom, withReturns, List.length_nil, scanFrom, here]
        cases read : StateT.run (shape before.getLast?) ⟨before.length, c :: rest⟩ with
        | none => exact goesOn (Nat.zero_le _)
        | some found =>
          rcases found with ⟨result, after⟩
          rcases (seen before.getLast?).advances _ _ _ read with ⟨passed, moves⟩
          have reached : ((Cursor.View.withReturns text).place after).offset =
              (withReturns before).length + (withReturns passed).length := by
            rw [← List.length_append, ← withReturns_append]
            exact (stands.move moves).offset_withReturns
          have toPass := length_toPass feed moves.rest
          have later := goesOn toPass.1
          rw [toPass.2] at later
          simp only [Option.map_some, List.map_cons, reached, moves.offset, Nat.add_sub_add_left]
          exact congrArg (carry result :: ·) later

theorem scan_withReturns
    (seen : ∀ before, Seen (.withReturns text) carry (shape before) (shape before))
    (begins : BeginsOnLine shape) : scan shape (withReturns text) = (scan shape text).map carry :=
  scanFrom_withReturns seen begins [] rfl (Nat.zero_le _)

end Text

end HomeConfig
