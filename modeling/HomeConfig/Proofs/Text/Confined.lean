import HomeConfig.Proofs.Text.Part
import HomeConfig.Proofs.Text.View

/-!
# Recognisers that stay on a line

Some shapes have no line feed in them.  Such a shape is found on a line of a text just where it is
found on the line alone, since it does not look beyond the line feed.

To say so, a place of a text is taken for a place of a longer one, with some characters in front of
it and a tail behind the text.  The tail is empty or begins with a line feed.  `Confined` says of
two recognisers that the one reads at a place of the longer text what the other reads in the text
alone; every way to build recognisers keeps this, and so does a scan (`scanFrom_append`).
-/

namespace HomeConfig

/-- A place of a text as a place of a longer one. -/
def Cursor.within (lead : Nat) (tail : Text) (cursor : Cursor) : Cursor :=
  ⟨lead + cursor.offset, cursor.rest ++ tail⟩

/-- A text as a part of a longer one. -/
def Cursor.View.within (lead : Nat) (tail : Text) : Cursor.View where
  sees := fun _ => True
  place := Cursor.within lead tail
  moves := fun _ _ => trivial

/-- A part of a text as a part of a longer one. -/
def Excerpt.within (lead : Nat) (excerpt : Excerpt) : Excerpt :=
  ⟨lead + excerpt.start, excerpt.text⟩

theorem Excerpt.within_zero : Excerpt.within 0 = id := by
  funext excerpt
  rw [within, Nat.zero_add]
  rfl

namespace Recogniser

/-- A recogniser reads in a longer text what another one reads in the text alone, and that one only
goes on. -/
structure Confined {α : Type} (lead : Nat) (tail : Text) (carry : α → α)
    (outer inner : Recogniser α) : Prop where
  same (cursor : Cursor) : StateT.run outer (cursor.within lead tail) =
    (StateT.run inner cursor).map fun (result, after) => (carry result, after.within lead tail)
  advances (cursor after : Cursor) (result : α) :
    StateT.run inner cursor = some (result, after) → ∃ passed, cursor.Moves passed after

/-- A text ends with its line, or a line feed comes next. -/
def EndsLine (tail : Text) : Prop :=
  ∀ c ∈ tail.head?, c = '\n'

theorem EndsLine.stops {tail : Text} (ends : EndsLine tail) {accepts : Char → Bool}
    (feed : accepts '\n' = false) : tail.head?.any accepts = false := by
  cases next : tail.head? with
  | none => rfl
  | some c =>
    rw [ends c next]
    exact feed

section

variable {α β : Type} {lead : Nat} {tail : Text} {carry : α → α} {carryNext : β → β}

/-- Every place of a text is seen in a longer one. -/
theorem confined_iff {outer inner : Recogniser α} :
    Confined lead tail carry outer inner ↔ Seen (.within lead tail) carry outer inner := by
  constructor
  · intro confined
    exact ⟨fun cursor _ => confined.same cursor, confined.advances⟩
  · intro seen
    exact ⟨fun cursor => seen.same cursor trivial, seen.advances⟩

namespace Confined

theorem pure (result : α) :
    Confined lead tail carry (Pure.pure (carry result)) (Pure.pure result) :=
  confined_iff.mpr (.pure result)

theorem bind {outer inner : Recogniser α} {outerNext innerNext : α → Recogniser β}
    (first : Confined lead tail carry outer inner)
    (next : ∀ result, Confined lead tail carryNext (outerNext (carry result))
      (innerNext result)) :
    Confined lead tail carryNext (outer >>= outerNext) (inner >>= innerNext) := by
  rw [confined_iff] at first ⊢
  apply first.bind
  intro result
  exact confined_iff.mp (next result)

theorem failure : Confined lead tail carry Alternative.failure Alternative.failure :=
  confined_iff.mpr .failure

theorem firstOf {choices : List (Recogniser α)}
    (all : ∀ choice ∈ choices, Confined lead tail carry choice choice) :
    Confined lead tail carry (firstOf choices) (firstOf choices) := by
  rw [confined_iff]
  apply Seen.firstOf
  intro choice member
  exact confined_iff.mp (all choice member)

variable {accepts : Char → Bool}

theorem run (ends : EndsLine tail) (feed : accepts '\n' = false) :
    Confined lead tail (Excerpt.within lead) (run accepts) (run accepts) where
  same := by
    intro cursor
    have whole : cursor.rest.takeWhile accepts ++ cursor.rest.dropWhile accepts = cursor.rest :=
      List.takeWhile_append_dropWhile
    have all : ∀ c ∈ cursor.rest.takeWhile accepts, accepts c = true :=
      fun c member => List.mem_takeWhile_imp member
    have stops : (cursor.rest.dropWhile accepts ++ tail).head?.any accepts = false := by
      cases left : cursor.rest.dropWhile accepts with
      | nil => exact ends.stops feed
      | cons c rest =>
        have first := List.head?_dropWhile_not accepts cursor.rest
        simpa [left] using first
    have longer : cursor.rest ++ tail =
        cursor.rest.takeWhile accepts ++ (cursor.rest.dropWhile accepts ++ tail) := by
      rw [← List.append_assoc, whole]
    have taken := Text.takeWhile_append_of_stops all stops
    have dropped := Text.dropWhile_append_of_stops all stops
    rw [← longer] at taken dropped
    simp only [StateT.run, Recogniser.run, Cursor.within, taken, dropped, Option.map_some,
      Excerpt.within, Nat.add_assoc]
  advances := by
    intro cursor after result read
    exact ⟨_, (run_eq_some read).2.1⟩

theorem run1 (ends : EndsLine tail) (feed : accepts '\n' = false) :
    Confined lead tail (Excerpt.within lead) (run1 accepts) (run1 accepts) := by
  refine (run ends feed).bind fun found => ?_
  have text : (found.within lead).text = found.text := rfl
  rw [text]
  split
  · exact failure
  · exact pure found

theorem skip (ends : EndsLine tail) (feed : accepts '\n' = false) :
    Confined lead tail id (skip accepts) (skip accepts) :=
  (run ends feed).bind fun _ => pure ()

theorem one (ends : EndsLine tail) (feed : accepts '\n' = false) :
    Confined lead tail id (one accepts) (one accepts) where
  same := by
    rintro ⟨offset, rest⟩
    cases rest with
    | nil =>
      cases tail with
      | nil => rfl
      | cons c tail =>
        have isFeed : c = '\n' := ends c rfl
        subst isFeed
        simp [StateT.run, Recogniser.one, Cursor.within, feed]
    | cons c rest =>
      cases accepted : accepts c with
      | true => simp [StateT.run, Recogniser.one, Cursor.within, accepted, Nat.add_assoc]
      | false => simp [StateT.run, Recogniser.one, Cursor.within, accepted]
  advances := by
    intro cursor after result read
    exact ⟨_, (one_eq_some read).1⟩

theorem skipOne (ends : EndsLine tail) (feed : accepts '\n' = false) :
    Confined lead tail id (skipOne accepts) (skipOne accepts) :=
  confined_iff.mpr (confined_iff.mp (one ends feed)).skipOne_of_one

theorem literal (ends : EndsLine tail) {expected : Text} (plain : '\n' ∉ expected) :
    Confined lead tail id (literal expected) (literal expected) := by
  induction expected with
  | nil => exact pure ()
  | cons c expected inductionHypothesis =>
    simp only [List.mem_cons, not_or] at plain
    have feed : (c == '\n') = false := beq_eq_false_iff_ne.mpr (Ne.symm plain.1)
    exact (one ends feed).bind fun _ => inductionHypothesis plain.2

end Confined

end

end Recogniser

/-! ## Scanning -/

namespace Text

open Recogniser

variable {α : Type} {shape : Recogniser α} {lead : Nat} {tail : Text} {carry : α → α}

/-- A shape that does not look back finds the same whatever stands in front. -/
theorem scanFrom_congr (before other : Option Char) (offset skip : Nat) (text : Text) :
    scanFrom (fun _ => shape) before offset skip text =
      scanFrom (fun _ => shape) other offset skip text := by
  cases text with
  | nil => rfl
  | cons c rest => cases skip <;> rfl

/-- A scan finds in a text what it finds in the text alone, and goes on with the tail. -/
theorem scanFrom_append (confined : Confined lead tail carry shape shape) (before : Option Char)
    (offset : Nat) {skip : Nat} {text : Text} (inside : skip ≤ text.length) :
    scanFrom (fun _ => shape) before (lead + offset) skip (text ++ tail) =
      (scanFrom (fun _ => shape) before offset skip text).map carry ++
        scanFrom (fun _ => shape) before (lead + offset + text.length) 0 tail := by
  induction text generalizing before offset skip with
  | nil =>
    have none_ : skip = 0 := by simpa using inside
    subst none_
    rfl
  | cons c rest inductionHypothesis =>
    -- What is told of the character in front does not matter, here and behind the text.
    have goesOn {skip : Nat} (inside : skip ≤ rest.length) :
        scanFrom (fun _ => shape) (some c) (lead + offset + 1) skip (rest ++ tail) =
          (scanFrom (fun _ => shape) (some c) (offset + 1) skip rest).map carry ++
            scanFrom (fun _ => shape) before (lead + offset + (c :: rest).length) 0 tail := by
      have later := inductionHypothesis (some c) (offset + 1) inside
      have place : lead + (offset + 1) + rest.length = lead + offset + (c :: rest).length := by
        rw [List.length_cons]
        omega
      rw [place, scanFrom_congr (some c) before _ 0 tail] at later
      exact later
    cases skip with
    | succ skip => exact goesOn (Nat.le_of_succ_le_succ inside)
    | zero =>
      have here := confined.same ⟨offset, c :: rest⟩
      simp only [Cursor.within, List.cons_append] at here
      rw [List.cons_append, scanFrom, scanFrom, here]
      cases read : StateT.run shape ⟨offset, c :: rest⟩ with
      | none => exact goesOn (Nat.zero_le _)
      | some found =>
        rcases confined.advances _ _ _ read with ⟨passed, moves⟩
        have length : (c :: rest).length = passed.length + found.2.rest.length := by
          rw [← List.length_append, ← moves.rest]
        have reached : found.2.offset = offset + passed.length := moves.offset
        rw [List.length_cons] at length
        have within : found.2.offset - (offset + 1) ≤ rest.length := by omega
        have skipped : lead + found.2.offset - (lead + offset + 1) =
            found.2.offset - (offset + 1) := by omega
        simp only [Option.map_some, List.map_cons, List.cons_append, skipped]
        rw [goesOn within]

end Text

/-! ## Line by line -/

/-- A shape is found at characters only, and on each line of a text as on the line alone. -/
structure Recogniser.StaysOnLine (shape : Recogniser (List Excerpt)) : Prop where
  confined (lead : Nat) (tail : Text) : EndsLine tail →
    Confined lead tail (List.map (Excerpt.within lead)) shape shape
  fails (offset : Nat) : StateT.run shape ⟨offset, []⟩ = none

open Recogniser in
/-- A scan finds what is on the first line, and then what is on the others, so much further on. -/
theorem Text.scan_append_feed {shape : Recogniser (List Excerpt)} (stays : StaysOnLine shape)
    (line rest : Text) :
    scan (fun _ => shape) (line ++ '\n' :: rest) =
      scan (fun _ => shape) line ++
        (scan (fun _ => shape) rest).map (List.map (Excerpt.within (line.length + 1))) := by
  have feed : EndsLine ('\n' :: rest) := fun c next => (Option.some.inj next).symm
  have first := scanFrom_append (stays.confined 0 _ feed) none 0 (Nat.zero_le line.length)
  have others := scanFrom_append (stays.confined (line.length + 1) [] fun c next => nomatch next)
    (some '\n') 0 (Nat.zero_le rest.length)
  have atFeed : StateT.run shape ⟨line.length, '\n' :: rest⟩ = none := by
    have same := (stays.confined 0 _ feed).same ⟨line.length, []⟩
    rw [stays.fails] at same
    simpa [Cursor.within] using same
  have passes : scanFrom (fun _ => shape) none line.length 0 ('\n' :: rest) =
      scanFrom (fun _ => shape) (some '\n') (line.length + 1) 0 rest := by
    rw [scanFrom, atFeed]
  rw [List.append_nil, scanFrom, List.append_nil, scanFrom_congr _ none 0] at others
  simp only [Nat.zero_add, Nat.add_zero, Excerpt.within_zero, List.map_id_fun, id, passes]
    at first others
  rw [scan, first, others]
  rfl

end HomeConfig
