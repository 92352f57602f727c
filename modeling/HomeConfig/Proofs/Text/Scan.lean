import HomeConfig.Proofs.Text.Recogniser

/-!
# What a scan finds

A scan tries a shape at every place of a text that no earlier find has passed.  So what it finds
stands in the text in the order in which it is found, and no two finds overlap.

A shape may find several excerpts at once.  `Yields` says of one find that its excerpts stand in the
text one behind the other, between the place where the shape was tried and the place where it ended,
each behind a text that introduces it.  What all finds of a shape yield, the scan yields
(`Finds.scan`).
-/

namespace HomeConfig

open Recogniser

/-- A place in a text as a cursor, with what stands behind it. -/
structure Cursor.StandsBehind (text before : Text) (cursor : Cursor) : Prop where
  offset : cursor.offset = before.length
  rest : text = before ++ cursor.rest

namespace Cursor

variable {text before passed : Text} {cursor after : Cursor}

theorem StandsBehind.move (stands : cursor.StandsBehind text before)
    (moves : cursor.Moves passed after) : after.StandsBehind text (before ++ passed) := by
  constructor
  · rw [moves.offset, stands.offset, List.length_append]
  · rw [stands.rest, moves.rest, List.append_assoc]

/-- What a cursor moves over is an excerpt. -/
theorem StandsBehind.excerpt (stands : cursor.StandsBehind text before) {excerpt : Excerpt}
    (start : excerpt.start = cursor.offset) (moves : cursor.Moves excerpt.text after) :
    excerpt.StandsBehind text before := by
  refine ⟨by rw [start, stands.offset], after.rest, ?_⟩
  rw [stands.rest, moves.rest, List.append_assoc]

/-- Behind an excerpt the text goes on where the cursor has come to. -/
theorem StandsBehind.drop_stop (stands : cursor.StandsBehind text before) {excerpt : Excerpt}
    (start : excerpt.start = cursor.offset) (moves : cursor.Moves excerpt.text after) :
    text.drop excerpt.stop = after.rest := by
  have length : excerpt.stop = (before ++ excerpt.text).length := by
    rw [Excerpt.stop, start, stands.offset, List.length_append]
  rw [length, (stands.move moves).rest, List.drop_left]

end Cursor

/-- Excerpts that are found between two cursors: they stand in the text one behind the other, each
behind a text that introduces it. -/
structure Yields (introduces : Text → Text → Prop) (text : Text) (start stop : Nat)
    (excerpts : List Excerpt) : Prop where
  stands (excerpt : Excerpt) : excerpt ∈ excerpts →
    ∃ front, excerpt.StandsBehind text front ∧ introduces front excerpt.text
  bounds (excerpt : Excerpt) : excerpt ∈ excerpts → start ≤ excerpt.start ∧ excerpt.stop ≤ stop
  ordered : excerpts.Pairwise fun first second => first.stop ≤ second.start

namespace Yields

variable {introduces : Text → Text → Prop} {text : Text} {start between stop : Nat}
  {excerpts others : List Excerpt}

theorem nil : Yields introduces text start stop [] :=
  ⟨nofun, nofun, .nil⟩

theorem widen {lower upper : Nat} (yields : Yields introduces text start stop excerpts)
    (lower_le : lower ≤ start) (le_upper : stop ≤ upper) :
    Yields introduces text lower upper excerpts where
  stands := yields.stands
  bounds := by
    intro excerpt member
    have inside := yields.bounds excerpt member
    omega
  ordered := yields.ordered

theorem append (first : Yields introduces text start between excerpts)
    (second : Yields introduces text between stop others) (first_le : start ≤ between)
    (second_le : between ≤ stop) : Yields introduces text start stop (excerpts ++ others) where
  stands := by
    intro excerpt member
    rcases List.mem_append.mp member with here | there
    · exact first.stands excerpt here
    · exact second.stands excerpt there
  bounds := by
    intro excerpt member
    rcases List.mem_append.mp member with here | there
    · have inside := first.bounds excerpt here
      omega
    · have inside := second.bounds excerpt there
      omega
  ordered := by
    refine List.pairwise_append.mpr ⟨first.ordered, second.ordered, ?_⟩
    intro one here other there
    exact Nat.le_trans (first.bounds one here).2 (second.bounds other there).1

/-- A cursor has found one excerpt, behind what it passed before, and has passed more since. -/
theorem single {before lead trail : Text} {cursor second third after : Cursor} {excerpt : Excerpt}
    (stands : cursor.StandsBehind text before) (passes : cursor.Moves lead second)
    (begins : excerpt.start = second.offset) (moves : second.Moves excerpt.text third)
    (goesOn : third.Moves trail after) (introduced : introduces (before ++ lead) excerpt.text) :
    Yields introduces text cursor.offset after.offset [excerpt] where
  stands := by
    intro other member
    rw [List.mem_singleton.mp member]
    exact ⟨before ++ lead, (stands.move passes).excerpt begins moves, introduced⟩
  bounds := by
    intro other member
    rw [List.mem_singleton.mp member]
    have passed := passes.offset
    have read := moves.offset
    have rest := goesOn.offset
    unfold Excerpt.stop
    omega
  ordered := List.pairwise_singleton _ _

end Yields

theorem Text.scanFrom_map {α β : Type} (f : α → β) (find : Option Char → Recogniser α)
    (before : Option Char) (offset skip : Nat) (text : Text) :
    scanFrom (fun before => f <$> find before) before offset skip text =
      (scanFrom find before offset skip text).map f := by
  induction text generalizing before offset skip with
  | nil => rfl
  | cons c rest inductionHypothesis =>
    cases skip with
    | succ skip => exact inductionHypothesis (some c) (offset + 1) skip
    | zero =>
      simp only [scanFrom, StateT.run_map]
      cases StateT.run (find before) ⟨offset, c :: rest⟩ with
      | none => exact inductionHypothesis (some c) (offset + 1) 0
      | some found => exact congrArg (f found.1 :: ·) (inductionHypothesis (some c) (offset + 1) _)

theorem Text.exists_of_mem_scanFrom {α : Type} {find : Option Char → Recogniser α} {found : α}
    {before rest : Text} {skip : Nat}
    (member : found ∈ scanFrom find before.getLast? before.length skip rest) :
    ∃ front cursor after, cursor.StandsBehind (before ++ rest) front ∧
      StateT.run (find front.getLast?) cursor = some (found, after) := by
  induction rest generalizing before skip with
  | nil => cases member
  | cons c rest inductionHypothesis =>
    have goesOn {skip : Nat} (later : found ∈ scanFrom find (some c) (before.length + 1) skip rest) :
        ∃ front cursor after, cursor.StandsBehind (before ++ c :: rest) front ∧
          StateT.run (find front.getLast?) cursor = some (found, after) := by
      have next : found ∈
          scanFrom find (before ++ [c]).getLast? (before ++ [c]).length skip rest := by
        simpa using later
      simpa using inductionHypothesis next
    cases skip with
    | succ skip => exact goesOn member
    | zero =>
      rw [scanFrom] at member
      split at member
      next => exact goesOn member
      next here after read =>
        rcases List.mem_cons.mp member with rfl | later
        · exact ⟨before, _, after, ⟨rfl, rfl⟩, read⟩
        · exact goesOn later

/-- What a scan finds was found at some place of the text. -/
theorem Text.exists_of_mem_scan {α : Type} {find : Option Char → Recogniser α} {text : Text}
    {found : α} (member : found ∈ scan find text) :
    ∃ front cursor after, cursor.StandsBehind text front ∧
      StateT.run (find front.getLast?) cursor = some (found, after) := by
  have start : found ∈ scanFrom find ([] : Text).getLast? ([] : Text).length 0 text := member
  exact exists_of_mem_scanFrom start

/-- A scan that comes to a place where something can be found finds something, there or earlier. -/
theorem Text.scanFrom_ne_nil {α : Type} {find : Option Char → Recogniser α} {rest : Text}
    (some_ : rest ≠ []) (between before : Text)
    (found : (StateT.run (find (before ++ between).getLast?)
      ⟨(before ++ between).length, rest⟩).isSome = true) :
    scanFrom find before.getLast? before.length 0 (between ++ rest) ≠ [] := by
  induction between generalizing before with
  | nil =>
    cases rest with
    | nil => exact absurd rfl some_
    | cons c rest =>
      rw [List.append_nil] at found
      rcases Option.isSome_iff_exists.mp found with ⟨result, read⟩
      rw [List.nil_append, scanFrom, read]
      exact List.cons_ne_nil _ _
  | cons c between inductionHypothesis =>
    rw [List.cons_append, scanFrom]
    split
    next =>
      have later := inductionHypothesis (before ++ [c]) (by simpa using found)
      simpa using later
    next => exact List.cons_ne_nil _ _

/-- A search is successful if there is a place where something can be found. -/
theorem Text.isSome_search {α : Type} {find : Option Char → Recogniser α} {before rest : Text}
    (some_ : rest ≠ [])
    (found : (StateT.run (find before.getLast?) ⟨before.length, rest⟩).isSome = true) :
    (search find (before ++ rest)).isSome = true := by
  have finds : scan find (before ++ rest) ≠ [] := scanFrom_ne_nil some_ before [] found
  rw [search, List.isSome_head?]
  simpa using finds

/-- Whatever a shape finds are excerpts that are introduced in a certain way. -/
def Finds (introduces : Text → Text → Prop) (shape : Option Char → Recogniser (List Excerpt)) :
    Prop :=
  ∀ (text before : Text) (cursor after : Cursor) (excerpts : List Excerpt),
    cursor.StandsBehind text before →
      StateT.run (shape before.getLast?) cursor = some (excerpts, after) →
        Yields introduces text cursor.offset after.offset excerpts

namespace Finds

variable {introduces : Text → Text → Prop} {shape : Option Char → Recogniser (List Excerpt)}

/-- A scan goes on behind what it has passed, and finds nothing among the characters that it has
still to pass. -/
theorem scanFrom (finds : Finds introduces shape) (rest before : Text) (skip : Nat) :
    ∃ stop, before.length + skip ≤ stop ∧
      Yields introduces (before ++ rest) (before.length + skip) stop
        (Text.scanFrom shape before.getLast? before.length skip rest).flatten := by
  induction rest generalizing before skip with
  | nil => exact ⟨before.length + skip, Nat.le_refl _, .nil⟩
  | cons c rest inductionHypothesis =>
    -- Whether something is found here or not, the scan goes on behind the next character.
    have goesOn (skip : Nat) : ∃ stop, before.length + 1 + skip ≤ stop ∧
        Yields introduces (before ++ c :: rest) (before.length + 1 + skip) stop
          (Text.scanFrom shape (some c) (before.length + 1) skip rest).flatten := by
      simpa using inductionHypothesis (before ++ [c]) skip
    cases skip with
    | succ skip =>
      rcases goesOn skip with ⟨stop, bound, yields⟩
      have start : before.length + 1 + skip = before.length + (skip + 1) := by omega
      exact ⟨stop, start ▸ bound, start ▸ yields⟩
    | zero =>
      rw [Text.scanFrom]
      split
      next =>
        rcases goesOn 0 with ⟨stop, bound, yields⟩
        exact ⟨stop, by omega, yields.widen (by omega) (Nat.le_refl stop)⟩
      next excerpts after found =>
        have here : (⟨before.length, c :: rest⟩ : Cursor).StandsBehind (before ++ c :: rest) before :=
          ⟨rfl, rfl⟩
        have first : Yields introduces (before ++ c :: rest) before.length after.offset excerpts :=
          finds _ before _ after excerpts here found
        rcases goesOn (after.offset - (before.length + 1)) with ⟨stop, bound, second⟩
        refine ⟨stop, by omega, ?_⟩
        rw [List.flatten_cons]
        exact (first.widen (Nat.le_refl _) (by omega)).append second (by omega) bound

/-- What a scan finds stands in the text, is introduced as the shape has it, and nothing of it
overlaps. -/
theorem scan (finds : Finds introduces shape) (text : Text) :
    ∃ stop, Yields introduces text 0 stop (Text.scan shape text).flatten := by
  rcases finds.scanFrom text [] 0 with ⟨stop, _, yields⟩
  exact ⟨stop, yields⟩

/-- A shape that finds one excerpt at a time. -/
theorem scan_one {shape : Option Char → Recogniser Excerpt}
    (finds : Finds introduces fun before => List.singleton <$> shape before) (text : Text) :
    ∃ stop, Yields introduces text 0 stop (Text.scan shape text) := by
  have same : (Text.scan (fun before => List.singleton <$> shape before) text).flatten =
      Text.scan shape text := by
    rw [Text.scan, Text.scanFrom_map, ← List.flatMap_def]
    exact List.flatMap_singleton' _
  exact same ▸ finds.scan text

end Finds

end HomeConfig
