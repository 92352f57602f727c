import HomeConfig.Proofs.Document.Reference
import HomeConfig.Proofs.Text.Confined
import HomeConfig.Proofs.Text.Token

/-!
# References line by line

Who looks for references on one line of a text gets those that a search through the whole text
finds on that line, if the shape that is looked for does not leave its line.  Only the numbers of
the lines differ: on the line alone every reference is on the first one (`filter_find`).

This holds for files and directories that are included and for secrets.  It does not hold for
entities, which also stand in lists below a key.
-/

namespace HomeConfig

/-- The same column, some lines below. -/
def Position.down (lines : Nat) (position : Position) : Position :=
  ⟨position.line + lines, position.character⟩

/-- The same columns, some lines below. -/
def Range.down (lines : Nat) (range : Range) : Range :=
  ⟨range.start.down lines, range.stop.down lines⟩

namespace Reference

/-- The same reference, some lines below. -/
def down (lines : Nat) (reference : Reference) : Reference :=
  { reference with range := reference.range.down lines }

theorem down_zero : down 0 = id :=
  rfl

theorem down_down (lines : Nat) (reference : Reference) :
    (reference.down lines).down 1 = reference.down (lines + 1) :=
  rfl

end Reference

/-! ## Lines and positions in a text that is put together -/

namespace Text

theorem lineAt_append_feed_zero {line : Text} (plain : '\n' ∉ line) (rest : Text) :
    lineAt (line ++ '\n' :: rest) (0 : Nat) = line := by
  rw [lineAt_natCast, lines_append_feed, lines_of_plain plain]
  rfl

theorem lineAt_append_feed_succ {line : Text} (plain : '\n' ∉ line) (rest : Text) (number : Nat) :
    lineAt (line ++ '\n' :: rest) (number + 1 : Nat) = lineAt rest number := by
  rw [lineAt_natCast, lineAt_natCast, lines_append_feed, lines_of_plain plain]
  rfl

end Text

namespace Position

theorem behind_append_feed {line : Text} (plain : '\n' ∉ line) (part : Text) :
    behind (line ++ '\n' :: part) = (behind part).down 1 := by
  induction line with
  | nil => exact behind_feed part
  | cons c line inductionHypothesis =>
    simp only [List.mem_cons, not_or] at plain
    have later : ((behind part).down 1).line ≠ 0 := Nat.succ_ne_zero _
    rw [List.cons_append, behind_cons (Ne.symm plain.1), inductionHypothesis plain.2, if_neg later,
      Nat.add_zero]

theorem ofOffset_append_of_le {text : Text} {offset : Nat} (inside : offset ≤ text.length)
    (more : Text) : ofOffset (text ++ more) offset = ofOffset text offset := by
  have alone := ofOffset_length (text.take offset) (text.drop offset)
  have longer := ofOffset_length (text.take offset) (text.drop offset ++ more)
  rw [List.length_take, Nat.min_eq_left inside] at alone longer
  rw [List.take_append_drop] at alone
  rw [← List.append_assoc, List.take_append_drop] at longer
  rw [alone, longer]

theorem ofOffset_below {line : Text} (plain : '\n' ∉ line) {rest : Text} {offset : Nat}
    (inside : offset ≤ rest.length) :
    ofOffset (line ++ '\n' :: rest) (line.length + 1 + offset) = (ofOffset rest offset).down 1 := by
  have alone := ofOffset_length (rest.take offset) (rest.drop offset)
  have longer := ofOffset_length (line ++ '\n' :: rest.take offset) (rest.drop offset)
  rw [List.append_assoc, List.cons_append, List.take_append_drop, behind_append_feed plain] at longer
  rw [List.take_append_drop, List.length_take, Nat.min_eq_left inside] at alone
  have length : (line ++ '\n' :: rest.take offset).length = line.length + 1 + offset := by
    rw [List.length_append, List.length_cons, List.length_take, Nat.min_eq_left inside]
    omega
  rw [← length, longer, alone]

end Position

/-! ## Finds -/

namespace Reference

open Recogniser

section

variable {introduces : Text → Text → Prop} {shape : Recogniser (List Excerpt)} {kind : Kind}
  {inTemplate : Bool}

theorem stop_le_of_mem_scan (finds : Finds introduces fun _ => shape) {text : Text}
    {excerpt : Excerpt} (member : excerpt ∈ (Text.scan (fun _ => shape) text).flatten) :
    excerpt.stop ≤ text.length := by
  rcases finds.scan text with ⟨_, yields⟩
  rcases yields.stands excerpt member with ⟨front, stands, _⟩
  exact stands.stop_le

/-- The references of a text are those of its first line, and those of the other lines, one line
below. -/
theorem find_append_feed (finds : Finds introduces fun _ => shape) (stays : StaysOnLine shape)
    {line : Text} (plain : '\n' ∉ line) (rest : Text) :
    find kind (fun _ => shape) (line ++ '\n' :: rest) inTemplate =
      find kind (fun _ => shape) line inTemplate ++
        (find kind (fun _ => shape) rest inTemplate).map (down 1) := by
  unfold find
  rw [Text.scan_append_feed stays, List.flatten_append, List.map_append, ← List.map_flatten,
    List.map_map, List.map_map]
  congr 1
  · refine List.map_congr_left fun excerpt member => ?_
    have stop := stop_le_of_mem_scan finds member
    have start : excerpt.start ≤ line.length := Nat.le_trans (Nat.le_add_right _ _) stop
    simp only [ofExcerpt, Range.ofOffsets, Position.ofOffset_append_of_le start,
      Position.ofOffset_append_of_le stop]
  · refine List.map_congr_left fun excerpt member => ?_
    have stop := stop_le_of_mem_scan finds member
    have start : excerpt.start ≤ rest.length := Nat.le_trans (Nat.le_add_right _ _) stop
    have further : (excerpt.within (line.length + 1)).stop = line.length + 1 + excerpt.stop :=
      Nat.add_assoc _ _ _
    have begins : (excerpt.within (line.length + 1)).start = line.length + 1 + excerpt.start := rfl
    simp only [Function.comp_apply, ofExcerpt, Range.ofOffsets, further, begins,
      Position.ofOffset_below plain start, Position.ofOffset_below plain stop]
    rfl

theorem line_of_mem_find (finds : Finds introduces fun _ => shape) (kind : Kind)
    (inTemplate : Bool) {line : Text} (plain : '\n' ∉ line) :
    ∀ reference ∈ find kind (fun _ => shape) line inTemplate, reference.range.start.line = 0 := by
  intro reference member
  rcases exists_of_mem_find finds member with ⟨excerpt, front, rfl, stands, _⟩
  have range : (ofExcerpt line kind inTemplate excerpt).range = excerpt.range line := rfl
  rw [range, stands.range_eq]
  refine List.count_eq_zero.mpr fun feed => plain ?_
  exact stands.2.subset (List.mem_append_left _ feed)

/-- A search through the text finds on a line what a search through the line finds. -/
theorem filter_find (stays : StaysOnLine shape) (finds : Finds introduces fun _ => shape)
    (text : Text) (line : Nat) :
    (find kind (fun _ => shape) text inTemplate).filter
        (fun reference => reference.range.start.line = line) =
      (find kind (fun _ => shape) (Text.lineAt text line) inTemplate).map (down line) := by
  induction feeds : text.count '\n' generalizing text line with
  | zero =>
    have plain : '\n' ∉ text := List.count_eq_zero.mp feeds
    have first := line_of_mem_find finds kind inTemplate plain
    cases line with
    | zero =>
      rw [Text.lineAt_natCast, Text.lines_of_plain plain, down_zero, List.map_id]
      exact List.filter_eq_self.mpr fun reference member => decide_eq_true (first reference member)
    | succ number =>
      rw [Text.lineAt_natCast, Text.lines_of_plain plain]
      refine List.filter_eq_nil_iff.mpr fun reference member => ?_
      simp [first reference member]
  | succ count inductionHypothesis =>
    have feed : '\n' ∈ text := List.count_pos_iff.mp (by omega)
    rcases List.eq_append_cons_of_mem feed with ⟨above, rest, rfl, plain⟩
    have first := line_of_mem_find finds kind inTemplate plain
    have fewer : rest.count '\n' = count := by
      simpa [List.count_eq_zero.mpr plain] using feeds
    rw [find_append_feed finds stays plain, List.filter_append, List.filter_map]
    cases line with
    | zero =>
      have others : (find kind (fun _ => shape) rest inTemplate).filter
          ((fun reference => decide (reference.range.start.line = 0)) ∘ down 1) = [] := by
        refine List.filter_eq_nil_iff.mpr fun reference _ => ?_
        simp [down, Range.down, Position.down]
      rw [others, Text.lineAt_append_feed_zero plain, down_zero, List.map_id, List.map_nil,
        List.append_nil]
      exact List.filter_eq_self.mpr fun reference member => decide_eq_true (first reference member)
    | succ number =>
      have own : (find kind (fun _ => shape) above inTemplate).filter
          (fun reference => decide (reference.range.start.line = number + 1)) = [] := by
        refine List.filter_eq_nil_iff.mpr fun reference member => ?_
        simp [first reference member]
      have lower : (fun reference : Reference =>
          decide (reference.range.start.line = number + 1)) ∘ down 1 =
            fun reference => decide (reference.range.start.line = number) := by
        funext reference
        simp [down, Range.down, Position.down]
      rw [own, lower, Text.lineAt_append_feed_succ plain, inductionHypothesis rest number fewer,
        List.nil_append, List.map_map]
      exact List.map_congr_left fun reference _ => reference.down_down number

end

/-! ## Files and secrets -/

theorem staysOnLine_pathBehind {tags : List String} (plain : ∀ tag ∈ tags, '\n' ∉ tag.toList) :
    StaysOnLine (pathBehind tags none) where
  confined := by
    intro lead tail ends
    have tagged : Confined lead tail id
        (firstOf (tags.map fun tag => do
          literal tag.toList
          let _ ← run1 Text.isIndent))
        (firstOf (tags.map fun tag => do
          literal tag.toList
          let _ ← run1 Text.isIndent)) := by
      refine .firstOf fun choice member => ?_
      rcases List.mem_map.mp member with ⟨tag, isTag, rfl⟩
      exact (Confined.literal ends (plain tag isTag)).bind fun _ =>
        (Confined.run1 ends (by decide)).bind fun _ => .pure ()
    refine tagged.bind fun _ => (Confined.skipOne ends (by decide)).bind fun _ => ?_
    exact (Confined.run1 ends (by decide)).bind fun path => .pure [path]
  fails := by
    intro offset
    cases read : StateT.run (pathBehind tags none) ⟨offset, []⟩ with
    | none => rfl
    | some found =>
      rcases pathBehind_eq_some read with
        ⟨_, _, _, _, path, between, _, passes, _, moves, _, _, some_, _⟩
      have nothing := passes.rest
      rw [moves.rest] at nothing
      exact absurd nothing (by simp [some_])

theorem staysOnLine_secretName : StaysOnLine (secretName none) where
  confined := by
    intro lead tail ends
    refine (Confined.literal ends (by decide)).bind fun _ => ?_
    refine (Confined.run1 ends (by decide)).bind fun _ => ?_
    exact (Confined.run1 ends (by decide)).bind fun name => .pure [name]
  fails := by
    intro offset
    cases read : StateT.run (secretName none) ⟨offset, []⟩ with
    | none => rfl
    | some found =>
      rcases bind_eq_some read with ⟨_, first, tag, _⟩
      have nothing := (literal_eq_some tag).rest
      exact absurd nothing (by simp)

theorem filter_find_pathBehind {tags : List String} (plain : ∀ tag ∈ tags, '\n' ∉ tag.toList)
    (kind : Kind) (text : Text) (line : Nat) :
    (find kind (pathBehind tags) text).filter
        (fun reference => reference.range.start.line = line) =
      (find kind (pathBehind tags) (Text.lineAt text line)).map (down line) :=
  filter_find (staysOnLine_pathBehind plain) (finds_pathBehind tags) text line

/-- What a text includes on a line is what the line includes. -/
theorem filter_includes (text : Text) (line : Nat) :
    (includes text).filter (fun reference => reference.range.start.line = line) =
      (includes (Text.lineAt text line)).map (down line) := by
  unfold includes
  rw [List.filter_append, List.map_append, filter_find_pathBehind (by decide),
    filter_find_pathBehind (by decide)]

/-- The secrets that a text uses on a line are those of the line. -/
theorem filter_secrets (text : Text) (line : Nat) :
    (secrets text).filter (fun reference => reference.range.start.line = line) =
      (secrets (Text.lineAt text line)).map (down line) :=
  filter_find staysOnLine_secretName finds_secretName text line

end Reference

end HomeConfig
