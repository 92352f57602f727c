import HomeConfig.Hover
import HomeConfig.Proofs.Text.Markdown
import Mathlib.Data.List.Forall2

/-!
# The table of attributes

What is shown for an entity ends with a table of its attributes, one row for each, up to ten of
them.  A name and the text of a value are put between bars as they are, so the table is what it is
meant to be just if they have neither line breaks nor bars of their own
(`attributes_stand_in_rows_iff`).  Values that are lists or objects are written without line breaks,
but a bar in them is a bar, and a text is shown with all that it has.

What stands above the table or behind it is not part of it, whatever the entity is called.
-/

namespace HomeConfig

namespace Hover

/-! ## What is meant to be shown -/

/-- The attributes that are meant for the reader, without the name that the title has. -/
def listed (entity : Entity) : List (String × Json) :=
  entity.attributes.filter fun (name, _) => !Entity.isInternal name && name != "friendly_name"

/-- The text of a value: lists and objects as they are exchanged, other values as they are shown. -/
def valueText (value : Json) : String :=
  match value with
  | .array _ | .object _ => Json.render .spaced value
  | other => other.display

/-- The first characters of a text that is too long, with three dots behind them. -/
def shortened (text : Text) : Text :=
  if valueLimit < text.length then text.take valueLimit ++ "...".toList else text

/-- The cells of an attribute: its name and the text of its value, shortened when it is long. -/
def cells (entry : String × Json) : List Text :=
  [entry.1.toList, shortened (valueText entry.2).toList]

/-- A table has a row for each attribute, up to ten, in their order, with the two cells of the
attribute. -/
structure IsTable (entity : Entity) (table : List Text) : Prop where
  length_eq : table.length = min 10 (listed entity).length
  rows : List.Forall₂ (fun entry line => Markdown.IsRow line (cells entry))
    ((listed entity).take 10) table

/-- The lines above the attributes. -/
def description (entity : Entity) : List String :=
  ["## " ++ entity.friendlyName, "", code entity.id, "", "**State:** " ++ code entity.state, "",
    "**Domain:** " ++ entity.domain] ++
  Entity.propertyLine "**Device Class:** " entity.deviceClass ++
  Entity.propertyLine "**Unit:** " entity.unit

/-- The lines behind the attributes, an empty one first. -/
def footing (entity : Entity) : List String :=
  match entity.lastChanged with
  | some time => if time = "" then [] else ["", "*Last changed: " ++ time ++ "*"]
  | none => []

/-- The two lines at the head of the table. -/
def tableHead : List String :=
  ["| Attribute | Value |", "|-----------|-------|"]

/-! ## What is shown -/

variable {entity : Entity}

theorem toList_attributeText (value : Json) :
    (attributeText value).toList = shortened (valueText value).toList := by
  have spelt : attributeText value =
      if valueLimit < (valueText value).toList.length then
        String.ofList ((valueText value).toList.take valueLimit) ++ "..."
      else valueText value := by
    cases value <;> rfl
  rw [spelt, shortened]
  split
  · rw [String.toList_append, String.toList_ofList]
  · rfl

theorem attributeRows_eq (entity : Entity) :
    (attributeRows entity).map String.toList =
      ((listed entity).take 10).map fun entry => Markdown.row (cells entry) := by
  unfold attributeRows listed
  dsimp only
  rw [List.map_take, List.map_map, ← List.map_take]
  refine List.map_congr_left fun entry _ => ?_
  simp only [Function.comp_apply, String.toList_append, toList_attributeText]
  simp [Markdown.row, Markdown.padded, cells]
  rfl

theorem attributeRows_eq_nil_iff : attributeRows entity = [] ↔ listed entity = [] := by
  rw [← List.map_eq_nil_iff (f := String.toList), attributeRows_eq, List.map_eq_nil_iff]
  simp

theorem entityText_eq (entity : Entity) :
    entityText entity = unlines (description entity ++
      (if (attributeRows entity).isEmpty then []
        else ["", "### Attributes"] ++ tableHead ++ attributeRows entity) ++ footing entity) := by
  simp only [entityText, description, tableHead, footing, List.append_assoc]
  rfl

/-! ## Lines of what is shown -/

theorem toList_unlines_append {above below : List String} (some_ : above ≠ []) (more : below ≠ []) :
    (unlines (above ++ below)).toList =
      (unlines above).toList ++ '\n' :: (unlines below).toList := by
  unfold unlines
  rw [String.intercalate_append_of_ne_nil some_ more, String.toList_append, String.toList_append,
    List.append_assoc]
  rfl

/-- No carriage return stands at the end of a line, where it would be one with the line feed. -/
def Closed (line : String) : Prop :=
  line.toList.getLast? ≠ some '\r'

instance (line : String) : Decidable (Closed line) :=
  inferInstanceAs (Decidable (_ ≠ _))

theorem closed_unlines (above : List String) {last : String} (closed : Closed last) :
    Closed (unlines (above ++ [last])) := by
  have alone : unlines [last] = last := by simp [unlines]
  cases above with
  | nil => rwa [List.nil_append, alone]
  | cons first above =>
    rw [Closed, toList_unlines_append (List.cons_ne_nil _ _) (List.cons_ne_nil _ _), alone,
      List.getLast?_append_of_ne_nil _ (List.cons_ne_nil _ _), List.getLast?_cons]
    cases ending : last.toList.getLast? with
    | none => decide
    | some c => exact fun same => closed (ending.trans same)

theorem lines_unlines_append (above : List String) {last : String} (closed : Closed last)
    {below : List String} (some_ : below ≠ []) :
    Markdown.lines (unlines (above ++ [last] ++ below)).toList =
      Markdown.lines (unlines (above ++ [last])).toList ++
        Markdown.lines (unlines below).toList := by
  rw [toList_unlines_append (by simp) some_,
    Markdown.lines_append_feed (closed_unlines above closed)]

theorem lines_unlines {lines : List String} (some_ : lines ≠ [])
    (closed : ∀ line ∈ lines, Closed line) :
    Markdown.lines (unlines lines).toList =
      lines.flatMap fun line => Markdown.lines line.toList := by
  induction lines with
  | nil => exact absurd rfl some_
  | cons first others inductionHypothesis =>
    rw [List.forall_mem_cons] at closed
    have alone : unlines [first] = first := by simp [unlines]
    cases others with
    | nil => simp [alone]
    | cons second others =>
      have apart := lines_unlines_append [] closed.1 (List.cons_ne_nil second others)
      rw [List.nil_append, alone, inductionHypothesis (List.cons_ne_nil _ _) closed.2] at apart
      exact apart

/-! ## Rows on their lines -/

/-- If each of some items has a line at least, and there are as many lines as items, each of them
has one line. -/
theorem forall_length_eq_one {α β : Type} (linesOf : α → List β)
    (some_ : ∀ item, 1 ≤ (linesOf item).length) {items : List α}
    (total : (items.flatMap linesOf).length = items.length) :
    ∀ item ∈ items, (linesOf item).length = 1 := by
  have least (items : List α) : items.length ≤ (items.flatMap linesOf).length := by
    induction items with
    | nil => exact Nat.le_refl _
    | cons item items inductionHypothesis =>
      have here := some_ item
      rw [List.flatMap_cons, List.length_append, List.length_cons]
      omega
  induction items with
  | nil => exact nofun
  | cons item items inductionHypothesis =>
    have here := some_ item
    have others := least items
    rw [List.flatMap_cons, List.length_append, List.length_cons] at total
    exact List.forall_mem_cons.mpr ⟨by omega, inductionHypothesis (by omega)⟩

/-- A text that can stand in a cell as it is. -/
def FitsCell (cell : Text) : Prop :=
  Markdown.OnOneLine cell ∧ '|' ∉ cell

instance (cell : Text) : Decidable (FitsCell cell) :=
  inferInstanceAs (Decidable (_ ∧ _))

/-- The lines of the rows of an entity. -/
def rowLines (entity : Entity) : List Text :=
  ((listed entity).take 10).flatMap fun entry => Markdown.lines (Markdown.row (cells entry))

theorem rowLines_of_onOneLine
    (line : ∀ entry ∈ (listed entity).take 10, Markdown.OnOneLine (Markdown.row (cells entry))) :
    rowLines entity = ((listed entity).take 10).map fun entry => Markdown.row (cells entry) := by
  rw [List.map_eq_flatMap]
  exact List.flatMap_congr fun entry member => Markdown.lines_of_onOneLine (line entry member)

theorem isTable_rowLines_iff (entity : Entity) :
    IsTable entity (rowLines entity) ↔
      ∀ entry ∈ (listed entity).take 10, ∀ cell ∈ cells entry, FitsCell cell := by
  have readable : List.Forall₂ (fun entry line => Markdown.IsRow line (cells entry))
        ((listed entity).take 10)
        (((listed entity).take 10).map fun entry => Markdown.row (cells entry)) ↔
      ∀ entry ∈ (listed entity).take 10, ∀ cell ∈ cells entry, '|' ∉ cell := by
    rw [List.forall₂_map_right_iff, List.forall₂_same]
    exact forall₂_congr fun entry _ => Markdown.isRow_row_iff
  constructor
  · rintro ⟨length_eq, rows⟩
    have single := forall_length_eq_one
      (fun entry => Markdown.lines (Markdown.row (cells entry)))
      (fun entry => by rw [Markdown.length_lines]; omega)
      (length_eq.trans List.length_take.symm)
    have line : ∀ entry ∈ (listed entity).take 10,
        Markdown.OnOneLine (Markdown.row (cells entry)) :=
      fun entry member => (Markdown.length_lines_eq_one_iff _).mp (single entry member)
    rw [rowLines_of_onOneLine line] at rows
    intro entry member cell isCell
    exact ⟨Markdown.onOneLine_row_iff.mp (line entry member) cell isCell,
      readable.mp rows entry member cell isCell⟩
  · intro fits
    have line : ∀ entry ∈ (listed entity).take 10,
        Markdown.OnOneLine (Markdown.row (cells entry)) :=
      fun entry member => Markdown.onOneLine_row_iff.mpr fun cell isCell =>
        (fits entry member cell isCell).1
    rw [rowLines_of_onOneLine line]
    refine ⟨by rw [List.length_map, List.length_take], readable.mpr ?_⟩
    exact fun entry member cell isCell => (fits entry member cell isCell).2

theorem closed_of_getLast? {line : String} {c : Char} (last : line.toList.getLast? = some c)
    (noReturn : c ≠ '\r') : Closed line := by
  rw [Closed, last]
  exact fun same => noReturn (Option.some.inj same)

theorem closed_attributeRows {line : String} (member : line ∈ attributeRows entity) :
    Closed line := by
  have there : line.toList ∈ (attributeRows entity).map String.toList := List.mem_map_of_mem member
  rw [attributeRows_eq] at there
  rcases List.mem_map.mp there with ⟨entry, _, shape⟩
  exact closed_of_getLast? (shape ▸ Markdown.getLast?_row _) (by decide)

theorem closed_footing {line : String} (member : line ∈ footing entity) : Closed line := by
  unfold footing at member
  split at member
  next time _ =>
    split at member
    next => cases member
    next =>
      rcases (by simpa using member : line = "" ∨ line = "*Last changed: " ++ time ++ "*") with
        rfl | rfl
      · decide
      · refine closed_of_getLast? (c := '*') ?_ (by decide)
        rw [String.toList_append, List.getLast?_append]
        rfl
  next => cases member

theorem closed_tableHead {line : String} (member : line ∈ tableHead) : Closed line := by
  have all : ∀ line ∈ tableHead, Closed line := by decide
  exact all line member

theorem lines_entityText (some_ : listed entity ≠ []) :
    Markdown.lines (entityText entity).toList =
      Markdown.lines (unlines (description entity ++ ["", "### Attributes"])).toList ++
        tableHead.map String.toList ++ rowLines entity ++
          (footing entity).flatMap fun line => Markdown.lines line.toList := by
  have rows : ¬ (attributeRows entity).isEmpty = true := by
    rwa [List.isEmpty_iff, attributeRows_eq_nil_iff]
  have parts : entityText entity = unlines (description entity ++ [""] ++ ["### Attributes"] ++
      (tableHead ++ attributeRows entity ++ footing entity)) := by
    rw [entityText_eq, if_neg rows]
    simp
  have closed : ∀ line ∈ tableHead ++ attributeRows entity ++ footing entity, Closed line := by
    simp only [List.forall_mem_append]
    exact ⟨⟨fun _ => closed_tableHead, fun _ => closed_attributeRows⟩, fun _ => closed_footing⟩
  have head : tableHead.flatMap (fun line => Markdown.lines line.toList) =
      tableHead.map String.toList := by
    decide
  have table : (attributeRows entity).flatMap (fun line => Markdown.lines line.toList) =
      rowLines entity := by
    have mapped := congrArg (List.flatMap Markdown.lines) (attributeRows_eq entity)
    rwa [List.flatMap_map, List.flatMap_map] at mapped
  rw [parts, lines_unlines_append _ (by decide) (by simp [tableHead]),
    lines_unlines (by simp [tableHead]) closed, List.flatMap_append, List.flatMap_append, head,
    table]
  simp

/-- What is shown for an entity has nothing about attributes if none is meant for the reader.
Otherwise the lines behind the two at the head of the table, up to the end or to an empty line, are
a row for each attribute, just if the names and the shortened values have no line breaks and no
bars. -/
theorem attributes_stand_in_rows_iff (entity : Entity) :
    (listed entity = [] → entityText entity = unlines (description entity ++ footing entity)) ∧
    (listed entity ≠ [] → ∃ table, Markdown.lines (entityText entity).toList =
        Markdown.lines (unlines (description entity ++ ["", "### Attributes"])).toList ++
          tableHead.map String.toList ++ table ++
            (footing entity).flatMap (fun line => Markdown.lines line.toList) ∧
      (IsTable entity table ↔
        ∀ entry ∈ (listed entity).take 10, ∀ cell ∈ cells entry, FitsCell cell)) := by
  constructor
  · intro none_
    have rows : attributeRows entity = [] := attributeRows_eq_nil_iff.mpr none_
    rw [entityText_eq, rows, List.isEmpty_nil, if_pos rfl, List.append_nil]
  · intro some_
    exact ⟨rowLines entity, lines_entityText some_, isTable_rowLines_iff entity⟩

/-- A lamp with a name, a number, a list that is too long, and an attribute for the system. -/
def lamp : Entity :=
  ⟨"light.kitchen", "on",
    [("friendly_name", .string "Kitchen"), ("brightness", .integer 255), ("_stamp", .string "a|b"),
      ("effects", .array ((List.range 20).map fun n => .integer n))], none, some "today"⟩

theorem lamp_has_two_rows :
    listed lamp ≠ [] ∧ (∀ entry ∈ (listed lamp).take 10, ∀ cell ∈ cells entry, FitsCell cell) ∧
      ∃ table, Markdown.lines (entityText lamp).toList =
          Markdown.lines (unlines (description lamp ++ ["", "### Attributes"])).toList ++
            tableHead.map String.toList ++ table ++
              (footing lamp).flatMap (fun line => Markdown.lines line.toList) ∧
        IsTable lamp table := by
  have some_ : listed lamp ≠ [] := by decide +kernel
  have fits : ∀ entry ∈ (listed lamp).take 10, ∀ cell ∈ cells entry, FitsCell cell := by
    decide +kernel
  rcases (attributes_stand_in_rows_iff lamp).2 some_ with ⟨table, lines, isTable⟩
  exact ⟨some_, fits, table, lines, isTable.mpr fits⟩

/-- A bar in the value of an attribute makes a third cell. -/
theorem bar_makes_a_third_cell :
    let entity : Entity := ⟨"light.kitchen", "on", [("note", .string "a|b")], none, none⟩
    ¬ ∃ above table, Markdown.lines (entityText entity).toList =
        above ++ tableHead.map String.toList ++ table ∧ IsTable entity table := by
  rintro entity ⟨above, table, lines, isTable⟩
  have last : (Markdown.lines (entityText entity).toList).getLast? =
      some "| note | a|b |".toList := by
    decide +kernel
  have single : table.length = 1 := isTable.length_eq
  rcases List.length_eq_one_iff.mp single with ⟨line, rfl⟩
  rw [lines, List.getLast?_concat] at last
  have isRow : Markdown.IsRow line (cells ("note", .string "a|b")) :=
    (List.forall₂_cons.mp isTable.rows).1
  rw [Option.some.inj last] at isRow
  exact absurd isRow (by decide +kernel)

end Hover

end HomeConfig
