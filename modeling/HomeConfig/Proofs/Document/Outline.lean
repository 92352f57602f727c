import HomeConfig.Proofs.Document.Enclosing
import HomeConfig.Proofs.Text.Line

/-!
# Outlines

A document of nested blocks is an outline.  A block is a mapping, whose entries stand at one margin,
or a sequence, whose items do.  The value of a key stands behind it on its line, or below it in a
block with a deeper margin.  An item has its first entry behind its dash, and its other entries
below that, two columns behind the dash.

Each line of an outline has a path: the keys below which its block stands.  The keys that are
collected above a cursor are read off the lines alone, by their margins.  They are the path of the
line.  What carries this down the lines is `Traced`: in front of each line, the lines above it show
its path.  For a mapping it is enough that they do so at its own margin.  The other entries of an
item stand deeper than the item, so for a sequence the lines above it have to show the path up to
two columns behind its margin.
-/

namespace HomeConfig

/-- The blanks in front of the lines of a block. -/
structure Margin where
  text : Text
  blank : ∀ c ∈ text, Text.isIndent c = true

namespace Margin

/-- How many columns a margin takes. -/
def width (margin : Margin) : Nat :=
  margin.text.length

/-- A margin of spaces. -/
def spaces (count : Nat) : Margin where
  text := List.replicate count ' '
  blank := by
    intro c member
    rw [List.eq_of_mem_replicate member]
    rfl

theorem feed_notMem (margin : Margin) : '\n' ∉ margin.text :=
  fun feed => absurd (margin.blank _ feed) (by decide)

end Margin

/-- A key that needs no quotes. -/
structure BareKey where
  first : Char
  others : Text
  starts : Context.startsKey first = true
  goesOn : ∀ c ∈ others, Text.isPlainWord c = true

namespace BareKey

def text (key : BareKey) : Text :=
  key.first :: key.others

def name (key : BareKey) : String :=
  String.ofList key.text

theorem feed_notMem (key : BareKey) : '\n' ∉ key.text := by
  intro feed
  rcases List.mem_cons.mp feed with here | there
  · exact absurd (here ▸ key.starts) (by decide)
  · exact absurd (key.goesOn _ there) (by decide)

end BareKey

/-- A value that is written on one line. -/
structure Scalar where
  text : Text
  plain : '\n' ∉ text

/-- What a block is made of. -/
inductive Outline.Style
  | mapping
  | sequence

/-- A block at a margin, from an entry or item of it to its end. -/
inductive Outline : Outline.Style → Margin → Type
  | done {style : Outline.Style} {margin : Margin} : Outline style margin
  | scalar {margin : Margin} (key : BareKey) (value : Scalar) (later : Outline .mapping margin) :
      Outline .mapping margin
  | nested {style : Outline.Style} {margin deeper : Margin} (key : BareKey)
      (isDeeper : margin.width < deeper.width) (child : Outline style deeper)
      (later : Outline .mapping margin) : Outline .mapping margin
  | item {margin inner : Margin} (key : BareKey) (value : Scalar)
      (aligned : inner.width = margin.width + 2) (entries : Outline .mapping inner)
      (later : Outline .sequence margin) : Outline .sequence margin

namespace Outline

open Context

variable {style : Style} {margin : Margin}

/-! ## Rows -/

/-- A line of an outline, and the keys below which it stands, outermost first. -/
structure Row where
  margin : Margin
  content : Text
  path : List String

def Row.line (row : Row) : Text :=
  row.margin.text ++ row.content

/-- The rows of a block that stands below some keys. -/
def rows (path : List String) :
    {style : Style} → {margin : Margin} → Outline style margin → List Row
  | _, _, done => []
  | _, margin, scalar key value later =>
    ⟨margin, key.text ++ ':' :: ' ' :: value.text, path⟩ :: later.rows path
  | _, margin, nested key _ child later =>
    ⟨margin, key.text ++ [':'], path⟩ :: (child.rows (path ++ [key.name]) ++ later.rows path)
  | _, margin, item key value _ entries later =>
    ⟨margin, '-' :: ' ' :: (key.text ++ ':' :: ' ' :: value.text), path⟩ ::
      (entries.rows path ++ later.rows path)

/-- The text of a document, with a line feed between its lines. -/
def text (outline : Outline style margin) : Text :=
  ['\n'].intercalate ((outline.rows []).map Row.line)

/-- A row is a row of characters, the first of which stands behind the margin. -/
def Row.WellFormed (row : Row) : Prop :=
  '\n' ∉ row.line ∧ ∃ c content, row.content = c :: content ∧ Text.isIndent c = false

theorem wellFormed_of_mem_rows (outline : Outline style margin) (path : List String) :
    ∀ row ∈ outline.rows path, row.WellFormed := by
  have keys (key : BareKey) : Text.isIndent key.first = false :=
    not_isIndent_of_isPlainWord (isPlainWord_of_startsKey key.starts)
  induction outline generalizing path with
  | done => exact nofun
  | @scalar margin key value later inductionHypothesis =>
    refine List.forall_mem_cons.mpr ⟨⟨?_, _, _, rfl, keys key⟩, inductionHypothesis path⟩
    simp [Row.line, Margin.feed_notMem, key.feed_notMem, value.plain]
  | @nested style margin deeper key isDeeper child later ofChild ofLater =>
    refine List.forall_mem_cons.mpr ⟨⟨?_, _, _, rfl, keys key⟩, ?_⟩
    · simp [Row.line, Margin.feed_notMem, key.feed_notMem]
    · exact List.forall_mem_append.mpr ⟨ofChild _, ofLater path⟩
  | @item margin inner key value aligned entries later ofEntries ofLater =>
    refine List.forall_mem_cons.mpr ⟨⟨?_, _, _, rfl, by decide⟩, ?_⟩
    · simp [Row.line, Margin.feed_notMem, key.feed_notMem, value.plain]
    · exact List.forall_mem_append.mpr ⟨ofEntries path, ofLater path⟩

/-! ## Key lines among the rows -/

theorem keyLine?_of_key (margin : Margin) (key : BareKey) (tail : Text) :
    keyLine? (margin.text ++ (key.text ++ ':' :: tail)) = some (margin.width, key.name) :=
  keyLine?_key tail margin.blank key.starts key.goesOn

theorem keyLine?_of_dash (margin : Margin) (tail : Text) :
    keyLine? (margin.text ++ '-' :: tail) = none :=
  keyLine?_eq_none margin.blank (by decide) (by decide)

/-- How far behind the margin the entries of a block stand. -/
def Style.reach : Style → Nat
  | mapping => 0
  | sequence => 2

theorem le_of_keyLine? (outline : Outline style margin) (path : List String) :
    ∀ row ∈ outline.rows path, ∀ indent key, keyLine? row.line = some (indent, key) →
      margin.width + style.reach ≤ indent := by
  induction outline generalizing path with
  | done => exact nofun
  | @scalar margin key value later inductionHypothesis =>
    refine List.forall_mem_cons.mpr ⟨fun indent name shape => ?_, inductionHypothesis path⟩
    cases (keyLine?_of_key margin key _).symm.trans shape
    exact Nat.le_refl _
  | @nested style margin deeper key isDeeper child later ofChild ofLater =>
    refine List.forall_mem_cons.mpr ⟨fun indent name shape => ?_, ?_⟩
    · cases (keyLine?_of_key margin key []).symm.trans shape
      exact Nat.le_refl _
    · refine List.forall_mem_append.mpr ⟨fun row member indent name shape => ?_, ofLater path⟩
      have deep := ofChild _ row member indent name shape
      simp only [Style.reach]
      omega
  | @item margin inner key value aligned entries later ofEntries ofLater =>
    refine List.forall_mem_cons.mpr ⟨fun indent name shape => ?_, ?_⟩
    · cases (keyLine?_of_dash margin _).symm.trans shape
    · refine List.forall_mem_append.mpr ⟨fun row member indent name shape => ?_, ofLater path⟩
      have deep := ofEntries path row member indent name shape
      simp only [Style.reach] at deep ⊢
      omega

/-! ## Going down the rows -/

/-- Above each of some rows, the lines passed so far show the path of the row. -/
def Traced (above : List Text) : List Row → Prop
  | [] => True
  | row :: later =>
    enclosingFrom row.margin.width above = row.path.reverse ∧ Traced (row.line :: above) later

theorem Traced.append {above : List Text} {rows later : List Row} (first : Traced above rows)
    (second : Traced ((rows.map Row.line).reverse ++ above) later) :
    Traced above (rows ++ later) := by
  induction rows generalizing above with
  | nil => exact second
  | cons row rows inductionHypothesis =>
    refine ⟨first.1, inductionHypothesis first.2 ?_⟩
    simpa using second

theorem Traced.of_getElem? {above : List Text} {rows : List Row} (traced : Traced above rows)
    {number : Nat} {row : Row} (here : rows[number]? = some row) :
    enclosingFrom row.margin.width (((rows.take number).map Row.line).reverse ++ above) =
      row.path.reverse := by
  induction rows generalizing above number with
  | nil => simp at here
  | cons first rows inductionHypothesis =>
    cases number with
    | zero =>
      cases here
      exact traced.1
    | succ number =>
      have later := inductionHypothesis traced.2 (by simpa using here)
      simpa using later

/-- The lines above a block show a path, from the margin of the block to that of its entries. -/
def Encloses (style : Style) (margin : Margin) (above : List Text) (path : List String) : Prop :=
  ∀ threshold : Int, margin.width ≤ threshold → threshold ≤ margin.width + style.reach →
    enclosingFrom threshold above = path.reverse

namespace Encloses

variable {above : List Text} {path : List String}

theorem atMargin (encloses : Encloses style margin above path) :
    enclosingFrom margin.width above = path.reverse :=
  encloses margin.width (Int.le_refl _) (by omega)

/-- An entry changes nothing for the entries behind it. -/
theorem behind_key (encloses : Encloses .mapping margin above path) (key : BareKey) (tail : Text) :
    Encloses .mapping margin ((margin.text ++ (key.text ++ ':' :: tail)) :: above) path := by
  intro threshold low high
  rw [enclosingFrom_cons_of_le, encloses threshold low high]
  intro indent name shape
  cases (keyLine?_of_key margin key tail).symm.trans shape
  simpa [Style.reach] using high

/-- A key adds itself to the path of the block below it. -/
theorem below_key (encloses : Encloses .mapping margin above path) (style : Style) {deeper : Margin}
    (isDeeper : margin.width < deeper.width) (key : BareKey) (tail : Text) :
    Encloses style deeper ((margin.text ++ (key.text ++ ':' :: tail)) :: above)
      (path ++ [key.name]) := by
  intro threshold low high
  rw [enclosingFrom_cons_of_lt above (keyLine?_of_key margin key tail) (by omega),
    encloses.atMargin, List.reverse_concat]

/-- The line of a dash is no key line, whatever stands behind the dash. -/
theorem behind_dash (encloses : Encloses .sequence margin above path) (tail : Text) :
    Encloses .sequence margin ((margin.text ++ '-' :: tail) :: above) path := by
  intro threshold low high
  rw [enclosingFrom_cons_of_le, encloses threshold low high]
  intro indent name shape
  cases (keyLine?_of_dash margin tail).symm.trans shape

/-- What a sequence shows reaches as far as the entries of its items. -/
theorem inside_item (encloses : Encloses .sequence margin above path) {inner : Margin}
    (aligned : inner.width = margin.width + 2) : Encloses .mapping inner above path := by
  intro threshold low high
  simp only [Style.reach] at high
  exact encloses threshold (by omega) (by simp only [Style.reach]; omega)

/-- A block whose entries stand as deep hides nothing that is above it. -/
theorem behind_block (encloses : Encloses style margin above path) {other : Style} {inner : Margin}
    (block : Outline other inner) (below : List String)
    (deep : margin.width + style.reach ≤ inner.width + other.reach) :
    Encloses style margin (((block.rows below).map Row.line).reverse ++ above) path := by
  intro threshold low high
  rw [enclosingFrom_append_of_le, encloses threshold low high]
  intro line member indent key shape
  rcases List.mem_map.mp (List.mem_reverse.mp member) with ⟨row, among, rfl⟩
  have within := le_of_keyLine? block below row among indent key shape
  omega

end Encloses

theorem traced_rows (outline : Outline style margin) {above : List Text} {path : List String}
    (encloses : Encloses style margin above path) : Traced above (outline.rows path) := by
  induction outline generalizing above path with
  | done => trivial
  | scalar key value later inductionHypothesis =>
    exact ⟨encloses.atMargin, inductionHypothesis (encloses.behind_key key _)⟩
  | nested key isDeeper child later ofChild ofLater =>
    refine ⟨encloses.atMargin, Traced.append ?_ ?_⟩
    · exact ofChild (encloses.below_key _ isDeeper key [])
    · apply ofLater
      apply (encloses.behind_key key []).behind_block
      exact Nat.le_trans isDeeper.le (Nat.le_add_right _ _)
  | item key value aligned entries later ofEntries ofLater =>
    have dash := encloses.behind_dash (' ' :: (key.text ++ ':' :: ' ' :: value.text))
    refine ⟨encloses.atMargin, Traced.append ?_ ?_⟩
    · exact ofEntries (dash.inside_item aligned)
    · apply ofLater
      apply dash.behind_block
      exact Nat.le_of_eq aligned.symm

/-! ## Documents -/

theorem Row.WellFormed.indentOf_before {row : Row} (wellFormed : row.WellFormed) {column : Nat}
    (behind : row.margin.width ≤ column) :
    indentOf (Text.before row.line column) = row.margin.width := by
  rcases wellFormed.2 with ⟨c, content, shape, solid⟩
  have cut : Text.before row.line column =
      row.margin.text ++ row.content.take (Text.bound row.line.length column - row.margin.width) := by
    have inside : row.margin.width ≤ Text.bound row.line.length column := by
      simp only [Text.bound, Row.line, List.length_append, Margin.width] at behind ⊢
      split <;> omega
    rw [Text.before, Row.line, List.take_append]
    exact congrArg (· ++ _) (List.take_of_length_le inside)
  rw [cut]
  apply indentOf_append row.margin.blank
  rw [shape]
  cases Text.bound row.line.length column - row.margin.width with
  | zero => rfl
  | succ count => exact solid

/-- The lines of a document that starts with an outline. -/
theorem exists_lines_eq (outline : Outline style margin) {rest : Text}
    (ended : rest.head?.all (· == '\n') = true) (some_ : outline.rows [] ≠ []) :
    ∃ others, Text.lines (outline.text ++ rest) = (outline.rows []).map Row.line ++ others := by
  have plain : ∀ line ∈ (outline.rows []).map Row.line, '\n' ∉ line := by
    intro line member
    rcases List.mem_map.mp member with ⟨row, among, rfl⟩
    exact (outline.wellFormed_of_mem_rows [] row among).1
  have whole : Text.lines outline.text = (outline.rows []).map Row.line := by
    cases shape : (outline.rows []).map Row.line with
    | nil => exact absurd (List.map_eq_nil_iff.mp shape) some_
    | cons first others =>
      rw [shape] at plain
      rw [text, shape]
      exact Text.lines_intercalate plain
  cases rest with
  | nil => exact ⟨[], by rw [List.append_nil, List.append_nil, whole]⟩
  | cons c rest =>
    have feed : c = '\n' := by simpa using ended
    exact ⟨Text.lines rest, by rw [feed, Text.lines_append_feed, whole]⟩

/-- On every line of an outline, wherever the cursor stands behind the margin, the keys that enclose
it are the keys below which the line stands, outermost first. -/
theorem enclosing_keys_are_the_path (outline : Outline style margin) (rest : Text)
    (ended : rest.head?.all (· == '\n') = true) (number : Nat) (row : Row)
    (here : (outline.rows [])[number]? = some row) (column : Nat)
    (behind : row.margin.width ≤ column) :
    (Context.ofCursor (outline.text ++ rest) number column).parentKeys = row.path := by
  have among := List.mem_of_getElem? here
  have wellFormed := outline.wellFormed_of_mem_rows [] row among
  have inside := (List.getElem?_eq_some_iff.mp here).1
  rcases outline.exists_lines_eq ended (List.ne_nil_of_mem among) with ⟨others, lines⟩
  have line : Text.lineAt (outline.text ++ rest) number = row.line := by
    rw [Text.lineAt_natCast, lines, List.getElem?_append_left (by simpa using inside),
      List.getElem?_map, here]
    rfl
  have above : (Text.lines (outline.text ++ rest)).take number =
      ((outline.rows []).take number).map Row.line := by
    rw [lines, List.take_append_of_le_length (by simpa using inside.le), List.map_take]
  have nothing : Encloses style margin [] [] := fun threshold _ _ => rfl
  have path := (outline.traced_rows nothing).of_getElem? here
  rw [List.append_nil] at path
  have keys : (Context.ofCursor (outline.text ++ rest) number column).parentKeys =
      enclosingKeys (Text.lines (outline.text ++ rest)) number
        (indentOf (Text.before (Text.lineAt (outline.text ++ rest) number) column)) :=
    rfl
  rw [keys, line, wellFormed.indentOf_before behind, enclosingKeys, Int.toNat_natCast, above, path,
    List.reverse_reverse]

/-- An automation with two items, the first of which holds a nested block. -/
def nightAndDay : Outline .mapping (.spaces 0) :=
  let sun : Outline .mapping (.spaces 6) :=
    .scalar ⟨'p', "latform".toList, rfl, List.all_eq_true.mp rfl⟩ ⟨"sun".toList, by decide⟩ .done
  let night : Outline .mapping (.spaces 4) :=
    .nested ⟨'t', "rigger".toList, rfl, List.all_eq_true.mp rfl⟩ (by decide) sun .done
  let day : Outline .mapping (.spaces 4) :=
    .scalar ⟨'m', "ode".toList, rfl, List.all_eq_true.mp rfl⟩ ⟨"single".toList, by decide⟩ .done
  let title : BareKey := ⟨'a', "lias".toList, rfl, List.all_eq_true.mp rfl⟩
  let items : Outline .sequence (.spaces 2) :=
    .item title ⟨"Night".toList, by decide⟩ rfl night
      (.item title ⟨"Day".toList, by decide⟩ rfl day .done)
  .nested ⟨'a', "utomation".toList, rfl, List.all_eq_true.mp rfl⟩ (by decide) items .done

theorem mode_stands_below_the_automation :
    nightAndDay.text = ("automation:\n  - alias: Night\n    trigger:\n      platform: sun\n" ++
        "  - alias: Day\n    mode: single").toList ∧
      (Context.ofCursor (nightAndDay.text ++ ['\n']) 3 18).parentKeys = ["automation", "trigger"] ∧
      (Context.ofCursor (nightAndDay.text ++ ['\n']) 5 10).parentKeys = ["automation"] := by
  refine ⟨by decide +kernel, ?_, ?_⟩
  · exact enclosing_keys_are_the_path nightAndDay ['\n'] rfl 3 _ rfl 18 (by decide)
  · exact enclosing_keys_are_the_path nightAndDay ['\n'] rfl 5 _ rfl 10 (by decide)

end Outline

end HomeConfig
