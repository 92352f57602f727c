import HomeConfig.Proofs.Document.Outline

/-!
# Which key lines enclose a line

The keys above a line are collected on a walk upwards, with a threshold that falls with every key
that is kept.  What is kept can be told without the walk: a key line encloses a line below it if it
is indented by less than that line, and by less than every key line between the two
(`Context.Encloses`).  So the key lines that enclose a line are the records of the indentations
above it.

Nothing is assumed of the lines.  They may mix tabs and spaces, hold other things than keys, and be
fewer than the number of the line.

The walk ends early, at a key that is not indented at all.  Nothing is lost there, and this is shown
by comparing it with a walk that always goes up to the first line (`Context.recordsFrom`).
-/

namespace HomeConfig

/-- A key line among some lines: its number, how far it is indented, and its key. -/
structure KeyRow where
  number : Nat
  indent : Nat
  key : String
deriving DecidableEq

namespace Context

/-! ## Key lines -/

/-- A line that begins with a bare key.  There may be blanks in front of its colon. -/
def IsKeyLine (line : Text) (indent : Nat) (key : String) : Prop :=
  ∃ (margin : Margin) (bare : BareKey) (gap tail : Text),
    line = margin.text ++ (bare.text ++ (gap ++ ':' :: tail)) ∧
      (∀ c ∈ gap, Text.isBlank c = true) ∧ margin.width = indent ∧ bare.name = key

theorem not_isPlainWord_of_isBlank {c : Char} (blank : Text.isBlank c = true) :
    Text.isPlainWord c = false := by
  cases plain : Text.isPlainWord c with
  | false => rfl
  | true =>
    simp only [Text.isPlainWord, Bool.or_eq_true, beq_iff_eq, Text.isAlphanum_iff] at plain
    simp only [Text.isBlank, Bool.or_eq_true, Bool.and_eq_true, decide_eq_true_eq,
      beq_iff_eq] at blank
    rcases plain with codes | rfl
    · omega
    · exact absurd blank (by decide)

theorem keyLine?_of_isKeyLine {line : Text} {indent : Nat} {key : String}
    (isKeyLine : IsKeyLine line indent key) : keyLine? line = some (indent, key) := by
  rcases isKeyLine with ⟨margin, bare, gap, tail, rfl, blanks, rfl, rfl⟩
  have first := isPlainWord_of_startsKey bare.starts
  have stops : (bare.text ++ (gap ++ ':' :: tail)).head?.any Text.isIndent = false :=
    not_isIndent_of_isPlainWord first
  have letters : ∀ c ∈ bare.text, Text.isPlainWord c = true :=
    List.forall_mem_cons.mpr ⟨first, bare.goesOn⟩
  have ends : (gap ++ ':' :: tail).head?.any Text.isPlainWord = false := by
    cases gap with
    | nil => rfl
    | cons c gap => exact not_isPlainWord_of_isBlank (blanks c (List.mem_cons_self ..))
  have found : (bare.text ++ (gap ++ ':' :: tail)).takeWhile Text.isPlainWord = bare.text :=
    Text.takeWhile_append_of_stops letters ends
  have colon : (gap ++ ':' :: tail).dropWhile Text.isBlank = ':' :: tail :=
    Text.dropWhile_append_of_stops blanks (by rfl)
  simp only [keyLine?, Text.dropWhile_append_of_stops margin.blank stops, found, List.drop_left,
    colon, indentOf_append margin.blank stops]
  exact if_pos bare.starts

theorem isKeyLine_of_keyLine? {line : Text} {indent : Nat} {key : String}
    (found : keyLine? line = some (indent, key)) : IsKeyLine line indent key := by
  simp only [keyLine?] at found
  generalize shape : line.dropWhile Text.isIndent = rest at found
  split at found
  next _ _ c others tail word behind =>
    split at found
    next starts =>
      cases found
      have goesOn : ∀ d ∈ others, Text.isPlainWord d = true := by
        intro d member
        exact List.mem_takeWhile_imp (word ▸ List.mem_cons_of_mem c member)
      have margin : ∀ d ∈ line.takeWhile Text.isIndent, Text.isIndent d = true :=
        fun d member => List.mem_takeWhile_imp member
      have left : (c :: others) ++ rest.drop (c :: others).length = rest := by
        have whole := List.takeWhile_append_dropWhile (p := Text.isPlainWord) (l := rest)
        rw [word] at whole
        conv_lhs => rw [← whole, List.drop_left]
        exact whole
      have parts : (rest.drop (c :: others).length).takeWhile Text.isBlank ++ ':' :: tail =
          rest.drop (c :: others).length := by
        rw [← behind, word, List.takeWhile_append_dropWhile]
      refine ⟨⟨_, margin⟩, ⟨c, others, starts, goesOn⟩,
        (rest.drop (c :: others).length).takeWhile Text.isBlank, tail, ?_,
        fun d member => List.mem_takeWhile_imp member, rfl, congrArg String.ofList word.symm⟩
      calc line
        _ = line.takeWhile Text.isIndent ++ rest := by rw [← shape, List.takeWhile_append_dropWhile]
        _ = line.takeWhile Text.isIndent ++ ((c :: others) ++ rest.drop (c :: others).length) := by
          rw [left]
        _ = line.takeWhile Text.isIndent ++ ((c :: others) ++
            ((rest.drop (c :: others).length).takeWhile Text.isBlank ++ ':' :: tail)) := by
          rw [parts]
    next => cases found
  next => cases found

/-- A line is read as a key line just if it is one. -/
theorem keyLine?_eq_some_iff {line : Text} {indent : Nat} {key : String} :
    keyLine? line = some (indent, key) ↔ IsKeyLine line indent key :=
  ⟨isKeyLine_of_keyLine?, keyLine?_of_isKeyLine⟩

end Context

namespace KeyRow

/-- A row tells the number, the indentation and the key of a key line. -/
def StandsIn (row : KeyRow) (lines : List Text) : Prop :=
  ∃ text, lines[row.number]? = some text ∧ Context.IsKeyLine text row.indent row.key

theorem standsIn_concat {row : KeyRow} {lines : List Text} {text : Text} :
    row.StandsIn (lines ++ [text]) ↔
      row.StandsIn lines ∨
        row.number = lines.length ∧ Context.keyLine? text = some (row.indent, row.key) := by
  simp only [StandsIn, ← Context.keyLine?_eq_some_iff]
  constructor
  · rintro ⟨found, place, isKey⟩
    rcases Nat.lt_trichotomy row.number lines.length with before | here | behind
    · rw [List.getElem?_append_left before] at place
      exact .inl ⟨found, place, isKey⟩
    · rw [here, List.getElem?_concat_length] at place
      cases place
      exact .inr ⟨here, isKey⟩
    · rw [List.getElem?_eq_none (by rw [List.length_append]; exact behind)] at place
      cases place
  · rintro (⟨found, place, isKey⟩ | ⟨here, isKey⟩)
    · have before := (List.getElem?_eq_some_iff.mp place).1
      exact ⟨found, by rw [List.getElem?_append_left before, place], isKey⟩
    · exact ⟨text, by rw [here, List.getElem?_concat_length], isKey⟩

theorem StandsIn.number_lt {row : KeyRow} {lines : List Text} (stands : row.StandsIn lines) :
    row.number < lines.length := by
  rcases stands with ⟨_, found, _⟩
  exact (List.getElem?_eq_some_iff.mp found).1

theorem standsIn_take {row : KeyRow} {lines : List Text} {count : Nat} :
    row.StandsIn (lines.take count) ↔ row.number < count ∧ row.StandsIn lines := by
  simp only [StandsIn, List.getElem?_take]
  by_cases above : row.number < count <;> simp [above]

end KeyRow

namespace Context

/-! ## Records -/

/-- A key line encloses a line with the given indentation: it is indented by less than that, and by
less than every key line between the two. -/
structure Encloses (lines : List Text) (line indent : Int) (row : KeyRow) : Prop where
  stands : row.StandsIn lines
  above : row.number < line
  shallower : row.indent < indent
  lowest : ∀ other : KeyRow, other.StandsIn lines → row.number < other.number →
    other.number < line → row.indent < other.indent

variable {lines : List Text} {text : Text} {threshold : Int} {row : KeyRow}

/-- The line next above encloses if it is a key line below the threshold.  What encloses it, seen
from its own indentation, are the other lines that do. -/
theorem encloses_concat_of_lt {indent : Nat} {key : String}
    (shape : keyLine? text = some (indent, key)) (below : indent < threshold) :
    Encloses (lines ++ [text]) (lines.length + 1 : Nat) threshold row ↔
      row = ⟨lines.length, indent, key⟩ ∨ Encloses lines lines.length indent row := by
  have last : KeyRow.StandsIn ⟨lines.length, indent, key⟩ (lines ++ [text]) :=
    KeyRow.standsIn_concat.mpr (.inr ⟨rfl, shape⟩)
  constructor
  · intro encloses
    rcases KeyRow.standsIn_concat.mp encloses.stands with stands | ⟨here, isKey⟩
    · have above := stands.number_lt
      refine .inr ⟨stands, Int.ofNat_lt.mpr above, Int.ofNat_lt.mpr ?_, ?_⟩
      · exact encloses.lowest _ last above (Int.ofNat_lt.mpr (Nat.lt_succ_self _))
      · intro other otherStands behind within
        exact encloses.lowest other (KeyRow.standsIn_concat.mpr (.inl otherStands)) behind
          (by omega)
    · rw [shape, Option.some.injEq, Prod.mk.injEq] at isKey
      rcases row with ⟨number, width, name⟩
      rcases isKey with ⟨rfl, rfl⟩
      exact .inl (here ▸ rfl)
  · rintro (rfl | encloses)
    · exact ⟨last, Int.ofNat_lt.mpr (Nat.lt_succ_self _), below,
        fun other _ behind within => by simp only at behind; omega⟩
    · have above := encloses.above
      have shallower := encloses.shallower
      refine ⟨KeyRow.standsIn_concat.mpr (.inl encloses.stands), by omega, by omega, ?_⟩
      intro other otherStands behind within
      rcases KeyRow.standsIn_concat.mp otherStands with otherStands | ⟨_, isKey⟩
      · exact encloses.lowest other otherStands behind (Int.ofNat_lt.mpr otherStands.number_lt)
      · rw [shape, Option.some.injEq, Prod.mk.injEq] at isKey
        omega

/-- A line that is no key line below the threshold takes no part in what encloses. -/
theorem encloses_concat_of_le
    (passed : ∀ indent key, keyLine? text = some (indent, key) → threshold ≤ indent) :
    Encloses (lines ++ [text]) (lines.length + 1 : Nat) threshold row ↔
      Encloses lines lines.length threshold row := by
  constructor
  · intro encloses
    rcases KeyRow.standsIn_concat.mp encloses.stands with stands | ⟨_, isKey⟩
    · refine ⟨stands, Int.ofNat_lt.mpr stands.number_lt, encloses.shallower, ?_⟩
      intro other otherStands behind within
      exact encloses.lowest other (KeyRow.standsIn_concat.mpr (.inl otherStands)) behind (by omega)
    · exact absurd encloses.shallower (Int.not_lt.mpr (passed _ _ isKey))
  · intro encloses
    have above := encloses.above
    have shallower := encloses.shallower
    refine ⟨KeyRow.standsIn_concat.mpr (.inl encloses.stands), by omega, shallower, ?_⟩
    intro other otherStands behind within
    rcases KeyRow.standsIn_concat.mp otherStands with otherStands | ⟨_, isKey⟩
    · exact encloses.lowest other otherStands behind (Int.ofNat_lt.mpr otherStands.number_lt)
    · have deep := passed _ _ isKey
      omega

/-- Only the lines above a line tell what encloses it. -/
theorem encloses_take {line : Int} :
    Encloses (lines.take line.toNat) (lines.take line.toNat).length threshold row ↔
      Encloses lines line threshold row := by
  constructor
  · intro encloses
    rcases KeyRow.standsIn_take.mp encloses.stands with ⟨above, stands⟩
    refine ⟨stands, by omega, encloses.shallower, ?_⟩
    intro other otherStands behind within
    have otherStands := KeyRow.standsIn_take.mpr
      (⟨by omega, otherStands⟩ : other.number < line.toNat ∧ _)
    exact encloses.lowest other otherStands behind (Int.ofNat_lt.mpr otherStands.number_lt)
  · intro encloses
    have above := encloses.above
    have stands := KeyRow.standsIn_take.mpr
      (⟨by omega, encloses.stands⟩ : row.number < line.toNat ∧ _)
    refine ⟨stands, Int.ofNat_lt.mpr stands.number_lt, encloses.shallower, ?_⟩
    intro other otherStands behind within
    rcases KeyRow.standsIn_take.mp otherStands with ⟨otherAbove, otherStands⟩
    exact encloses.lowest other otherStands behind (by omega)

/-! ## The walk that goes on to the first line -/

/-- The rows below a threshold, each of them below the one before it, nearest line first. -/
def recordsFrom (threshold : Int) : List Text → List KeyRow
  | [] => []
  | line :: above =>
    match keyLine? line with
    | some (indent, key) =>
      if indent < threshold then ⟨above.length, indent, key⟩ :: recordsFrom indent above
      else recordsFrom threshold above
    | none => recordsFrom threshold above

theorem recordsFrom_cons_of_lt {line : Text} {indent : Nat} {key : String} (above : List Text)
    (shape : keyLine? line = some (indent, key)) (below : indent < threshold) :
    recordsFrom threshold (line :: above) =
      ⟨above.length, indent, key⟩ :: recordsFrom indent above := by
  simp only [recordsFrom, shape, if_pos below]

theorem recordsFrom_cons_of_le {line : Text} (above : List Text)
    (passed : ∀ indent key, keyLine? line = some (indent, key) → threshold ≤ indent) :
    recordsFrom threshold (line :: above) = recordsFrom threshold above := by
  rw [recordsFrom]
  split
  next indent key shape => rw [if_neg (Int.not_lt.mpr (passed indent key shape))]
  next => rfl

/-- A line is a key line below the threshold, or the walk passes over it. -/
theorem below_or_passed (threshold : Int) (line : Text) :
    (∃ indent key, keyLine? line = some (indent, key) ∧ (indent : Int) < threshold) ∨
      ∀ indent key, keyLine? line = some (indent, key) → threshold ≤ indent := by
  cases shape : keyLine? line with
  | none => exact .inr (fun _ _ found => nomatch found)
  | some found =>
    rcases found with ⟨indent, key⟩
    by_cases below : (indent : Int) < threshold
    · exact .inl ⟨indent, key, rfl, below⟩
    · right
      rintro _ _ ⟨⟩
      exact Int.not_lt.mp below

/-- The walk that ends at a key without indentation finds as much as the one that goes on. -/
theorem enclosingFrom_eq_map_recordsFrom (threshold : Int) (above : List Text) :
    enclosingFrom threshold above = (recordsFrom threshold above).map KeyRow.key := by
  induction above generalizing threshold with
  | nil => rfl
  | cons line above inductionHypothesis =>
    rcases below_or_passed threshold line with ⟨indent, key, shape, below⟩ | passed
    · rw [enclosingFrom_cons_of_lt above shape below, recordsFrom_cons_of_lt above shape below,
        List.map_cons, inductionHypothesis]
    · rw [enclosingFrom_cons_of_le above passed, recordsFrom_cons_of_le above passed,
        inductionHypothesis]

/-- The walk keeps exactly the key lines that enclose. -/
theorem mem_recordsFrom_iff {above : List Text} :
    row ∈ recordsFrom threshold above ↔
      Encloses above.reverse above.reverse.length threshold row := by
  induction above generalizing threshold with
  | nil => exact ⟨nofun, fun encloses => absurd encloses.stands.number_lt (Nat.not_lt_zero _)⟩
  | cons line above inductionHypothesis =>
    have size : (above.reverse ++ [line]).length = above.reverse.length + 1 :=
      List.length_append
    rw [List.reverse_cons, size]
    rcases below_or_passed threshold line with ⟨indent, key, shape, below⟩ | passed
    · rw [recordsFrom_cons_of_lt above shape below, encloses_concat_of_lt shape below,
        List.mem_cons, inductionHypothesis, List.length_reverse]
    · rw [recordsFrom_cons_of_le above passed, encloses_concat_of_le passed, inductionHypothesis]

/-- Going up, the rows stand higher and higher, and further and further left. -/
theorem pairwise_recordsFrom (threshold : Int) (above : List Text) :
    (recordsFrom threshold above).Pairwise
      fun inner outer => outer.number < inner.number ∧ outer.indent < inner.indent := by
  induction above generalizing threshold with
  | nil => exact .nil
  | cons line above inductionHypothesis =>
    rcases below_or_passed threshold line with ⟨indent, key, shape, below⟩ | passed
    · rw [recordsFrom_cons_of_lt above shape below]
      refine .cons ?_ (inductionHypothesis indent)
      intro outer member
      have encloses := mem_recordsFrom_iff.mp member
      have higher := encloses.above
      rw [List.length_reverse] at higher
      exact ⟨Int.ofNat_lt.mp higher, Int.ofNat_lt.mp encloses.shallower⟩
    · rw [recordsFrom_cons_of_le above passed]
      exact inductionHypothesis threshold

/-! ## The keys that enclose a line -/

/-- The rows that enclose a line with the given indentation, outermost first. -/
def enclosingRows (lines : List Text) (line indent : Int) : List KeyRow :=
  (recordsFrom indent (lines.take line.toNat).reverse).reverse

theorem mem_enclosingRows_iff {line : Int} :
    row ∈ enclosingRows lines line threshold ↔ Encloses lines line threshold row := by
  rw [enclosingRows, List.mem_reverse, mem_recordsFrom_iff, List.reverse_reverse, encloses_take]

theorem pairwise_enclosingRows (lines : List Text) (line indent : Int) :
    (enclosingRows lines line indent).Pairwise
      fun outer inner => outer.number < inner.number ∧ outer.indent < inner.indent :=
  List.pairwise_reverse.mpr (pairwise_recordsFrom _ _)

/-- The keys that enclose a line are those of the key lines that enclose it, outermost first and
each of them once.  Every row stands below the one before it and is indented further, so only the
first of them can be not indented at all. -/
theorem enclosing_keys_are_strict_records (lines : List Text) (line indent : Int) :
    enclosingKeys lines line indent = (enclosingRows lines line indent).map KeyRow.key ∧
      (∀ row, row ∈ enclosingRows lines line indent ↔ Encloses lines line indent row) ∧
      ((enclosingRows lines line indent).Pairwise
        fun outer inner => outer.number < inner.number ∧ outer.indent < inner.indent) ∧
      ∀ row ∈ (enclosingRows lines line indent).tail, row.indent ≠ 0 := by
  have ordered := pairwise_enclosingRows lines line indent
  refine ⟨?_, fun row => mem_enclosingRows_iff, ordered, ?_⟩
  · rw [enclosingKeys, enclosingRows, enclosingFrom_eq_map_recordsFrom, List.map_reverse]
  · intro row member
    cases shape : enclosingRows lines line indent with
    | nil => simp [shape] at member
    | cons outermost others =>
      rw [shape, List.tail_cons] at member
      rw [shape] at ordered
      have further := (List.rel_of_pairwise_cons ordered member).2
      omega

/-- Neither the deeper key nor the sibling encloses.  A tab is one column, as a space is. -/
example :
    enclosingKeys
      (["a:", "    x:", "  b:", "\t\tc:", "- no key", "   d :", "    e"].map String.toList) 6 4 =
      ["a", "c", "d"] := by decide

end Context

end HomeConfig
