import HomeConfig.Proofs.Completion.Acceptance
import HomeConfig.Proofs.Text.Case
import HomeConfig.Proofs.Text.Token

/-!
# Completions of a value

Behind a key that takes an entry of a registry, what has been typed of the value is told by the line
up to the cursor: it is the start of a name behind the last colon, with nothing but blanks and a
quotation mark in between, and if something else stands there, nothing has been typed
(`Typed.IsValue`).

The completions are made of the list of the registry as it stands (`AreCompletions`).  Each entry
that has what has been typed in one of its names has one item, in the order of the list.  An item
replaces what has been typed, and not a character more.  When the items are sorted, those that begin
with what has been typed come first.

All this is meant without regard to case.  What is typed and what it is looked for in are put in
lower case as whole texts, and so a capital sigma at the end of what has been typed becomes a final
one, which a name does not have where it goes on.  Such an entry is not offered.  If no word ends in
a capital sigma, the comparison is the one that goes letter by letter, and nothing is missed.
-/

namespace HomeConfig

/-! ## What has been typed -/

namespace Typed

variable {line name other : Text}

/-- A line ends in the start of a name, behind its last colon, with blanks and at most one quotation
mark in between. -/
def EndsInName (line name : Text) : Prop :=
  ∃ (front blanks : Text) (quote : Option Char),
    line = front ++ ':' :: (blanks ++ quote.toList ++ name) ∧
      (∀ c ∈ blanks, Text.isBlank c = true) ∧ (∀ c ∈ quote, Text.isQuote c = true) ∧
        ∀ c ∈ name, isNameChar c = true

/-- What has been typed of the value on a line: the start of a name, and nothing if the line ends in
something else. -/
def IsValue (line name : Text) : Prop :=
  EndsInName line name ∨ name = [] ∧ ¬ ∃ other, EndsInName line other

theorem EndsInName.value_eq (ends : EndsInName line name) : value line = name := by
  rcases ends with ⟨front, blanks, quote, rfl, allBlank, isQuote, chars⟩
  exact value_shape allBlank isQuote chars

theorem isValue_value (line : Text) : IsValue line (value line) := by
  by_cases found : ∃ other, EndsInName line other
  · rcases found with ⟨other, ends⟩
    rw [ends.value_eq]
    exact Or.inl ends
  · refine Or.inr ⟨?_, found⟩
    unfold value
    split
    next typed read =>
      rcases Option.bind_eq_some_iff.mp read with ⟨⟨front, behind⟩, cut, isTyped⟩
      rcases ofText?_eq_some isTyped with ⟨blanks, shape, allBlank, isQuote, chars⟩
      have ends : EndsInName line typed.name := by
        refine ⟨front, blanks, typed.quote, ?_, allBlank, isQuote, chars⟩
        rw [cutLast?_eq_some cut, shape]
      exact absurd ⟨_, ends⟩ found
    next => rfl

/-- The line tells what has been typed. -/
theorem isValue_iff : IsValue line name ↔ name = value line := by
  constructor
  · rintro (ends | ⟨rfl, nothing⟩)
    · exact ends.value_eq.symm
    · rcases isValue_value line with ends | ⟨same, _⟩
      · exact absurd ⟨_, ends⟩ nothing
      · exact same.symm
  · rintro rfl
    exact isValue_value line

/-- What has been typed stands at the end of the line. -/
theorem value_suffix (line : Text) : value line <:+ line ∧ '\n' ∉ value line := by
  rcases isValue_value line with ⟨front, blanks, quote, shape, _, _, chars⟩ | ⟨nothing, _⟩
  · constructor
    · refine ⟨front ++ ':' :: (blanks ++ quote.toList), ?_⟩
      rw [List.append_assoc, List.cons_append, ← shape]
    · intro feed
      exact absurd (chars _ feed) (by decide)
  · rw [nothing]
    exact ⟨List.nil_suffix, List.not_mem_nil⟩

end Typed

/-! ## Items -/

/-- What an item is sorted by. -/
def Item.sortKey (item : Item) : String :=
  item.sortText.getD item.label

/-- An item with a name puts the name in the place of what has been typed, which its range covers
exactly, up to the cursor. -/
structure Item.Replaces (text : Text) (cursor : Position) (typed : Text) (name : String)
    (item : Item) : Prop where
  label : item.label = name
  edit : ∃ range, item.edit = some ⟨range, name⟩ ∧ range.stop = cursor ∧
    range.start.line = cursor.line ∧ range.start.character + typed.length = cursor.character ∧
      range.slice text = typed

/-- Items are the completions of what has been typed by the entries of a list: one for each entry
that is a completion, in the order of the list, and such that sorting them puts those that begin
with what has been typed in front of the others. -/
structure AreCompletions (fold : Text → Text) (text : Text) (cursor : Position) (typed : Text)
    (registry : Registry) (listed : List registry.Item) (items : List Item) : Prop where
  inOrder : List.Forall₂ (fun entry => Item.Replaces text cursor typed (registry.label entry))
    (listed.filter fun entry => registry.IsCompletion fold typed entry) items
  sorted (arranged : List Item) : arranged.Perm items →
    arranged.Pairwise (fun first second => first.sortKey ≤ second.sortKey) →
      arranged.Pairwise fun first second =>
        fold typed <+: fold second.label.toList → fold typed <+: fold first.label.toList

namespace Candidate

variable {needle : Text}

theorem rank_of_starts {name : String} (starts : needle <+: Text.lower name.toList) :
    rank needle name = "0" ++ name :=
  if_pos ((Text.startsWith_iff _ _).mpr starts)

theorem rank_of_not_starts {name : String} (others : ¬ needle <+: Text.lower name.toList) :
    rank needle name = "1" ++ name :=
  if_neg (mt (Text.startsWith_iff _ _).mp others)

/-- A name that begins with what has been typed comes before one that does not. -/
theorem rank_lt {name other : String} (starts : needle <+: Text.lower name.toList)
    (others : ¬ needle <+: Text.lower other.toList) : rank needle name < rank needle other := by
  rw [rank_of_starts starts, rank_of_not_starts others]
  have order : ("0" ++ name).toList < ("1" ++ other).toList := by
    rw [String.toList_append, String.toList_append]
    exact List.Lex.rel (by decide)
  exact order

end Candidate

theorem Item.Completes.sortKey_eq {needle : Text} {range : Range} {name : String} {item : Item}
    (completes : item.Completes needle range name) :
    item.sortKey = Candidate.rank needle item.label := by
  rw [sortKey, completes.sortText, completes.label, Option.getD_some]

/-- The completion of what stands in front of the cursor replaces just that. -/
theorem Item.Completes.replaces {needle front typed after : Text} {name : String} {item : Item}
    (plain : '\n' ∉ typed)
    (completes : item.Completes needle (Typed.range (Position.behind (front ++ typed)) typed) name) :
    item.Replaces (front ++ typed ++ after) (Position.behind (front ++ typed)) typed name := by
  have range := Typed.range_behind plain front
  have start : (Position.behind front).toOffset (front ++ typed ++ after) = front.length := by
    rw [List.append_assoc]
    exact Position.toOffset_behind front (typed ++ after)
  have stop : (Position.behind (front ++ typed)).toOffset (front ++ typed ++ after) =
      (front ++ typed).length := Position.toOffset_behind (front ++ typed) after
  have placed := Position.behind_append_of_plain plain front
  refine ⟨completes.label, _, completes.edit, rfl, rfl, ?_, ?_⟩
  · rw [range, placed]
  · rw [range, Range.slice, start, stop, List.take_left, List.drop_left]

/-- Behind a key of a registry, the completions are those of what has been typed, when all is put in
lower case as a whole. -/
theorem completes_given (answers : Answers) (registry : Registry) (before after : Text) :
    let context := Context.between before after
    let typed := Typed.value context.lineBefore
    registry.keys.contains (String.ofList (Text.lower (context.key.getD []))) = true →
      AreCompletions Text.lower (before ++ after) (Position.behind before) typed registry
        (answers.entries registry)
        ((Offer.value context (Position.behind before)).given answers) := by
  intro context typed isKey
  have lastLine : context.lineBefore = before.lastLine := Context.lineBefore_between before after
  rcases Typed.value_suffix context.lineBefore with ⟨⟨lead, line⟩, plain⟩
  rcases Text.exists_append_lastLine before with ⟨ended, whole, _⟩
  have split : before = (ended ++ lead) ++ typed := by
    rw [List.append_assoc, line, lastLine, ← whole]
  constructor
  · apply (Offer.forall₂_given answers registry isKey).imp
    intro entry item completes
    rw [split] at completes ⊢
    exact completes.replaces plain
  · intro arranged same order
    apply order.imp_of_mem
    intro first second isFirst isSecond notAfter starts
    rcases Offer.exists_completes_of_mem answers registry isKey (same.mem_iff.mp isFirst) with
      ⟨_, _, completesFirst⟩
    rcases Offer.exists_completes_of_mem answers registry isKey (same.mem_iff.mp isSecond) with
      ⟨_, _, completesSecond⟩
    by_contra others
    have sortedBefore := Candidate.rank_lt starts others
    rw [← completesFirst.sortKey_eq, ← completesSecond.sortKey_eq] at sortedBefore
    exact notAfter sortedBefore

/-- Behind the colon of a key there is a line. -/
theorem Context.line_lt_of_inValue {text : Text} {cursor : Position}
    (inValue : (ofCursor text cursor.line cursor.character).inValue = true) :
    cursor.line < (Text.lines text).length := by
  by_contra outside
  have none_ : Text.lineAt text cursor.line = [] := by
    rw [Text.lineAt_natCast, List.getElem?_eq_none (Nat.le_of_not_lt outside)]
    rfl
  have noColon : (ofCursor text cursor.line cursor.character).inValue = false := by
    simp [ofCursor, none_, Text.before, beforeSeparator?]
  rw [noColon] at inValue
  cases inValue

theorem Registry.label_mem_names (registry : Registry) (entry : registry.Item) :
    registry.label entry ∈ registry.names entry := by
  cases registry <;> exact List.mem_cons_self

/-- Two ways to disregard case that agree on what has been typed, and on the names of a list, give
the same completions. -/
theorem AreCompletions.congr {fold other : Text → Text} {text typed : Text} {cursor : Position}
    {registry : Registry} {listed : List registry.Item} {items : List Item}
    (completes : AreCompletions fold text cursor typed registry listed items)
    (sameTyped : fold typed = other typed)
    (sameNames : ∀ entry ∈ listed, ∀ name ∈ registry.names entry,
      fold name.toList = other name.toList)
    (labels : ∀ item ∈ items, ∃ entry ∈ listed, item.label = registry.label entry) :
    AreCompletions other text cursor typed registry listed items where
  inOrder := by
    have same : (listed.filter fun entry => registry.IsCompletion fold typed entry) =
        listed.filter fun entry => registry.IsCompletion other typed entry := by
      apply List.filter_congr
      intro entry isListed
      apply decide_eq_decide.mpr
      apply and_congr_right'
      apply exists_congr
      intro name
      apply and_congr_right
      intro member
      rw [sameTyped, sameNames entry isListed name member]
    exact same ▸ completes.inOrder
  sorted := by
    intro arranged same order
    apply (completes.sorted arranged same order).imp_of_mem
    intro first second isFirst isSecond starts
    have sameLabel {item : Item} (member : item ∈ arranged) :
        fold item.label.toList = other item.label.toList := by
      rcases labels item (same.mem_iff.mp member) with ⟨entry, isListed, label⟩
      rw [label]
      exact sameNames entry isListed _ (registry.label_mem_names entry)
    rwa [sameTyped, sameLabel isFirst, sameLabel isSecond] at starts

/-- Let a cursor stand within its line, outside a template, behind the colon of a key that takes an
entry of a registry.  What has been typed is told by the line, and the completions are those of what
has been typed, with all names in lower case.  If neither what has been typed nor a name on the list
has a capital sigma at the end of a word, they are those that are told by comparing letters. -/
theorem values_are_completed_in_order (text : Text) (cursor : Position) (answers : Answers)
    (registry : Registry)
    (within : cursor.character ≤ (Text.lineAt text cursor.line).length) :
    let context := Context.ofCursor text cursor.line cursor.character
    let listed := answers.entries registry
    let items := (complete text cursor).given answers
    context.inTemplate = false → context.inValue = true →
      registry.keys.contains (String.ofList (Text.lower (context.key.getD []))) = true →
        ∃ typed, (∀ other, Typed.IsValue context.lineBefore other ↔ other = typed) ∧
          AreCompletions Text.lower text cursor typed registry listed items ∧
            (¬ Text.HasFinalSigma typed →
              (∀ entry ∈ listed, ∀ name ∈ registry.names entry, ¬ Text.HasFinalSigma name.toList) →
                AreCompletions Text.letterwise text cursor typed registry listed items) := by
  intro context listed items outside inValue isKey
  rcases Position.exists_behind (Context.line_lt_of_inValue inValue) within with
    ⟨before, after, rfl, rfl⟩
  have offer : Offer.ofContext context (Position.behind before) =
      Offer.value context (Position.behind before) := by
    rw [Offer.ofContext, if_neg (by simp [outside]), if_pos inValue]
  have isGiven : items = (Offer.value context (Position.behind before)).given answers := by
    rw [← offer]
    exact Offer.given_complete answers _ _
  have completes : AreCompletions Text.lower (before ++ after) (Position.behind before)
      (Typed.value context.lineBefore) registry listed items :=
    isGiven ▸ completes_given answers registry before after isKey
  refine ⟨Typed.value context.lineBefore, fun other => Typed.isValue_iff, completes, ?_⟩
  intro noSigma plainNames
  apply completes.congr
  · exact Text.lower_eq_letterwise noSigma
  · intro entry isListed name member
    exact Text.lower_eq_letterwise (plainNames entry isListed name member)
  · intro item offered
    rw [isGiven] at offered
    rcases Offer.exists_completes_of_mem answers registry isKey offered with
      ⟨entry, isListed, isCompletion⟩
    exact ⟨entry, isListed, isCompletion.label⟩

/-- A plug, a sensor with light in its name, and a light. -/
def plugSensorAndLight : Answers where
  list
    | .states => .ok ⟨[⟨"switch.plug", "on", [], none, none⟩, ⟨"sensor.light", "3", [], none, none⟩,
        ⟨"light.attic", "on", [], none, none⟩], 1, 0⟩
    | _ => .ok ⟨[], 1, 0⟩
  read _ := .ok .null

theorem sensor_and_light_complete_capitals :
    let text := "  - Entity_ID: \"LI\n".toList
    let cursor : Position := ⟨0, 18⟩
    let listed := plugSensorAndLight.entries .states
    let items := (complete text cursor).given plugSensorAndLight
    AreCompletions Text.letterwise text cursor "LI".toList .states listed items ∧
      items.map Item.label = ["sensor.light", "light.attic"] ∧
        items.map Item.sortKey = ["1sensor.light", "0light.attic"] := by
  intro text cursor listed items
  have within : cursor.character ≤ (Text.lineAt text cursor.line).length := by decide +kernel
  rcases values_are_completed_in_order text cursor plugSensorAndLight .states within
    (by decide +kernel) (by decide +kernel) (by decide +kernel) with
    ⟨typed, isValue, _, completes⟩
  have isTyped : "LI".toList = typed := by
    rw [← isValue, Typed.isValue_iff]
    decide +kernel
  subst isTyped
  have noSigma : ∀ state ∈ listed, ∀ name ∈ Registry.states.names state,
      '\u03a3' ∉ name.toList := by
    decide +kernel
  refine ⟨completes ?_ ?_, by decide +kernel, by decide +kernel⟩
  · exact Text.not_hasFinalSigma (by decide)
  · intro state isListed name member
    exact Text.not_hasFinalSigma (noSigma state isListed name member)

/-- A light with a Greek name in capitals, with a sigma inside. -/
def greekLight : Entity :=
  ⟨"light.porch", "on", [("friendly_name", .string "\u03a6\u03a9\u03a3\u03a4\u0397\u03a1")], none,
    none⟩

/-- The answers where there is nothing but the light with the Greek name. -/
def greekLightAlone : Answers where
  list
    | .states => .ok ⟨[greekLight], 1, 0⟩
    | _ => .ok ⟨[], 1, 0⟩
  read _ := .ok .null

/-- The start of a name, typed as it is written up to a sigma, does not find the name. -/
theorem capital_sigma_hides_a_light :
    ¬ ∀ (text : Text) (cursor : Position) (answers : Answers) (registry : Registry),
      let context := Context.ofCursor text cursor.line cursor.character
      cursor.character ≤ (Text.lineAt text cursor.line).length →
        context.inTemplate = false → context.inValue = true →
          registry.keys.contains (String.ofList (Text.lower (context.key.getD []))) = true →
            ∃ typed, Typed.IsValue context.lineBefore typed ∧
              AreCompletions Text.letterwise text cursor typed registry (answers.entries registry)
                ((complete text cursor).given answers) := by
  intro all
  let text := "entity_id: \u03a6\u03a9\u03a3".toList
  rcases all text ⟨0, 14⟩ greekLightAlone .states (by decide +kernel) (by decide +kernel)
    (by decide +kernel) (by decide +kernel) with ⟨typed, isValue, completes⟩
  have isTyped : typed = "\u03a6\u03a9\u03a3".toList := by
    rw [Typed.isValue_iff.mp isValue]
    decide +kernel
  have nothing : (complete text ⟨0, 14⟩).given greekLightAlone = [] := by decide +kernel
  -- The name begins with what has been typed, letter by letter.
  have isPart : typed <:+: greekLight.friendlyName.toList := by
    rw [isTyped]
    decide +kernel
  have found : Registry.states.IsCompletion Text.letterwise typed greekLight :=
    ⟨Or.inl rfl, _, List.mem_cons_of_mem _ List.mem_cons_self, Text.infix_letterwise isPart⟩
  have inOrder := completes.inOrder
  rw [nothing, List.forall₂_nil_right_iff, List.filter_eq_nil_iff] at inOrder
  exact inOrder greekLight List.mem_cons_self (by simpa using found)

end HomeConfig
