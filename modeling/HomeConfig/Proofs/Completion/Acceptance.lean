import HomeConfig.Proofs.Completion.Registry
import HomeConfig.Proofs.Completion.Typed
import HomeConfig.Proofs.Document.Whole

/-!
# Accepted completions

When a completion is accepted, its edit replaces what has been typed of a name by its label.  A
check of the edited document looks for names in ways of its own.  For the two to agree, no check may
report the label as an unknown name, nor any other name that overlaps it.

The label stands where the name was typed, behind a colon, so it is there to be found; it is found
whole, since no character of a word follows it; and it is the name of a subject on the list.
-/

namespace HomeConfig

/-! ## Edits -/

namespace Edit

/-- The text of a document after an edit. -/
def apply (text : Text) (edit : Edit) : Text :=
  text.take (edit.range.start.toOffset text) ++ edit.newText.toList ++
    text.drop (edit.range.stop.toOffset text)

/-- What an edit has inserted into a document. -/
def inserted (text : Text) (edit : Edit) : Excerpt :=
  ⟨edit.range.start.toOffset text, edit.newText.toList⟩

/-- A check of the edited document has no finding of a kind that overlaps what an edit has
inserted. -/
def FreeOf (finding : String → Finding) (answers : Answers) (text : Text) (edit : Edit) : Prop :=
  ∀ isConnected uri tree,
    ∀ diagnostic ∈ (validate isConnected ⟨edit.apply text, uri, tree⟩).given answers,
      ∀ name, diagnostic.finding = finding name →
        Range.Apart (edit.apply text) diagnostic.range
          ((edit.inserted text).range (edit.apply text))

end Edit

section

variable {front name after : Text}

theorem Typed.range_behind (plain : '\n' ∉ name) (front : Text) :
    range (Position.behind (front ++ name)) name =
      ⟨Position.behind front, Position.behind (front ++ name)⟩ := by
  have line : (front ++ name).count '\n' = front.count '\n' := by
    rw [List.count_append, List.count_eq_zero.mpr plain, Nat.add_zero]
  have column : (front ++ name).lastLine.length - name.length = front.lastLine.length := by
    rw [Text.lastLine_append_of_plain plain, List.length_append, Nat.add_sub_cancel]
  rw [range, Position.behind, line, column]
  rfl

/-- The edit of what has been typed replaces it, and nothing else. -/
theorem Edit.apply_typed (plain : '\n' ∉ name) (front after : Text) (label : String) :
    let edit : Edit := ⟨Typed.range (Position.behind (front ++ name)) name, label⟩
    edit.apply (front ++ name ++ after) = front ++ label.toList ++ after ∧
      edit.inserted (front ++ name ++ after) = ⟨front.length, label.toList⟩ := by
  intro edit
  have stop : edit.range.stop.toOffset (front ++ name ++ after) = (front ++ name).length :=
    Position.toOffset_behind (front ++ name) after
  have start : edit.range.start.toOffset (front ++ name ++ after) = front.length := by
    have begins : edit.range.start = Position.behind front :=
      congrArg Range.start (Typed.range_behind plain front)
    rw [begins, List.append_assoc]
    exact Position.toOffset_behind front (name ++ after)
  constructor
  · rw [Edit.apply, start, stop, List.drop_left, List.append_assoc front, List.take_left]
  · rw [Edit.inserted, start]

/-- What has been inserted stands where the name was typed. -/
theorem Edit.inserted_stands (front after : Text) (label : String) :
    (⟨front.length, label.toList⟩ : Excerpt).StandsBehind (front ++ label.toList ++ after) front ∧
      (after.head?.any Text.isWord = false →
        (⟨front.length, label.toList⟩ : Excerpt).EndsWord (front ++ label.toList ++ after)) := by
  refine ⟨⟨rfl, after, rfl⟩, fun ends => ?_⟩
  have stop : (⟨front.length, label.toList⟩ : Excerpt).stop = (front ++ label.toList).length := by
    rw [List.length_append]
    rfl
  rw [Excerpt.EndsWord, stop, List.drop_left]
  exact ends

/-- Where a known name has been inserted behind a colon, no name is reported unknown. -/
theorem Edit.freeOf_of_known {earlier : Text} {label : String} {answers : Answers}
    {finding : String → Finding} {isKnown : String → Bool} {references : Text → List Reference}
    (warns : Check.WarnsOf finding isKnown references answers) (agree : Reference.Agree references)
    (plain : '\n' ∉ name) (sign : Reference.EndsWithSign ':' earlier front)
    (dotted : Recogniser.IsDotted label.toList) (ends : after.head?.any Text.isWord = false)
    (known : isKnown label = true) :
    FreeOf finding answers (front ++ name ++ after)
      ⟨Typed.range (Position.behind (front ++ name)) name, label⟩ := by
  intro isConnected uri tree diagnostic member value names
  rcases apply_typed plain front after label with ⟨applied, inserted⟩
  rcases inserted_stands front after label with ⟨stands, endsWord⟩
  rw [applied] at member ⊢
  rw [inserted]
  apply warns.apart agree member names stands ⟨earlier, sign, trivial, dotted⟩ (endsWord ends)
  rw [String.ofList_toList]
  exact known

/-- An item that replaces what has been typed by its label puts its label in the place of the name,
and no other text changes. -/
theorem Edit.accepted_of_freeOf {item : Item} {label : String} {answers : Answers}
    {finding : String → Finding} (plain : '\n' ∉ name) (shown : item.label = label)
    (edit : item.edit = some ⟨Typed.range (Position.behind (front ++ name)) name, label⟩)
    (free : FreeOf finding answers (front ++ name ++ after)
      ⟨Typed.range (Position.behind (front ++ name)) name, label⟩) :
    ∃ edit earlier later, item.edit = some edit ∧
      front ++ name ++ after = earlier ++ name ++ later ∧
        edit.apply (front ++ name ++ after) = earlier ++ item.label.toList ++ later ∧
          edit.FreeOf finding answers (front ++ name ++ after) := by
  refine ⟨_, front, after, edit, rfl, ?_, free⟩
  rw [shown]
  exact (apply_typed plain front after label).1

end

/-! ## Names of subjects -/

/-- A lower-case basic letter, or the underscore. -/
def Text.isPlainLetter (c : Char) : Bool :=
  c.isLower || c == '_'

/-- A dotted name of plain letters and, behind the dot, digits. -/
def IsPlainName (text : Text) : Prop :=
  ∃ domain name, text = domain ++ '.' :: name ∧ domain ≠ [] ∧ name ≠ [] ∧
    (∀ c ∈ domain, Text.isPlainLetter c = true) ∧
      ∀ c ∈ name, (Text.isPlainLetter c || c.isDigit) = true

theorem Text.isNameLetter_of_isPlainLetter {c : Char} (letter : isPlainLetter c = true) :
    isNameLetter c = true := by
  rcases Bool.or_eq_true_iff.mp letter with lower | underscore
  · have bounds := Bool.and_eq_true_iff.mp lower
    have low : 97 ≤ c.toNat := of_decide_eq_true bounds.1
    have high : c.toNat ≤ 122 := of_decide_eq_true bounds.2
    have noUpper : ¬ (c.val ≥ 'A'.val ∧ c.val ≤ 'Z'.val) := by
      rintro ⟨_, upper⟩
      have below : c.toNat ≤ 90 := upper
      omega
    have same : c.toLower = c := dif_neg noUpper
    have basic {other : Char} (far : 0x80 ≤ other.toNat) : c ≠ other := by
      rintro rfl
      omega
    have noI : ¬ (c = '\u0130' ∨ c = '\u0131') := by
      rintro (i | i)
      · exact basic (by decide) i
      · exact basic (by decide) i
    rw [isNameLetter, foldLetter, if_neg noI, if_neg (basic (by decide)),
      if_neg (basic (by decide)), same, lower]
    rfl
  · simp [isNameLetter, underscore]

theorem IsPlainName.isDotted {text : Text} (plain : IsPlainName text) :
    Recogniser.IsDotted text := by
  rcases plain with ⟨domain, name, shape, someDomain, someName, letters, chars⟩
  refine ⟨domain, name, shape, someDomain, someName, ?_, ?_⟩
  · intro c member
    exact Text.isNameLetter_of_isPlainLetter (letters c member)
  · intro c member
    rcases Bool.or_eq_true_iff.mp (chars c member) with letter | digit
    · simp [Text.isNameChar, Text.isNameLetter_of_isPlainLetter letter]
    · simp [Text.isNameChar, digit]

/-! ## What is accepted -/

/-- In front of what has been typed behind a colon there stands the colon, in the document as well
as on the line. -/
theorem Typed.exists_front {before lead blanks name : Text} {quote : Option Char}
    (line : before.lastLine = lead ++ ':' :: (blanks ++ quote.toList ++ name))
    (allBlank : ∀ c ∈ blanks, Text.isBlank c = true)
    (isQuote : ∀ c ∈ quote, Text.isQuote c = true) :
    ∃ earlier front, before = front ++ name ∧ Reference.EndsWithSign ':' earlier front := by
  rcases Text.exists_append_lastLine before with ⟨ended, whole, _⟩
  refine ⟨ended ++ lead, ended ++ lead ++ ':' :: (blanks ++ quote.toList), ?_, blanks, quote.toList,
    rfl, allBlank, ?_⟩
  · rw [line] at whole
    simpa using whole
  · cases quote with
    | none => exact Or.inl rfl
    | some c => exact Or.inr ⟨c, rfl, isQuote c rfl⟩

namespace Offer

variable {context : Context} {cursor : Position}

theorem value_of_entityKey
    (isKey : Vocabulary.entityKeys.contains
      (String.ofList (Text.lower (context.key.getD []))) = true) :
    value context cursor = entries .states
      (Candidate.entity (Text.lower (Typed.value context.lineBefore))
        (Typed.range cursor (Typed.value context.lineBefore))) :=
  value_of_key .states isKey

theorem value_of_serviceKey
    (isKey : Vocabulary.serviceKeys.contains
      (String.ofList (Text.lower (context.key.getD []))) = true) :
    value context cursor = entries .services
      (Candidate.service (Text.lower (Typed.value context.lineBefore))
        (Typed.range cursor (Typed.value context.lineBefore))) :=
  value_of_key .services isKey

end Offer

/-- Let a cursor stand within its line, outside a template, behind the colon of a key for entities;
let blanks and at most one quotation mark be followed by the name that has been typed, and let no
character of a word follow the cursor.  If the entities have plain names, every completion replaces
what has been typed by its label, and a check of the edited document finds no unknown entity there.
The same holds of services. -/
theorem accepted_names_are_known (text : Text) (cursor : Position) (answers : Answers)
    (inside : cursor.line < (Text.lines text).length)
    (within : cursor.character ≤ (Text.lineAt text cursor.line).length)
    (ends : ((Text.lineAt text cursor.line).drop cursor.character).head?.any Text.isWord = false)
    (lead blanks name : Text) (quote : Option Char)
    (allBlank : ∀ c ∈ blanks, Text.isBlank c = true)
    (isQuote : ∀ c ∈ quote, Text.isQuote c = true)
    (chars : ∀ c ∈ name, Typed.isNameChar c = true) :
    let context := Context.ofCursor text cursor.line cursor.character
    let key := String.ofList (Text.lower (context.key.getD []))
    let accepts (finding : String → Finding) (item : Item) : Prop :=
      ∃ edit front after, item.edit = some edit ∧ text = front ++ name ++ after ∧
        edit.apply text = front ++ item.label.toList ++ after ∧ edit.FreeOf finding answers text
    context.lineBefore = lead ++ ':' :: (blanks ++ quote.toList ++ name) →
      context.inTemplate = false → context.inValue = true →
        (Vocabulary.entityKeys.contains key = true →
          (∀ state ∈ answers.entries .states, IsPlainName state.id.toList) →
            ∀ item ∈ (complete text cursor).given answers, accepts .unknownEntity item) ∧
        (Vocabulary.serviceKeys.contains key = true →
          (∀ listed ∈ answers.entries .services, IsPlainName listed.fullName.toList) →
            ∀ item ∈ (complete text cursor).given answers, accepts .unknownService item) := by
  rcases Position.exists_behind inside within with ⟨before, after, rfl, rfl⟩
  intro context key accepts line outside behind
  have lastLine : context.lineBefore = before.lastLine := Context.lineBefore_between before after
  rw [Text.head?_drop_lineAt_behind (by decide)] at ends
  rw [lastLine] at line
  rcases Typed.exists_front line allBlank isQuote with ⟨earlier, front, rfl, sign⟩
  have typed : Typed.value context.lineBefore = name := by
    rw [lastLine, line]
    exact Typed.value_shape allBlank isQuote chars
  have plain : '\n' ∉ name := fun feed => absurd (chars _ feed) (by decide)
  have offer : Offer.ofContext context (Position.behind (front ++ name)) =
      Offer.value context (Position.behind (front ++ name)) := by
    rw [Offer.ofContext, if_neg (by simp [outside]), if_pos behind]
  rw [Offer.given_complete, offer]
  refine ⟨fun isKey names item offered => ?_, fun isKey names item offered => ?_⟩
  · rw [Offer.value_of_entityKey isKey, typed] at offered
    rcases Offer.mem_given_entries.mp offered with ⟨state, listed, made⟩
    rcases Candidate.entity_eq_some made with ⟨label, edit, _⟩
    apply Edit.accepted_of_freeOf plain label edit
    apply Edit.freeOf_of_known (Check.warnsOf_unknownEntity answers) Reference.agree_entities
      plain sign (names state listed).isDotted ends
    have states : answers.states = .ok (answers.entries .states) := Answers.list_of_mem listed
    rw [states]
    exact Check.isKnownAmong_of_mem Entity.id listed
  · rw [Offer.value_of_serviceKey isKey, typed] at offered
    rcases Offer.mem_given_entries.mp offered with ⟨found, listed, made⟩
    rcases Candidate.service_eq_some made with ⟨label, edit, _⟩
    apply Edit.accepted_of_freeOf plain label edit
    apply Edit.freeOf_of_known (Check.warnsOf_unknownService answers) Reference.agree_services
      plain sign (names found listed).isDotted ends
    have services : answers.services = .ok (answers.entries .services) :=
      Answers.list_of_mem listed
    rw [services]
    exact Check.isKnownAmong_of_mem Service.fullName listed

/-- A light in the attic, and the service that turns lights on. -/
def lightAndService : Answers where
  list
    | .states => .ok ⟨[⟨"light.attic", "on", [], none, none⟩], 1, 0⟩
    | .services => .ok ⟨[⟨"light", "turn_on", "Turn on", "", [], true⟩], 1, 1⟩
    | _ => .ok ⟨[], 1, 2⟩
  read _ := .ok .null

theorem the_light_is_known_where_it_is_accepted :
    let text := "  - entity_id: \"li\"\n".toList
    let call := "  action: turn".toList
    ((complete text ⟨0, 18⟩).given lightAndService).map Item.label = ["light.attic"] ∧
      (∀ item ∈ (complete text ⟨0, 18⟩).given lightAndService, ∃ edit, item.edit = some edit ∧
        edit.FreeOf .unknownEntity lightAndService text) ∧
      ((complete call ⟨0, 14⟩).given lightAndService).map Item.label = ["light.turn_on"] ∧
      ∀ item ∈ (complete call ⟨0, 14⟩).given lightAndService, ∃ edit, item.edit = some edit ∧
        edit.FreeOf .unknownService lightAndService call := by
  intro text call
  refine ⟨by decide +kernel, fun item offered => ?_, by decide +kernel, fun item offered => ?_⟩
  · have names : ∀ state ∈ lightAndService.entries .states, IsPlainName state.id.toList := by
      intro state member
      rw [List.mem_singleton.mp member]
      exact ⟨"light".toList, "attic".toList, rfl, nofun, nofun, List.all_eq_true.mp rfl,
        List.all_eq_true.mp rfl⟩
    have accepted := accepted_names_are_known text ⟨0, 18⟩ lightAndService (by decide +kernel)
      (by decide +kernel) rfl "  - entity_id".toList [' '] "li".toList (some '"')
      (List.all_eq_true.mp rfl) (by rintro c ⟨⟩; rfl) (List.all_eq_true.mp rfl) rfl rfl rfl
    rcases accepted.1 (by decide +kernel) names item offered with ⟨edit, _, _, isEdit, _, _, free⟩
    exact ⟨edit, isEdit, free⟩
  · have names : ∀ listed ∈ lightAndService.entries .services,
        IsPlainName listed.fullName.toList := by
      intro listed member
      rw [List.mem_singleton.mp member]
      exact ⟨"light".toList, "turn_on".toList, rfl, nofun, nofun, List.all_eq_true.mp rfl,
        List.all_eq_true.mp rfl⟩
    have accepted := accepted_names_are_known call ⟨0, 14⟩ lightAndService (by decide +kernel)
      (by decide +kernel) rfl "  action".toList [' '] "turn".toList none (List.all_eq_true.mp rfl)
      nofun (List.all_eq_true.mp rfl) rfl rfl rfl
    rcases accepted.2 (by decide +kernel) names item offered with ⟨edit, _, _, isEdit, _, _, free⟩
    exact ⟨edit, isEdit, free⟩

end HomeConfig
