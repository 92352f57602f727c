import HomeConfig.Proofs.Json.Characters
import HomeConfig.Proofs.Json.Numeral

/-!
# What is written is read back

A value that is written as text is read back from it, in any style whose separators are signs with
blanks behind them (`read_render`).  `Reads` says so of a value where it stands in a text: the
reader gives the value and stops behind it, if nothing follows that could continue a number.  It
holds of a list or an object if it holds of what is inside, so it holds of all values, by induction
on what makes a value proper.

Not every value can be read.  The members of an object have different names, since a repeated name
keeps one value only, and integers have a limit to their digits.  `Proper` says no more than that:
whatever is read is proper (`proper_of_read`).

The reader counts down for every step into a value; twice the length of the text is enough, since
each step down takes a character.
-/

namespace HomeConfig

namespace Json

/-! ## Values that are read -/

/-- A value of which a text can be read: the members of its objects have different names, and its
integers are not too long. -/
inductive Proper : Json → Prop
  | null : Proper .null
  | bool (value : Bool) : Proper (.bool value)
  | integer {value : Int} (short : value.natAbs < 10 ^ integerLimit) : Proper (.integer value)
  | number (value : Binary64) : Proper (.number value)
  | string (value : String) : Proper (.string value)
  | array {items : List Json} (all : ∀ item ∈ items, Proper item) : Proper (.array items)
  | object {members : List (String × Json)} (unique : (members.map Prod.fst).Nodup)
      (all : ∀ member ∈ members, Proper member.2) : Proper (.object members)

/-! ## Blanks -/

/-- The separators of a style are the signs with nothing but blanks behind them. -/
structure Style.Legible (style : Style) : Prop where
  item : ∃ blanks, style.itemSeparator.toList = ',' :: blanks ∧ ∀ c ∈ blanks, isSpace c = true
  key : ∃ blanks, style.keySeparator.toList = ':' :: blanks ∧ ∀ c ∈ blanks, isSpace c = true

theorem legible_spaced : Style.spaced.Legible :=
  ⟨⟨[' '], rfl, by simp [isSpace]⟩, ⟨[' '], rfl, by simp [isSpace]⟩⟩

theorem legible_compact : Style.compact.Legible :=
  ⟨⟨[], rfl, nofun⟩, ⟨[], rfl, nofun⟩⟩

theorem skipSpace_append {blanks text : Text} (all : ∀ c ∈ blanks, isSpace c = true)
    (solid : text.head?.any isSpace = false) (offset : Nat) :
    skipSpace ⟨offset, blanks ++ text⟩ = ⟨offset + blanks.length, text⟩ := by
  rw [skipSpace, Text.takeWhile_append_of_stops all solid, Text.dropWhile_append_of_stops all solid]

theorem skipSpace_of_solid {text : Text} (solid : text.head?.any isSpace = false) (offset : Nat) :
    skipSpace ⟨offset, text⟩ = ⟨offset, text⟩ :=
  skipSpace_append (List.forall_mem_nil _) solid offset

/-! ## Words and numbers -/

theorem readValue_quote (fuel offset : Nat) (text : Text) :
    readValue (fuel + 1) ⟨offset, '"' :: text⟩ =
      (do
        let (chars, after) ← readStringFrom offset (offset + 1) 0 text
        pure (.string (String.ofList chars), after)) :=
  rfl

theorem readValue_of_other {c : Char} {text : Text} (other : c ≠ '"' ∧ c ≠ '\x7b' ∧ c ≠ '[')
    (fuel offset : Nat) :
    readValue (fuel + 1) ⟨offset, c :: text⟩ =
      match readWord? ⟨offset, c :: text⟩ with
      | some found => pure found
      | none => readNumber ⟨offset, c :: text⟩ := by
  unfold readValue
  split
  next same => exact absurd (List.cons.inj same).1 other.1
  next same => exact absurd (List.cons.inj same).1 other.2.1
  next same => exact absurd (List.cons.inj same).1 other.2.2
  next => rfl

section

variable {number : WrittenNumber}

/-- A number starts with a digit, or with a sign and a digit. -/
theorem exists_text_eq_cons (wellFormed : number.WellFormed) :
    ∃ c rest, number.text = c :: rest ∧
      (c.isDigit = true ∨ c = '-' ∧ ∃ d others, rest = d :: others ∧ d.isDigit = true) := by
  obtain ⟨d, others, shape, digit⟩ : ∃ d others,
      number.whole = d :: others ∧ d.isDigit = true := by
    rcases wellFormed.leading with zero | ⟨d, others, shape, _⟩
    · exact ⟨'0', [], zero, rfl⟩
    · exact ⟨d, others, shape, wellFormed.whole d (shape ▸ .head _)⟩
  rw [WrittenNumber.text, shape]
  cases number.negative with
  | true => exact ⟨_, _, rfl, .inr ⟨rfl, d, _, rfl, digit⟩⟩
  | false => exact ⟨_, _, rfl, .inl digit⟩

/-- A number is no word. -/
theorem readWord?_number (wellFormed : number.WellFormed) (offset : Nat) (rest : Text) :
    readWord? ⟨offset, number.text ++ rest⟩ = none := by
  rcases exists_text_eq_cons wellFormed with ⟨c, others, shape, first⟩
  have words : wordValues = [(['n', 'u', 'l', 'l'], null), (['t', 'r', 'u', 'e'], bool true),
      (['f', 'a', 'l', 's', 'e'], bool false), (['N', 'a', 'N'], Json.number .nan),
      (['I', 'n', 'f', 'i', 'n', 'i', 't', 'y'], Json.number (.infinite false)),
      (['-', 'I', 'n', 'f', 'i', 'n', 'i', 't', 'y'], Json.number (.infinite true))] := rfl
  have apart {c d : Char} (digit : c.isDigit = true) (other : d.isDigit = false) : ¬ d = c := by
    rintro rfl
    rw [other] at digit
    cases digit
  rw [shape, readWord?, words]
  rcases first with digit | ⟨rfl, d, others, rfl, digit⟩
  · simp [Text.stripPrefix?, apart digit]
  · simp [Text.stripPrefix?, apart digit]

theorem readValue_number (wellFormed : number.WellFormed)
    (short : number.fraction = [] → number.exponent = none → number.whole.length ≤ integerLimit)
    {rest : Text} (stops : Stops rest) (fuel offset : Nat) :
    readValue (fuel + 1) ⟨offset, number.text ++ rest⟩ =
      .ok (number.value, ⟨offset + number.text.length, rest⟩) := by
  have word := readWord?_number wellFormed offset rest
  have read := WrittenNumber.readNumber_text wellFormed short stops offset
  rcases exists_text_eq_cons wellFormed with ⟨c, others, shape, first⟩
  have other : c ≠ '"' ∧ c ≠ '\x7b' ∧ c ≠ '[' := by
    rcases first with digit | ⟨rfl, _⟩
    · refine ⟨?_, ?_, ?_⟩ <;> rintro rfl <;> cases digit
    · decide
  rw [shape, List.cons_append] at word read
  rw [shape, List.cons_append, readValue_of_other other, word]
  exact read

end

/-- A value is read where it was written, and nothing behind it. -/
def Reads (style : Style) (value : Json) : Prop :=
  ∀ ⦃fuel offset rest⦄, 2 * (value.write style).length ≤ fuel + 1 → Stops rest →
    readValue (fuel + 1) ⟨offset, value.write style ++ rest⟩ =
      .ok (value, ⟨offset + (value.write style).length, rest⟩)

section

variable {style : Style}

theorem reads_null : Reads style .null :=
  fun _ _ _ _ _ => rfl

theorem reads_bool (value : Bool) : Reads style (.bool value) := by
  intro fuel offset rest enough stops
  cases value <;> rfl

theorem reads_integer {value : Int} (short : value.natAbs < 10 ^ integerLimit) :
    Reads style (.integer value) := by
  intro fuel offset rest enough stops
  have length : (Nat.toDigits 10 value.natAbs).length ≤ integerLimit :=
    (Nat.length_toDigits_le_iff (by decide) (by decide)).mpr short
  have read := readValue_number (wellFormed_ofInt value) (fun _ _ => length) stops fuel offset
  rw [text_ofInt, value_ofInt] at read
  exact read

theorem reads_number (value : Binary64) : Reads style (.number value) := by
  intro fuel offset rest enough stops
  cases value with
  | finite x =>
    rcases exists_text_finite x with ⟨number, wellFormed, decimal, text, value⟩
    have read := readValue_number wellFormed (fun empty bare => absurd ⟨empty, bare⟩ decimal)
      stops fuel offset
    rw [text, value] at read
    exact read
  | infinite negative => cases negative <;> rfl
  | nan => rfl

theorem writeString_append (asciiOnly : Bool) (value : String) (rest : Text) :
    writeString asciiOnly value ++ rest =
      '"' :: (value.toList.flatMap (writeChar asciiOnly) ++ '"' :: rest) := by
  simp [writeString]

theorem readStringFrom_writeString (asciiOnly : Bool) (value : String) (start : Nat)
    (rest : Text) :
    readStringFrom start (start + 1) 0
        (value.toList.flatMap (writeChar asciiOnly) ++ '"' :: rest) =
      .ok (value.toList, ⟨start + (writeString asciiOnly value).length, rest⟩) := by
  have length : (writeString asciiOnly value).length =
      (value.toList.flatMap (writeChar asciiOnly)).length + 2 := by simp [writeString]
  rw [readStringFrom_written, length, Nat.add_assoc, Nat.add_assoc, Nat.add_comm 1, Nat.add_assoc]

theorem reads_string (value : String) : Reads style (.string value) := by
  intro fuel offset rest enough stops
  rw [write, writeString_append, readValue_quote, readStringFrom_writeString]
  exact congrArg (fun value => Except.ok (Json.string value, _)) String.ofList_toList

end

/-! ## Arrays and objects -/

/-- A value starts with a character that is neither a blank nor a closing bracket nor a mark. -/
theorem exists_write_eq_cons (style : Style) (value : Json) :
    ∃ c rest, value.write style = c :: rest ∧ isSpace c = false ∧ c ≠ ']' ∧ c ≠ '\ufeff' := by
  have ofNumber {number : WrittenNumber} (wellFormed : number.WellFormed) :
      ∃ c rest, number.text = c :: rest ∧ isSpace c = false ∧ c ≠ ']' ∧ c ≠ '\ufeff' := by
    rcases exists_text_eq_cons wellFormed with ⟨c, rest, shape, digit | ⟨rfl, _⟩⟩
    · refine ⟨c, rest, shape, ?_, ?_, ?_⟩
      · refine Bool.eq_false_iff.mpr fun space => ?_
        simp only [isSpace, Bool.or_eq_true, beq_iff_eq] at space
        rcases space with ((rfl | rfl) | rfl) | rfl <;> cases digit
      · rintro rfl
        cases digit
      · rintro rfl
        cases digit
    · exact ⟨'-', rest, shape, rfl, by decide⟩
  cases value with
  | null => exact ⟨_, _, rfl, rfl, by decide⟩
  | bool value => cases value <;> exact ⟨_, _, rfl, rfl, by decide⟩
  | integer value =>
    rw [write, ← text_ofInt]
    exact ofNumber (wellFormed_ofInt value)
  | number value =>
    cases value with
    | finite x =>
      rcases exists_text_finite x with ⟨number, wellFormed, _, text, _⟩
      rw [write, ← text]
      exact ofNumber wellFormed
    | infinite negative => cases negative <;> exact ⟨_, _, rfl, rfl, by decide⟩
    | nan => exact ⟨_, _, rfl, rfl, by decide⟩
  | string value => exact ⟨_, _, rfl, rfl, by decide⟩
  | array items => exact ⟨_, _, rfl, rfl, by decide⟩
  | object members => exact ⟨_, _, rfl, rfl, by decide⟩

section

variable {style : Style}

theorem exists_writeItems_eq_cons (style : Style) (item : Json) (rest : List Json) :
    ∃ c text, writeItems style (item :: rest) = c :: text ∧ isSpace c = false ∧ c ≠ ']' := by
  rcases exists_write_eq_cons style item with ⟨c, text, shape, solid, other, _⟩
  cases rest with
  | nil => exact ⟨c, text, by rw [writeItems, shape], solid, other⟩
  | cons next rest =>
    refine ⟨c, text ++ style.itemSeparator.toList ++ writeItems style (next :: rest), ?_, solid,
      other⟩
    rw [writeItems, shape, List.cons_append, List.cons_append]
    exact nofun

theorem readItems_last {fuel offset : Nat} {cursor : Cursor} {item : Json} {rest : Text}
    (read : readValue fuel cursor = .ok (item, ⟨offset, ']' :: rest⟩)) :
    readItems (fuel + 1) cursor = .ok ([item], ⟨offset + 1, rest⟩) := by
  rw [readItems, read]
  rfl

theorem readItems_more {fuel offset : Nat} {cursor : Cursor} {item : Json} {rest : Text}
    (read : readValue fuel cursor = .ok (item, ⟨offset, ',' :: rest⟩)) :
    readItems (fuel + 1) cursor =
      (do
        let (others, last) ← readItems fuel (skipSpace ⟨offset + 1, rest⟩)
        pure (item :: others, last)) := by
  rw [readItems, read]
  rfl

theorem readItems_write (legible : style.Legible) {items : List Json} (filled : items ≠ [])
    (all : ∀ item ∈ items, Reads style item) {fuel : Nat}
    (enough : 2 * (writeItems style items).length ≤ fuel) (offset : Nat) (rest : Text) :
    readItems (fuel + 1) ⟨offset, writeItems style items ++ ']' :: rest⟩ =
      .ok (items, ⟨offset + (writeItems style items).length + 1, rest⟩) := by
  induction items generalizing fuel offset with
  | nil => exact absurd rfl filled
  | cons item others inductionHypothesis =>
    have here := all item (.head _)
    cases others with
    | nil =>
      rw [writeItems] at enough ⊢
      rcases exists_write_eq_cons style item with ⟨c, text, shape, _⟩
      obtain ⟨fuel, rfl⟩ : ∃ less, fuel = less + 1 :=
        ⟨fuel - 1, by rw [shape, List.length_cons] at enough; omega⟩
      exact readItems_last (here enough rfl)
    | cons next others =>
      rcases legible.item with ⟨blanks, separator, blank⟩
      rcases exists_writeItems_eq_cons style next others with ⟨d, text, shape, solid, _⟩
      have whole : writeItems style (item :: next :: others) =
          write style item ++ ',' :: (blanks ++ writeItems style (next :: others)) := by
        rw [writeItems, separator, List.append_assoc]
        · rfl
        · exact nofun
      rw [whole] at enough ⊢
      simp only [List.length_append, List.length_cons] at enough
      obtain ⟨fuel, rfl⟩ : ∃ less, fuel = less + 1 := ⟨fuel - 1, by omega⟩
      have inner : 2 * (writeItems style (next :: others)).length ≤ fuel := by omega
      have read := @here fuel offset
        (',' :: (blanks ++ (writeItems style (next :: others) ++ ']' :: rest))) (by omega) rfl
      have head : (writeItems style (next :: others) ++ ']' :: rest).head?.any isSpace = false := by
        rw [shape]
        exact solid
      have later := inductionHypothesis (List.cons_ne_nil next others)
        (fun other member => all other (.tail _ member)) inner
        (offset + (write style item).length + 1 + blanks.length)
      simp only [List.append_assoc, List.cons_append]
      rw [readItems_more read, skipSpace_append blank head, later]
      simp only [bind, Except.bind, pure, Except.pure, List.length_append, List.length_cons]
      congr 3
      omega

theorem readValue_bracket {c : Char} {text : Text} (solid : isSpace c = false) (other : c ≠ ']')
    (fuel offset : Nat) :
    readValue (fuel + 1) ⟨offset, '[' :: c :: text⟩ =
      (do
        let (items, after) ← readItems fuel ⟨offset + 1, c :: text⟩
        pure (.array items, after)) := by
  have head : (c :: text).head?.any isSpace = false := solid
  have inside := skipSpace_of_solid head (offset + 1)
  unfold readValue
  split
  next same => exact absurd (List.cons.inj same).1 (by decide)
  next same => exact absurd (List.cons.inj same).1 (by decide)
  next same =>
    cases same
    rw [inside]
    dsimp only
    split
    next same => exact absurd (List.cons.inj same).1 other
    next => rfl
  next other => exact (other _ rfl).elim

theorem reads_array (legible : style.Legible) {items : List Json}
    (all : ∀ item ∈ items, Reads style item) : Reads style (.array items) := by
  intro fuel offset rest enough stops
  cases items with
  | nil => rfl
  | cons item others =>
    rcases exists_writeItems_eq_cons style item others with ⟨c, text, shape, solid, other⟩
    rw [write] at enough ⊢
    simp only [List.length_append, List.length_cons, List.length_nil] at enough
    obtain ⟨fuel, rfl⟩ : ∃ less, fuel = less + 1 := ⟨fuel - 1, by omega⟩
    have inner : 2 * (writeItems style (item :: others)).length ≤ fuel := by omega
    have read := readItems_write legible (List.cons_ne_nil item others) all inner (offset + 1) rest
    rw [shape] at read ⊢
    simp only [List.append_assoc, List.cons_append, List.nil_append] at read ⊢
    rw [readValue_bracket solid other, read]
    simp only [bind, Except.bind, pure, Except.pure, List.length_append, List.length_cons,
      List.length_nil]
    congr 3
    omega

/-! ### Objects -/

theorem insert_of_notMem {name : String} {found : List (String × Json)}
    (fresh : name ∉ found.map Prod.fst) (value : Json) :
    insert name value found = found ++ [(name, value)] := by
  induction found with
  | nil => rfl
  | cons first others inductionHypothesis =>
    simp only [List.map_cons, List.mem_cons, not_or] at fresh
    rw [insert, if_neg (Ne.symm fresh.1), inductionHypothesis fresh.2, List.cons_append]

/-- What happens behind a member depends on the sign that follows it. -/
theorem readMembers_member {fuel offset between stop : Nat} {text behind rest : Text}
    {name : String} {value : Json} {sign : Char} (found : List (String × Json))
    (named : readStringFrom offset (offset + 1) 0 text =
      .ok (name.toList, ⟨between, ':' :: behind⟩))
    (read : readValue fuel (skipSpace ⟨between + 1, behind⟩) = .ok (value, ⟨stop, sign :: rest⟩)) :
    (sign = '\x7d' → readMembers (fuel + 1) found ⟨offset, '"' :: text⟩ =
      .ok (insert name value found, ⟨stop + 1, rest⟩)) ∧
    (sign = ',' → readMembers (fuel + 1) found ⟨offset, '"' :: text⟩ =
      readMembers fuel (insert name value found) (skipSpace ⟨stop + 1, rest⟩)) := by
  have colon : skipSpace ⟨between, ':' :: behind⟩ = ⟨between, ':' :: behind⟩ := rfl
  rw [readMembers]
  dsimp only
  split
  next same =>
    cases same
    rw [named]
    simp only [bind, Except.bind, colon]
    rw [read, String.ofList_toList]
    constructor <;> rintro rfl <;> rfl
  next other => exact (other _ rfl).elim

/-- A member without what follows it. -/
def writeMember (style : Style) (name : String) (value : Json) : List Char :=
  writeString style.asciiOnly name ++ style.keySeparator.toList ++ write style value

theorem writeMembers_more (style : Style) (name : String) (value : Json)
    (next : String × Json) (others : List (String × Json)) :
    writeMembers style ((name, value) :: next :: others) =
      writeMember style name value ++ (style.itemSeparator.toList ++
        writeMembers style (next :: others)) := by
  rw [writeMembers, writeMember, List.append_assoc _ style.itemSeparator.toList]
  exact nofun

theorem exists_writeMembers_eq_cons (style : Style) (member : String × Json)
    (rest : List (String × Json)) :
    ∃ text, writeMembers style (member :: rest) = '"' :: text := by
  cases rest <;> exact ⟨_, rfl⟩

/-- A member is read where it was written, and behind it either the object ends or another member
follows. -/
theorem readMembers_writeMember (legible : style.Legible) {name : String} {value : Json}
    (reads : Reads style value) {fuel : Nat}
    (enough : 2 * (writeMember style name value).length ≤ fuel) {found : List (String × Json)}
    (fresh : name ∉ found.map Prod.fst) (offset : Nat) {sign : Char}
    (stops : continuesNumber sign = false) (rest : Text) :
    (sign = '\x7d' →
      readMembers (fuel + 1) found ⟨offset, writeMember style name value ++ sign :: rest⟩ =
        .ok (found ++ [(name, value)],
          ⟨offset + (writeMember style name value).length + 1, rest⟩)) ∧
    (sign = ',' →
      readMembers (fuel + 1) found ⟨offset, writeMember style name value ++ sign :: rest⟩ =
        readMembers fuel (found ++ [(name, value)])
          (skipSpace ⟨offset + (writeMember style name value).length + 1, rest⟩)) := by
  rcases legible.key with ⟨blanks, separator, blank⟩
  rcases exists_write_eq_cons style value with ⟨c, text, shape, solid, _⟩
  have head : (write style value ++ sign :: rest).head?.any isSpace = false := by
    rw [shape]
    exact solid
  have length : (writeMember style name value).length =
      (writeString style.asciiOnly name).length + 1 + blanks.length + (write style value).length := by
    simp only [writeMember, separator, List.length_append, List.length_cons]
    omega
  have filled : 0 < (write style value).length := by simp [shape]
  have whole : writeMember style name value ++ sign :: rest =
      '"' :: (name.toList.flatMap (writeChar style.asciiOnly) ++
        '"' :: ':' :: (blanks ++ (write style value ++ sign :: rest))) := by
    rw [writeMember, separator, List.append_assoc, List.append_assoc, writeString_append,
      List.cons_append]
  rw [length] at enough ⊢
  obtain ⟨fuel, rfl⟩ : ∃ less, fuel = less + 1 := ⟨fuel - 1, by omega⟩
  have named := readStringFrom_writeString style.asciiOnly name offset
    (':' :: (blanks ++ (write style value ++ sign :: rest)))
  have read := @reads fuel (offset + (writeString style.asciiOnly name).length + 1 + blanks.length)
    (sign :: rest) (by omega) stops
  rw [← skipSpace_append blank head] at read
  have member := readMembers_member found named read
  rw [whole, ← insert_of_notMem fresh value]
  simp only [← Nat.add_assoc]
  exact member

theorem readMembers_write (legible : style.Legible) {members : List (String × Json)}
    (filled : members ≠ []) (all : ∀ member ∈ members, Reads style member.2) {fuel : Nat}
    (enough : 2 * (writeMembers style members).length ≤ fuel) (found : List (String × Json))
    (unique : ((found ++ members).map Prod.fst).Nodup) (offset : Nat) (rest : Text) :
    readMembers (fuel + 1) found ⟨offset, writeMembers style members ++ '\x7d' :: rest⟩ =
      .ok (found ++ members, ⟨offset + (writeMembers style members).length + 1, rest⟩) := by
  induction members generalizing fuel found offset with
  | nil => exact absurd rfl filled
  | cons member others inductionHypothesis =>
    rcases member with ⟨name, value⟩
    have fresh : name ∉ found.map Prod.fst := by
      rw [List.map_append, List.map_cons, List.nodup_middle, List.nodup_cons] at unique
      exact fun member => unique.1 (List.mem_append_left _ member)
    have here : Reads style value := all (name, value) (.head _)
    cases others with
    | nil => exact (readMembers_writeMember legible here enough fresh offset rfl rest).1 rfl
    | cons next others =>
      rcases legible.item with ⟨gap, comma, blank⟩
      rcases exists_writeMembers_eq_cons style next others with ⟨text, shape⟩
      have head : (writeMembers style (next :: others) ++ '\x7d' :: rest).head?.any isSpace =
          false := by
        rw [shape]
        rfl
      rw [writeMembers_more, comma] at enough ⊢
      simp only [List.length_append, List.length_cons] at enough
      obtain ⟨fuel, rfl⟩ : ∃ less, fuel = less + 1 := ⟨fuel - 1, by omega⟩
      have first : 2 * (writeMember style name value).length ≤ fuel + 1 := by omega
      have later : 2 * (writeMembers style (next :: others)).length ≤ fuel := by omega
      rw [List.append_cons] at unique
      simp only [List.append_assoc, List.cons_append]
      rw [(readMembers_writeMember legible here first fresh offset rfl _).2 rfl,
        skipSpace_append blank head,
        inductionHypothesis (List.cons_ne_nil next others)
          (fun other member => all other (.tail _ member)) later _ unique]
      simp only [List.append_assoc, List.singleton_append, List.length_append, List.length_cons]
      congr 3
      omega

theorem readValue_brace (fuel offset : Nat) (text : Text) :
    readValue (fuel + 1) ⟨offset, '\x7b' :: '"' :: text⟩ =
      (do
        let (members, after) ← readMembers fuel [] ⟨offset + 1, '"' :: text⟩
        pure (.object members, after)) :=
  rfl

theorem reads_object (legible : style.Legible) {members : List (String × Json)}
    (unique : (members.map Prod.fst).Nodup) (all : ∀ member ∈ members, Reads style member.2) :
    Reads style (.object members) := by
  intro fuel offset rest enough stops
  cases members with
  | nil => rfl
  | cons member others =>
    rcases exists_writeMembers_eq_cons style member others with ⟨text, shape⟩
    rw [write] at enough ⊢
    simp only [List.length_append, List.length_cons, List.length_nil] at enough
    obtain ⟨fuel, rfl⟩ : ∃ less, fuel = less + 1 := ⟨fuel - 1, by omega⟩
    have inner : 2 * (writeMembers style (member :: others)).length ≤ fuel := by omega
    have read := readMembers_write legible (List.cons_ne_nil member others) all inner [] unique
      (offset + 1) rest
    rw [shape] at read ⊢
    simp only [List.append_assoc, List.cons_append, List.nil_append] at read ⊢
    rw [readValue_brace, read]
    simp only [bind, Except.bind, pure, Except.pure, List.length_append, List.length_cons,
      List.length_nil]
    congr 3
    omega

/-! ## Round trip -/

theorem reads_of_proper (legible : style.Legible) {value : Json} (proper : Proper value) :
    Reads style value := by
  induction proper with
  | null => exact reads_null
  | bool value => exact reads_bool value
  | integer short => exact reads_integer short
  | number value => exact reads_number value
  | string value => exact reads_string value
  | array _ all => exact reads_array legible all
  | object unique _ all => exact reads_object legible unique all

/-- What is written in a legible style is read back. -/
theorem read_render (legible : style.Legible) {value : Json} (proper : Proper value) :
    read (render style value).toList = .ok value := by
  rcases exists_write_eq_cons style value with ⟨c, text, shape, solid, _, noMark⟩
  have head : (value.write style).head?.any isSpace = false := by
    rw [shape]
    exact solid
  have first : ((value.write style).head? == some '\ufeff') = false := by
    rw [shape]
    simpa using noMark
  have whole := @reads_of_proper style legible value proper
    (2 * (value.write style).length + 1) 0 [] (by omega) rfl
  rw [List.append_nil] at whole
  rw [render, String.toList_ofList, read, first, skipSpace_of_solid head, whole]
  rfl

end

/-! ## What is read is proper -/

theorem exists_of_bind {α β : Type} {first : Except ReadError α} {next : α → Except ReadError β}
    {value : β} (read : (first >>= next) = .ok value) :
    ∃ found, first = .ok found ∧ next found = .ok value := by
  cases first with
  | error error => cases read
  | ok found => exact ⟨found, rfl, read⟩

theorem isDigit_of_mem_whole (text : Text) :
    ∀ c ∈ (if text.head? == some '0' then ['0'] else text.takeWhile Char.isDigit),
      c.isDigit = true := by
  split
  · simp
  · exact fun c => List.mem_takeWhile_imp

theorem proper_of_readNumber {cursor after : Cursor} {value : Json}
    (read : readNumber cursor = .ok (value, after)) : Proper value := by
  unfold readNumber at read
  dsimp only at read
  generalize cursor.rest.drop (if cursor.rest.head? == some '-' then 1 else 0) = unsigned at read
  have digits := isDigit_of_mem_whole unsigned
  generalize (if unsigned.head? == some '0' then ['0'] else unsigned.takeWhile Char.isDigit) =
    whole at read digits
  generalize fractionDigits (unsigned.drop whole.length) = fraction at read
  generalize (if fraction.isEmpty then 0 else fraction.length + 1) = fractionLength at read
  split at read
  · cases read
  split at read
  next =>
    split at read
    · cases read
    next short =>
      cases read
      refine .integer (lt_of_le_of_lt ?_ (lt_of_lt_of_le (decimalNumber_lt digits)
        (Nat.pow_le_pow_right (by decide) (Nat.le_of_not_lt short))))
      split <;> omega
  next =>
    cases read
    exact .number _

theorem proper_of_readWord? {cursor after : Cursor} {value : Json}
    (read : readWord? cursor = some (value, after)) : Proper value := by
  rcases List.exists_of_findSome?_eq_some read with ⟨⟨word, found⟩, member, starts⟩
  rcases Option.map_eq_some_iff.mp starts with ⟨_, _, same⟩
  cases same
  simp only [wordValues, List.mem_cons, Prod.mk.injEq, List.not_mem_nil, or_false] at member
  rcases member with h | h | h | h | h | h <;> rw [h.2] <;> constructor

theorem mem_insert {name : String} {value : Json} {members : List (String × Json)}
    {member : String × Json} (present : member ∈ insert name value members) :
    member = (name, value) ∨ member ∈ members := by
  induction members with
  | nil => exact .inl (List.mem_singleton.mp present)
  | cons first others inductionHypothesis =>
    rcases first with ⟨other, old⟩
    rw [insert] at present
    split at present
    next same =>
      rcases List.mem_cons.mp present with rfl | later
      · exact .inl (by rw [same])
      · exact .inr (.tail _ later)
    next =>
      rcases List.mem_cons.mp present with rfl | later
      · exact .inr (.head _)
      · exact (inductionHypothesis later).imp id (.tail _)

theorem unique_insert {members : List (String × Json)} (unique : (members.map Prod.fst).Nodup)
    (name : String) (value : Json) : ((insert name value members).map Prod.fst).Nodup := by
  induction members with
  | nil => exact List.nodup_singleton name
  | cons first others inductionHypothesis =>
    rcases first with ⟨other, old⟩
    rw [List.map_cons, List.nodup_cons] at unique
    rw [insert]
    split
    next => exact List.nodup_cons.mpr unique
    next different =>
      refine List.nodup_cons.mpr ⟨fun member => ?_, inductionHypothesis unique.2⟩
      rcases List.mem_map.mp member with ⟨⟨same, found⟩, present, rfl⟩
      rcases mem_insert present with here | later
      · exact different (congrArg Prod.fst here)
      · exact unique.1 (List.mem_map.mpr ⟨_, later, rfl⟩)

theorem Proper.insert {members : List (String × Json)} {value : Json}
    (properMembers : Proper (.object members)) (name : String) (proper : Proper value) :
    Proper (.object (Json.insert name value members)) := by
  cases properMembers with
  | object unique all =>
    refine .object (unique_insert unique name value) fun member present => ?_
    rcases mem_insert present with rfl | later
    · exact proper
    · exact all member later

/-- Whatever is read within a bound is proper. -/
structure ReadsProper (fuel : Nat) : Prop where
  value : ∀ ⦃cursor value after⦄, readValue fuel cursor = .ok (value, after) → Proper value
  items : ∀ ⦃cursor items after⦄, readItems fuel cursor = .ok (items, after) →
    ∀ item ∈ items, Proper item
  members : ∀ ⦃found cursor members after⦄, readMembers fuel found cursor = .ok (members, after) →
    Proper (.object found) → Proper (.object members)

namespace ReadsProper

variable {fuel : Nat} {cursor after : Cursor}

theorem value_succ (all : ReadsProper fuel) {value : Json}
    (read : readValue (fuel + 1) cursor = .ok (value, after)) : Proper value := by
  unfold readValue at read
  split at read
  next =>
    rcases exists_of_bind read with ⟨_, _, same⟩
    cases same
    exact .string _
  next =>
    dsimp only at read
    split at read
    · cases read
      exact .object .nil nofun
    next =>
      rcases exists_of_bind read with ⟨⟨members, last⟩, inner, same⟩
      cases same
      exact all.members inner (.object .nil nofun)
  next =>
    dsimp only at read
    split at read
    · cases read
      exact .array nofun
    next =>
      rcases exists_of_bind read with ⟨⟨items, last⟩, inner, same⟩
      cases same
      exact .array (all.items inner)
  next =>
    split at read
    next word =>
      cases read
      exact proper_of_readWord? word
    next => exact proper_of_readNumber read

theorem items_succ (all : ReadsProper fuel) {items : List Json}
    (read : readItems (fuel + 1) cursor = .ok (items, after)) : ∀ item ∈ items, Proper item := by
  unfold readItems at read
  rcases exists_of_bind read with ⟨⟨item, behind⟩, first, read⟩
  dsimp only at read
  split at read
  next =>
    cases read
    rintro other member
    rw [List.mem_singleton.mp member]
    exact all.value first
  next =>
    rcases exists_of_bind read with ⟨⟨others, last⟩, inner, same⟩
    cases same
    rintro other member
    rcases List.mem_cons.mp member with rfl | later
    · exact all.value first
    · exact all.items inner other later
  next => cases read

theorem members_succ (all : ReadsProper fuel) {found members : List (String × Json)}
    (read : readMembers (fuel + 1) found cursor = .ok (members, after))
    (proper : Proper (.object found)) : Proper (.object members) := by
  unfold readMembers at read
  split at read
  next =>
    rcases exists_of_bind read with ⟨⟨chars, behindName⟩, _, read⟩
    dsimp only at read
    split at read
    next =>
      rcases exists_of_bind read with ⟨⟨value, behind⟩, inner, read⟩
      dsimp only at read
      have extended := proper.insert (String.ofList chars) (all.value inner)
      split at read
      next =>
        cases read
        exact extended
      next => exact all.members read extended
      next => cases read
    next => cases read
  next => cases read

end ReadsProper

theorem readsProper (fuel : Nat) : ReadsProper fuel := by
  induction fuel with
  | zero => exact ⟨nofun, nofun, nofun⟩
  | succ fuel all =>
    exact ⟨fun _ _ _ => all.value_succ, fun _ _ _ => all.items_succ, fun _ _ _ _ => all.members_succ⟩

/-- Whatever is read is proper. -/
theorem proper_of_read {text : Text} {value : Json} (read : read text = .ok value) :
    Proper value := by
  unfold Json.read at read
  split at read
  · cases read
  rcases exists_of_bind read with ⟨⟨found, after⟩, inner, read⟩
  dsimp only at read
  split at read
  · cases read
    exact (readsProper _).value inner
  · cases read

end Json

end HomeConfig
