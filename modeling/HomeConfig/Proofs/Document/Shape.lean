import HomeConfig.Document.Reference
import HomeConfig.Proofs.Text.Scan

/-!
# What introduces a name

The shapes of references are looked for independently of each other, and yet no name is found twice,
because each shape has a sign of its own in front of the name: a colon behind a key, the dash of a
list, or the bracket of a call behind the name of a function.  Between the sign and the name there
are only blanks and at most one quotation mark, so the sign is found again from the name
(`approach`).

For each shape it is said here what it finds, and how that is introduced.
-/

namespace HomeConfig

/-- No character of a name follows an excerpt. -/
def Excerpt.EndsName (text : Text) (excerpt : Excerpt) : Prop :=
  (text.drop excerpt.stop).head?.any Text.isNameChar = false

/-- A class with neither quotation mark in it. -/
theorem Text.not_isQuote_of_accepted {accepts : Char → Bool} {c : Char}
    (accepted : accepts c = true) (single : accepts '\'' = false) (double : accepts '"' = false) :
    isQuote c = false := by
  cases quote : isQuote c with
  | false => rfl
  | true =>
    rcases (by simpa [isQuote] using quote : c = '\'' ∨ c = '"') with rfl | rfl
    · exact absurd accepted (by simp [single])
    · exact absurd accepted (by simp [double])

namespace Reference

open Recogniser

/-! ## Signs -/

/-- A text ends in one of some words, in any case. -/
def EndsIn (words : List String) (text : Text) : Prop :=
  ∃ word ∈ words, ∃ written, written <:+ text ∧
    List.Forall₂ (fun letter c => Text.sameLetter letter c = true) word.toList written

/-- A text ends in a sign, with blanks and at most one quotation mark behind it. -/
def EndsWithSign (sign : Char) (earlier front : Text) : Prop :=
  ∃ blanks quote, front = earlier ++ sign :: (blanks ++ quote) ∧
    (∀ c ∈ blanks, Text.isBlank c = true) ∧
      (quote = [] ∨ ∃ c, quote = [c] ∧ Text.isQuote c = true)

/-- A text read backwards, without a quotation mark and blanks at its end. -/
def approach (front : Text) : Text :=
  (match front.reverse with
    | c :: rest => if Text.isQuote c then rest else c :: rest
    | [] => []).dropWhile Text.isBlank

theorem not_isQuote_of_isBlank {c : Char} (blank : Text.isBlank c = true) :
    Text.isQuote c = false :=
  Text.not_isQuote_of_accepted blank (by decide) (by decide)

theorem EndsWithSign.approach_eq {sign : Char} {earlier front : Text}
    (ends : EndsWithSign sign earlier front) (notBlank : Text.isBlank sign = false)
    (notQuote : Text.isQuote sign = false) : approach front = sign :: earlier.reverse := by
  rcases ends with ⟨blanks, quote, rfl, allBlank, quoted⟩
  have backwards : ∀ c ∈ blanks.reverse, Text.isBlank c = true := by simpa using allBlank
  have dropped : (blanks.reverse ++ sign :: earlier.reverse).dropWhile Text.isBlank =
      sign :: earlier.reverse := by
    rw [List.dropWhile_append_of_pos backwards, List.dropWhile_cons_of_neg (by simp [notBlank])]
  rcases quoted with rfl | ⟨c, rfl, isQuote⟩
  · have unquoted : (match blanks.reverse ++ sign :: earlier.reverse with
        | c :: rest => if Text.isQuote c then rest else c :: rest
        | [] => []) = blanks.reverse ++ sign :: earlier.reverse := by
      cases shape : blanks.reverse with
      | nil => simp [notQuote]
      | cons c rest =>
        have blank := backwards c (by simp [shape])
        simp [not_isQuote_of_isBlank blank]
    simp only [approach, List.append_nil, List.reverse_append, List.reverse_cons,
      List.append_assoc, List.singleton_append]
    rw [unquoted, dropped]
  · simp [approach, isQuote, dropped]

/-- In front of a name there stands no character of a name. -/
theorem EndsWithSign.getLast?_eq {sign : Char} {earlier front : Text}
    (ends : EndsWithSign sign earlier front) :
    ∃ c, front.getLast? = some c ∧
      (c = sign ∨ Text.isBlank c = true ∨ Text.isQuote c = true) := by
  rcases ends with ⟨blanks, quote, rfl, allBlank, rfl | ⟨c, rfl, isQuote⟩⟩
  · rcases List.eq_nil_or_concat blanks with rfl | ⟨others, c, rfl⟩
    · exact ⟨sign, by simp, Or.inl rfl⟩
    · refine ⟨c, ?_, Or.inr (Or.inl (allBlank c (by simp)))⟩
      simp [List.getLast?_append, List.getLast?_cons]
  · refine ⟨c, ?_, Or.inr (Or.inr isQuote)⟩
    simp [List.getLast?_append, List.getLast?_cons]

theorem EndsIn.getLast?_mem {words : List String} {text : Text} (ends : EndsIn words text)
    (someLetters : ∀ word ∈ words, word.toList ≠ []) :
    text.getLast?.map Text.foldLetter ∈ words.map fun word => word.toList.getLast? := by
  rcases ends with ⟨word, member, written, ⟨earlier, rfl⟩, same⟩
  refine List.mem_map.mpr ⟨word, member, ?_⟩
  have folded : word.toList = written.map Text.foldLetter := by
    have equal : List.Forall₂ (fun letter c => letter = Text.foldLetter c) word.toList written :=
      same.imp fun _ _ => eq_of_beq
    rw [← List.forall₂_eq_eq_eq, List.forall₂_map_right_iff]
    exact equal
  have someWritten : written ≠ [] := by
    rintro rfl
    exact someLetters word member folded
  rw [folded, List.getLast?_map, List.getLast?_append_of_ne_nil _ someWritten]

/-! ## Shapes -/

/-- A dotted name behind a sign, which stands behind a text of a certain kind. -/
def Introduces (sign : Char) (leads : Text → Prop) (front name : Text) : Prop :=
  ∃ earlier, EndsWithSign sign earlier front ∧ leads earlier ∧ IsDotted name

/-- A text ends in one of some keys, in any case and at the start of a word, with its colon, and with
nothing behind it that leaves the line. -/
def EndsWithKey (keys : List String) (front : Text) : Prop :=
  ∃ key ∈ keys, ∃ before written gap, front = before ++ written ++ ':' :: gap ∧
    List.Forall₂ (fun letter c => Text.sameLetter letter c = true) key.toList written ∧
      Text.wordMayStart before.getLast? = true ∧ '\n' ∉ gap

/-- A name behind a key is read to its end: no character of a word follows it. -/
theorem valueOf_eq_some {keys : List String} {before : Text} {cursor after : Cursor}
    {excerpts : List Excerpt}
    (read : StateT.run (valueOf keys before.getLast?) cursor = some (excerpts, after)) :
    ∃ name lead between, excerpts = [name] ∧ cursor.Moves lead between ∧
      name.start = between.offset ∧ between.Moves name.text after ∧
        Introduces ':' (EndsIn keys) (before ++ lead) name.text ∧
          after.rest.head?.any Text.isWord = false ∧ EndsWithKey keys (before ++ lead) := by
  rcases bind_eq_some read with ⟨_, first, required, read⟩
  rcases require_eq_some required with ⟨rfl, mayStart⟩
  rcases bind_eq_some read with ⟨_, second, key, read⟩
  rcases anyKeyword_eq_some key with ⟨word, member, written, passesKey, same⟩
  rcases bind_eq_some read with ⟨_, third, colon, read⟩
  rcases bind_eq_some read with ⟨_, fourth, indent, read⟩
  rcases skip_eq_some indent with ⟨blanks, passesBlanks, indents⟩
  rcases bind_eq_some read with ⟨_, fifth, quotes, read⟩
  rcases skipOne_eq_some quotes with ⟨quote, passesQuote, quoted⟩
  rcases bind_eq_some read with ⟨name, sixth, named, read⟩
  rcases dottedName_eq_some named with ⟨start, moves, dotted, _⟩
  rcases bind_eq_some read with ⟨_, seventh, ends, read⟩
  rcases ahead_eq_some ends with ⟨rfl, mayEnd⟩
  rcases pure_eq_some read with ⟨rfl, rfl⟩
  have passes := passesKey.trans ((literal_eq_some colon).trans (passesBlanks.trans passesQuote))
  refine ⟨name, _, fifth, rfl, passes, start, moves, ⟨before ++ written, ?_, ?_, dotted⟩, ?_, ?_⟩
  · refine ⟨blanks, quote, by simp, fun c blank => ?_, quoted⟩
    exact Text.isBlank_of_isIndent (indents c blank)
  · exact ⟨word, member, written, List.suffix_append _ _, same⟩
  · simpa [Text.wordMayEnd] using mayEnd
  · refine ⟨word, member, before, written, blanks ++ quote, by simp, same, mayStart, fun feed => ?_⟩
    rcases List.mem_append.mp feed with blank | quoteMark
    · exact absurd (indents _ blank) (by decide)
    · rcases quoted with rfl | ⟨c, rfl, isQuote⟩
      · cases quoteMark
      · rw [← List.mem_singleton.mp quoteMark] at isQuote
        exact absurd isQuote (by decide)

theorem finds_valueOf (keys : List String) :
    Finds (Introduces ':' (EndsIn keys)) (valueOf keys) := by
  intro text before cursor after excerpts stands read
  rcases valueOf_eq_some read with
    ⟨name, lead, between, rfl, passes, start, moves, introduced, _, _⟩
  exact .single stands passes start moves (.refl _) introduced

/-- A name in quotation marks is read to its end too. -/
theorem argumentOf_eq_some {function : String} {alone : Bool} {before : Text}
    {cursor after : Cursor} {excerpts : List Excerpt}
    (read : StateT.run (argumentOf function alone before.getLast?) cursor =
      some (excerpts, after)) :
    ∃ name lead between behind trail, excerpts = [name] ∧ cursor.Moves lead between ∧
      name.start = between.offset ∧ between.Moves name.text behind ∧ behind.Moves trail after ∧
        Introduces '(' (EndsIn [function]) (before ++ lead) name.text ∧
          behind.rest.head?.any Text.isNameChar = false := by
  rcases bind_eq_some read with ⟨_, first, required, read⟩
  rcases require_eq_some required with ⟨rfl, _⟩
  rcases bind_eq_some read with ⟨_, second, word, read⟩
  rcases literalBy_eq_some word with ⟨written, passesWord, same⟩
  rcases bind_eq_some read with ⟨_, third, bracket, read⟩
  rcases bind_eq_some read with ⟨_, fourth, blank, read⟩
  rcases skip_eq_some blank with ⟨blanks, passesBlanks, allBlank⟩
  rcases bind_eq_some read with ⟨quote, fifth, opens, read⟩
  rcases one_eq_some opens with ⟨passesQuote, isQuote⟩
  rcases bind_eq_some read with ⟨name, sixth, named, read⟩
  rcases dottedName_eq_some named with ⟨start, moves, dotted, stops⟩
  rcases bind_eq_some read with ⟨_, seventh, closes, read⟩
  have passesClosing := (one_eq_some closes).1
  have rest : excerpts = [name] ∧ ∃ trail, seventh.Moves trail after := by
    cases alone with
    | false =>
      rcases pure_eq_some read with ⟨rfl, rfl⟩
      exact ⟨rfl, [], .refl _⟩
    | true =>
      rcases bind_eq_some read with ⟨_, eighth, blank, read⟩
      rcases skip_eq_some blank with ⟨trail, passesTrail, _⟩
      rcases bind_eq_some read with ⟨_, ninth, bracket, read⟩
      rcases pure_eq_some read with ⟨rfl, rfl⟩
      exact ⟨rfl, _, passesTrail.trans (literal_eq_some bracket)⟩
  rcases rest with ⟨rfl, trail, goesOn⟩
  have passes := passesWord.trans ((literal_eq_some bracket).trans (passesBlanks.trans passesQuote))
  refine ⟨name, _, fifth, sixth, _, rfl, passes, start, moves, passesClosing.trans goesOn,
    ⟨before ++ written, ?_, ?_, dotted⟩, stops⟩
  · exact ⟨blanks, [quote], by simp, allBlank, Or.inr ⟨quote, rfl, isQuote⟩⟩
  · exact ⟨function, by simp, written, List.suffix_append _ _, same⟩

theorem finds_argumentOf (function : String) (alone : Bool) :
    Finds (Introduces '(' (EndsIn [function])) (argumentOf function alone) := by
  intro text before cursor after excerpts stands read
  rcases argumentOf_eq_some read with
    ⟨name, lead, between, behind, trail, rfl, passes, start, moves, goesOn, introduced, _⟩
  exact .single stands passes start moves goesOn introduced

/-! ### Lists -/

variable {text before : Text} {cursor after : Cursor}

theorem listItem_eq_some {name : Excerpt} (stands : cursor.StandsBehind text before)
    (read : StateT.run listItem cursor = some (name, after)) :
    (∃ passed, cursor.Moves passed after) ∧
      Yields (Introduces '-' fun _ => True) text cursor.offset after.offset [name] ∧
        name.EndsName text := by
  rcases bind_eq_some read with ⟨_, first, indent, read⟩
  rcases skip_eq_some indent with ⟨margin, passesMargin, _⟩
  rcases bind_eq_some read with ⟨_, second, dash, read⟩
  rcases bind_eq_some read with ⟨blanks, third, blank, read⟩
  rcases run1_eq_some blank with ⟨_, passesBlanks, _, indents, _⟩
  rcases bind_eq_some read with ⟨_, fourth, opens, read⟩
  rcases skipOne_eq_some opens with ⟨quote, passesQuote, quoted⟩
  rcases bind_eq_some read with ⟨found, fifth, named, read⟩
  rcases dottedName_eq_some named with ⟨start, moves, dotted, stops⟩
  rcases bind_eq_some read with ⟨_, sixth, closes, read⟩
  rcases skipOne_eq_some closes with ⟨closing, passesClosing, _⟩
  rcases bind_eq_some read with ⟨_, seventh, blank, read⟩
  rcases skip_eq_some blank with ⟨trail, passesTrail, _⟩
  rcases bind_eq_some read with ⟨_, eighth, ends, read⟩
  rcases pure_eq_some read with ⟨rfl, rfl⟩
  have ended : ∃ feed, seventh.Moves feed eighth := by
    rcases firstOf_eq_some ends with ⟨choice, member, chosen⟩
    rcases (by simpa using member : choice = literal ['\n'] ∨ choice = ahead Option.isNone) with
      rfl | rfl
    · exact ⟨_, literal_eq_some chosen⟩
    · exact ⟨[], (ahead_eq_some chosen).1 ▸ .refl _⟩
  rcases ended with ⟨feed, passesFeed⟩
  have passes := passesMargin.trans ((literal_eq_some dash).trans (passesBlanks.trans passesQuote))
  have goesOn := passesClosing.trans (passesTrail.trans passesFeed)
  have followed : found.EndsName text := by
    rw [Excerpt.EndsName, (stands.move passes).drop_stop start moves]
    exact stops
  refine ⟨⟨_, passes.trans (moves.trans goesOn)⟩, ?_, followed⟩
  refine .single stands passes start moves goesOn ⟨before ++ margin, ?_, trivial, dotted⟩
  refine ⟨blanks.text, quote, by simp, fun c blank => ?_, quoted⟩
  exact Text.isBlank_of_isIndent (indents c blank)

theorem listItems_eq_some {bound : Nat} {names : List Excerpt}
    (stands : cursor.StandsBehind text before)
    (read : StateT.run (listItems bound) cursor = some (names, after)) :
    cursor.offset ≤ after.offset ∧
      Yields (Introduces '-' fun _ => True) text cursor.offset after.offset names ∧
        ∀ name ∈ names, name.EndsName text := by
  induction bound generalizing before cursor names with
  | zero =>
    rcases pure_eq_some read with ⟨rfl, rfl⟩
    exact ⟨Nat.le_refl _, .nil, nofun⟩
  | succ bound inductionHypothesis =>
    rcases firstOf_eq_some read with ⟨choice, member, chosen⟩
    rcases List.mem_cons.mp member with rfl | last
    · rcases bind_eq_some chosen with ⟨name, between, item, chosen⟩
      rcases listItem_eq_some stands item with ⟨⟨passed, moves⟩, first, followed⟩
      rcases bind_eq_some chosen with ⟨others, final, rest, chosen⟩
      rcases pure_eq_some chosen with ⟨rfl, rfl⟩
      rcases inductionHypothesis (stands.move moves) rest with ⟨later, second, allFollowed⟩
      have earlier : cursor.offset ≤ between.offset := moves.offset ▸ Nat.le_add_right _ _
      exact ⟨Nat.le_trans earlier later, first.append second earlier later,
        List.forall_mem_cons.mpr ⟨followed, allFollowed⟩⟩
    · rw [List.mem_singleton.mp last] at chosen
      rcases pure_eq_some chosen with ⟨rfl, rfl⟩
      exact ⟨Nat.le_refl _, .nil, nofun⟩

/-- The list below a key is read item by item. -/
theorem listBelow_eq_some {keys : List String} {last : Option Char} {excerpts : List Excerpt}
    (read : StateT.run (listBelow keys last) cursor = some (excerpts, after)) :
    ∃ opening blanks below bound, cursor.Moves (opening ++ ':' :: (blanks ++ ['\n'])) below ∧
      (∃ key ∈ keys,
        List.Forall₂ (fun letter c => Text.sameLetter letter c = true) key.toList opening) ∧
      (∀ c ∈ blanks, Text.isIndent c = true) ∧
        StateT.run (listItems bound) below = some (excerpts, after) := by
  rcases bind_eq_some read with ⟨_, first, required, read⟩
  rcases require_eq_some required with ⟨rfl, _⟩
  rcases bind_eq_some read with ⟨_, second, key, read⟩
  rcases anyKeyword_eq_some key with ⟨word, member, written, passesKey, same⟩
  rcases bind_eq_some read with ⟨_, third, colon, read⟩
  rcases bind_eq_some read with ⟨_, fourth, indent, read⟩
  rcases skip_eq_some indent with ⟨blanks, passesBlanks, indents⟩
  rcases bind_eq_some read with ⟨_, fifth, feed, read⟩
  rcases bind_eq_some read with ⟨here, sixth, got, read⟩
  cases got
  rcases bind_eq_some read with ⟨names, seventh, items, read⟩
  rcases bind_eq_some read with ⟨_, eighth, required, read⟩
  rcases require_eq_some required with ⟨rfl, _⟩
  rcases pure_eq_some read with ⟨rfl, rfl⟩
  have passes := passesKey.trans ((literal_eq_some colon).trans
    (passesBlanks.trans (literal_eq_some feed)))
  exact ⟨written, blanks, fifth, _, passes, ⟨word, member, same⟩, indents, items⟩

theorem finds_listBelow (keys : List String) :
    Finds (Introduces '-' fun _ => True) (listBelow keys) := by
  intro text before cursor after excerpts stands read
  rcases listBelow_eq_some read with ⟨_, _, below, bound, passes, _, _, items⟩
  rcases listItems_eq_some (stands.move passes) items with ⟨_, yields, _⟩
  exact yields.widen (passes.offset ▸ Nat.le_add_right _ _) (Nat.le_refl _)

/-! ### Files and secrets -/

/-- A path stands on the line of its tag, with blanks between them and at most a quotation mark. -/
theorem pathBehind_eq_some {tags : List String} {last : Option Char} {excerpts : List Excerpt}
    (read : StateT.run (pathBehind tags last) cursor = some (excerpts, after)) :
    ∃ tag ∈ tags, ∃ blanks quote path between, excerpts = [path] ∧
      cursor.Moves (tag.toList ++ (blanks ++ quote)) between ∧ path.start = between.offset ∧
        between.Moves path.text after ∧ (∀ c ∈ blanks, Text.isIndent c = true) ∧
          (quote = [] ∨ ∃ c, quote = [c] ∧ Text.isQuote c = true) ∧ path.text ≠ [] ∧
            ∀ c ∈ path.text, Text.isBlank c = false := by
  rcases bind_eq_some read with ⟨_, first, tagged, read⟩
  rcases firstOf_eq_some tagged with ⟨choice, member, chosen⟩
  rcases List.mem_map.mp member with ⟨tag, isTag, rfl⟩
  rcases bind_eq_some chosen with ⟨_, between, written, chosen⟩
  rcases bind_eq_some chosen with ⟨blanks, passed, blank, chosen⟩
  rcases run1_eq_some blank with ⟨_, passesBlanks, _, indents, _⟩
  rcases pure_eq_some chosen with ⟨_, rfl⟩
  rcases bind_eq_some read with ⟨_, second, opens, read⟩
  rcases skipOne_eq_some opens with ⟨quote, passesQuote, quoted⟩
  rcases bind_eq_some read with ⟨path, third, taken, read⟩
  rcases run1_eq_some taken with ⟨start, moves, some_, accepted, _⟩
  rcases pure_eq_some read with ⟨rfl, rfl⟩
  refine ⟨tag, isTag, blanks.text, quote, path, second, rfl, ?_, start, moves, indents, quoted, some_,
    fun c member => ?_⟩
  · exact (literal_eq_some written).trans (passesBlanks.trans passesQuote)
  · have plain := accepted c member
    simp only [Bool.and_eq_true, Bool.not_eq_true'] at plain
    exact plain.1

theorem finds_pathBehind (tags : List String) :
    Finds (fun _ path => ∀ c ∈ path, Text.isBlank c = false) (pathBehind tags) := by
  intro text before cursor after excerpts stands read
  rcases pathBehind_eq_some read with
    ⟨_, _, _, _, path, between, rfl, passes, start, moves, _, _, _, plain⟩
  exact .single stands passes start moves (.refl _) plain

/-- The sign in front of a path is the last letter of a tag. -/
def TaggedBy (tags : List String) (front : Text) : Prop :=
  ∃ tag ∈ tags, ∃ earlier letter, tag.toList.getLast? = some letter ∧
    EndsWithSign letter earlier front

theorem finds_tagged {tags : List String} (someLetters : ∀ tag ∈ tags, tag.toList ≠ []) :
    Finds (fun front _ => TaggedBy tags front) (pathBehind tags) := by
  intro text before cursor after excerpts stands read
  rcases pathBehind_eq_some read with
    ⟨tag, isTag, blanks, quote, path, between, rfl, passes, start, moves, indents, quoted, _, _⟩
  refine .single stands passes start moves (.refl _) ⟨tag, isTag, ?_⟩
  rcases List.eq_nil_or_concat tag.toList with none_ | ⟨others, letter, shape⟩
  · exact absurd none_ (someLetters tag isTag)
  · refine ⟨before ++ others, letter, by simp [shape], blanks, quote, by simp [shape], ?_, quoted⟩
    exact fun c blank => Text.isBlank_of_isIndent (indents c blank)

theorem finds_secretName :
    Finds (fun _ name => ∀ c ∈ name, Text.isWord c = true) secretName := by
  intro text before cursor after excerpts stands read
  rcases bind_eq_some read with ⟨_, first, tag, read⟩
  rcases bind_eq_some read with ⟨blanks, second, blank, read⟩
  rcases bind_eq_some read with ⟨name, third, taken, read⟩
  rcases run1_eq_some taken with ⟨start, moves, _, letters, _⟩
  rcases pure_eq_some read with ⟨rfl, rfl⟩
  have passes := (literal_eq_some tag).trans (run1_eq_some blank).2.1
  exact .single stands passes start moves (.refl _) letters

end Reference

end HomeConfig
