import HomeConfig.Completion.Offer
import HomeConfig.Proofs.Document.Cursor
import HomeConfig.Proofs.Document.Shape
import HomeConfig.Text.Class.Word

/-!
# What has been typed

What has been typed of a name is found behind the last colon of a line, or behind its last bracket:
blanks, at most one quotation mark, and the characters of the name.  When the name is typed on, that
is all that changes.
-/

namespace HomeConfig

/-! ## Blanks and words -/

theorem Text.not_isWord_of_isBlank {c : Char} (blank : isBlank c = true) : isWord c = false := by
  have far : ∀ code ∈ [0x85, 0xa0, 0x1680, 0x2000, 0x2001, 0x2002, 0x2003, 0x2004, 0x2005, 0x2006,
      0x2007, 0x2008, 0x2009, 0x200a, 0x2028, 0x2029, 0x202f, 0x205f, 0x3000],
      inRanges code wordRanges = false := by
    decide +kernel
  simp only [isBlank, Bool.or_eq_true, Bool.and_eq_true, decide_eq_true_eq, beq_iff_eq] at blank
  unfold isWord
  split
  next basic =>
    cases plain : isPlainWord c with
    | false => rfl
    | true =>
      have token : isTokenChar c = true := by
        simp only [isPlainWord, Bool.or_eq_true] at plain
        simp only [isTokenChar, Bool.or_eq_true]
        exact Or.inl plain
      have codes := toNat_of_isTokenChar token
      omega
  next => exact far _ (by simp only [List.mem_cons, List.not_mem_nil, or_false]; omega)

namespace Typed

variable {line more name behind : Text} {separator : Char}

theorem not_isBlank_of_isNameChar {c : Char} (char : isNameChar c = true) :
    Text.isBlank c = false := by
  cases blank : Text.isBlank c with
  | false => rfl
  | true =>
    have noWord := Text.not_isWord_of_isBlank blank
    have dot : c = '.' := by simpa [isNameChar, noWord] using char
    exact absurd (dot ▸ blank) (by decide)

theorem not_isQuote_of_isNameChar {c : Char} (char : isNameChar c = true) :
    Text.isQuote c = false :=
  Text.not_isQuote_of_accepted char (by decide) (by decide)

theorem isNameChar_of_isTokenChar {c : Char} (token : Text.isTokenChar c = true) :
    isNameChar c = true := by
  have basic := Text.basic_of_isTokenChar token
  simp only [Text.isTokenChar, Bool.or_eq_true] at token
  simp only [isNameChar, Text.isWord, if_pos basic, Text.isPlainWord, Bool.or_eq_true]
  exact token

/-! ## The last separator -/

theorem cutLast?_append (absent : separator ∉ more) (line : Text) :
    cutLast? separator (line ++ more) =
      (cutLast? separator line).map fun (before, behind) => (before, behind ++ more) := by
  have passed : ∀ c ∈ more.reverse, (c != separator) = true := by
    intro c member
    exact bne_iff_ne.mpr fun same => absent (same ▸ List.mem_reverse.mp member)
  unfold cutLast?
  rw [List.reverse_append, List.dropWhile_append_of_pos passed, List.takeWhile_append_of_pos passed]
  split
  · rfl
  · rw [List.reverse_append, List.reverse_reverse]
    rfl

theorem cutLast?_separator (absent : separator ∉ behind) (front : Text) :
    cutLast? separator (front ++ separator :: behind) = some (front, behind) := by
  have shape : front ++ separator :: behind = front ++ [separator] ++ behind := by simp
  rw [shape, cutLast?_append absent]
  simp [cutLast?]

theorem cutLast?_eq_some {front : Text} (cut : cutLast? separator line = some (front, behind)) :
    line = front ++ separator :: behind := by
  unfold cutLast? at cut
  split at cut
  · cases cut
  next c before shape =>
    cases cut
    have isSeparator : c = separator := by
      have stops := List.head?_dropWhile_not (· != separator) line.reverse
      simpa [shape] using stops
    have whole := List.takeWhile_append_dropWhile (p := (· != separator)) (l := line.reverse)
    rw [shape, isSeparator] at whole
    have backwards := congrArg List.reverse whole
    simpa using backwards.symm

/-! ## A quotation mark and a name -/

/-- The same quotation mark, and a longer name. -/
def extend (more : Text) (typed : Typed) : Typed :=
  ⟨typed.quote, typed.name ++ more⟩

theorem ofText?_append (chars : ∀ c ∈ more, isNameChar c = true) (text : Text) :
    ofText? (text ++ more) = (ofText? text).map (extend more) := by
  have all : more.all isNameChar = true := List.all_eq_true.mpr chars
  cases shape : Text.trimStart text with
  | nil =>
    -- Only blanks stand in front of what is added, which starts with neither a blank nor a quote.
    have blanks : ∀ c ∈ text, Text.isBlank c = true := List.dropWhile_eq_nil_iff.mp shape
    cases more with
    | nil => simp [ofText?, extend, shape]
    | cons c more =>
      have solid := not_isBlank_of_isNameChar (chars c (by simp))
      have plain := not_isQuote_of_isNameChar (chars c (by simp))
      have longer : Text.trimStart (text ++ c :: more) = c :: more :=
        Text.dropWhile_append_of_stops blanks solid
      simp only [ofText?, shape, longer, plain, Bool.false_eq_true, if_false, if_pos all]
      rfl
  | cons c rest =>
    have longer : Text.trimStart (text ++ more) = c :: (rest ++ more) := by
      have some_ : Text.trimStart text ≠ [] := by simp [shape]
      unfold Text.trimStart at shape some_ ⊢
      rw [List.dropWhile_append, if_neg (by simpa using some_), shape, List.cons_append]
    by_cases quote : Text.isQuote c = true
    · simp only [ofText?, shape, longer, if_pos quote, List.all_append, all, Bool.and_true]
      split <;> rfl
    · simp only [ofText?, shape, longer, if_neg quote, List.all_cons, List.all_append, all,
        Bool.and_true]
      split <;> rfl

/-- Blanks, at most one quotation mark, and characters of a name are read as they stand. -/
theorem ofText?_shape {blanks : Text} {quote : Option Char}
    (allBlank : ∀ c ∈ blanks, Text.isBlank c = true) (isQuote : ∀ c ∈ quote, Text.isQuote c = true)
    (chars : ∀ c ∈ name, isNameChar c = true) :
    ofText? (blanks ++ quote.toList ++ name) = some ⟨quote, name⟩ := by
  have opened : ofText? (blanks ++ quote.toList) = some ⟨quote, []⟩ := by
    cases quote with
    | none =>
      have nothing : Text.trimStart (blanks ++ []) = [] :=
        Text.dropWhile_append_of_stops allBlank rfl
      simp only [ofText?, Option.toList_none, nothing]
      rfl
    | some c =>
      have quoted : Text.isQuote c = true := isQuote c rfl
      have solid : Text.isBlank c = false := by
        rcases (by simpa [Text.isQuote] using quoted : c = '\'' ∨ c = '"') with rfl | rfl
        · decide
        · decide
      have start : Text.trimStart (blanks ++ [c]) = [c] :=
        Text.dropWhile_append_of_stops allBlank solid
      simp only [ofText?, Option.toList_some, start, if_pos quoted]
      rfl
  rw [ofText?_append chars, opened]
  rfl

theorem ofText?_eq_some {text : Text} {typed : Typed} (read : ofText? text = some typed) :
    ∃ blanks, text = blanks ++ typed.quote.toList ++ typed.name ∧
      (∀ c ∈ blanks, Text.isBlank c = true) ∧ (∀ c ∈ typed.quote, Text.isQuote c = true) ∧
        ∀ c ∈ typed.name, isNameChar c = true := by
  have blank : ∀ c ∈ text.takeWhile Text.isBlank, Text.isBlank c = true :=
    fun c member => List.mem_takeWhile_imp member
  have whole : text = text.takeWhile Text.isBlank ++ Text.trimStart text :=
    List.takeWhile_append_dropWhile.symm
  unfold ofText? at read
  cases shape : Text.trimStart text with
  | nil =>
    simp only [shape, List.all_nil, if_true] at read
    cases read
    exact ⟨_, by simpa [shape] using whole, blank, nofun, nofun⟩
  | cons c rest =>
    by_cases quote : Text.isQuote c = true
    · simp only [shape, if_pos quote] at read
      split at read
      next all =>
        cases read
        refine ⟨_, by simpa [shape] using whole, blank, ?_, List.all_eq_true.mp all⟩
        rintro d ⟨⟩
        exact quote
      next => cases read
    · simp only [shape, if_neg quote] at read
      split at read
      next all =>
        cases read
        exact ⟨_, by simpa [shape] using whole, blank, nofun, List.all_eq_true.mp all⟩
      next => cases read

/-! ## Values and arguments -/

/-- A name that is typed on behind a colon has grown, or nothing of it has been made out before. -/
theorem value_append (token : ∀ c ∈ more, Text.isTokenChar c = true) (line : Text) :
    value line = [] ∨ value (line ++ more) = value line ++ more := by
  have noColon : ':' ∉ more := fun colon => absurd (token _ colon) (by decide)
  have chars : ∀ c ∈ more, isNameChar c = true :=
    fun c member => isNameChar_of_isTokenChar (token c member)
  unfold value
  rw [cutLast?_append noColon]
  cases cutLast? ':' line with
  | none => exact Or.inl rfl
  | some parts =>
    simp only [Option.map_some, Option.bind_some, ofText?_append chars]
    cases ofText? parts.2 with
    | none => exact Or.inl rfl
    | some typed => exact Or.inr rfl

theorem value_shape {front blanks : Text} {quote : Option Char}
    (allBlank : ∀ c ∈ blanks, Text.isBlank c = true) (isQuote : ∀ c ∈ quote, Text.isQuote c = true)
    (chars : ∀ c ∈ name, isNameChar c = true) :
    value (front ++ ':' :: (blanks ++ quote.toList ++ name)) = name := by
  have noColon : ':' ∉ blanks ++ quote.toList ++ name := by
    simp only [List.mem_append, Option.mem_toList, not_or]
    refine ⟨⟨fun colon => ?_, fun colon => ?_⟩, fun colon => ?_⟩
    · exact absurd (allBlank _ colon) (by decide)
    · exact absurd (isQuote _ colon) (by decide)
    · exact absurd (chars _ colon) (by decide)
  unfold value
  simp only [cutLast?_separator noColon, Option.bind_some, ofText?_shape allBlank isQuote chars]

/-- An argument that is typed on grows; none comes into being. -/
theorem argument?_append (token : ∀ c ∈ more, Text.isTokenChar c = true) (line : Text) :
    argument? (line ++ more) = (argument? line).map (extend more) := by
  have noBracket : '(' ∉ more := fun bracket => absurd (token _ bracket) (by decide)
  have chars : ∀ c ∈ more, isNameChar c = true :=
    fun c member => isNameChar_of_isTokenChar (token c member)
  unfold argument?
  rw [cutLast?_append noBracket]
  cases cutLast? '(' line with
  | none => rfl
  | some parts =>
    simp only [Option.map_some, Option.bind_eq_bind, Option.bind_some, ofText?_append chars]
    cases ofText? parts.2 with
    | none => rfl
    | some typed =>
      simp only [Option.map_some, Option.bind_some]
      split <;> rfl

end Typed

end HomeConfig
