import HomeConfig.Proofs.Template.Statement
import HomeConfig.Proofs.Text.Part
import Mathlib.Data.List.Find

/-!
# Lexemes in front of a closing brace

A lexeme is the longest one that the text ahead starts with, so what stands behind it may well
decide how far it goes.  A closing brace is part of no number, name or blank: up to it, the text
alone decides.  Strings may run over it; but one that closes in front of it closes there whatever
follows, and one that does not close at all does not close in a part of the text.

So what is read before the closing braces of an expression (`lexeme_alone`) is read from the
expression without the template around it.
-/

namespace HomeConfig

namespace Template

section

variable {part rest : Text}

/-! ## Numbers -/

theorem spacedLength_brace {isDigit : Char → Bool} (no : isDigit '\x7d' = false)
    (underscore : Bool) :
    spacedLength isDigit underscore (part ++ '\x7d' :: rest) =
      spacedLength isDigit underscore part := by
  induction part generalizing underscore with
  | nil => simp [spacedLength, no]
  | cons c part inductionHypothesis =>
    have head : ((part ++ '\x7d' :: rest).head?.any isDigit) = part.head?.any isDigit := by
      cases part <;> simp [no]
    simp only [List.cons_append, spacedLength, inductionHypothesis, head]

theorem spacedLength_le (isDigit : Char → Bool) (underscore : Bool) (text : Text) :
    spacedLength isDigit underscore text ≤ text.length := by
  induction text generalizing underscore with
  | nil => exact Nat.zero_le _
  | cons c text inductionHypothesis =>
    unfold spacedLength
    split
    · exact Nat.succ_le_succ (inductionHypothesis _)
    split
    · exact Nat.succ_le_succ (inductionHypothesis _)
    · exact Nat.zero_le _

theorem digitsLength_brace : digitsLength (part ++ '\x7d' :: rest) = digitsLength part :=
  spacedLength_brace (by decide +kernel) false

theorem digitsLength_le (text : Text) : digitsLength text ≤ text.length :=
  spacedLength_le _ _ text

theorem drop_brace {length : Nat} (within : length ≤ part.length) :
    (part ++ '\x7d' :: rest).drop length = part.drop length ++ '\x7d' :: rest :=
  List.drop_append_of_le_length within

theorem exponentLength_cons (c : Char) (text : Text) :
    exponentLength (c :: text) =
      if c = 'e' ∨ c = 'E' then
        if digitsLength (text.drop (signLength text)) = 0 then 0
        else 1 + signLength text + digitsLength (text.drop (signLength text))
      else 0 :=
  rfl

theorem signLength_brace : signLength (part ++ '\x7d' :: rest) = signLength part := by
  cases part <;> rfl

theorem signLength_le (text : Text) : signLength text ≤ text.length := by
  cases text with
  | nil => exact Nat.zero_le _
  | cons d text =>
    rw [signLength, List.length_cons]
    split <;> omega

theorem exponentLength_brace : exponentLength (part ++ '\x7d' :: rest) = exponentLength part := by
  cases part with
  | nil => rfl
  | cons c part =>
    rw [List.cons_append, exponentLength_cons, exponentLength_cons, signLength_brace,
      drop_brace (signLength_le part), digitsLength_brace]

theorem exponentLength_le (text : Text) : exponentLength text ≤ text.length := by
  cases text with
  | nil => exact Nat.zero_le _
  | cons c text =>
    have sign := signLength_le text
    have digits := digitsLength_le (text.drop (signLength text))
    rw [List.length_drop] at digits
    rw [exponentLength_cons, List.length_cons]
    split <;> [split; skip] <;> omega

theorem floatLength_eq (text : Text) :
    floatLength text =
      if digitsLength text = 0 then 0
      else
        let behind := text.drop (digitsLength text)
        let exponent := exponentLength (behind.drop (fractionLength behind))
        if fractionLength behind + exponent = 0 then 0
        else digitsLength text + fractionLength behind + exponent :=
  rfl

theorem fractionLength_brace : fractionLength (part ++ '\x7d' :: rest) = fractionLength part := by
  cases part with
  | nil => rfl
  | cons c part =>
    by_cases point : c = '.'
    · subst point
      simp only [List.cons_append, fractionLength, digitsLength_brace]
    · unfold fractionLength
      split
      next same => exact absurd (List.cons.inj same).1 point
      next =>
        split
        next same => exact absurd (List.cons.inj same).1 point
        next => rfl

theorem fractionLength_le (text : Text) : fractionLength text ≤ text.length := by
  unfold fractionLength
  split
  next rest =>
    have digits := digitsLength_le rest
    dsimp only
    rw [List.length_cons]
    split <;> omega
  next => exact Nat.zero_le _

theorem floatLength_brace : floatLength (part ++ '\x7d' :: rest) = floatLength part := by
  rw [floatLength_eq, floatLength_eq, digitsLength_brace, drop_brace (digitsLength_le part)]
  dsimp only
  rw [fractionLength_brace, drop_brace (fractionLength_le _), exponentLength_brace]

theorem floatLength_le (text : Text) : floatLength text ≤ text.length := by
  have whole := digitsLength_le text
  have fraction := fractionLength_le (text.drop (digitsLength text))
  have exponent := exponentLength_le
    ((text.drop (digitsLength text)).drop (fractionLength (text.drop (digitsLength text))))
  rw [List.length_drop] at fraction exponent
  rw [List.length_drop] at exponent
  rw [floatLength_eq]
  dsimp only
  split <;> [skip; split] <;> omega

theorem basedLength_zero (letter d : Char) (isDigit : Char → Bool) (text : Text) :
    basedLength letter isDigit ('0' :: d :: text) =
      if d.toLower = letter then
        if spacedLength isDigit true text = 0 then 0 else spacedLength isDigit true text + 2
      else 0 :=
  rfl

theorem basedLength_of_ne {c : Char} (other : c ≠ '0') (letter : Char) (isDigit : Char → Bool)
    (text : Text) : basedLength letter isDigit (c :: text) = 0 := by
  unfold basedLength
  split
  next same => exact absurd (List.cons.inj same).1 other
  next => rfl

theorem basedLength_brace {letter : Char} {isDigit : Char → Bool} (apart : letter ≠ '\x7d')
    (no : isDigit '\x7d' = false) :
    basedLength letter isDigit (part ++ '\x7d' :: rest) = basedLength letter isDigit part := by
  cases part with
  | nil => rfl
  | cons c part =>
    by_cases zero : c = '0'
    · subst zero
      cases part with
      | nil => exact if_neg (Ne.symm apart)
      | cons d part =>
        rw [List.cons_append, List.cons_append, basedLength_zero, basedLength_zero,
          spacedLength_brace no]
    · rw [List.cons_append, basedLength_of_ne zero, basedLength_of_ne zero]

theorem basedLength_le (letter : Char) (isDigit : Char → Bool) (text : Text) :
    basedLength letter isDigit text ≤ text.length := by
  unfold basedLength
  split
  next d rest =>
    have digits := spacedLength_le isDigit true rest
    simp only [List.length_cons]
    split <;> [split; skip] <;> omega
  next => exact Nat.zero_le _

theorem basedLengths_brace : basedLengths (part ++ '\x7d' :: rest) = basedLengths part := by
  unfold basedLengths
  rw [basedLength_brace (by decide) (by decide), basedLength_brace (by decide) (by decide),
    basedLength_brace (by decide) (by decide +kernel)]

theorem decimalLength_of_ne {c : Char} (other : c ≠ '0') (text : Text) :
    decimalLength (c :: text) =
      if c.isDigit then spacedLength Text.isDecimalDigit true text + 1 else 0 := by
  unfold decimalLength
  split
  next same => exact absurd (List.cons.inj same).1 other
  next same =>
    cases same
    rfl
  next same => cases same

theorem decimalLength_brace : decimalLength (part ++ '\x7d' :: rest) = decimalLength part := by
  cases part with
  | nil => rfl
  | cons c part =>
    by_cases zero : c = '0'
    · subst zero
      change spacedLength (· == '0') true (part ++ '\x7d' :: rest) + 1 =
        spacedLength (· == '0') true part + 1
      rw [spacedLength_brace rfl]
    · rw [List.cons_append, decimalLength_of_ne zero, decimalLength_of_ne zero,
        spacedLength_brace (by decide +kernel)]

theorem decimalLength_le (text : Text) : decimalLength text ≤ text.length := by
  unfold decimalLength
  split
  next rest => exact Nat.succ_le_succ (spacedLength_le _ _ rest)
  next rest _ =>
    split
    · exact Nat.succ_le_succ (spacedLength_le _ _ rest)
    · exact Nat.zero_le _
  next => exact Nat.zero_le _

theorem integerLength_brace : integerLength (part ++ '\x7d' :: rest) = integerLength part := by
  rw [integerLength, basedLengths_brace, decimalLength_brace, integerLength]

theorem integerLength_le (text : Text) : (integerLength text).1 ≤ text.length := by
  unfold integerLength
  split
  next length found =>
    have among := List.mem_of_find?_eq_some found
    simp only [basedLengths, List.mem_cons, List.not_mem_nil, or_false] at among
    rcases among with rfl | rfl | rfl <;> exact basedLength_le _ _ text
  next => exact decimalLength_le text

end

/-! ## Strings and operators -/

theorem stringLength?_cons (quote : Char) (skip : Bool) (c : Char) (text : Text) :
    stringLength? quote skip (c :: text) =
      if skip = false ∧ c = quote then some 2
      else (stringLength? quote (!skip && c == '\\') text).map (· + 1) := by
  cases skip <;> simp [stringLength?]

theorem two_le_of_stringLength? {quote : Char} {skip : Bool} {text : Text} {length : Nat}
    (closed : stringLength? quote skip text = some length) : 2 ≤ length := by
  induction text generalizing skip length with
  | nil => cases skip <;> cases closed
  | cons c text inductionHypothesis =>
    rw [stringLength?_cons] at closed
    split at closed
    · cases closed
      exact le_rfl
    · rcases Option.map_eq_some_iff.mp closed with ⟨shorter, later, rfl⟩
      exact (inductionHypothesis later).trans (Nat.le_succ _)

/-- A string that closes within a part closes there whatever follows. -/
theorem stringLength?_of_within {quote : Char} {skip : Bool} {part rest : Text} {length : Nat}
    (closed : stringLength? quote skip (part ++ rest) = some length)
    (within : length ≤ part.length + 1) (other : Text) :
    stringLength? quote skip (part ++ other) = some length := by
  induction part generalizing skip length with
  | nil =>
    have least := two_le_of_stringLength? closed
    exact absurd (least.trans within) (by decide)
  | cons c part inductionHypothesis =>
    rw [List.cons_append, stringLength?_cons] at closed ⊢
    split at closed
    next here => rwa [if_pos here]
    next elsewhere =>
      rcases Option.map_eq_some_iff.mp closed with ⟨shorter, later, rfl⟩
      rw [if_neg elsewhere, inductionHypothesis later (Nat.le_of_succ_le_succ within)]
      rfl

/-- A string that does not close in a text does not close in a part of it. -/
theorem stringLength?_of_open {quote : Char} {skip : Bool} {part rest : Text}
    (isOpen : stringLength? quote skip (part ++ rest) = none) :
    stringLength? quote skip part = none := by
  induction part generalizing skip with
  | nil => cases skip <;> rfl
  | cons c part inductionHypothesis =>
    rw [List.cons_append, stringLength?_cons] at isOpen
    rw [stringLength?_cons]
    split at isOpen
    · cases isOpen
    next elsewhere =>
      rw [if_neg elsewhere, inductionHypothesis (Option.map_eq_none_iff.mp isOpen)]
      rfl

namespace Cutter

theorem startsWith_append_of_le {sign part : Text} (short : sign.length ≤ part.length)
    (rest other : Text) :
    Text.startsWith sign (part ++ rest) = Text.startsWith sign (part ++ other) := by
  rw [Bool.eq_iff_iff, Text.startsWith_iff, Text.startsWith_iff]
  constructor <;> intro starts <;>
    exact (List.prefix_of_prefix_length_le starts (List.prefix_append _ _) short).trans
      (List.prefix_append _ _)

/-- Two characters decide which operator stands at the start of a text. -/
theorem operator?_append {part : Text} (long : 2 ≤ part.length) (rest other : Text) :
    operator? (part ++ rest) = operator? (part ++ other) := by
  unfold operator?
  dsimp only
  refine List.find?_congr fun sign member => ?_
  refine startsWith_append_of_le (le_trans ?_ long) rest other
  revert sign
  decide


theorem takeWhile_brace {accepts : Char → Bool} (no : accepts '\x7d' = false) (part rest : Text) :
    (part ++ '\x7d' :: rest).takeWhile accepts = part.takeWhile accepts := by
  induction part with
  | nil => simp [no]
  | cons c part inductionHypothesis =>
    rw [List.cons_append, List.takeWhile_cons, List.takeWhile_cons, inductionHypothesis]

theorem blanks_brace (part rest : Text) : blanks (part ++ '\x7d' :: rest) = blanks part := by
  unfold blanks
  rw [takeWhile_brace (by decide)]

theorem stringHere?_of_within {part rest : Text} {length : Nat}
    (closed : stringHere? (part ++ rest) = some length) (within : length ≤ part.length)
    (other : Text) : stringHere? (part ++ other) = some length ∧ 2 ≤ length := by
  cases part with
  | nil =>
    obtain rfl := Nat.le_zero.mp within
    unfold stringHere? at closed
    split at closed
    · split at closed
      · exact absurd (two_le_of_stringLength? closed) (by decide)
      · cases closed
    · cases closed
  | cons c part =>
    simp only [List.cons_append, stringHere?] at closed ⊢
    split at closed
    next quote =>
      rw [if_pos quote]
      exact ⟨stringLength?_of_within closed within other, two_le_of_stringLength? closed⟩
    next => cases closed

theorem stringHere?_of_open {part rest : Text} (isOpen : stringHere? (part ++ rest) = none) :
    stringHere? part = none := by
  cases part with
  | nil => rfl
  | cons c part =>
    simp only [List.cons_append, stringHere?] at isOpen ⊢
    split at isOpen
    next quote =>
      rw [if_pos quote]
      exact stringLength?_of_open isOpen
    next other => rw [if_neg other]

theorem inner_of_lexeme {before : Option Char} {text : Text} {found : List Token × Nat}
    (read : lexeme before text = .ok (some found)) : ∀ token ∈ found.1, token.isInner = true := by
  unfold lexeme at read
  dsimp only at read
  generalize (if before = some '.' then 0 else floatLength text) = float at read
  split_ifs at read
  · cases read
    exact nofun
  · cases read
    simp [Token.isInner]
  · cases read
    simp [Token.isInner]
  · cases read
    simp [Token.isInner]
  · cases read
  · split at read
    · split at read
      · cases read
        simp [Token.isInner]
      · cases read
    · cases read

/-- A lexeme that ends before the closing braces of an expression is read alone as well, and if
there is none, there is none alone. -/
theorem lexeme_alone {before : Option Char} {part tail : Text}
    {found : Option (List Token × Nat)}
    (read : lexeme before (part ++ '\x7d' :: '\x7d' :: tail) = .ok found)
    (within : ∀ result ∈ found, result.2 ≤ part.length) :
    lexeme before (part ++ ['\x7d', '\x7d']) = .ok found ∧ ∀ result ∈ found, 0 < result.2 := by
  have floatWithin : (if before = some '.' then 0 else floatLength part) ≤ part.length := by
    split
    · exact Nat.zero_le _
    · exact floatLength_le part
  have integerWithin := integerLength_le part
  have noName : isNamePart '\x7d' = false := by decide +kernel
  unfold lexeme at read ⊢
  simp only [blanks_brace, floatLength_brace, integerLength_brace, takeWhile_brace noName,
    List.take_append_of_le_length floatWithin, List.take_append_of_le_length integerWithin]
    at read ⊢
  generalize (if before = some '.' then 0 else floatLength part) = length at read ⊢
  split_ifs at read ⊢ with space float ascii integer long name identifier
  · cases read
    exact ⟨rfl, by simpa using space⟩
  · cases read
    exact ⟨rfl, by simpa using float⟩
  · cases read
    exact ⟨rfl, by simpa using integer⟩
  · cases read
    cases taken : part.takeWhile isNamePart with
    | nil => simp [taken] at name
    | cons c rest => exact ⟨rfl, by simp⟩
  · cases read
  · split at read
    next closed =>
      split at read
      next content decoded =>
        cases read
        rcases stringHere?_of_within closed (within _ rfl) ['\x7d', '\x7d'] with ⟨alone, least⟩
        have inside : _ - 1 ≤ part.length := (Nat.sub_le _ _).trans (within _ rfl)
        rw [List.take_append_of_le_length inside] at decoded
        simp only [alone, List.take_append_of_le_length inside, decoded]
        exact ⟨trivial, by simpa using Nat.lt_of_lt_of_le Nat.zero_lt_two least⟩
      next => cases read
    next isOpen =>
      cases read
      have same : part ++ '\x7d' :: '\x7d' :: tail = (part ++ ['\x7d', '\x7d']) ++ tail := by simp
      have alone := stringHere?_of_open (same ▸ isOpen)
      rw [alone]
      exact ⟨rfl, nofun⟩

theorem length_pos_of_operator? {text : Text} {sign : String}
    (found : operator? text = some sign) : 0 < sign.length := by
  have among := List.mem_of_find?_eq_some found
  clear found
  revert sign
  decide

end Cutter

end Template

end HomeConfig
