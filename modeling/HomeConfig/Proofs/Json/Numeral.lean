import HomeConfig.Json.Reader
import HomeConfig.Json.Writer
import HomeConfig.Proofs.Number.Shortest
import HomeConfig.Proofs.Text.Part

/-!
# Numbers are read as they were written

A number in a text has a sign, a whole part, a fraction and an exponent, of which all but the whole
part may be missing.  `WrittenNumber` is such a number, and `readNumber_text` says what is read
where it stands: an integer if neither a fraction nor an exponent follows, and else the value
nearest to the decimal.  What is written for an integer and for a finite value has that form
(`text_ofInt`, `exists_text_finite`), so both are read back.
-/

namespace HomeConfig

namespace Json

open Binary64 (decimalLength exponentText ofDecimal)

/-! ## Digits -/

theorem decimalNumber_eq (digits : Text) :
    decimalNumber digits = Nat.ofDigitChars 10 digits 0 :=
  Nat.ofDigitChars_eq_foldl.symm

theorem decimalNumber_toDigits (n : Nat) : decimalNumber (Nat.toDigits 10 n) = n := by
  rw [decimalNumber_eq, Nat.ofDigitChars_ten_toDigits]

theorem decimalNumber_append (first second : Text) :
    decimalNumber (first ++ second) =
      10 ^ second.length * decimalNumber first + decimalNumber second := by
  rw [decimalNumber_eq, decimalNumber_eq, decimalNumber_eq, Nat.ofDigitChars_append,
    Nat.ofDigitChars_eq_ofDigitChars_zero]

theorem decimalNumber_zeros (count : Nat) : decimalNumber (List.replicate count '0') = 0 := by
  rw [decimalNumber_eq, Nat.ofDigitChars_replicate_zero, Nat.mul_zero]

theorem decimalNumber_lt {digits : Text} (all : ∀ c ∈ digits, c.isDigit = true) :
    decimalNumber digits < 10 ^ digits.length := by
  induction digits with
  | nil => decide
  | cons c rest inductionHypothesis =>
    have later := inductionHypothesis fun d member => all d (.tail _ member)
    have here : decimalNumber [c] ≤ 9 := by
      have digit := (Char.isDigit_iff_toNat.mp (all c (.head _))).2
      have value : decimalNumber [c] = c.toNat - '0'.toNat := Nat.zero_add _
      have codes : '9'.toNat = 57 ∧ '0'.toNat = 48 := ⟨rfl, rfl⟩
      omega
    rw [← List.singleton_append, decimalNumber_append, List.singleton_append, List.length_cons,
      Nat.pow_succ]
    have product := Nat.mul_le_mul_left (10 ^ rest.length) here
    omega

theorem isDigit_of_mem_toDigits {n : Nat} : ∀ c ∈ Nat.toDigits 10 n, c.isDigit = true :=
  fun _ member => Nat.isDigit_of_mem_toDigits (by decide) (by decide) member

/-- The digits of a number other than zero start with another digit than zero. -/
theorem toDigits_eq_cons {n : Nat} (filled : n ≠ 0) :
    ∃ c rest, Nat.toDigits 10 n = c :: rest ∧ c ≠ '0' := by
  cases digits : Nat.toDigits 10 n with
  | nil => exact absurd digits Nat.toDigits_ne_nil
  | cons c rest =>
    refine ⟨c, rest, rfl, ?_⟩
    rintro rfl
    have value := decimalNumber_toDigits n
    have all : ∀ c ∈ rest, c.isDigit = true := fun c member =>
      isDigit_of_mem_toDigits c (digits ▸ List.mem_cons_of_mem _ member)
    have least := Binary64.ten_pow_le filled
    have less := decimalNumber_lt all
    rw [decimalLength, digits, List.length_cons, Nat.add_sub_cancel] at least
    rw [digits, ← List.singleton_append, decimalNumber_append] at value
    have zero : decimalNumber ['0'] = 0 := rfl
    rw [zero, Nat.mul_zero, Nat.zero_add] at value
    omega

/-! ## Numbers in a text -/

/-- A number as it stands in a text. -/
structure WrittenNumber where
  negative : Bool
  whole : Text
  fraction : Text
  exponent : Option Int

/-- Whether a character may continue a number. -/
def continuesNumber (c : Char) : Bool :=
  c.isDigit || c == '.' || c == 'e' || c == 'E'

/-- A text in front of which a number ends. -/
def Stops (rest : Text) : Prop :=
  rest.head?.any continuesNumber = false

namespace WrittenNumber

/-- What stands behind the whole part. -/
def point (number : WrittenNumber) : Text :=
  if number.fraction = [] then [] else '.' :: number.fraction

/-- What stands behind the fraction. -/
def power (number : WrittenNumber) : Text :=
  (number.exponent.map exponentText).getD []

/-- The text of a number. -/
def text (number : WrittenNumber) : Text :=
  (if number.negative then ['-'] else []) ++ (number.whole ++ (number.point ++ number.power))

/-- The parts of a number are what they should be.  No further digit follows a zero in front. -/
structure WellFormed (number : WrittenNumber) : Prop where
  leading : number.whole = ['0'] ∨ ∃ c rest, number.whole = c :: rest ∧ c ≠ '0'
  whole : ∀ c ∈ number.whole, c.isDigit = true
  fraction : ∀ c ∈ number.fraction, c.isDigit = true

/-- What a number is read as. -/
def value (number : WrittenNumber) : Json :=
  if number.fraction = [] ∧ number.exponent = none then
    let magnitude : Int := decimalNumber number.whole
    .integer (if number.negative then -magnitude else magnitude)
  else
    .number (ofDecimal number.negative (decimalNumber (number.whole ++ number.fraction))
      (number.exponent.getD 0 - number.fraction.length))

end WrittenNumber

/-! ## Exponents -/

theorem exponentText_eq (exponent : Int) :
    ∃ digits, exponentText exponent = 'e' :: (if exponent < 0 then '-' else '+') :: digits ∧
      digits ≠ [] ∧ (∀ c ∈ digits, c.isDigit = true) ∧
      decimalNumber digits = exponent.natAbs := by
  refine ⟨_, rfl, ?_⟩
  split
  · refine ⟨by simp, ?_, ?_⟩
    · intro c member
      rcases List.mem_cons.mp member with rfl | later
      · rfl
      · exact isDigit_of_mem_toDigits c later
    · rw [← List.singleton_append, decimalNumber_append, decimalNumber_toDigits]
      exact Nat.zero_add _
  · exact ⟨Nat.toDigits_ne_nil, isDigit_of_mem_toDigits, decimalNumber_toDigits _⟩

theorem Stops.digit {rest : Text} (stops : Stops rest) :
    rest.head?.any Char.isDigit = false := by
  cases rest with
  | nil => rfl
  | cons c rest =>
    have other : continuesNumber c = false := stops
    simp only [continuesNumber, Bool.or_eq_false_iff] at other
    exact other.1.1.1

theorem exponentPart?_exponentText {rest : Text} (stops : Stops rest) (exponent : Int) :
    exponentPart? (exponentText exponent ++ rest) =
      some ((exponentText exponent).length, exponent) := by
  rcases exponentText_eq exponent with ⟨digits, same, filled, all, value⟩
  have taken : (digits ++ rest).takeWhile Char.isDigit = digits :=
    Text.takeWhile_append_of_stops all stops.digit
  have nonempty : digits.isEmpty = false := by simpa using filled
  rw [same]
  split
  next negative =>
    have read : exponentPart? ('e' :: '-' :: digits ++ rest) =
        if ((digits ++ rest).takeWhile Char.isDigit).isEmpty then none
        else some (1 + 1 + ((digits ++ rest).takeWhile Char.isDigit).length,
          -(decimalNumber ((digits ++ rest).takeWhile Char.isDigit) : Int)) := rfl
    rw [read, taken, nonempty, value]
    simp only [List.length_cons, Bool.false_eq_true, if_false, Option.some.injEq, Prod.mk.injEq]
    omega
  next positive =>
    have read : exponentPart? ('e' :: '+' :: digits ++ rest) =
        if ((digits ++ rest).takeWhile Char.isDigit).isEmpty then none
        else some (1 + 1 + ((digits ++ rest).takeWhile Char.isDigit).length,
          (decimalNumber ((digits ++ rest).takeWhile Char.isDigit) : Int)) := rfl
    rw [read, taken, nonempty, value]
    simp only [List.length_cons, Bool.false_eq_true, if_false, Option.some.injEq, Prod.mk.injEq]
    omega

theorem exponentPart?_of_stops {rest : Text} (stops : Stops rest) : exponentPart? rest = none := by
  cases rest with
  | nil => rfl
  | cons c rest =>
    have other : continuesNumber c = false := stops
    simp only [continuesNumber, Bool.or_eq_false_iff, beq_eq_false_iff_ne] at other
    simp only [exponentPart?]
    rw [if_neg (by simp [other])]

/-! ## Numbers -/

namespace WrittenNumber

variable {number : WrittenNumber} {rest : Text}

theorem head?_power (stops : Stops rest) :
    (number.power ++ rest).head?.any Char.isDigit = false ∧
      (number.power ++ rest).head? ≠ some '.' := by
  unfold power
  cases number.exponent with
  | some exponent =>
    rcases exponentText_eq exponent with ⟨_, same, _⟩
    rw [Option.map_some, Option.getD_some, same]
    exact ⟨rfl, by simp⟩
  | none =>
    refine ⟨stops.digit, ?_⟩
    cases rest with
    | nil => nofun
    | cons c rest =>
      rintro ⟨⟩
      cases stops

theorem exponentPart?_power (stops : Stops rest) :
    exponentPart? (number.power ++ rest) =
      number.exponent.map fun exponent => (number.power.length, exponent) := by
  unfold power
  cases number.exponent with
  | some exponent => exact exponentPart?_exponentText stops exponent
  | none => exact exponentPart?_of_stops stops

theorem head?_point (stops : Stops rest) :
    (number.point ++ (number.power ++ rest)).head?.any Char.isDigit = false := by
  unfold point
  split
  · exact (head?_power stops).1
  · rfl

theorem fractionDigits_point (wellFormed : number.WellFormed) (stops : Stops rest) :
    fractionDigits (number.point ++ (number.power ++ rest)) = number.fraction := by
  unfold point
  split
  next empty =>
    rw [empty, List.nil_append]
    unfold fractionDigits
    split
    next ahead => exact absurd (congrArg List.head? ahead) (head?_power stops).2
    next => rfl
  next => exact Text.takeWhile_append_of_stops wellFormed.fraction (head?_power stops).1

/-- The digits of the whole part end where it does. -/
theorem whole_of_text (wellFormed : number.WellFormed) {behind : Text}
    (stops : behind.head?.any Char.isDigit = false) :
    (if (number.whole ++ behind).head? == some '0' then ['0']
      else (number.whole ++ behind).takeWhile Char.isDigit) = number.whole := by
  rcases wellFormed.leading with zero | ⟨c, others, shape, other⟩
  · rw [zero]
    rfl
  · have first : ((number.whole ++ behind).head? == some '0') = false := by
      rw [shape]
      simpa using other
    rw [first]
    exact Text.takeWhile_append_of_stops wellFormed.whole stops

theorem head?_whole (wellFormed : number.WellFormed) (behind : Text) :
    ∃ c, (number.whole ++ behind).head? = some c ∧ c.isDigit = true := by
  rcases wellFormed.leading with zero | ⟨c, others, shape, _⟩
  · rw [zero]
    exact ⟨_, rfl, rfl⟩
  · rw [shape]
    exact ⟨c, rfl, wellFormed.whole c (shape ▸ .head _)⟩

theorem length_point (number : WrittenNumber) :
    number.point.length = if number.fraction.isEmpty then 0 else number.fraction.length + 1 := by
  unfold point
  cases number.fraction <;> rfl

theorem text_append (number : WrittenNumber) (rest : Text) :
    number.text ++ rest = (if number.negative then ['-'] else []) ++
      (number.whole ++ (number.point ++ (number.power ++ rest))) := by
  simp only [text, List.append_assoc]

theorem head?_text (wellFormed : number.WellFormed) (rest : Text) :
    ((number.text ++ rest).head? == some '-') = number.negative := by
  rw [text_append]
  cases number.negative with
  | true => rfl
  | false =>
    rcases head?_whole wellFormed (number.point ++ (number.power ++ rest)) with ⟨c, head, digit⟩
    simp only [Bool.false_eq_true, if_false, List.nil_append, head]
    rw [beq_eq_false_iff_ne]
    rintro ⟨⟩
    cases digit

theorem drop_sign (number : WrittenNumber) (rest : Text) :
    (number.text ++ rest).drop (if number.negative then 1 else 0) =
      number.whole ++ (number.point ++ (number.power ++ rest)) := by
  rw [text_append]
  cases number.negative <;> rfl

theorem length_text (number : WrittenNumber) :
    (if number.negative then 1 else 0) + number.whole.length + number.point.length +
      ((number.exponent.map fun exponent => (number.power.length, exponent)).map (·.1)).getD 0 =
        number.text.length := by
  have sign : (if number.negative then 1 else 0) =
      (if number.negative then ['-'] else []).length := by
    cases number.negative <;> rfl
  have power : ((number.exponent.map fun exponent => (number.power.length, exponent)).map
      (·.1)).getD 0 = number.power.length := by
    unfold WrittenNumber.power
    cases number.exponent <;> rfl
  rw [sign, power, text, List.length_append, List.length_append, List.length_append]
  omega

/-- A number is read where it stands, and nothing behind it. -/
theorem readNumber_text (wellFormed : number.WellFormed)
    (short : number.fraction = [] → number.exponent = none → number.whole.length ≤ integerLimit)
    (stops : Stops rest) (offset : Nat) :
    readNumber ⟨offset, number.text ++ rest⟩ =
      .ok (number.value, ⟨offset + number.text.length, rest⟩) := by
  have filled : number.whole.isEmpty = false := by
    rcases wellFormed.leading with zero | ⟨_, _, shape, _⟩
    · rw [zero]
      rfl
    · rw [shape]
      rfl
  have pieces := length_point number
  have length := length_text number
  unfold readNumber
  dsimp only
  rw [head?_text wellFormed, drop_sign, whole_of_text wellFormed (head?_point stops),
    List.drop_left, fractionDigits_point wellFormed stops, ← pieces, List.drop_left,
    exponentPart?_power stops, length, List.drop_left, filled]
  have isInteger : (number.fraction.isEmpty = true ∧ (number.exponent.map
      fun exponent => (number.power.length, exponent)).isNone = true) ↔
        number.fraction = [] ∧ number.exponent = none := by simp
  have exponent : ((number.exponent.map fun exponent => (number.power.length, exponent)).map
      (·.2)).getD 0 = number.exponent.getD 0 := by cases number.exponent <;> rfl
  rw [if_neg Bool.false_ne_true, exponent, value]
  by_cases integer : number.fraction = [] ∧ number.exponent = none
  · rw [if_pos (isInteger.mpr integer), if_neg (Nat.not_lt.mpr (short integer.1 integer.2)),
      if_pos integer]
    rfl
  · rw [if_neg fun both => integer (isInteger.mp both), if_neg integer]
    rfl

end WrittenNumber

/-! ## Integers and finite values -/

/-- The number written for an integer. -/
def WrittenNumber.ofInt (value : Int) : WrittenNumber :=
  ⟨value < 0, Nat.toDigits 10 value.natAbs, [], none⟩

theorem leading_toDigits (n : Nat) :
    Nat.toDigits 10 n = ['0'] ∨ ∃ c rest, Nat.toDigits 10 n = c :: rest ∧ c ≠ '0' := by
  by_cases zero : n = 0
  · rw [zero]
    exact .inl rfl
  · exact .inr (toDigits_eq_cons zero)

theorem wellFormed_ofInt (value : Int) : (WrittenNumber.ofInt value).WellFormed where
  leading := leading_toDigits _
  whole := isDigit_of_mem_toDigits
  fraction := nofun

theorem text_ofInt (value : Int) : (WrittenNumber.ofInt value).text = (toString value).toList := by
  rw [Int.toString_eq_repr, Int.repr_eq_if]
  unfold WrittenNumber.ofInt WrittenNumber.text WrittenNumber.point WrittenNumber.power
  rcases lt_or_ge value 0 with negative | positive
  · have magnitude : (-value).toNat = value.natAbs := by omega
    simp [Nat.repr_eq_ofList_toDigits, negative, Int.not_le.mpr negative, magnitude]
  · have magnitude : value.toNat = value.natAbs := by omega
    simp [Nat.repr_eq_ofList_toDigits, positive, Int.not_lt.mpr positive, magnitude]

theorem value_ofInt (value : Int) : (WrittenNumber.ofInt value).value = .integer value := by
  unfold WrittenNumber.value WrittenNumber.ofInt
  dsimp only
  rw [if_pos ⟨rfl, rfl⟩, decimalNumber_toDigits]
  congr 1
  simp only [decide_eq_true_eq]
  split <;> omega

/-- A number with a fraction or an exponent writes a decimal with the given magnitude. -/
structure WrittenNumber.Writes (number : WrittenNumber) (magnitude : Text) (digits : Nat)
    (exponent : Int) : Prop where
  wellFormed : number.WellFormed
  decimal : ¬ (number.fraction = [] ∧ number.exponent = none)
  text_eq : number.whole ++ (number.point ++ number.power) = magnitude
  value_eq : ofDecimal number.negative (decimalNumber (number.whole ++ number.fraction))
    (number.exponent.getD 0 - number.fraction.length) = ofDecimal number.negative digits exponent

section

variable {digits : Text}

/-- Zeros may stand in front of the digits, behind a point. -/
theorem writes_small (filled : digits ≠ []) (all : ∀ c ∈ digits, c.isDigit = true)
    (negative : Bool) (zeros : Nat) :
    WrittenNumber.Writes ⟨negative, ['0'], List.replicate zeros '0' ++ digits, none⟩
      ('0' :: '.' :: List.replicate zeros '0' ++ digits) (decimalNumber digits)
      (-zeros - digits.length) where
  wellFormed := by
    refine ⟨.inl rfl, by simp, fun c member => ?_⟩
    rcases List.mem_append.mp member with zero | digit
    · rw [(List.mem_replicate.mp zero).2]
      rfl
    · exact all c digit
  decimal := fun both => filled (List.append_eq_nil_iff.mp both.1).2
  text_eq := by simp [WrittenNumber.point, WrittenNumber.power, filled]
  value_eq := by
    have zero : decimalNumber ['0'] = 0 := rfl
    dsimp only
    rw [decimalNumber_append, decimalNumber_append, decimalNumber_zeros, zero]
    simp only [List.length_append, List.length_replicate, Option.getD_none]
    congr 1 <;> push_cast <;> omega

/-- Zeros may stand behind the digits, in front of a point. -/
theorem writes_large (leading : ∃ c rest, digits = c :: rest ∧ c ≠ '0')
    (all : ∀ c ∈ digits, c.isDigit = true) (negative : Bool) (zeros : Nat) :
    WrittenNumber.Writes ⟨negative, digits ++ List.replicate zeros '0', ['0'], none⟩
      (digits ++ List.replicate zeros '0' ++ ['.', '0']) (decimalNumber digits) zeros where
  wellFormed := by
    rcases leading with ⟨c, rest, shape, other⟩
    refine ⟨.inr ⟨c, _, by rw [shape]; rfl, other⟩, fun c member => ?_, by simp⟩
    rcases List.mem_append.mp member with digit | zero
    · exact all c digit
    · rw [(List.mem_replicate.mp zero).2]
      rfl
  decimal := nofun
  text_eq := by simp [WrittenNumber.point, WrittenNumber.power]
  value_eq := by
    have zero : decimalNumber ['0'] = 0 := rfl
    have tail : decimalNumber (digits ++ List.replicate zeros '0' ++ ['0']) =
        decimalNumber digits * 10 ^ (zeros + 1) := by
      rw [decimalNumber_append, decimalNumber_append, decimalNumber_zeros, zero,
        List.length_replicate, Nat.pow_succ, List.length_singleton]
      ring
    dsimp only
    rw [tail, Binary64.ofDecimal_shift_many]
    congr 1
    simp

/-- The point may stand between the digits. -/
theorem writes_split (leading : ∃ c rest, digits = c :: rest ∧ c ≠ '0')
    (all : ∀ c ∈ digits, c.isDigit = true) (negative : Bool) {point : Nat} (behind : 0 < point)
    (before : point < digits.length) :
    WrittenNumber.Writes ⟨negative, digits.take point, digits.drop point, none⟩
      (digits.take point ++ '.' :: digits.drop point) (decimalNumber digits)
      (point - digits.length) where
  wellFormed := by
    rcases leading with ⟨c, rest, rfl, other⟩
    obtain ⟨point, rfl⟩ : ∃ less, point = less + 1 := ⟨point - 1, by omega⟩
    exact ⟨.inr ⟨c, rest.take point, rfl, other⟩,
      fun c member => all c (List.mem_of_mem_take member),
      fun c member => all c (List.mem_of_mem_drop member)⟩
  decimal := fun both => by
    have empty := congrArg List.length both.1
    simp only [List.length_drop, List.length_nil] at empty
    omega
  text_eq := by
    have filled : digits.drop point ≠ [] := by
      rw [Ne, List.drop_eq_nil_iff]
      omega
    simp [WrittenNumber.point, WrittenNumber.power, filled]
  value_eq := by
    dsimp only
    rw [List.take_append_drop, List.length_drop]
    congr 1
    simp only [Option.getD_none]
    omega

theorem writes_scientific {c : Char} {others : Text} (other : c ≠ '0')
    (all : ∀ d ∈ c :: others, d.isDigit = true) (negative : Bool) (exponent : Int) :
    WrittenNumber.Writes ⟨negative, [c], others, some exponent⟩
      (Binary64.scientific (c :: others) exponent) (decimalNumber (c :: others))
      (exponent - others.length) where
  wellFormed := ⟨.inr ⟨c, [], rfl, other⟩, by simpa using all c (.head _),
    fun d member => all d (.tail _ member)⟩
  decimal := nofun
  text_eq := by
    cases others <;> simp [Binary64.scientific, WrittenNumber.point, WrittenNumber.power]
  value_eq := rfl

/-- Digits other than zero are written as a number, wherever the point stands. -/
theorem exists_writes (leading : ∃ c rest, digits = c :: rest ∧ c ≠ '0')
    (all : ∀ c ∈ digits, c.isDigit = true) (negative : Bool) (point : Int) :
    ∃ number : WrittenNumber, number.negative = negative ∧
      number.Writes (if -4 < point ∧ point ≤ 16 then Binary64.positional digits point
        else Binary64.scientific digits (point - 1)) (decimalNumber digits)
        (point - digits.length) := by
  have filled : digits ≠ [] := by
    rcases leading with ⟨_, _, shape, _⟩
    simp [shape]
  split
  next =>
    unfold Binary64.positional
    split_ifs with small large
    · have writes := writes_small filled all negative (-point).toNat
      have same : -((-point).toNat : Int) - digits.length = point - digits.length := by omega
      rw [same] at writes
      exact ⟨_, rfl, writes⟩
    · have writes := writes_large leading all negative (point.toNat - digits.length)
      have same : ((point.toNat - digits.length : Nat) : Int) = point - digits.length := by omega
      rw [same] at writes
      exact ⟨_, rfl, writes⟩
    · have behind : 0 < point.toNat := by omega
      have before : point.toNat < digits.length := by omega
      have writes := writes_split leading all negative behind before
      rw [Int.toNat_of_nonneg (by omega)] at writes
      exact ⟨_, rfl, writes⟩
  next =>
    rcases leading with ⟨c, others, rfl, other⟩
    have writes := writes_scientific other all negative (point - 1)
    have same : point - 1 - others.length = point - (c :: others).length := by
      rw [List.length_cons]
      omega
    rw [same] at writes
    exact ⟨_, rfl, writes⟩

end

theorem shortest_digits_ne_zero {x : Binary64.Finite} (filled : x.significand ≠ 0) :
    x.shortest.digits ≠ 0 := by
  intro zero
  have read := x.ofDecimal_shortest
  rw [zero] at read
  exact filled (congrArg Binary64.Finite.significand (Binary64.finite.inj read)).symm

/-- The text of a finite value without its sign. -/
def magnitudeText (x : Binary64.Finite) : Text :=
  let digits := Nat.toDigits 10 x.shortest.digits
  let point := digits.length + x.shortest.exponent
  if x.significand = 0 then ['0', '.', '0']
  else if -4 < point ∧ point ≤ 16 then Binary64.positional digits point
  else Binary64.scientific digits (point - 1)

theorem toList_render (x : Binary64.Finite) :
    ((Binary64.finite x).render numberSpelling).toList =
      (if x.negative then ['-'] else []) ++ magnitudeText x := by
  unfold Binary64.render
  rw [String.toList_ofList]
  cases x.negative <;> rfl

theorem exists_writes_magnitudeText (x : Binary64.Finite) :
    ∃ number : WrittenNumber, number.negative = x.negative ∧
      number.Writes (magnitudeText x) x.shortest.digits x.shortest.exponent := by
  unfold magnitudeText
  dsimp only
  split
  next zero =>
    have nothing : decimalNumber ['0'] = 0 := rfl
    have writes := writes_small (List.cons_ne_nil '0' []) (by simp) x.negative 0
    refine ⟨_, rfl, writes.wellFormed, writes.decimal, writes.text_eq, ?_⟩
    rw [writes.value_eq, Binary64.Finite.shortest_of_zero zero, nothing,
      Binary64.ofDecimal_zero, Binary64.ofDecimal_zero]
  next filled =>
    rcases exists_writes (toDigits_eq_cons (shortest_digits_ne_zero filled))
      isDigit_of_mem_toDigits x.negative
      ((Nat.toDigits 10 x.shortest.digits).length + x.shortest.exponent) with
      ⟨number, sign, writes⟩
    rw [decimalNumber_toDigits, add_sub_cancel_left] at writes
    exact ⟨number, sign, writes⟩

/-- A finite value is written as a number that is read as the value. -/
theorem exists_text_finite (x : Binary64.Finite) :
    ∃ number : WrittenNumber, number.WellFormed ∧
      ¬ (number.fraction = [] ∧ number.exponent = none) ∧
      number.text = ((Binary64.finite x).render numberSpelling).toList ∧
      number.value = .number (.finite x) := by
  rcases exists_writes_magnitudeText x with ⟨number, sign, writes⟩
  refine ⟨number, writes.wellFormed, writes.decimal, ?_, ?_⟩
  · rw [WrittenNumber.text, writes.text_eq, sign, toList_render]
  · rw [WrittenNumber.value, if_neg writes.decimal, writes.value_eq, sign, x.ofDecimal_shortest]

end Json

end HomeConfig
