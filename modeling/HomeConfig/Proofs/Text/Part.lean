import HomeConfig.Text.Class.Case
import HomeConfig.Text.Token
import Mathlib.Data.List.Infix
import Mathlib.Data.List.TakeWhile

/-!
# Parts of texts

A text that starts with a part, or holds one anywhere, is told from where the part is found.  The
part may be shortened, and it is found again.  A text may be lengthened as well: where a part was
found last it is still found last, if what is added has none of its characters.

Lower case is taken character by character as long as all characters are basic ones, so that a text
that goes on with basic characters goes on in lower case too.
-/

namespace HomeConfig

namespace Text

variable {part text more : Text}

theorem startsWith_iff (part text : Text) : startsWith part text = true ↔ part <+: text := by
  rw [startsWith, Option.isSome_iff_exists]
  constructor
  · rintro ⟨rest, shape⟩
    exact ⟨rest, (stripPrefix?_eq_some_iff.mp shape).symm⟩
  · rintro ⟨rest, shape⟩
    exact ⟨rest, stripPrefix?_eq_some_iff.mpr shape.symm⟩

theorem contains_iff (part text : Text) : contains part text = true ↔ part <:+: text := by
  unfold contains
  induction text with
  | nil =>
    rw [firstIndex?, List.infix_nil]
    cases part <;> simp
  | cons c rest inductionHypothesis =>
    rw [firstIndex?, List.infix_cons_iff, ← startsWith_iff, ← inductionHypothesis]
    by_cases starts : startsWith part (c :: rest) = true
    · simp [starts]
    · rw [if_neg starts, Option.isSome_map]
      simp [starts]

theorem contains_of_append (found : contains (part ++ more) text = true) :
    contains part text = true := by
  rw [contains_iff] at found ⊢
  exact (List.prefix_append part more).isInfix.trans found

/-- What has no character of a part cannot help a text to start with it. -/
theorem prefix_append_iff_of_disjoint (apart : ∀ c ∈ part, c ∉ more) (text : Text) :
    part <+: text ++ more ↔ part <+: text := by
  constructor
  · intro starts
    rcases Nat.le_total part.length text.length with short | long
    · exact List.prefix_of_prefix_length_le starts (List.prefix_append _ _) short
    · have reaches := List.prefix_of_prefix_length_le (List.prefix_append text more) starts long
      rcases reaches with ⟨others, rfl⟩
      cases others with
      | nil => simp
      | cons c others =>
        have next := ((List.prefix_append_right_inj text).mp starts).subset (List.mem_cons_self ..)
        exact absurd next (apart c (by simp))
  · intro starts
    exact starts.trans (List.prefix_append _ _)

theorem lastIndex?_eq_none_of_disjoint (some_ : part ≠ []) (apart : ∀ c ∈ part, c ∉ more) :
    lastIndex? part more = none := by
  induction more with
  | nil => simp [lastIndex?, some_]
  | cons d rest inductionHypothesis =>
    have others : lastIndex? part rest = none :=
      inductionHypothesis fun c member there => apart c member (List.mem_cons_of_mem _ there)
    have starts : ¬ startsWith part (d :: rest) = true := by
      rw [startsWith_iff]
      have whole := prefix_append_iff_of_disjoint apart []
      rw [List.nil_append, List.prefix_nil] at whole
      exact fun starts => some_ (whole.mp starts)
    simp only [lastIndex?, others, if_neg starts]

theorem lastIndex?_append_of_disjoint (some_ : part ≠ []) (apart : ∀ c ∈ part, c ∉ more)
    (text : Text) : lastIndex? part (text ++ more) = lastIndex? part text := by
  induction text with
  | nil =>
    rw [List.nil_append, lastIndex?_eq_none_of_disjoint some_ apart]
    simp [lastIndex?, some_]
  | cons c text inductionHypothesis =>
    have starts : startsWith part (c :: text ++ more) = startsWith part (c :: text) := by
      apply Bool.eq_iff_iff.mpr
      rw [startsWith_iff, startsWith_iff]
      exact prefix_append_iff_of_disjoint apart (c :: text)
    simp only [List.cons_append] at starts ⊢
    simp only [lastIndex?, inductionHypothesis, starts]

/-! ## Runs of a class -/

theorem takeWhile_append_of_stops {accepts : Char → Bool} {rest : Text}
    (all : ∀ c ∈ part, accepts c = true) (stops : rest.head?.any accepts = false) :
    (part ++ rest).takeWhile accepts = part := by
  rw [List.takeWhile_append_of_pos all]
  cases rest with
  | nil => rw [List.takeWhile_nil, List.append_nil]
  | cons c rest =>
    have other : accepts c = false := stops
    rw [List.takeWhile_cons_of_neg (by simp [other]), List.append_nil]

theorem dropWhile_append_of_stops {accepts : Char → Bool} {rest : Text}
    (all : ∀ c ∈ part, accepts c = true) (stops : rest.head?.any accepts = false) :
    (part ++ rest).dropWhile accepts = rest := by
  rw [List.dropWhile_append_of_pos all]
  cases rest with
  | nil => rfl
  | cons c rest =>
    have other : accepts c = false := stops
    rw [List.dropWhile_cons_of_neg (by simp [other])]

/-! ## Lower case -/

theorem lowerFrom_of_basic (before : Text) (basic : ∀ c ∈ text, c.toNat < 0x80) :
    lowerFrom before text = text.map Char.toLower := by
  induction text generalizing before with
  | nil => rfl
  | cons c rest inductionHypothesis =>
    rw [List.forall_mem_cons] at basic
    have noSigma : c ≠ '\u03a3' := fun same => absurd (same ▸ basic.1) (by decide)
    have noDot : c ≠ '\u0130' := fun same => absurd (same ▸ basic.1) (by decide)
    rw [lowerFrom, if_neg noSigma, if_neg noDot, lowerChar, if_pos basic.1,
      inductionHypothesis _ basic.2]
    rfl

theorem lower_append_of_basic (basic : ∀ c ∈ text, c.toNat < 0x80)
    (goesOn : ∀ c ∈ more, c.toNat < 0x80) : lower (text ++ more) = lower text ++ lower more := by
  have whole : ∀ c ∈ text ++ more, c.toNat < 0x80 := List.forall_mem_append.mpr ⟨basic, goesOn⟩
  rw [lower, lower, lower, lowerFrom_of_basic [] whole, lowerFrom_of_basic [] basic,
    lowerFrom_of_basic [] goesOn, List.map_append]

/-! ## Characters of tokens -/

/-- The codes of the digits and the basic letters. -/
theorem isAlphanum_iff {c : Char} : c.isAlphanum = true ↔
    (65 ≤ c.toNat ∧ c.toNat ≤ 90) ∨ (97 ≤ c.toNat ∧ c.toNat ≤ 122) ∨
      (48 ≤ c.toNat ∧ c.toNat ≤ 57) := by
  have ranges : c.isAlphanum =
      (decide (65 ≤ c.val ∧ c.val ≤ 90) || decide (97 ≤ c.val) && decide (c.val ≤ 122) ||
        decide (48 ≤ c.val) && decide (c.val ≤ 57)) := rfl
  rw [ranges]
  simp only [Bool.or_eq_true, Bool.and_eq_true, decide_eq_true_eq, UInt32.le_iff_toNat_le, or_assoc]
  rfl

/-- The codes of the characters of a token: the digits, the basic letters, the underscore, and the
dot. -/
theorem toNat_of_isTokenChar {c : Char} (token : isTokenChar c = true) :
    (48 ≤ c.toNat ∧ c.toNat ≤ 57) ∨ (65 ≤ c.toNat ∧ c.toNat ≤ 90) ∨
      (97 ≤ c.toNat ∧ c.toNat ≤ 122) ∨ c.toNat = 95 ∨ c.toNat = 46 := by
  simp only [isTokenChar, Bool.or_eq_true, beq_iff_eq, isAlphanum_iff] at token
  rcases token with ((upper | lower | digit) | rfl) | rfl
  · exact Or.inr (Or.inl upper)
  · exact Or.inr (Or.inr (Or.inl lower))
  · exact Or.inl digit
  · decide
  · decide

/-- For a text that is given, basicness is computed letter by letter. -/
theorem basic_of_all (all : text.all (fun c => decide (c.toNat < 0x80)) = true) :
    ∀ c ∈ text, c.toNat < 0x80 :=
  fun c member => of_decide_eq_true (List.all_eq_true.mp all c member)

theorem basic_of_isTokenChar {c : Char} (token : isTokenChar c = true) : c.toNat < 0x80 := by
  have codes := toNat_of_isTokenChar token
  omega

end Text

end HomeConfig
