import HomeConfig.Proofs.Document.Shape

/-!
# References stand apart

A name that is referred to is found once.  Two finds of one shape do not overlap, since a scan goes
on behind what it has found.  Two finds of different shapes do not either: in front of each there
stands a character that no name has, so neither starts inside the other, and if both start in the
same place, the sign in front of them and what leads up to it are the same, which no two shapes
allow.
-/

namespace HomeConfig

/-! ## The characters of a name -/

/-- The codes of the characters of a name: those of the digits, the basic letters and the
underscore, and four more that fold to basic letters. -/
theorem Text.toNat_of_isNameChar {c : Char} (char : Text.isNameChar c = true) :
    (48 ≤ c.toNat ∧ c.toNat ≤ 57) ∨ (65 ≤ c.toNat ∧ c.toNat ≤ 90) ∨ c.toNat = 95 ∨
      (97 ≤ c.toNat ∧ c.toNat ≤ 122) ∨ c.toNat ∈ [0x130, 0x131, 0x17f, 0x212a] := by
  simp only [Text.isNameChar, Text.isNameLetter, Bool.or_eq_true, beq_iff_eq] at char
  rcases char with (folded | rfl) | digit
  · unfold Text.foldLetter at folded
    split at folded
    next i => rcases i with rfl | rfl <;> decide
    split at folded
    next s => subst s; decide
    split at folded
    next k => subst k; decide
    by_cases upper : c.val ≥ 'A'.val ∧ c.val ≤ 'Z'.val
    · exact Or.inr (Or.inl upper)
    · have same : c.toLower = c := dif_neg upper
      rw [same] at folded
      have lower := Bool.and_eq_true_iff.mp folded
      have bounds := And.intro (of_decide_eq_true lower.1) (of_decide_eq_true lower.2)
      exact Or.inr (Or.inr (Or.inr (Or.inl bounds)))
  · decide
  · have decimal := Bool.and_eq_true_iff.mp digit
    exact Or.inl ⟨of_decide_eq_true decimal.1, of_decide_eq_true decimal.2⟩

namespace Recogniser

variable {name : Text} {c : Char}

theorem IsDotted.ne_nil (dotted : IsDotted name) : name ≠ [] := by
  rcases dotted with ⟨domain, rest, rfl, _⟩
  simp

theorem IsDotted.char_of_mem (dotted : IsDotted name) (member : c ∈ name) :
    Text.isNameChar c = true ∨ c = '.' := by
  rcases dotted with ⟨domain, rest, rfl, _, _, letters, chars⟩
  rcases List.mem_append.mp member with here | there
  · exact Or.inl (by simp [Text.isNameChar, letters c here])
  · exact (List.mem_cons.mp there).symm.imp_left (chars c)

theorem IsDotted.toNat_of_mem (dotted : IsDotted name) (member : c ∈ name) :
    (48 ≤ c.toNat ∧ c.toNat ≤ 57) ∨ (65 ≤ c.toNat ∧ c.toNat ≤ 90) ∨ c.toNat = 95 ∨
      (97 ≤ c.toNat ∧ c.toNat ≤ 122) ∨ c.toNat ∈ [0x2e, 0x130, 0x131, 0x17f, 0x212a] := by
  rcases dotted.char_of_mem member with char | rfl
  · have codes := Text.toNat_of_isNameChar char
    simp only [List.mem_cons, List.not_mem_nil, or_false] at codes ⊢
    omega
  · decide

theorem IsDotted.not_isBlank (dotted : IsDotted name) (member : c ∈ name) :
    Text.isBlank c = false := by
  have codes := dotted.toNat_of_mem member
  simp only [List.mem_cons, List.not_mem_nil, or_false] at codes
  simp only [Text.isBlank, Bool.or_eq_false_iff, Bool.and_eq_false_iff, decide_eq_false_iff_not,
    beq_eq_false_iff_ne]
  omega

theorem IsDotted.feed_notMem (dotted : IsDotted name) : '\n' ∉ name :=
  fun feed => absurd (dotted.not_isBlank feed) (by decide)

theorem IsDotted.not_isQuote (dotted : IsDotted name) (member : c ∈ name) :
    Text.isQuote c = false := by
  rcases dotted.char_of_mem member with char | rfl
  · exact Text.not_isQuote_of_accepted char (by decide) (by decide)
  · decide

theorem IsDotted.ne_sign (dotted : IsDotted name) (member : c ∈ name) {sign : Char}
    (isSign : sign ∈ [':', '-', '(']) : c ≠ sign := by
  rintro rfl
  have codes := dotted.toNat_of_mem member
  rcases (by simpa using isSign : c = ':' ∨ c = '-' ∨ c = '(') with rfl | rfl | rfl
  · exact absurd codes (by decide)
  · exact absurd codes (by decide)
  · exact absurd codes (by decide)

end Recogniser

/-! ## Ranges that stand apart -/

/-- Two ranges of a text cover no offset in common. -/
def Range.Apart (text : Text) (first second : Range) : Prop :=
  ∀ offset, ¬ (first.Covers text offset ∧ second.Covers text offset)

namespace Range.Apart

variable {text : Text} {first second : Range}

theorem symm (apart : Range.Apart text first second) : Range.Apart text second first :=
  fun offset both => apart offset both.symm

/-- Of ranges that stand apart, at most one covers an offset. -/
theorem countP_covers_le_one {ranges : List Range} (apart : ranges.Pairwise (Range.Apart text))
    (offset : Nat) : (ranges.countP fun range => range.Covers text offset) ≤ 1 := by
  induction apart with
  | nil => exact Nat.zero_le 1
  | @cons range rest here apart inductionHypothesis =>
    by_cases covers : range.Covers text offset
    · have others : (rest.countP fun other => other.Covers text offset) = 0 := by
        refine List.countP_eq_zero.mpr fun other member => ?_
        simpa using fun there => here other member offset ⟨covers, there⟩
      simp [covers, others]
    · simpa [covers] using inductionHypothesis

end Range.Apart

namespace Excerpt.StandsBehind

variable {text front behind : Text} {first second : Excerpt}

theorem apart_range (stands : first.StandsBehind text front)
    (others : second.StandsBehind text behind) (ordered : first.stop ≤ second.start) :
    Range.Apart text (first.range text) (second.range text) := by
  rintro offset ⟨here, there⟩
  rw [stands.covers_range_iff] at here
  rw [others.covers_range_iff] at there
  omega

/-- Of two excerpts of which the first starts earlier, and goes on where the second starts, the
first has the character in front of the second. -/
theorem mem_of_getLast? (stands : first.StandsBehind text front)
    (others : second.StandsBehind text behind) (earlier : first.start < second.start)
    (inside : second.start < first.stop) {c : Char} (last : behind.getLast? = some c) :
    c ∈ first.text := by
  -- What is in front of the second excerpt ends inside the first, so its last character is there.
  have shorter : behind.length ≤ (front ++ first.text).length := by
    rw [List.length_append, stands.1, others.1]
    exact inside.le
  have reaches : behind <+: front ++ first.text :=
    List.prefix_of_prefix_length_le ((List.prefix_append _ _).trans others.2) stands.2 shorter
  have starts : front <+: behind := by
    refine List.prefix_of_prefix_length_le (List.prefix_append _ _) reaches ?_
    rw [stands.1, others.1]
    exact earlier.le
  rcases starts with ⟨between, rfl⟩
  have part : between <+: first.text := (List.prefix_append_right_inj front).mp reaches
  have some_ : between ≠ [] := by
    rintro rfl
    have lengths := others.1
    rw [List.append_nil, stands.1] at lengths
    omega
  rw [List.getLast?_append_of_ne_nil _ some_] at last
  exact part.subset (List.mem_of_getLast? last)

end Excerpt.StandsBehind

namespace Reference

open Recogniser

/-! ## Different shapes -/

/-- The signs in front of names. -/
def signs : List Char := [':', '-', '(']

theorem not_isBlank_of_mem_signs {sign : Char} (isSign : sign ∈ signs) :
    Text.isBlank sign = false := by
  rcases (by simpa [signs] using isSign : sign = ':' ∨ sign = '-' ∨ sign = '(') with
    rfl | rfl | rfl
  all_goals decide

theorem not_isQuote_of_mem_signs {sign : Char} (isSign : sign ∈ signs) :
    Text.isQuote sign = false := by
  rcases (by simpa [signs] using isSign : sign = ':' ∨ sign = '-' ∨ sign = '(') with
    rfl | rfl | rfl
  all_goals decide

/-- No text ends in words of both kinds, if no word of the one kind has the last letter of a word of
the other. -/
theorem not_endsIn_both {words others : List String}
    (someLetters : ∀ word ∈ words ++ others, word.toList ≠ [])
    (differ : ∀ letter ∈ words.map fun word => word.toList.getLast?,
      letter ∉ others.map fun word => word.toList.getLast?) :
    ¬ ∃ text, EndsIn words text ∧ EndsIn others text := by
  rintro ⟨text, here, there⟩
  refine differ _ (here.getLast?_mem ?_) (there.getLast?_mem ?_)
  · exact fun word member => someLetters word (List.mem_append_left _ member)
  · exact fun word member => someLetters word (List.mem_append_right _ member)

/-- Two ways to introduce names that cannot both lead up to one place: their signs differ, or what
stands in front of the signs does. -/
structure Exclusive (sign other : Char) (leads leadsOther : Text → Prop) : Prop where
  isSign : sign ∈ signs
  isOther : other ∈ signs
  never : sign = other → ¬ ∃ earlier, leads earlier ∧ leadsOther earlier

section

variable {sign other : Char} {leads leadsOther : Text → Prop} {text front behind : Text}
  {first second : Excerpt}

theorem Exclusive.symm (exclusive : Exclusive sign other leads leadsOther) :
    Exclusive other sign leadsOther leads where
  isSign := exclusive.isOther
  isOther := exclusive.isSign
  never := by
    rintro same ⟨earlier, there, here⟩
    exact exclusive.never same.symm ⟨earlier, here, there⟩

theorem Introduces.not_inside (stands : first.StandsBehind text front)
    (others : second.StandsBehind text behind)
    (introduced : Introduces sign leads front first.text)
    (introducedOther : Introduces other leadsOther behind second.text) (isOther : other ∈ signs) :
    ¬ (first.start < second.start ∧ second.start < first.stop) := by
  rintro ⟨earlier, inside⟩
  rcases introduced with ⟨_, _, _, dotted⟩
  rcases introducedOther with ⟨_, ends, _, _⟩
  rcases ends.getLast?_eq with ⟨c, last, kinds⟩
  have member : c ∈ first.text := stands.mem_of_getLast? others earlier inside last
  rcases kinds with rfl | blank | quote
  · exact dotted.ne_sign member isOther rfl
  · exact absurd blank (by simp [dotted.not_isBlank member])
  · exact absurd quote (by simp [dotted.not_isQuote member])

theorem Introduces.start_ne (exclusive : Exclusive sign other leads leadsOther)
    (stands : first.StandsBehind text front) (others : second.StandsBehind text behind)
    (introduced : Introduces sign leads front first.text)
    (introducedOther : Introduces other leadsOther behind second.text) :
    first.start ≠ second.start := by
  intro same
  have fronts : front = behind := by rw [stands.before_eq, others.before_eq, same]
  rcases introduced with ⟨earlier, ends, lead, _⟩
  rcases introducedOther with ⟨otherEarlier, otherEnds, otherLead, _⟩
  have here := ends.approach_eq (not_isBlank_of_mem_signs exclusive.isSign)
    (not_isQuote_of_mem_signs exclusive.isSign)
  have there := otherEnds.approach_eq (not_isBlank_of_mem_signs exclusive.isOther)
    (not_isQuote_of_mem_signs exclusive.isOther)
  rw [fronts] at here
  rcases List.cons.inj (here.symm.trans there) with ⟨sameSign, texts⟩
  have equal : earlier = otherEarlier := List.reverse_injective texts
  exact exclusive.never sameSign ⟨earlier, lead, equal ▸ otherLead⟩

theorem Introduces.apart (exclusive : Exclusive sign other leads leadsOther)
    (stands : first.StandsBehind text front) (others : second.StandsBehind text behind)
    (introduced : Introduces sign leads front first.text)
    (introducedOther : Introduces other leadsOther behind second.text) :
    Range.Apart text (first.range text) (second.range text) := by
  have notSame := Introduces.start_ne exclusive stands others introduced introducedOther
  have notThere :=
    Introduces.not_inside stands others introduced introducedOther exclusive.isOther
  have notHere :=
    Introduces.not_inside others stands introducedOther introduced exclusive.isSign
  rcases Nat.lt_or_gt_of_ne notSame with earlier | later
  · exact stands.apart_range others (by omega)
  · exact (others.apart_range stands (by omega)).symm

end

/-! ## Finds -/

section

variable {introduces : Text → Text → Prop} {shape shapeOther : Option Char → Recogniser (List Excerpt)}
  {kind kindOther : Kind} {inTemplate inOther : Bool} {text : Text}

theorem exists_of_mem_find (finds : Finds introduces shape) {reference : Reference}
    (member : reference ∈ find kind shape text inTemplate) :
    ∃ excerpt front, reference = ofExcerpt text kind inTemplate excerpt ∧
      excerpt.StandsBehind text front ∧ introduces front excerpt.text := by
  rcases List.mem_map.mp member with ⟨excerpt, found, rfl⟩
  rcases finds.scan text with ⟨_, yields⟩
  rcases yields.stands excerpt found with ⟨front, stands, introduced⟩
  exact ⟨excerpt, front, rfl, stands, introduced⟩

theorem pairwise_find (finds : Finds introduces shape) :
    (find kind shape text inTemplate).Pairwise fun first second =>
      Range.Apart text first.range second.range := by
  rcases finds.scan text with ⟨_, yields⟩
  refine List.pairwise_map.mpr (yields.ordered.imp_of_mem fun here there ordered => ?_)
  rcases yields.stands _ here with ⟨_, stands, _⟩
  rcases yields.stands _ there with ⟨_, others, _⟩
  exact stands.apart_range others ordered

theorem apart_of_mem_find {sign other : Char} {leads leadsOther : Text → Prop}
    (exclusive : Exclusive sign other leads leadsOther)
    (finds : Finds (Introduces sign leads) shape)
    (findsOther : Finds (Introduces other leadsOther) shapeOther) :
    ∀ first ∈ find kind shape text inTemplate, ∀ second ∈ find kindOther shapeOther text inOther,
      Range.Apart text first.range second.range := by
  intro first here second there
  rcases exists_of_mem_find finds here with ⟨excerpt, front, rfl, stands, introduced⟩
  rcases exists_of_mem_find findsOther there with ⟨excerptOther, behind, rfl, others, introducedOther⟩
  exact Introduces.apart exclusive stands others introduced introducedOther

end

/-- The references to entities and services stand apart. -/
theorem pairwise_entities_services (text : Text) :
    (entities text ++ services text).Pairwise fun first second =>
      Range.Apart text first.range second.range := by
  have keys := finds_valueOf entityKeys
  have lists := finds_listBelow entityKeys
  have states := finds_argumentOf "states" true
  have isState := finds_argumentOf "is_state" false
  have actions := finds_valueOf serviceKeys
  have otherKeys : Exclusive ':' ':' (EndsIn entityKeys) (EndsIn serviceKeys) :=
    ⟨by decide, by decide, fun _ => not_endsIn_both (by decide) (by decide)⟩
  have otherFunctions : Exclusive '(' '(' (EndsIn ["states"]) (EndsIn ["is_state"]) :=
    ⟨by decide, by decide, fun _ => not_endsIn_both (by decide) (by decide)⟩
  have colonDash {leads leadsOther} : Exclusive ':' '-' leads leadsOther :=
    ⟨by decide, by decide, fun same => absurd same (by decide)⟩
  have colonBracket {leads leadsOther} : Exclusive ':' '(' leads leadsOther :=
    ⟨by decide, by decide, fun same => absurd same (by decide)⟩
  have dashBracket {leads leadsOther} : Exclusive '-' '(' leads leadsOther :=
    ⟨by decide, by decide, fun same => absurd same (by decide)⟩
  have shapes : entities text ++ services text =
      [find .entity (valueOf entityKeys) text, find .entity (listBelow entityKeys) text,
        find .entity (argumentOf "states" true) text true,
        find .entity (argumentOf "is_state" false) text true,
        find .service (valueOf serviceKeys) text].flatten := by
    simp [entities, services]
  rw [shapes, List.pairwise_flatten]
  -- Nothing is known of what leads up to a dash, so lists are told apart from the others by the
  -- sign alone.  Only the two kinds of keys, and the two functions, have a sign in common.
  constructor
  · simp only [List.forall_mem_cons]
    exact ⟨pairwise_find keys, pairwise_find lists, pairwise_find states, pairwise_find isState,
      pairwise_find actions, nofun⟩
  · simp only [List.pairwise_cons, List.forall_mem_cons]
    refine ⟨⟨?_, ?_, ?_, ?_, nofun⟩, ⟨?_, ?_, ?_, nofun⟩, ⟨?_, ?_, nofun⟩, ⟨?_, nofun⟩, nofun, .nil⟩
    · exact apart_of_mem_find colonDash keys lists
    · exact apart_of_mem_find colonBracket keys states
    · exact apart_of_mem_find colonBracket keys isState
    · exact apart_of_mem_find otherKeys keys actions
    · exact apart_of_mem_find dashBracket lists states
    · exact apart_of_mem_find dashBracket lists isState
    · exact apart_of_mem_find colonDash.symm lists actions
    · exact apart_of_mem_find otherFunctions states isState
    · exact apart_of_mem_find colonBracket.symm states actions
    · exact apart_of_mem_find colonBracket.symm isState actions

/-! ## What is referred to -/

/-- A reference to an entity or a service is about an excerpt, which is a dotted name. -/
theorem exists_excerpt_of_mem (text : Text) :
    ∀ reference ∈ entities text ++ services text, ∃ (excerpt : Excerpt) (front : Text),
      reference.value = String.ofList excerpt.text ∧ reference.range = excerpt.range text ∧
        excerpt.StandsBehind text front ∧ IsDotted excerpt.text := by
  have named {sign : Char} {leads : Text → Prop} {shape : Option Char → Recogniser (List Excerpt)}
      {kind : Kind} {inTemplate : Bool} (finds : Finds (Introduces sign leads) shape) :
      ∀ reference ∈ find kind shape text inTemplate, ∃ (excerpt : Excerpt) (front : Text),
        reference.value = String.ofList excerpt.text ∧ reference.range = excerpt.range text ∧
          excerpt.StandsBehind text front ∧ IsDotted excerpt.text := by
    intro reference member
    rcases exists_of_mem_find finds member with ⟨excerpt, front, rfl, stands, _, _, _, dotted⟩
    exact ⟨excerpt, front, rfl, rfl, stands, dotted⟩
  simp only [entities, services, List.forall_mem_append]
  refine ⟨⟨⟨⟨?_, ?_⟩, ?_⟩, ?_⟩, ?_⟩
  · exact named (finds_valueOf _)
  · exact named (finds_listBelow _)
  · exact named (finds_argumentOf _ _)
  · exact named (finds_argumentOf _ _)
  · exact named (finds_valueOf _)

/-- Every reference to an entity or a service covers a character. -/
theorem exists_covers (text : Text) :
    ∀ reference ∈ entities text ++ services text, ∃ offset, reference.range.Covers text offset := by
  intro reference member
  rcases exists_excerpt_of_mem text reference member with ⟨excerpt, front, _, range, stands, dotted⟩
  have length := List.length_pos_iff.mpr dotted.ne_nil
  refine ⟨excerpt.start, ?_⟩
  rw [range, stands.covers_range_iff, Excerpt.stop]
  omega

end Reference

end HomeConfig
