import HomeConfig.Proofs.Document.Whole
import HomeConfig.Proofs.Text.Token

/-!
# References as tokens

References are found by what introduces them, and the token under a cursor by its characters alone.
In a text of basic characters both are the same words.  In front of a name there stands its sign, a
blank or a quotation mark, and none of these belongs to a token.  Behind a name there stands no
character of a name, since names are read as far as they go; the one other character of tokens is the
dot, so a name that no dot follows is a whole token.
-/

namespace HomeConfig

/-! ## Characters of names and of tokens -/

namespace Text

/-- Among the basic characters, those of a token are those of a name and the dot. -/
theorem isTokenChar_eq_of_basic {c : Char} (basic : c.toNat < 0x80) :
    isTokenChar c = (isNameChar c || c == '.') := by
  have all : ∀ code < 0x80, isTokenChar (Char.ofNat code) =
      (isNameChar (Char.ofNat code) || Char.ofNat code == '.') := by decide
  have same := all c.toNat basic
  rwa [Char.ofNat_toNat] at same

/-- What separates words belongs to no token. -/
theorem isTokenChar_eq_false {c : Char}
    (separates : c ∈ Reference.signs ∨ isBlank c = true ∨ isQuote c = true) :
    isTokenChar c = false := by
  have all : ∀ code < 0x80, isTokenChar (Char.ofNat code) = true →
      ¬ (Char.ofNat code ∈ Reference.signs ∨ isBlank (Char.ofNat code) = true ∨
        isQuote (Char.ofNat code) = true) := by decide
  cases token : isTokenChar c with
  | false => rfl
  | true =>
    have none_ := all c.toNat (basic_of_isTokenChar token)
    rw [Char.ofNat_toNat] at none_
    exact absurd separates (none_ token)

end Text

/-- An excerpt starts a token: no character of a token stands in front of it. -/
def Excerpt.StartsToken (front : Text) : Prop :=
  front.getLast?.any Text.isTokenChar = false

namespace Reference

open Recogniser

variable {text : Text} {reference : Reference}

theorem EndsWithSign.startsToken {sign : Char} {earlier front : Text}
    (ends : EndsWithSign sign earlier front) (isSign : sign ∈ signs) :
    Excerpt.StartsToken front := by
  rcases ends.getLast?_eq with ⟨c, last, kinds⟩
  rw [Excerpt.StartsToken, last]
  rcases kinds with rfl | others
  · exact Text.isTokenChar_eq_false (Or.inl isSign)
  · exact Text.isTokenChar_eq_false (Or.inr others)

/-! ## What stands around a reference -/

/-- A reference is about an excerpt, a dotted name that stands apart from the names around it. -/
structure IsToken (text : Text) (reference : Reference) (excerpt : Excerpt) (front : Text) :
    Prop where
  value : reference.value = String.ofList excerpt.text
  range : reference.range = excerpt.range text
  stands : excerpt.StandsBehind text front
  dotted : IsDotted excerpt.text
  starts : Excerpt.StartsToken front
  ends : excerpt.EndsName text

theorem isToken_of_valueOf {keys : List String} {kind : Kind} {inTemplate : Bool}
    (member : reference ∈ find kind (valueOf keys) text inTemplate) :
    ∃ excerpt front, IsToken text reference excerpt front := by
  rcases exists_of_mem_find_valueOf member with
    ⟨excerpt, front, rfl, stands, ⟨earlier, sign, _, dotted⟩, ends, _⟩
  exact ⟨excerpt, front, rfl, rfl, stands, dotted, sign.startsToken (by decide),
    Text.not_any_isNameChar ends⟩

theorem isToken_of_argumentOf {function : String} {alone : Bool} {kind : Kind} {inTemplate : Bool}
    (member : reference ∈ find kind (argumentOf function alone) text inTemplate) :
    ∃ excerpt front, IsToken text reference excerpt front := by
  rcases List.mem_map.mp member with ⟨excerpt, found, rfl⟩
  rcases List.mem_flatten.mp found with ⟨excerpts, scanned, among⟩
  rcases Text.exists_of_mem_scan scanned with ⟨before, cursor, after, stands, read⟩
  rcases argumentOf_eq_some read with
    ⟨name, lead, between, behind, trail, rfl, passes, start, moves, _, ⟨earlier, sign, _, dotted⟩,
      stops⟩
  rw [List.mem_singleton.mp among]
  have here := stands.move passes
  refine ⟨name, before ++ lead, rfl, rfl, here.excerpt start moves, dotted,
    sign.startsToken (by decide), ?_⟩
  rw [Excerpt.EndsName, here.drop_stop start moves]
  exact stops

theorem isToken_of_listBelow {keys : List String} {kind : Kind} {inTemplate : Bool}
    (member : reference ∈ find kind (listBelow keys) text inTemplate) :
    ∃ excerpt front, IsToken text reference excerpt front := by
  rcases List.mem_map.mp member with ⟨excerpt, found, rfl⟩
  rcases List.mem_flatten.mp found with ⟨excerpts, scanned, among⟩
  rcases Text.exists_of_mem_scan scanned with ⟨before, cursor, after, stands, read⟩
  rcases listBelow_eq_some read with ⟨_, _, below, bound, passes, _, _, items⟩
  rcases listItems_eq_some (stands.move passes) items with ⟨_, yields, followed⟩
  rcases yields.stands excerpt among with ⟨front, placed, earlier, sign, _, dotted⟩
  exact ⟨excerpt, front, rfl, rfl, placed, dotted, sign.startsToken (by decide),
    followed excerpt among⟩

theorem exists_isToken_of_mem (member : reference ∈ entities text ++ services text) :
    ∃ excerpt front, IsToken text reference excerpt front := by
  simp only [entities, services, List.mem_append] at member
  rcases member with (((key | list) | states) | isState) | service
  · exact isToken_of_valueOf key
  · exact isToken_of_listBelow list
  · exact isToken_of_argumentOf states
  · exact isToken_of_argumentOf isState
  · exact isToken_of_valueOf service

/-! ## Tokens under a cursor -/

/-- A dot follows a range. -/
def DotFollows (text : Text) (range : Range) : Prop :=
  (text.drop (range.stop.toOffset text)).head? = some '.'

instance (text : Text) (range : Range) : Decidable (DotFollows text range) :=
  inferInstanceAs (Decidable (_ = _))

/-- At every place that it touches, a reference is the token there. -/
theorem IsToken.tokenSpan_eq {excerpt : Excerpt} {front : Text}
    (token : IsToken text reference excerpt front) (basic : ∀ c ∈ text, c.toNat < 0x80)
    (noDot : ¬ DotFollows text reference.range) {position : Position}
    (touches : reference.range.Touches position) :
    position.line = reference.range.start.line ∧ position.line < (Text.lines text).length ∧
      text.tokenSpan (position.toOffset text) = some (excerpt.start, excerpt.stop) := by
  have plain := token.dotted.feed_notMem
  rw [token.range] at touches
  rcases token.stands.exists_cut plain touches with ⟨part, rest, cut, rfl⟩
  have all : ∀ c ∈ excerpt.text, Text.isTokenChar c = true := by
    intro c member
    have inside : c ∈ text := token.stands.2.subset (List.mem_append_right _ member)
    rw [Text.isTokenChar_eq_of_basic (basic c inside)]
    rcases token.dotted.char_of_mem member with char | rfl
    · simp [char]
    · rfl
  have ends : (text.drop excerpt.stop).head?.any Text.isTokenChar = false := by
    have followed := token.ends
    rw [DotFollows, token.range, token.stands.toOffset_stop] at noDot
    unfold Excerpt.EndsName at followed
    cases next : (text.drop excerpt.stop).head? with
    | none => rfl
    | some c =>
      rw [next] at followed noDot
      have inside : c ∈ text := List.mem_of_mem_drop (List.mem_of_mem_head? next)
      have different : (c == '.') = false :=
        beq_eq_false_iff_ne.mpr fun same => noDot (congrArg some same)
      have char : Text.isNameChar c = false := followed
      rw [Option.any_some, Text.isTokenChar_eq_of_basic (basic c inside), char, different]
      rfl
  have plainPart : '\n' ∉ part := fun feed => plain (cut ▸ List.mem_append_left rest feed)
  have whole := token.stands.eq_of_cut cut
  have offset : (Position.behind (front ++ part)).toOffset text = (front ++ part).length := by
    conv_lhs => rw [whole, Position.toOffset_behind]
  refine ⟨?_, ?_, ?_⟩
  · rw [token.range, token.stands.range_eq, Position.behind_append_of_plain plainPart]
  · conv_rhs => rw [whole]
    exact Position.line_behind_lt _ _
  · rw [offset]
    exact token.stands.tokenSpan_eq token.dotted.ne_nil all token.starts ends cut

end Reference

end HomeConfig
