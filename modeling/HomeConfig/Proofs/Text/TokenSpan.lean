import HomeConfig.Editor.Change
import HomeConfig.Proofs.Text.Offset

/-!
# The token that a cursor touches

A cursor stands between two characters, and it touches the token on its left as well as the one on
its right.  Two tokens never meet, so if it touches one on both sides, the cursor is inside of it.

`Text.IsTokenSpan` says which stretches of a text are whole tokens, and says it of the text alone,
character by character.  Around each offset there is at most one, which is found by two runs, one
that goes back from the offset and one that goes on from there.  What is found depends only on the
token and not on where it is touched, and it lies on one line.
-/

namespace HomeConfig

namespace Text

/-- The characters of tokens: the basic letters, the digits, the underscore, and the dot. -/
def TokenChar (c : Char) : Prop :=
  ('A' ≤ c ∧ c ≤ 'Z') ∨ ('a' ≤ c ∧ c ≤ 'z') ∨ ('0' ≤ c ∧ c ≤ '9') ∨ c = '_' ∨ c = '.'

/-- The character at an offset is one of a token. -/
def TokenAt (text : Text) (offset : Nat) : Prop :=
  ∃ c ∈ text[offset]?, TokenChar c

/-- The character in front of an offset is one of a token. -/
def TokenBefore (text : Text) (offset : Nat) : Prop :=
  0 < offset ∧ text.TokenAt (offset - 1)

/-- From one offset to the other there is a whole token: all characters in between belong to it, and
the ones around do not. -/
structure IsTokenSpan (text : Text) (start stop : Nat) : Prop where
  nonempty : start < stop
  all : ∀ offset, start ≤ offset → offset < stop → text.TokenAt offset
  starts : ¬ text.TokenBefore start
  ends : ¬ text.TokenAt stop

variable {text : Text} {offset start stop : Nat}

theorem isTokenChar_iff {c : Char} : isTokenChar c = true ↔ TokenChar c := by
  have between (first last : Char) :
      (first ≤ c ∧ c ≤ last) ↔ (first.toNat ≤ c.toNat ∧ c.toNat ≤ last.toNat) := Iff.rfl
  simp only [isTokenChar, TokenChar, Bool.or_eq_true, beq_iff_eq, isAlphanum_iff, between, or_assoc]
  rfl

theorem TokenAt.lt_length (token : text.TokenAt offset) : offset < text.length := by
  rcases token with ⟨c, here, _⟩
  exact (List.getElem?_eq_some_iff.mp here).1

theorem IsTokenSpan.stop_le (span : text.IsTokenSpan start stop) : stop ≤ text.length := by
  have nonempty := span.nonempty
  have last := (span.all (stop - 1) (by omega) (by omega)).lt_length
  omega

/-! ## Runs of token characters -/

/-- A run ends at the first character that is not one of a token. -/
theorem tokenRun_eq_iff (text : Text) (length : Nat) :
    tokenRun text = length ↔
      (∀ offset < length, text.TokenAt offset) ∧ ¬ text.TokenAt length := by
  induction text generalizing length with
  | nil =>
    have none_ (offset : Nat) : ¬ TokenAt [] offset := by simp [TokenAt]
    cases length with
    | zero => simp [tokenRun, none_]
    | succ length =>
      exact iff_of_false (by simp [tokenRun]) fun both => none_ 0 (both.1 0 (Nat.succ_pos _))
  | cons c rest inductionHypothesis =>
    have head : TokenAt (c :: rest) 0 ↔ isTokenChar c = true := by
      simp [TokenAt, isTokenChar_iff]
    have tail (offset : Nat) : TokenAt (c :: rest) (offset + 1) ↔ TokenAt rest offset := by
      simp [TokenAt]
    by_cases token : isTokenChar c = true
    · have more : tokenRun (c :: rest) = tokenRun rest + 1 := by
        rw [tokenRun, List.takeWhile_cons_of_pos token, List.length_cons, tokenRun]
      cases length with
      | zero => simp [more, head, token]
      | succ length =>
        rw [more, Nat.add_right_cancel_iff, inductionHypothesis, tail, Nat.forall_lt_succ_left]
        simp only [head, token, tail, true_and]
    · have none_ : tokenRun (c :: rest) = 0 := by
        rw [tokenRun, List.takeWhile_cons_of_neg token, List.length_nil]
      cases length with
      | zero => simp [none_, head, token]
      | succ length =>
        exact iff_of_false (by simp [none_]) fun both =>
          token (head.mp (both.1 0 (Nat.succ_pos _)))

/-- The run that goes on from an offset. -/
theorem tokenRun_drop_eq_iff (text : Text) (later : offset ≤ stop) :
    tokenRun (text.drop offset) = stop - offset ↔
      (∀ other, offset ≤ other → other < stop → text.TokenAt other) ∧ ¬ text.TokenAt stop := by
  have here (index : Nat) : TokenAt (text.drop offset) index ↔ text.TokenAt (offset + index) := by
    rw [TokenAt, TokenAt, List.getElem?_drop]
  rw [tokenRun_eq_iff, here, Nat.add_sub_cancel' later]
  refine and_congr_left fun _ => ⟨fun all other first last => ?_, fun all index inside => ?_⟩
  · have token := (here _).mp (all (other - offset) (by omega))
    rwa [Nat.add_sub_cancel' first] at token
  · exact (here index).mpr (all (offset + index) (by omega) (by omega))

/-- The run that goes back from an offset. -/
theorem tokenRun_take_eq_iff (within : offset ≤ text.length) (earlier : start ≤ offset) :
    tokenRun (text.take offset).reverse = offset - start ↔
      (∀ other, start ≤ other → other < offset → text.TokenAt other) ∧
        ¬ text.TokenBefore start := by
  have here (index : Nat) : TokenAt (text.take offset).reverse index ↔
      index < offset ∧ text.TokenAt (offset - 1 - index) := by
    have length : (text.take offset).length = offset := List.length_take_of_le within
    by_cases inside : index < offset
    · rw [TokenAt, List.getElem?_reverse (by omega), length,
        List.getElem?_take_of_lt (by omega), TokenAt]
      simp [inside]
    · refine iff_of_false (fun token => inside ?_) fun both => inside both.1
      simpa [length] using token.lt_length
  have front : TokenAt (text.take offset).reverse (offset - start) ↔ text.TokenBefore start := by
    rw [here, TokenBefore]
    have place : offset - 1 - (offset - start) = start - 1 := by omega
    rw [place]
    exact and_congr_left fun _ => by omega
  rw [tokenRun_eq_iff, front]
  refine and_congr_left fun _ => ⟨fun all other first last => ?_, fun all index inside => ?_⟩
  · have token := ((here _).mp (all (offset - 1 - other) (by omega))).2
    have place : offset - 1 - (offset - 1 - other) = other := by omega
    rwa [place] at token
  · exact (here index).mpr ⟨by omega, all (offset - 1 - index) (by omega) (by omega)⟩

/-! ## Tokens around an offset -/

/-- Exactly the whole token that an offset touches is found there. -/
theorem tokenSpan_eq_some_iff (within : offset ≤ text.length) :
    text.tokenSpan offset = some (start, stop) ↔
      start ≤ offset ∧ offset ≤ stop ∧ text.IsTokenSpan start stop := by
  have bound : tokenRun (text.take offset).reverse ≤ offset := by
    have run := (List.takeWhile_prefix (l := (text.take offset).reverse) isTokenChar).length_le
    rw [List.length_reverse, List.length_take] at run
    exact run.trans (Nat.min_le_left _ _)
  have runs : text.tokenSpan offset = some (start, stop) ↔
      start ≤ offset ∧ offset ≤ stop ∧ start < stop ∧
        tokenRun (text.take offset).reverse = offset - start ∧
        tokenRun (text.drop offset) = stop - offset := by
    simp only [tokenSpan]
    split
    · simp only [reduceCtorEq, false_iff]
      omega
    · simp only [Option.some.injEq, Prod.mk.injEq]
      omega
  rw [runs]
  refine and_congr_right fun earlier => and_congr_right fun later => ?_
  rw [tokenRun_take_eq_iff within earlier, tokenRun_drop_eq_iff text later]
  constructor
  · rintro ⟨nonempty, ⟨left, starts⟩, right, ends⟩
    refine ⟨nonempty, fun other first last => ?_, starts, ends⟩
    rcases Nat.lt_or_ge other offset with before | behind
    · exact left other first before
    · exact right other behind last
  · intro span
    exact ⟨span.nonempty, ⟨fun other first last => span.all other first (by omega), span.starts⟩,
      fun other first last => span.all other (by omega) last, span.ends⟩

/-- Nothing is found where no character of a token stands on either side. -/
theorem tokenSpan_eq_none_iff (within : offset ≤ text.length) :
    text.tokenSpan offset = none ↔ ¬ text.TokenBefore offset ∧ ¬ text.TokenAt offset := by
  have left := tokenRun_take_eq_iff within (Nat.le_refl offset)
  have right := tokenRun_drop_eq_iff text (Nat.le_refl offset)
  rw [Nat.sub_self] at left right
  have nothing : text.tokenSpan offset = none ↔
      tokenRun (text.take offset).reverse = 0 ∧ tokenRun (text.drop offset) = 0 := by
    simp only [tokenSpan]
    split
    · simp only [true_iff]
      omega
    · simp only [reduceCtorEq, false_iff]
      omega
  rw [nothing, left, right]
  refine and_congr (and_iff_right ?_) (and_iff_right ?_)
  · intro other first last
    omega
  · intro other first last
    omega

/-- An offset of the text is never refused. -/
theorem tokenSpanAt_natCast (within : offset ≤ text.length) :
    text.tokenSpanAt offset =
      .ok ((text.tokenSpan offset).map fun (start, stop) => (start, stop)) := by
  rw [tokenSpanAt, if_neg (by omega), if_pos (Int.natCast_nonneg offset), Int.toNat_natCast]

/-! ## Tokens lie on one line -/

theorem TokenChar.not_isLineBreak {c : Char} (token : TokenChar c) :
    Change.isLineBreak c = false := by
  have codes := toNat_of_isTokenChar (isTokenChar_iff.mpr token)
  cases breaks : Change.isLineBreak c with
  | false => rfl
  | true =>
    simp only [Change.isLineBreak, Bool.or_eq_true, beq_iff_eq] at breaks
    rcases breaks with ((((((((rfl | rfl) | rfl) | rfl) | rfl) | rfl) | rfl) | rfl) | rfl) | rfl <;>
      revert codes <;> decide

namespace IsTokenSpan

theorem tokenChar_of_mem (span : text.IsTokenSpan start stop) {c : Char}
    (member : c ∈ (text.take stop).drop start) : TokenChar c := by
  rcases List.mem_iff_getElem?.mp member with ⟨index, here⟩
  have inside := (List.getElem?_eq_some_iff.mp here).1
  rw [List.length_drop, List.length_take] at inside
  rw [List.getElem?_drop, List.getElem?_take_of_lt (by omega)] at here
  rcases span.all (start + index) (by omega) (by omega) with ⟨d, there, token⟩
  rw [Option.some.inj (here.symm.trans there)]
  exact token

theorem line_eq (span : text.IsTokenSpan start stop) (first : start ≤ offset)
    (last : offset ≤ stop) :
    (Position.ofOffset text offset).line = (Position.ofOffset text start).line := by
  have plain : '\n' ∉ (text.take offset).drop start := by
    intro feed
    have inside : '\n' ∈ (text.take stop).drop start :=
      ((List.take_prefix_take_left last).sublist.drop start).subset feed
    exact absurd (span.tokenChar_of_mem inside).not_isLineBreak (by decide)
  have parts : text.take offset = text.take start ++ (text.take offset).drop start := by
    conv_lhs => rw [← List.take_append_drop start (text.take offset), List.take_take,
      Nat.min_eq_left first]
  rw [Position.ofOffset_eq_behind, Position.ofOffset_eq_behind, parts,
    Position.behind_append_of_plain plain]

end IsTokenSpan

/-- At an offset of a text no token is found exactly if no character of a token stands on either
side, and a stretch is found exactly if it is a whole token that the offset touches.  So there is at
most one.  It is found from its first offset to the one behind its last character, no line break is
in it, and all of these offsets are on one line. -/
theorem touched_tokens_are_whole (text : Text) (offset : Nat) (within : offset ≤ text.length) :
    text.tokenSpanAt offset =
        .ok ((text.tokenSpan offset).map fun (start, stop) => (start, stop)) ∧
      (text.tokenSpan offset = none ↔ ¬ text.TokenBefore offset ∧ ¬ text.TokenAt offset) ∧
      (∀ start stop, text.tokenSpan offset = some (start, stop) ↔
        start ≤ offset ∧ offset ≤ stop ∧ text.IsTokenSpan start stop) ∧
      ∀ start stop, text.tokenSpan offset = some (start, stop) →
        (∀ other, start ≤ other → other ≤ stop →
          text.tokenSpan other = some (start, stop) ∧
            (Position.ofOffset text other).line = (Position.ofOffset text start).line) ∧
        ∀ c ∈ (text.take stop).drop start, Change.isLineBreak c = false := by
  refine ⟨tokenSpanAt_natCast within, tokenSpan_eq_none_iff within,
    fun start stop => tokenSpan_eq_some_iff within, ?_⟩
  intro start stop found
  have span := ((tokenSpan_eq_some_iff within).mp found).2.2
  refine ⟨fun other first last => ⟨?_, span.line_eq first last⟩,
    fun c member => (span.tokenChar_of_mem member).not_isLineBreak⟩
  exact (tokenSpan_eq_some_iff (last.trans span.stop_le)).mpr ⟨first, last, span⟩

/-- The sun is touched in front of its first letter and behind its last one, and not in front of the
blank. -/
theorem sun_is_touched_at_both_ends :
    let text : Text := "- sun.sun\n".toList
    (9 ≤ text.length ∧ text.tokenSpan 9 = some (2, 9) ∧ text.IsTokenSpan 2 9 ∧
      text.tokenSpan 2 = some (2, 9) ∧ Change.isLineBreak 'n' = false) ∧
      1 ≤ text.length ∧ ¬ text.TokenBefore 1 ∧ ¬ text.TokenAt 1 := by
  intro text
  rcases touched_tokens_are_whole text 9 (by decide) with ⟨_, _, exact_, found⟩
  rcases found 2 9 (by decide) with ⟨same, breaks⟩
  rcases touched_tokens_are_whole text 1 (by decide) with ⟨_, nothing, _⟩
  exact ⟨⟨by decide, by decide, ((exact_ 2 9).mp (by decide)).2.2,
    (same 2 (by decide) (by decide)).1, breaks 'n' (by decide)⟩, by decide,
    nothing.mp (by decide)⟩

end Text

end HomeConfig
