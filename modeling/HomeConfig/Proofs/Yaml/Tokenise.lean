import HomeConfig.Proofs.Yaml.Step

/-!
# Tokens stand in their text

Whatever a text holds, the reader of tokens never leaves it: every token, every candidate for a key
and every error is marked at a place of the text.  A state that may be reached while a text is read
is `Within` it, and each step of reading is shown to lead from such a state to such a state.  Where
a step works with marks of its own, the marks must come from such states too; so a step that is
given a mark is shown to stay within the text only for a mark of the text.

Reading refuses a document without an error of syntax in one case only: for a numeric escape that is
beyond the last character.  That such an escape then stands in the text, backslash and all, needs
more than the reader's place, so the steps that lead to it are opened (`escape_within`,
`quotedWord_within`).
-/

namespace HomeConfig

namespace Yaml

open Std.Do

set_option mvcgen.warning false

/-! ## Escapes beyond the last character -/

/-- A numeric escape stands at the start of a text, and its number is beyond the last character.
Only the longest form of escape reaches so far. -/
def startsWithFarEscape : Text → Bool
  | '\\' :: c :: rest =>
    (Reading.escapeLength? c).any fun length =>
      length ≤ rest.length && (rest.take length).all Hexadecimal.isDigit &&
        0x10ffff < (Hexadecimal.number? (rest.take length)).getD 0
  | _ => false

/-- A numeric escape somewhere in a text is beyond the last character. -/
def hasFarEscape (text : Text) : Bool :=
  text.tails.any startsWithFarEscape

theorem hasFarEscape_iff (text : Text) :
    hasFarEscape text = true ↔ ∃ rest, rest <:+ text ∧ startsWithFarEscape rest = true := by
  simp [hasFarEscape]

/-! ## States of reading -/

/-- Both marks of a token are marks of the text. -/
def Token.Within (text : Text) (token : Token) : Prop :=
  token.start.Within text ∧ token.stop.Within text

/-- A state that may be reached while a text is read: it stands at some place of the text, and what
it remembers stood at some places too. -/
structure Tokeniser.Within (text : Text) (state : Tokeniser) : Prop where
  here : ∃ count, Reading.passed count Mark.start text = (state.mark, state.rest)
  queue : ∀ token ∈ state.queue, token.Within text
  candidates : ∀ entry ∈ state.candidates, entry.2.mark.Within text

theorem cons_drop_of_headD {rest : Text} {c : Char} (starts : rest.headD endOfText = c)
    (inside : c ≠ endOfText) : c :: rest.drop 1 = rest := by
  cases rest with
  | nil => exact absurd starts.symm inside
  | cons d rest => rw [← starts]; rfl

/-- Digits that had to be filled up with the end of the text are no number. -/
theorem hexadecimal_of_find? {digits : Text} {missing : Nat}
    (none_ : (digits ++ List.replicate missing endOfText).find? (!Hexadecimal.isDigit ·) = none) :
    missing = 0 ∧ digits.all Hexadecimal.isDigit = true := by
  have every (c : Char) (member : c ∈ digits ++ List.replicate missing endOfText) :
      Hexadecimal.isDigit c = true := by
    simpa using List.find?_eq_none.mp none_ c member
  refine ⟨?_, List.all_eq_true.mpr fun c member => every c (List.mem_append_left _ member)⟩
  by_contra some_
  exact absurd (every endOfText (by simp [some_])) (by decide)

theorem startsWithFarEscape_of_number {rest : Text} {length : Nat}
    (numeric : Reading.escapeLength? (rest.headD endOfText) = some length)
    (present : length ≤ (rest.drop 1).length)
    (hexadecimal : ((rest.drop 1).take length).all Hexadecimal.isDigit = true)
    (far : 0x10ffff < (Hexadecimal.number? ((rest.drop 1).take length)).getD 0) :
    startsWithFarEscape ('\\' :: rest) = true := by
  cases rest with
  | nil => cases numeric
  | cons c rest =>
    simp only [List.headD_cons, List.drop_one, List.tail_cons] at numeric present hexadecimal far
    simp [startsWithFarEscape, numeric, present, hexadecimal, far]

namespace Tokeniser.Within

variable {text : Text} {state : Tokeniser}

theorem mark (within : state.Within text) : state.mark.Within text := by
  rcases within.here with ⟨count, place⟩
  exact ⟨count, by rw [place]⟩

theorem rest (within : state.Within text) : state.rest <:+ text := by
  rcases within.here with ⟨count, place⟩
  have behind : state.rest = text.drop count := by
    rw [← Reading.passed_rest count Mark.start text, place]
  exact behind ▸ List.drop_suffix count text

theorem forward (within : state.Within text) (count : Nat) :
    Tokeniser.Within text { state with
      mark := (Reading.passed count state.mark state.rest).1
      rest := (Reading.passed count state.mark state.rest).2 } where
  here := by
    rcases within.here with ⟨earlier, place⟩
    exact ⟨earlier + count, by rw [Reading.passed_add, place]⟩
  queue := within.queue
  candidates := within.candidates

theorem mark_of_lookup {level : Nat} {key : KeyCandidate} (within : state.Within text)
    (found : state.candidates.lookup level = some key) : key.mark.Within text := by
  rcases List.lookup_eq_some_iff.mp found with ⟨before, after, shape, _⟩
  exact within.candidates (level, key) (by simp [shape])

/-- A state that stands where another does may hold any further tokens and candidates, if these
stand within the text too. -/
theorem update {state' : Tokeniser} (within : state.Within text) (mark : state'.mark = state.mark)
    (rest : state'.rest = state.rest)
    (queue : ∀ token ∈ state'.queue, token ∈ state.queue ∨ token.Within text)
    (candidates : ∀ entry ∈ state'.candidates,
      entry ∈ state.candidates ∨ entry.2.mark.Within text) :
    state'.Within text where
  here := by rw [mark, rest]; exact within.here
  queue := fun token member => (queue token member).elim (within.queue token) id
  candidates := fun entry member => (candidates entry member).elim (within.candidates entry) id

end Tokeniser.Within

attribute [grind →] Tokeniser.Within.mark

namespace Reading

/-- A step of reading stays within the text. -/
abbrev StaysWithin (text : Text) {Result : Type} (step : Reading Result) : Prop :=
  Keeps (Tokeniser.Within text) (Failure.Explained text (hasFarEscape text)) step

/-- A step of reading stays within the text and gives a result of the given kind. -/
abbrev GivesWithin (text : Text) {Result : Type} (good : Result → Prop) (step : Reading Result) :
    Prop :=
  Gives (Tokeniser.Within text) (Failure.Explained text (hasFarEscape text)) good step

variable (text : Text)

/-! ## Characters -/

theorem failHere_refuses {Result : Type} (context : Option String) (problem : String) :
    ⦃fun state => ⌜state.Within text⌝⦄ (failHere context problem : Reading Result)
    ⦃post⟨fun _ _ => ⌜False⌝,
      fun failure => ⌜failure.Explained text (hasFarEscape text)⌝⟩⦄ := by
  intro state within
  rintro _ ⟨⟩
  exact within.mark

@[spec]
theorem failHere_within {Result : Type} (context : Option String) (problem : String) :
    StaysWithin text (failHere context problem : Reading Result) := by
  mvcgen [failHere_refuses]
  exact False.elim

@[spec]
theorem peek_within : StaysWithin text peek := by
  mvcgen [peek]

@[spec]
theorem peekAt_within (distance : Nat) : StaysWithin text (peekAt distance) := by
  mvcgen [peekAt]

@[spec]
theorem here_within : GivesWithin text (Mark.Within text) here := by
  intro state within
  exact ⟨within, within.mark⟩

@[spec]
theorem forward_within (count : Nat) : StaysWithin text (forward count) := by
  intro state within
  exact within.forward count

@[spec]
theorem takeRun_within (accepts : Char → Bool) : StaysWithin text (takeRun accepts) := by
  mvcgen [takeRun]

@[spec]
theorem skipRun_within (accepts : Char → Bool) : StaysWithin text (skipRun accepts) := by
  mvcgen [skipRun]

@[spec]
theorem lineBreak_within : StaysWithin text lineBreak := by
  mvcgen [lineBreak]

@[spec]
theorem skipComment_within : StaysWithin text skipComment := by
  mvcgen [skipComment]

@[spec]
theorem escapeNumber_within (context subject : String) (length : Nat) :
    StaysWithin text (escapeNumber context subject length) := by
  mvcgen [escapeNumber]

/-! ## Candidates for keys -/

@[spec]
theorem expireCandidates_within : StaysWithin text expireCandidates := by
  mvcgen [expireCandidates]
  case vc2.isTrue.post.success state within _ _ _ _ _ _ =>
    exact within.update rfl rfl (by grind) (by grind)
  case vc3.isFalse state within _ _ _ => exact within.update rfl rfl (by grind) (by grind)

@[spec]
theorem dropCandidate_within : StaysWithin text dropCandidate := by
  mvcgen [dropCandidate]
  case vc2.isTrue.post.success state within _ _ _ _ _ =>
    exact within.update rfl rfl (by grind) (by grind)
  case vc3.isFalse state within _ _ => exact within.update rfl rfl (by grind) (by grind)

@[spec]
theorem saveCandidate_within : StaysWithin text saveCandidate := by
  mvcgen [saveCandidate]
  next earlier withinEarlier _ _ _ state within _ =>
    exact within.update rfl rfl (by grind) (by grind)

/-! ## Blocks -/

@[spec]
theorem emit_within {start stop : Mark} (begins : start.Within text) (ends : stop.Within text)
    (kind : TokenKind) : StaysWithin text (emit kind start stop) := by
  intro state within
  exact within.update rfl rfl (by grind [Token.Within]) (by grind)

@[spec]
theorem emitHere_within (kind : TokenKind) (length : Nat) :
    StaysWithin text (emitHere kind length) := by
  mvcgen [emitHere]
  all_goals grind

@[spec]
theorem closeBlocks_within (column : Int) : StaysWithin text (closeBlocks column) := by
  mvcgen [closeBlocks]
  next state within _ => exact within.update rfl rfl (by grind [Token.Within]) (by grind)

@[spec]
theorem openBlock_within (column : Nat) : StaysWithin text (openBlock column) := by
  mvcgen [openBlock]
  next state within _ => exact within.update rfl rfl (by grind) (by grind)

@[spec]
theorem setAllowKey_within (allow : Bool) : StaysWithin text (setAllowKey allow) := by
  intro state within
  exact ⟨within.here, within.queue, within.candidates⟩

/-! ## Between tokens -/

@[spec]
theorem skipToToken_within (bound : Nat) : StaysWithin text (skipToToken bound) := by
  induction bound with
  | zero => mvcgen [skipToToken]
  | succ bound inductionHypothesis => mvcgen [skipToToken, inductionHypothesis]

@[spec]
theorem atSeparator_within (c : Char) : StaysWithin text (atSeparator c) := by
  mvcgen [atSeparator]

@[spec]
theorem atAnySeparator_within : StaysWithin text atAnySeparator := by
  mvcgen [atAnySeparator]

/-! ## Directives, anchors and tags -/

@[spec]
theorem finishLine_within (context : String) : StaysWithin text (finishLine context) := by
  mvcgen [finishLine]

@[spec]
theorem name_within (context : String) (mayFollow : Char → Bool) :
    StaysWithin text (name context mayFollow) := by
  mvcgen [name]

@[spec]
theorem versionNumber_within (context : String) : StaysWithin text (versionNumber context) := by
  mvcgen [versionNumber]

@[spec]
theorem tagEscapes_within (context : String) {start : Mark} (begins : start.Within text)
    (bound : Nat) (bytes : List Nat) : StaysWithin text (tagEscapes context start bound bytes) := by
  induction bound generalizing bytes with
  | zero => mvcgen [tagEscapes]
  | succ bound inductionHypothesis =>
    mvcgen [tagEscapes, inductionHypothesis]
    all_goals grind [Failure.Explained, Error.mark?]

@[spec]
theorem tagPieces_within (context : String) (bound : Nat) :
    StaysWithin text (tagPieces context bound) := by
  induction bound with
  | zero => mvcgen [tagPieces]
  | succ bound inductionHypothesis =>
    mvcgen [tagPieces, inductionHypothesis]
    all_goals grind

@[spec]
theorem tagText_within (what : String) : StaysWithin text (tagText what) := by
  mvcgen [tagText]

@[spec]
theorem tagHandle_within (what : String) : StaysWithin text (tagHandle what) := by
  mvcgen [tagHandle]

@[spec]
theorem directive_within : StaysWithin text directive := by
  mvcgen [directive]
  all_goals grind

@[spec]
theorem anchorOrAlias_within : StaysWithin text anchorOrAlias := by
  mvcgen [anchorOrAlias]
  all_goals grind

@[spec]
theorem tag_within : StaysWithin text tag := by
  mvcgen [tag]
  all_goals grind

/-! ## Block scalars -/

@[spec]
theorem chomping_within : StaysWithin text chomping := by
  mvcgen [chomping]

@[spec]
theorem indentation_within (context : String) : StaysWithin text (indentation context) := by
  mvcgen [indentation]

@[spec]
theorem blockIndicators_within (context : String) :
    StaysWithin text (blockIndicators context) := by
  mvcgen [blockIndicators]

@[spec]
theorem leadingBreaks_within (bound : Nat) (breaks : Text) (widest : Nat) {stop : Mark}
    (ends : stop.Within text) :
    GivesWithin text (fun found => found.2.2.Within text)
      (leadingBreaks bound breaks widest stop) := by
  induction bound generalizing breaks widest stop with
  | zero => mvcgen [leadingBreaks]
  | succ bound inductionHypothesis =>
    mvcgen [leadingBreaks, inductionHypothesis]
    all_goals grind

@[spec]
theorem skipIndent_within (column : Nat) : StaysWithin text (skipIndent column) := by
  mvcgen [skipIndent]

@[spec]
theorem blockBreaks_within (column bound : Nat) (breaks : Text) {stop : Mark}
    (ends : stop.Within text) :
    GivesWithin text (fun found => found.2.Within text)
      (blockBreaks column bound breaks stop) := by
  induction bound generalizing breaks stop with
  | zero => mvcgen [blockBreaks]
  | succ bound inductionHypothesis =>
    mvcgen [blockBreaks, inductionHypothesis]
    all_goals grind

@[spec]
theorem atBlockLine_within (column : Nat) : StaysWithin text (atBlockLine column) := by
  mvcgen [atBlockLine]
  all_goals grind

@[spec]
theorem blockLines_within (folded : Bool) (column bound : Nat) {lines : BlockLines}
    (ends : lines.stop.Within text) :
    GivesWithin text (fun found => found.stop.Within text)
      (blockLines folded column bound lines) := by
  induction bound generalizing lines with
  | zero => mvcgen [blockLines]
  | succ bound inductionHypothesis =>
    mvcgen [blockLines, inductionHypothesis]
    all_goals grind

@[spec]
theorem blockScalar_within (folded : Bool) : StaysWithin text (blockScalar folded) := by
  mvcgen [blockScalar]
  all_goals grind

/-! ## Quoted scalars -/

@[spec]
theorem quotedBreaks_within (bound : Nat) : StaysWithin text (quotedBreaks bound) := by
  induction bound with
  | zero => mvcgen [quotedBreaks]
  | succ bound inductionHypothesis => mvcgen [quotedBreaks, inductionHypothesis]

@[spec]
theorem escape_within :
    ⦃fun state => ⌜state.Within text ∧ '\\' :: state.rest <:+ text⌝⦄ escape
    ⦃post⟨fun _ state => ⌜state.Within text⌝,
      fun failure => ⌜failure.Explained text (hasFarEscape text)⌝⟩⦄ := by
  unfold escape
  mvcgen [peek, -peek_within, forward, -forward_within, escapeNumber, -escapeNumber_within,
    failHere_refuses, -failHere_within]
  case vc1.h_1 state within _ _ _ _ _ => exact within.1.forward 1
  case vc2.h_2.h_1.pre state within _ _ _ _ _ _ _ _ => exact within.1.forward 1
  case vc5.h_2.h_2.isTrue state within length numeric _ next digits padded none_ _ _ far =>
    have behind : next.2.rest = state.rest.drop 1 := passed_rest 1 state.mark state.rest
    rcases hexadecimal_of_find? none_ with ⟨full, hexadecimal⟩
    have present : length ≤ next.2.rest.length :=
      (Nat.sub_eq_zero_iff_le.mp full).trans (List.length_take_le' length next.2.rest)
    have far : 0x10ffff < (Hexadecimal.number? digits).getD 0 := by
      simpa [padded, full] using far
    refine (hasFarEscape_iff text).mpr ⟨_, within.2, ?_⟩
    exact startsWithFarEscape_of_number numeric (behind ▸ present) (behind ▸ hexadecimal)
      (behind ▸ far)
  case vc6.h_2.h_2.isFalse state within length _ _ _ _ _ _ _ _ _ =>
    exact (within.1.forward 1).forward length
  case vc7.h_3.isTrue.pre state within _ _ _ => exact within.1
  case vc9.h_3.isFalse.pre state within _ _ _ => exact within.1
  case vc10.h_3.isFalse.post.success => exact False.elim

@[spec]
theorem quotedWord_within (double : Bool) (bound : Nat) :
    StaysWithin text (quotedWord double bound) := by
  induction bound with
  | zero => mvcgen [quotedWord]
  | succ bound inductionHypothesis =>
    mvcgen [quotedWord, inductionHypothesis, peek, -peek_within, peekAt, -peekAt_within, forward,
      -forward_within]
    next state within _ _ => exact within.forward 2
    next state within _ _ _ => exact within.forward 1
    next state within _ _ starts _ =>
      refine ⟨within.forward 1, ?_⟩
      simp only [Bool.and_eq_true, beq_iff_eq] at starts
      have shape : '\\' :: (passed 1 state.mark state.rest).2 = state.rest := by
        rw [passed_rest, cons_drop_of_headD starts.2 (by decide)]
      exact shape ▸ within.rest

@[spec]
theorem quotedSpace_within : StaysWithin text quotedSpace := by
  mvcgen [quotedSpace]

@[spec]
theorem quotedText_within (quote : Char) (bound : Nat) :
    StaysWithin text (quotedText quote bound) := by
  induction bound with
  | zero => mvcgen [quotedText]
  | succ bound inductionHypothesis => mvcgen [quotedText, inductionHypothesis]

@[spec]
theorem quotedScalar_within : StaysWithin text quotedScalar := by
  mvcgen [quotedScalar]
  all_goals grind

/-! ## Plain scalars -/

@[spec]
theorem plainBreaks_within (bound : Nat) : StaysWithin text (plainBreaks bound) := by
  induction bound with
  | zero => mvcgen [plainBreaks]
  | succ bound inductionHypothesis => mvcgen [plainBreaks, inductionHypothesis]

@[spec]
theorem plainSpace_within : StaysWithin text plainSpace := by
  mvcgen [plainSpace]

@[spec]
theorem plainWords_within (indent : Int) (space : Text) (bound : Nat) {stop : Mark}
    (ends : stop.Within text) :
    GivesWithin text (fun found => found.2.Within text) (plainWords indent space bound stop) := by
  induction bound generalizing space stop with
  | zero => mvcgen [plainWords]
  | succ bound inductionHypothesis =>
    mvcgen [plainWords, inductionHypothesis]
    all_goals grind

@[spec]
theorem plainScalar_within : StaysWithin text plainScalar := by
  mvcgen [plainScalar]
  all_goals grind

/-! ## Tokens -/

@[spec]
theorem endStream_within : StaysWithin text endStream := by
  mvcgen [endStream]
  next state within _ => exact within.update rfl rfl (by grind) (by grind)

@[spec]
theorem separator_within (kind : TokenKind) : StaysWithin text (separator kind) := by
  mvcgen [separator]

@[spec]
theorem openFlow_within (kind : TokenKind) : StaysWithin text (openFlow kind) := by
  mvcgen [openFlow]
  next state within _ => exact within.update rfl rfl (by grind) (by grind)

@[spec]
theorem closeFlow_within (kind : TokenKind) : StaysWithin text (closeFlow kind) := by
  mvcgen [closeFlow]
  next state within _ => exact within.update rfl rfl (by grind) (by grind)

@[spec]
theorem openBlockHere_within (kind : TokenKind) (problem : String) :
    StaysWithin text (openBlockHere kind problem) := by
  mvcgen [openBlockHere]

@[spec]
theorem blockEntry_within : StaysWithin text blockEntry := by
  mvcgen [blockEntry]

@[spec]
theorem explicitKey_within : StaysWithin text explicitKey := by
  mvcgen [explicitKey]

@[spec]
theorem valueSign_within : StaysWithin text valueSign := by
  mvcgen [valueSign]
  case vc2 earlier withinEarlier _ key found _ _ _ _ _ state within _ =>
    have marked := withinEarlier.mark_of_lookup found
    exact within.update rfl rfl (by grind [Token.Within]) (by grind)
  case vc3 state within _ key found _ _ _ _ _ =>
    have marked := within.mark_of_lookup found
    exact within.update rfl rfl (by grind [Token.Within]) (by grind)

@[spec]
theorem possibleKey_within {token : Reading Unit} (within : StaysWithin text token) :
    StaysWithin text (possibleKey token) := by
  mvcgen [possibleKey, within]

@[spec]
theorem nextTokens_within : StaysWithin text nextTokens := by
  unfold nextTokens
  mvcgen

@[spec]
theorem needsMore_within : StaysWithin text needsMore := by
  mvcgen [needsMore]

@[spec]
theorem prepare_within (bound : Nat) : StaysWithin text (prepare bound) := by
  induction bound with
  | zero => mvcgen [prepare]
  | succ bound inductionHypothesis => mvcgen [prepare, inductionHypothesis]

theorem deliver_within (bound : Nat) :
    GivesWithin text (fun token => ∀ found ∈ token, found.Within text) (deliver bound) := by
  mvcgen [deliver]
  next state within _ => exact ⟨within, by simp⟩
  next state within token others shape =>
    exact ⟨within.update rfl rfl (by grind) (by grind), by grind [within.queue]⟩

end Reading

/-! ## All tokens -/

/-- The tokens of a stream stand within the text, and the failure behind them is explained. -/
structure TokenStream.Within (text : Text) (stream : TokenStream) : Prop where
  tokens : ∀ token ∈ stream.tokens, token.Within text
  failure : ∀ failure ∈ stream.failure, failure.Explained text (hasFarEscape text)

namespace TokenStream

theorem collect_within {text : Text} (limit bound : Nat) {state : Tokeniser}
    (within : state.Within text) : (collect limit bound state).Within text := by
  induction bound generalizing state with
  | zero => exact ⟨by simp [collect], by simp [collect]⟩
  | succ bound inductionHypothesis =>
    have ends := (Reading.deliver_within text limit).endsWell_run within
    rw [collect]
    split
    next failure outcome =>
      rw [outcome] at ends
      exact ⟨by simp, fun failure' same => by cases same; exact ends⟩
    next => exact ⟨by simp, by simp⟩
    next token state' outcome =>
      rw [outcome] at ends
      have others := inductionHypothesis ends.1
      exact ⟨List.forall_mem_cons.mpr ⟨ends.2 token rfl, others.tokens⟩, others.failure⟩

theorem initial_within (text : Text) : (initial text).Within text where
  here := ⟨0, rfl⟩
  queue := by simp [initial, Token.Within, Mark.Within.start]
  candidates := by simp [initial]

/-- Whatever stands in a text, its tokens are marked within it; recognition fails at a place of the
text or for an escape beyond the last character. -/
theorem ofText_within (text : Text) : (ofText text).Within text :=
  collect_within _ _ (initial_within text)

end TokenStream

end Yaml

end HomeConfig
