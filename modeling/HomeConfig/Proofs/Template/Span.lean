import HomeConfig.Proofs.Template.Cut

/-!
# Where the expressions of a template open and close

`spans` follows the cutter and notes the offsets at which expressions open and close.  Between the
two the cutter does the same on the template and on the expression alone (`Beside`): neither the
text in front of the expression nor what stands behind its closing braces makes a difference.  So
the tokens of an expression, cut alone, are those that the template has in its place
(`collect_of_mem_spans`).
-/

namespace HomeConfig

namespace Template

namespace Cutter

/-! ## An expression and its text -/

/-- Two states of cutting an expression, in a template and alone: up to its closing braces both
have the same text ahead. -/
structure Beside (part tail : Text) (whole alone : Cutter) : Prop where
  whole_eq : whole.rest = part ++ '\x7d' :: '\x7d' :: tail
  alone_eq : alone.rest = part ++ ['\x7d', '\x7d']
  mode : alone.mode = whole.mode
  before : alone.before = whole.before
  unclosed : alone.unclosed = whole.unclosed

theorem Beside.advance {part tail : Text} {whole alone : Cutter} {length : Nat}
    (beside : Beside part tail whole alone) (within : length ≤ part.length) :
    Beside (part.drop length) tail (whole.advance length) (alone.advance length) where
  whole_eq := by
    rw [Cutter.advance, beside.whole_eq]
    exact List.drop_append_of_le_length within
  alone_eq := by
    rw [Cutter.advance, beside.alone_eq]
    exact List.drop_append_of_le_length within
  mode := beside.mode
  before := by
    simp only [Cutter.advance, beside.whole_eq, beside.alone_eq, beside.before]
    split
    · rfl
    · rw [List.getElem?_append_left (by omega), List.getElem?_append_left (by omega)]
  unclosed := beside.unclosed

theorem length_advance (cutter : Cutter) (length : Nat) :
    (cutter.advance length).rest.length = cutter.rest.length - length :=
  List.length_drop

/-- An operator is at most two signs long, so what stands behind the closing braces is no part of
it. -/
theorem Beside.operator_eq {part tail : Text} {whole alone : Cutter}
    (beside : Beside part tail whole alone) :
    operator? alone.rest = operator? whole.rest := by
  have behind : whole.rest = (part ++ ['\x7d', '\x7d']) ++ tail := by
    rw [beside.whole_eq, List.append_assoc]
    rfl
  have long : 2 ≤ (part ++ ['\x7d', '\x7d']).length := by simp
  have same := operator?_append long [] tail
  rwa [List.append_nil, ← behind, ← beside.alone_eq] at same

/-- Inside an expression, before its closing braces, each step is the same alone. -/
theorem Beside.inside {part tail : Text} {whole alone after : Cutter} {c : Char}
    {tokens : List Token} (beside : Beside part tail whole alone)
    (read : whole.inside c = .ok (tokens, after)) (within : tail.length + 2 ≤ after.rest.length) :
    ∃ left last, alone.inside c = .ok (tokens, last) ∧ Beside left tail after last ∧
      left.length < part.length := by
  have size : whole.rest.length = part.length + (tail.length + 2) := by
    rw [beside.whole_eq]
    simp
  unfold Cutter.inside at read ⊢
  cases found : lexeme whole.before whole.rest with
  | error failure =>
    rw [found] at read
    cases read
  | ok result =>
    rw [found] at read
    rw [beside.whole_eq] at found
    cases result with
    | some lexeme =>
      rcases lexeme with ⟨tokens, length⟩
      cases read
      rw [length_advance, size] at within
      have short : length ≤ part.length := by omega
      rcases lexeme_alone found (by rintro _ ⟨⟩; exact short) with ⟨same, parts⟩
      have some := parts _ rfl
      rw [beside.before, beside.alone_eq, same]
      refine ⟨part.drop length, _, rfl, beside.advance short, ?_⟩
      rw [List.length_drop]
      simp only at some
      omega
    | none =>
      rcases lexeme_alone found nofun with ⟨same, _⟩
      rw [beside.before, beside.alone_eq, same, ← beside.alone_eq, beside.unclosed,
        beside.operator_eq]
      cases found : operator? whole.rest with
      | none =>
        rw [found] at read
        cases read
      | some sign =>
        rw [found] at read
        cases unclosed : unclosedBehind whole.unclosed c sign with
        | error failure =>
          simp only [unclosed] at read
          cases read
        | ok unclosed =>
          simp only [unclosed] at read ⊢
          cases read
          have some := length_pos_of_operator? found
          have short : sign.length ≤ part.length := by
            have left := length_advance whole sign.length
            simp only at within
            omega
          have moved := beside.advance short
          refine ⟨part.drop sign.length, _, rfl, ?_, ?_⟩
          · exact ⟨moved.whole_eq, moved.alone_eq, moved.mode, moved.before, rfl⟩
          · rw [List.length_drop]
            omega

/-- Where the next part of a template opens, if that is an expression. -/
def opens? (cutter : Cutter) : Option Nat :=
  match cutter.mode, findFirst opening? cutter.rest with
  | .text, some (offset, .variable, _, _) => some (cutter.offset + offset)
  | _, _ => none

/-- The sign that closes an expression is due and stands here. -/
abbrev Closes (cutter : Cutter) : Prop :=
  cutter.unclosed.isEmpty = true ∧ 0 < variableEndLength cutter.rest

/-- Where the expression that is being cut closes, if it does so here. -/
def closes? (cutter : Cutter) : Option Nat :=
  if Closes cutter then
    some (cutter.offset + if cutter.rest.head? = some '-' then 3 else 2)
  else none

/-- Where the expression that is being cut closes. -/
def closing? : (bound : Nat) → Cutter → Option Nat
  | 0, _ => none
  | bound + 1, cutter =>
    match cutter.closes? with
    | some stop => some stop
    | none =>
      match cutter.step with
      | .ok (some (_, after)) => closing? bound after
      | _ => none

/-- The offsets at which expressions open and close. -/
def spans : (bound : Nat) → Cutter → List (Nat × Nat)
  | 0, _ => []
  | bound + 1, cutter =>
    match cutter.step with
    | .ok (some (_, after)) =>
      let here := do
        let start ← cutter.opens?
        let stop ← closing? bound after
        pure (start, stop)
      here.toList ++ spans bound after
    | _ => []

theorem variableEndLength_cases {text : Text} (ends : 0 < variableEndLength text) :
    (∃ rest, text = '-' :: '\x7d' :: '\x7d' :: rest ∧ variableEndLength text = 3 + blanks rest) ∨
      ∃ rest, text = '\x7d' :: '\x7d' :: rest ∧ variableEndLength text = 2 := by
  unfold variableEndLength at ends ⊢
  split at ends
  next rest => exact .inl ⟨rest, rfl, rfl⟩
  next rest => exact .inr ⟨rest, rfl, rfl⟩
  next => cases ends

theorem step_of_closes {cutter : Cutter} (expression : cutter.mode = .variable)
    (closes : Closes cutter) :
    cutter.step = .ok (some ([.variableEnd],
      { cutter.advance (variableEndLength cutter.rest) with mode := .text })) := by
  unfold step
  cases ahead : cutter.rest with
  | nil => exact absurd closes.2 (by rw [ahead]; decide)
  | cons c rest =>
    simp only [expression]
    rw [← ahead, if_pos closes]
    rfl

theorem step_of_not_closes {cutter : Cutter} {c : Char} {rest : Text}
    (expression : cutter.mode = .variable) (notHere : ¬ Closes cutter)
    (ahead : cutter.rest = c :: rest) :
    cutter.step = some <$> cutter.inside c := by
  unfold step
  simp only [ahead, expression]
  rw [← ahead, if_neg notHere]
  cases cutter.inside c <;> rfl

theorem collect_of_empty {cutter : Cutter} (empty : cutter.rest = []) (bound : Nat) :
    collect bound cutter = ⟨[], none⟩ := by
  cases bound with
  | zero => rfl
  | succ bound => simp only [collect, step, empty]; rfl

theorem collect_of_step {cutter after : Cutter} {tokens : List Token}
    (step : cutter.step = .ok (some (tokens, after))) (bound : Nat) :
    collect (bound + 1) cutter =
      ⟨tokens ++ (collect bound after).tokens, (collect bound after).failure⟩ := by
  rw [collect, step]

theorem Beside.closes {part tail : Text} {whole alone : Cutter}
    (beside : Beside part tail whole alone) (closes : Closes alone) : Closes whole := by
  refine ⟨beside.unclosed ▸ closes.1, ?_⟩
  have ahead : whole.rest = alone.rest ++ tail := by
    rw [beside.whole_eq, beside.alone_eq]
    simp
  rcases variableEndLength_cases closes.2 with ⟨rest, same, _⟩ | ⟨rest, same, _⟩
  · rw [ahead, same]
    exact Nat.add_pos_left (by decide) (blanks (rest ++ tail))
  · rw [ahead, same]
    exact Nat.two_pos

theorem Beside.head {part tail rest : Text} {whole alone : Cutter} {c : Char}
    (beside : Beside part tail whole alone) (ahead : whole.rest = c :: rest) :
    ∃ others, alone.rest = c :: others := by
  rw [beside.whole_eq] at ahead
  rw [beside.alone_eq]
  cases part <;> cases ahead <;> exact ⟨_, rfl⟩

/-- At its closing sign an expression ends, alone as well. -/
theorem collect_closing {alone : Cutter} {limit : Nat} (expression : alone.mode = .variable)
    (closes : Closes alone) (last : alone.rest.length ≤ variableEndLength alone.rest) :
    collect (limit + 1) alone = ⟨[.variableEnd], none⟩ := by
  have empty : ({ alone.advance (variableEndLength alone.rest) with mode := .text } : Cutter).rest =
      [] := List.drop_eq_nil_of_le last
  rw [collect_of_step (step_of_closes expression closes), collect_of_empty empty]
  rfl

/-- What is cut of an expression: a part of the text, up to the closing braces at the given offset,
and the tokens of that part, which are the same alone. -/
structure Severs (bound : Nat) (whole : Cutter) (stop : Nat) (part tail : Text)
    (inner rest : List Token) : Prop where
  ahead : whole.rest = part ++ '\x7d' :: '\x7d' :: tail
  stop_eq : stop = whole.offset + part.length + 2
  tokens_eq : (collect bound whole).tokens = inner ++ .variableEnd :: rest
  isInner : ∀ token ∈ inner, token.isInner = true
  alone : ∀ ⦃alone limit⦄, Beside part tail whole alone → part.length + 2 ≤ limit →
    collect limit alone = ⟨inner ++ [.variableEnd], none⟩

theorem severs_of_short {bound : Nat} {whole : Cutter} {tail : Text} (part : Text)
    (expression : whole.mode = .variable) (closes : Closes whole)
    (ahead : whole.rest = part ++ '\x7d' :: '\x7d' :: tail) (short : part = [] ∨ part = ['-']) :
    ∃ rest, Severs (bound + 1) whole (whole.offset + part.length + 2) part tail [] rest := by
  refine ⟨_, ahead, rfl, congrArg _ (collect_of_step (step_of_closes expression closes) bound),
    nofun, fun alone limit beside deep => ?_⟩
  obtain ⟨limit, rfl⟩ : ∃ less, limit = less + 1 := ⟨limit - 1, by omega⟩
  have due : alone.unclosed.isEmpty = true := by
    rw [beside.unclosed]
    exact closes.1
  refine collect_closing (beside.mode.trans expression) ⟨due, ?_⟩ ?_ <;>
    rw [beside.alone_eq] <;> rcases short with rfl | rfl <;> decide

theorem severs_of_closes? {bound stop : Nat} {whole : Cutter} (expression : whole.mode = .variable)
    (closes : whole.closes? = some stop) :
    ∃ part tail inner rest, Severs (bound + 1) whole stop part tail inner rest := by
  unfold closes? at closes
  split at closes
  next closesHere =>
    cases closes
    rcases variableEndLength_cases closesHere.2 with ⟨tail, ahead, _⟩ | ⟨tail, ahead, _⟩
    · rcases severs_of_short ['-'] expression closesHere ahead (.inr rfl) with ⟨rest, severs⟩
      exact ⟨['-'], tail, [], rest, by simpa [ahead] using severs⟩
    · rcases severs_of_short [] expression closesHere ahead (.inl rfl) with ⟨rest, severs⟩
      exact ⟨[], tail, [], rest, by simpa [ahead] using severs⟩
  next => cases closes

/-- One more token in front of what is cut of an expression. -/
theorem Severs.step {bound stop : Nat} {whole after : Cutter} {part tail : Text} {c : Char}
    {tokens inner rest : List Token} (severs : Severs bound after stop part tail inner rest)
    (expression : whole.mode = .variable) (notHere : ¬ Closes whole)
    (head : whole.rest.head? = some c) (read : whole.inside c = .ok (tokens, after)) :
    ∃ longer, Severs (bound + 1) whole stop longer tail (tokens ++ inner) rest := by
  rcases inside_moves read with ⟨⟨length, behind, offset⟩, mode, isInner⟩
  rcases List.head?_eq_some_iff.mp head with ⟨_, ahead⟩
  have step := step_of_not_closes expression notHere ahead
  rw [read] at step
  have passed : whole.rest = (whole.rest.take length ++ part) ++ '\x7d' :: '\x7d' :: tail := by
    rw [List.append_assoc, ← severs.ahead, behind, List.take_append_drop]
  have size : (whole.rest.take length).length = length := by
    have left := congrArg List.length (behind.symm.trans severs.ahead)
    simp only [List.length_drop, List.length_append, List.length_cons] at left
    rw [List.length_take]
    omega
  refine ⟨whole.rest.take length ++ part, passed, ?_, ?_, ?_, fun alone limit beside deep => ?_⟩
  · rw [severs.stop_eq, offset, List.length_append, size]
    omega
  · rw [collect_of_step step, severs.tokens_eq, List.append_assoc]
  · intro token member
    exact (List.mem_append.mp member).elim (isInner token) (severs.isInner token)
  · obtain ⟨limit, rfl⟩ : ∃ less, limit = less + 1 := ⟨limit - 1, by omega⟩
    rcases beside.inside read (by rw [severs.ahead]; simp) with
      ⟨left, last, readAlone, besideLast, shorter⟩
    obtain rfl : left = part :=
      List.append_cancel_right (besideLast.whole_eq.symm.trans severs.ahead)
    rcases beside.head ahead with ⟨_, aheadAlone⟩
    have stepAlone := step_of_not_closes (beside.mode.trans expression)
      (fun closesAlone => notHere (beside.closes closesAlone)) aheadAlone
    rw [readAlone] at stepAlone
    rw [collect_of_step stepAlone, severs.alone besideLast (by omega), List.append_assoc]

/-- What is cut from an expression up to its closing sign is cut from it alone. -/
theorem severs_of_closing? {bound stop : Nat} {whole : Cutter}
    (expression : whole.mode = .variable) (closes : closing? bound whole = some stop) :
    ∃ part tail inner rest, Severs bound whole stop part tail inner rest := by
  induction bound generalizing whole with
  | zero => cases closes
  | succ bound inductionHypothesis =>
    unfold closing? at closes
    split at closes
    next here =>
      cases closes
      exact severs_of_closes? expression here
    next elsewhere =>
      have notHere : ¬ Closes whole := fun closesHere => by simp [closes?, closesHere] at elsewhere
      split at closes
      next _ tokens after read =>
        cases ahead : whole.rest with
        | nil =>
          simp only [step, ahead] at read
          cases read
        | cons c rest =>
          rw [step_of_not_closes expression notHere ahead] at read
          cases inside : whole.inside c with
          | error failure =>
            rw [inside] at read
            cases read
          | ok result =>
            rw [inside] at read
            cases read
            have mode := (inside_moves inside).2.1
            rcases inductionHypothesis (mode.trans expression) closes with
              ⟨part, tail, inner, more, severs⟩
            rcases severs.step expression notHere (by rw [ahead]; rfl) inside with
              ⟨longer, severs⟩
            exact ⟨longer, tail, tokens ++ inner, more, severs⟩
      next => cases closes

/-! ## Openings -/

theorem findFirst_eq_some {α : Type} {search : Text → Option α} {text : Text} {offset : Nat}
    {found : α} (first : findFirst search text = some (offset, found)) :
    search (text.drop offset) = some found := by
  induction text generalizing offset with
  | nil => cases first
  | cons c rest inductionHypothesis =>
    rw [findFirst] at first
    split at first
    next here =>
      cases first
      exact here
    next =>
      rcases Option.map_eq_some_iff.mp first with ⟨⟨later, _⟩, there, same⟩
      cases same
      exact inductionHypothesis there

/-- The length of the sign that opens an expression, given what follows its braces. -/
def openingLength (text : Text) : Nat :=
  match text with
  | '-' :: _ => 3
  | '+' :: _ => 3
  | _ => 2

theorem opening?_braces (rest : Text) :
    ∃ strips, opening? ('\x7b' :: '\x7b' :: rest) =
      some (.variable, openingLength rest, strips) := by
  have unfolded : opening? ('\x7b' :: '\x7b' :: rest) =
      match rest with
      | '-' :: _ => some (.variable, 3, true)
      | '+' :: _ => some (.variable, 3, false)
      | _ => some (.variable, 2, false) :=
    rfl
  rw [unfolded]
  unfold openingLength
  split <;> exact ⟨_, rfl⟩

theorem openingLength_brace (part rest : Text) :
    openingLength (part ++ '\x7d' :: rest) = openingLength part := by
  cases part with
  | nil => rfl
  | cons c part =>
    rw [List.cons_append]
    unfold openingLength
    split
    next same =>
      cases same
      rfl
    next same =>
      cases same
      rfl
    next notMinus notPlus =>
      split
      next same =>
        cases same
        exact (notMinus _ rfl).elim
      next same =>
        cases same
        exact (notPlus _ rfl).elim
      next => rfl

theorem openingLength_pos (rest : Text) : 2 ≤ openingLength rest ∧
    openingLength rest ≤ ('\x7b' :: '\x7b' :: rest).length := by
  unfold openingLength
  split <;> simp

/-- The sign that opens an expression does so alone as well. -/
theorem opening?_alone {rest part tail : Text}
    (split : ('\x7b' :: '\x7b' :: rest).drop (openingLength rest) =
      part ++ '\x7d' :: '\x7d' :: tail) :
    ∃ strips, opening? (('\x7b' :: '\x7b' :: rest).take (openingLength rest) ++
      (part ++ ['\x7d', '\x7d'])) = some (.variable, openingLength rest, strips) := by
  by_cases signed : ∃ c others, rest = c :: others ∧ (c = '-' ∨ c = '+')
  · rcases signed with ⟨c, others, rfl, rfl | rfl⟩ <;>
      exact opening?_braces (_ :: (part ++ ['\x7d', '\x7d']))
  · have unsigned : openingLength rest = 2 := by
      unfold openingLength
      split
      next others => exact (signed ⟨_, others, rfl, .inl rfl⟩).elim
      next others => exact (signed ⟨_, others, rfl, .inr rfl⟩).elim
      next => rfl
    rw [unsigned] at split ⊢
    obtain rfl : rest = part ++ '\x7d' :: '\x7d' :: tail := split
    rcases opening?_braces (part ++ ['\x7d', '\x7d']) with ⟨strips, opens⟩
    rw [openingLength_brace] at opens unsigned
    rw [unsigned] at opens
    exact ⟨strips, opens⟩

theorem braces_of_opening? {text : Text} {length : Nat} {strips : Bool}
    (opens : opening? text = some (.variable, length, strips)) :
    ∃ rest, text = '\x7b' :: '\x7b' :: rest ∧ length = openingLength rest := by
  have found := opens
  unfold opening? at opens
  split at opens
  · cases opens
  · dsimp only at opens
    split at opens
    next rest _ =>
      rcases opening?_braces rest with ⟨_, same⟩
      rw [same] at found
      cases found
      exact ⟨rest, rfl, rfl⟩
    next => split at opens <;> cases opens
    next => split at opens <;> cases opens
    next => cases opens

/-! ## Expressions of a template -/

theorem findFirst_of_head {α : Type} {search : Text → Option α} {text : Text} {found : α}
    (filled : text ≠ []) (here : search text = some found) :
    findFirst search text = some (0, found) := by
  cases text with
  | nil => exact absurd rfl filled
  | cons c rest => rw [findFirst, here]

theorem dataTokens_nil (strips : Bool) : dataTokens [] strips = [] := by
  cases strips <;> rfl

/-- A template, before any of it is cut. -/
def start (source : Text) : Cutter :=
  ⟨.text, [], none, 0, source⟩

/-- Cut alone, an expression starts as it does in the template. -/
theorem Severs.collect_start {bound stop : Nat} {whole : Cutter} {sign part tail : Text}
    {inner rest : List Token} {strips : Bool}
    (severs : Severs bound whole stop part tail inner rest)
    (expression : whole.mode = .variable) (closed : whole.unclosed = [])
    (filled : 0 < sign.length) (before : whole.before = sign.getLast?)
    (opens : opening? (sign ++ (part ++ ['\x7d', '\x7d'])) =
      some (.variable, sign.length, strips)) :
    collect ((sign ++ (part ++ ['\x7d', '\x7d'])).length + 1)
      (start (sign ++ (part ++ ['\x7d', '\x7d']))) = ⟨printing inner, none⟩ := by
  have found : findFirst opening? (start (sign ++ (part ++ ['\x7d', '\x7d']))).rest =
      some (0, .variable, sign.length, strips) := findFirst_of_head (by simp [start]) opens
  rw [collect_of_step (step_of_opening rfl found), List.take_zero, dataTokens_nil, Nat.zero_add,
    severs.alone ⟨severs.ahead, ?_, ?_, ?_, ?_⟩ ?_]
  · rfl
  · exact List.drop_left
  · exact expression.symm
  · rw [before, List.getLast?_eq_getElem?]
    simp only [Cutter.advance, start]
    rw [if_neg (Nat.ne_of_gt filled), List.getElem?_append_left (by omega)]
  · exact closed.symm
  · simp

/-- An expression whose tokens are cut from a template: the tokens stand in those of the template,
and they are what is cut from the expression alone. -/
structure Severed (template : List Token) (expression : Text) (inner : List Token) : Prop where
  split : ∃ before rest, template = before ++ .variableBegin :: (inner ++ .variableEnd :: rest)
  isInner : ∀ token ∈ inner, token.isInner = true
  alone : collect (expression.length + 1) (Cutter.start expression) = ⟨printing inner, none⟩

theorem severed_of_opening {source : Text} {bound offset length stop : Nat} {strips : Bool}
    {cutter : Cutter} (within : Within source cutter) (text : cutter.mode = .text)
    (found : findFirst opening? cutter.rest = some (offset, .variable, length, strips))
    (closes : closing? bound { cutter.advance (offset + length) with mode := .variable } =
      some stop) :
    ∃ inner, Severed (collect (bound + 1) cutter).tokens
      ((source.take stop).drop (cutter.offset + offset)) inner := by
  have cut := collect_of_step (step_of_opening text found) bound
  rcases severs_of_closing? rfl closes with ⟨part, tail, inner, rest, severs⟩
  have stopIs := severs.stop_eq
  refine ⟨inner, ⟨dataTokens (cutter.rest.take offset) strips, rest, ?_⟩, severs.isInner, ?_⟩
  · rw [cut, severs.tokens_eq]
    simp [openingTokens]
  rcases braces_of_opening? (findFirst_eq_some found) with ⟨braces, opened, rfl⟩
  have ahead : (cutter.rest.drop offset).drop (openingLength braces) =
      part ++ '\x7d' :: '\x7d' :: tail := by
    rw [List.drop_drop]
    exact severs.ahead
  rw [opened] at ahead
  rcases opening?_alone ahead with ⟨strips, opensAlone⟩
  have whole := List.take_append_drop (openingLength braces) ('\x7b' :: '\x7b' :: braces)
  have size := List.length_take_of_le (openingLength_pos braces).2
  have least := (openingLength_pos braces).1
  generalize ('\x7b' :: '\x7b' :: braces).take (openingLength braces) = sign at *
  rw [ahead] at whole
  rw [← size] at opensAlone
  have expression : (source.take stop).drop (cutter.offset + offset) =
      sign ++ (part ++ ['\x7d', '\x7d']) := by
    have length : stop - (cutter.offset + offset) =
        (sign ++ (part ++ ['\x7d', '\x7d'])).length := by
      simp only [stopIs, Cutter.advance, List.length_append, List.length_cons, List.length_nil,
        size]
      omega
    have longer : sign ++ (part ++ '\x7d' :: '\x7d' :: tail) =
        (sign ++ (part ++ ['\x7d', '\x7d'])) ++ tail := by simp
    rw [List.drop_take, ← within.drop offset, opened, ← whole, longer, length, List.take_left]
  rw [expression]
  refine severs.collect_start rfl ?_ (by omega) ?_ opensAlone
  · exact within.unclosed (by simp [text]) (by simp [text])
  · have last : offset + openingLength braces - 1 = offset + (sign.length - 1) := by omega
    simp only [Cutter.advance]
    rw [if_neg (by omega), last, ← List.getElem?_drop, opened, ← whole,
      List.getElem?_append_left (by omega), List.getLast?_eq_getElem?]

/-- The tokens of an expression of a template are those of the expression alone. -/
theorem severed_of_mem_spans {source : Text} {bound start stop : Nat} {cutter : Cutter}
    (within : Within source cutter) (member : (start, stop) ∈ spans bound cutter) :
    ∃ inner, Severed (collect bound cutter).tokens ((source.take stop).drop start) inner := by
  induction bound generalizing cutter with
  | zero => cases member
  | succ bound inductionHypothesis =>
    unfold spans at member
    split at member
    next tokens after read =>
      rcases List.mem_append.mp member with here | later
      · rcases Option.bind_eq_some_iff.mp (Option.mem_toList.mp here) with ⟨_, opens, here⟩
        rcases Option.bind_eq_some_iff.mp here with ⟨_, closes, here⟩
        cases here
        unfold opens? at opens
        split at opens
        next text found =>
          cases opens
          rw [step_of_opening text found] at read
          cases read
          exact severed_of_opening within text found closes
        next => cases opens
      · rcases inductionHypothesis (within.step (moves_of_step read)) later with
          ⟨inner, ⟨before, rest, split⟩, isInner, alone⟩
        refine ⟨inner, ⟨tokens ++ before, rest, ?_⟩, isInner, alone⟩
        rw [collect_of_step read, split, List.append_assoc]
    next => cases member

end Cutter

end Template

end HomeConfig
