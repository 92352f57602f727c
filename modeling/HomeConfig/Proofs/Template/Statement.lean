import HomeConfig.Proofs.Template.Expression
import Mathlib.Data.List.Chain
import Mathlib.Data.List.Infix
import Mathlib.Data.List.TakeWhile

/-!
# Statements read print statements whole

A template that is accepted has been read from its first token to its last.  What is read of it at
a sign that opens an expression is the expression up to the sign that closes it, and that is
accepted alone as well.  `Sound` says so of a list of tokens, `Passes` of a reading, for the tokens
it passes.
-/

namespace HomeConfig

namespace Template

/-- The tokens of a template that consists of one expression. -/
def printing (inner : List Token) : List Token :=
  .variableBegin :: inner ++ [.variableEnd]

/-- Tokens in which every expression is closed and is a template of its own. -/
inductive Sound : List Token → Prop
  | nil : Sound []
  | other {token : Token} {rest : List Token} (plain : token ≠ .variableBegin)
      (sound : Sound rest) : Sound (token :: rest)
  | expression {inner rest : List Token} (isInner : ∀ token ∈ inner, token.isInner = true)
      (accepted : accept ⟨printing inner, none⟩ = .ok ()) (sound : Sound rest) :
      Sound (printing inner ++ rest)

theorem Sound.append {first second : List Token} (sound : Sound first) (other : Sound second) :
    Sound (first ++ second) := by
  induction sound with
  | nil => exact other
  | other plain _ inductionHypothesis => exact .other plain inductionHypothesis
  | expression isInner accepted _ inductionHypothesis =>
    rw [List.append_assoc]
    exact .expression isInner accepted inductionHypothesis

theorem Sound.of_inner {tokens : List Token} (isInner : ∀ token ∈ tokens, token.isInner = true) :
    Sound tokens := by
  induction tokens with
  | nil => exact .nil
  | cons token rest inductionHypothesis =>
    refine .other ?_ (inductionHypothesis fun other member => isInner other (.tail _ member))
    rintro rfl
    exact absurd (isInner _ (.head _)) (by decide)

/-! ## The order of tokens -/

/-- Whether no part of a template is open behind a token. -/
def Token.closesPart : Token → Bool
  | .data _ => true
  | .variableEnd => true
  | .blockEnd => true
  | _ => false

/-- Whether a token stands where no part of a template is open. -/
def Token.opensPart : Token → Bool
  | .data _ => true
  | .variableBegin => true
  | .blockBegin => true
  | _ => false

/-- Tokens in an order in which they can be cut: where no part is open, one opens or there is
text. -/
abbrev Ordered (tokens : List Token) : Prop :=
  tokens.IsChain fun token next => token.closesPart = true → next.opensPart = true

/-- Such tokens from a place where no part is open. -/
structure Laid (tokens : List Token) : Prop where
  first : ∀ token ∈ tokens.head?, token.opensPart = true
  ordered : Ordered tokens

theorem Laid.behind {tokens : List Token} {token : Token} {rest : List Token}
    (laid : Laid tokens) (suffix : token :: rest <:+ tokens) (closes : token.closesPart = true) :
    Laid rest := by
  have later : Ordered (token :: rest) := laid.ordered.suffix suffix
  refine ⟨fun next first => ?_, later.tail⟩
  cases rest with
  | nil => cases first
  | cons other rest =>
    cases first
    exact (List.isChain_cons_cons.mp later).1 closes

namespace Reading

variable {α β : Type}

/-- The next token opens no expression. -/
def Plain (state : Progress) : Prop :=
  state.tokens.headD .finish ≠ .variableBegin

theorem plain_of_head {token : Token} (plain : token ≠ .variableBegin) {starts : Progress → Prop} :
    ∀ state : Progress, starts state ∧ state.tokens.headD .finish = token → Plain state := by
  rintro state ⟨_, rfl⟩
  exact plain

/-- Started in such a state, a reading passes sound tokens and ends in such another. -/
def Passes (starts : Progress → Prop) (reading : Reading α) (ends : Progress → Prop) : Prop :=
  ∀ ⦃start value last⦄, starts start → StateT.run reading start = .ok (value, last) →
    (∃ passed, start.tokens = passed ++ last.tokens ∧ Sound passed) ∧ ends last

/-- No condition on a state. -/
def Any (_ : Progress) : Prop :=
  True

namespace Passes

variable {starts between ends : Progress → Prop}

theorem pure (value : α) (holds : ∀ state, starts state → ends state) :
    Passes starts (Pure.pure value) ends := by
  intro start _ last here read
  cases read
  exact ⟨⟨[], rfl, .nil⟩, holds _ here⟩

theorem of_fails {reading : Reading α} (fails : Fails reading) : Passes starts reading ends :=
  fun _ _ _ _ read => absurd read (fails _ _)

theorem refuse (message : String) : Passes starts (refuse message : Reading α) ends :=
  of_fails (.refuse message)

theorem mono {reading : Reading α} (passes : Passes between reading ends)
    (holds : ∀ state, starts state → between state) : Passes starts reading ends :=
  fun _ _ _ here read => passes (holds _ here) read

theorem weaken {reading : Reading α} (passes : Passes Any reading ends) :
    Passes starts reading ends :=
  passes.mono fun _ _ => trivial

theorem bind {first : Reading α} {next : α → Reading β} (passes : Passes starts first between)
    (rest : ∀ value, Passes between (next value) ends) : Passes starts (first >>= next) ends := by
  intro start value last here read
  rcases bind_eq_ok read with ⟨found, middle, got, read⟩
  rcases passes here got with ⟨⟨front, split, sound⟩, holds⟩
  rcases rest found holds read with ⟨⟨back, splits, others⟩, finally_⟩
  exact ⟨⟨front ++ back, by rw [split, splits, List.append_assoc], sound.append others⟩, finally_⟩

theorem current {next : Token → Reading β}
    (rest : ∀ token, Passes (fun state => starts state ∧ state.tokens.headD .finish = token)
      (next token) ends) :
    Passes starts (current >>= next) ends := by
  intro start value last here read
  exact rest _ ⟨here, rfl⟩ read

theorem advance : Passes Plain advance Any := by
  intro start token last plain read
  rcases advance_eq_ok read with ⟨rfl, rfl⟩
  refine ⟨?_, trivial⟩
  unfold Plain at plain
  cases tokens : start.tokens with
  | nil => exact ⟨[], rfl, .nil⟩
  | cons token rest =>
    rw [tokens] at plain
    exact ⟨[token], rfl, .other plain .nil⟩

/-- Remembering something else about the open statements passes nothing. -/
theorem remember {change : Progress → Progress}
    (same : ∀ state, (change state).tokens = state.tokens)
    (plain : ∀ state, starts state → Plain state) :
    Passes starts (modify change : Reading PUnit) Plain := by
  intro start value last here read
  cases read
  refine ⟨⟨[], (same start).symm, .nil⟩, ?_⟩
  rw [Plain, same]
  exact plain _ here

theorem remember_any {change : Progress → Progress}
    (same : ∀ state, (change state).tokens = state.tokens) :
    Passes starts (modify change : Reading PUnit) Any := by
  intro start value last _ read
  cases read
  exact ⟨⟨[], (same start).symm, .nil⟩, trivial⟩

theorem advance_twice {next : Token → Reading β} (rest : ∀ token, Passes Any (next token) ends) :
    Passes (fun state => Plain state ∧ state.tokens.tail.headD .finish ≠ .variableBegin)
      (Reading.advance >>= fun _ => Reading.advance >>= next) ends := by
  intro start value last here read
  rcases bind_eq_ok read with ⟨_, middle, got, read⟩
  rcases advance here.1 got with ⟨⟨front, split, sound⟩, _⟩
  rcases advance_eq_ok got with ⟨_, rfl⟩
  have passes : Passes Plain (Reading.advance >>= next) ends := advance.bind rest
  have stands : Plain { start with tokens := start.tokens.tail } := here.2
  rcases passes stands read with ⟨⟨back, splits, others⟩, finally_⟩
  exact ⟨⟨front ++ back, by rw [split, splits, List.append_assoc], sound.append others⟩, finally_⟩

theorem at? {token : Token} {next : Bool → Reading β}
    (rest : ∀ found, Passes (fun state => starts state ∧
      (found = true → state.tokens.headD .finish = token)) (next found) ends) :
    Passes starts (at? token >>= next) ends := by
  intro start value last here read
  exact rest _ ⟨here, fun same => beq_iff_eq.mp same⟩ read

theorem looksAt {condition : Bool} {token : Token} {next : Bool → Reading β}
    (rest : ∀ found, Passes (fun state => starts state ∧ (found = true →
      condition = true ∧ state.tokens.tail.headD .finish = token)) (next found) ends) :
    Passes starts (looksAt condition token >>= next) ends := by
  intro start value last here read
  unfold Reading.looksAt at read
  cases condition with
  | false => exact rest false ⟨here, nofun⟩ read
  | true =>
    simp only [if_true, bind_assoc, pure_bind] at read
    rcases bind_eq_ok read with ⟨_, middle, got, read⟩
    rcases look_eq_ok got with ⟨rfl, same⟩
    rw [same] at read
    exact rest _ ⟨here, fun same => ⟨rfl, beq_iff_eq.mp same⟩⟩ read

theorem skip {token : Token} (plain : token ≠ .variableBegin) : Passes Any (skip token) Any := by
  unfold Reading.skip
  refine at? fun found => ?_
  cases found with
  | false => exact pure _ fun _ _ => trivial
  | true =>
    have passes : Passes Plain (Reading.advance >>= fun _ => Pure.pure true) Any :=
      advance.bind fun _ => pure true fun _ _ => trivial
    exact passes.mono fun state here => plain_of_head plain state ⟨here.1, here.2 rfl⟩

theorem expect {token : Token} (plain : token ≠ .variableBegin) :
    Passes Any (expect token) Any := by
  unfold Reading.expect
  refine (skip plain).bind fun found => ?_
  cases found with
  | false => exact of_fails (.unexpected _)
  | true => exact pure _ fun _ _ => trivial

theorem expectName : Passes Any expectName Any := by
  unfold Reading.expectName
  refine current fun token => ?_
  cases token with
  | name text =>
    have passes : Passes Plain (Reading.advance >>= fun _ => Pure.pure text) Any :=
      advance.bind fun _ => pure text fun _ _ => trivial
    exact passes.mono (plain_of_head (by simp))
  | _ => exact of_fails (.unexpected _)

theorem atName : Passes Any atName Any := by
  unfold Reading.atName
  exact current fun token => pure _ fun _ _ => trivial

theorem checkTarget (phrase : Phrase) : Passes Any (checkTarget phrase) Any := by
  unfold Reading.checkTarget
  split
  · exact refuse _
  · exact pure _ fun _ _ => trivial

theorem targetName : Passes Any targetName Any := by
  unfold Reading.targetName
  refine expectName.bind fun name => ?_
  exact (checkTarget _).bind fun _ => pure _ fun _ _ => trivial

end Passes

theorem Fails.refuseTag (name : Option String) (endings : List (List String)) :
    Fails (refuseTag name endings : Reading α) := by
  unfold Reading.refuseTag
  exact .after (fun _ => .refuse _) _

theorem outer_dropWhile (tokens : List Token) :
    ∀ token ∈ (tokens.dropWhile Token.isInner).head?, token.isInner = false := by
  intro token first
  have outer := List.head?_dropWhile_not Token.isInner tokens
  rw [Option.mem_def.mp first] at outer
  exact outer

/-- A reading that keeps to the tokens of an expression passes only such. -/
theorem Keeps.passes {need gain : Nat} {first : Reading α} {second : (bound : Nat) → Reading α}
    (keeps : ∀ behind, Keeps behind need gain first second) : Passes Any first Any := by
  intro start value last _ read
  generalize frontIs : start.tokens.takeWhile Token.isInner = front
  generalize behindIs : start.tokens.dropWhile Token.isInner = behind
  have split : start.tokens = front ++ behind := by
    rw [← frontIs, ← behindIs, List.takeWhile_append_dropWhile]
  have facing : Facing behind front start ⟨front ++ behind.take 1, none, [], []⟩ :=
    ⟨split, rfl, rfl, behindIs ▸ outer_dropWhile start.tokens⟩
  rcases keeps behind (Nat.le_add_right front.length gain) le_rfl facing read with
    ⟨left, _, _, after, ⟨passed, shorter⟩, _⟩
  refine ⟨⟨passed, ?_, ?_⟩, trivial⟩
  · rw [split, ← shorter, after.whole_eq, List.append_assoc]
  · refine .of_inner fun token member => ?_
    have among : token ∈ start.tokens.takeWhile Token.isInner := by
      rw [frontIs, ← shorter]
      exact List.mem_append_left _ member
    exact List.mem_takeWhile_imp among

/-! ## Parts of statements -/

theorem passes_conditional (depth : Nat) : Passes Any (conditional depth) Any :=
  Keeps.passes fun behind => (alike behind depth).conditional

theorem passes_tuple (depth : Nat) (simple conditioned namespaced bracketed : Bool) :
    Passes Any (tuple depth simple conditioned namespaced bracketed) Any :=
  Keeps.passes fun behind => (alike behind depth).tuple simple conditioned namespaced bracketed

theorem passes_filterChain (depth : Nat) (inline : Bool) :
    Passes Any (filterChain depth inline) Any := by
  cases inline with
  | false => exact Keeps.passes fun behind => (alike behind depth).chain
  | true => exact Keeps.passes fun behind => (alike behind depth).inlineFilters

theorem passes_target (depth : Nat) (namespaced : Bool) :
    Passes Any (target depth namespaced) Any :=
  (passes_tuple depth _ _ _ _).bind fun phrase => .checkTarget phrase

theorem Passes.done {starts : Progress → Prop} (value : α) :
    Passes starts (Pure.pure value) Any :=
  .pure value fun _ _ => trivial

theorem passes_parametersFrom (depth : Nat) (first defaults : Bool) :
    Passes Any (parametersFrom depth first defaults) Any := by
  induction depth generalizing first defaults with
  | zero => exact .refuse _
  | succ depth inductionHypothesis =>
    have parameter : Passes Any (targetName >>= fun _ => skip (.operator "=") >>= fun given =>
        if given then conditional depth >>= fun _ => parametersFrom depth false true
        else if defaults then refuse "non-default argument follows default argument"
        else parametersFrom depth false defaults) Any := by
      refine Passes.targetName.bind fun _ => .bind (.skip nofun) fun given => ?_
      cases given with
      | true => exact (passes_conditional depth).bind fun _ => inductionHypothesis false true
      | false =>
        cases defaults with
        | true => exact .refuse _
        | false => exact inductionHypothesis false false
    simp only [parametersFrom]
    refine .bind (.skip nofun) fun closes => ?_
    cases closes with
    | true => exact .done _
    | false =>
      cases first with
      | true => exact parameter
      | false => exact .bind (.expect nofun) fun _ => parameter

theorem passes_parameters (depth : Nat) : Passes Any (parameters depth) Any :=
  .bind (.expect nofun) fun _ => passes_parametersFrom depth true false

theorem passes_contextChoice : Passes Any contextChoice Any := by
  unfold contextChoice
  refine .current fun token => .looksAt fun found => ?_
  cases found with
  | false => exact .done _
  | true =>
    intro start value last here read
    refine (Passes.advance_twice fun _ => .done true) ⟨?_, ?_⟩ read
    · rw [Plain, here.1.2]
      rintro rfl
      cases (here.2 rfl).1
    · rw [(here.2 rfl).2]
      exact nofun

theorem passes_contextWord : Passes Any contextWord Any := by
  unfold contextWord
  refine Passes.atName.bind fun found => ?_
  cases found with
  | false => exact .done _
  | true => exact passes_contextChoice.bind fun _ => .done _

/-- What follows an imported name. -/
def importEnd (bound : Nat) : Reading Unit := do
  if ← contextChoice then return
  if ← atSign "," then importNames bound false

/-- An imported name and what follows it. -/
def importName (bound : Nat) : Reading Unit := do
  let name ← targetName
  if name.startsWith "_" then
    refuse "names starting with an underline can not be imported"
  if ← skip (.name "as") then
    let _ ← targetName
  importEnd bound

theorem importNames_eq (bound : Nat) (first : Bool) :
    importNames (bound + 1) first = (do
      if !first then expectSign ","
      if ← atName then
        if ← contextChoice then return
        importName bound
      else
        let _ ← expectName) := by
  simp only [importNames, importName, importEnd]

theorem passes_importNames (depth : Nat) (first : Bool) :
    Passes Any (importNames depth first) Any := by
  induction depth generalizing first with
  | zero => exact .refuse _
  | succ depth inductionHypothesis =>
    have importEnd : Passes Any (importEnd depth) Any := by
      refine passes_contextChoice.bind fun chosen => ?_
      cases chosen with
      | true => exact .done _
      | false =>
        refine .at? fun found => .weaken ?_
        cases found with
        | true => exact inductionHypothesis false
        | false => exact .done _
    have importName : Passes Any (importName depth) Any := by
      refine Passes.targetName.bind fun name => ?_
      split
      · exact .of_fails (.before (.refuse _) _)
      refine .bind (.skip nofun) fun renamed => ?_
      cases renamed with
      | true => exact Passes.targetName.bind fun _ => importEnd
      | false => exact importEnd
    have item : Passes Any (atName >>= fun found =>
        if found then contextChoice >>= fun chosen =>
          if chosen then pure () else Reading.importName depth
        else expectName >>= fun _ => pure ()) Any := by
      refine Passes.atName.bind fun found => ?_
      cases found with
      | false => exact Passes.expectName.bind fun _ => .done _
      | true =>
        refine passes_contextChoice.bind fun chosen => ?_
        cases chosen with
        | true => exact .done _
        | false => exact importName
    rw [importNames_eq]
    cases first with
    | true => exact item
    | false => exact .bind (.expect nofun) fun _ => item

theorem passes_assignments (depth : Nat) (first : Bool) :
    Passes Any (assignments depth first) Any := by
  induction depth generalizing first with
  | zero => exact .refuse _
  | succ depth inductionHypothesis =>
    have assignment : Passes Any (target depth false >>= fun _ => expectSign "=" >>= fun _ =>
        conditional depth >>= fun _ => assignments depth false) Any :=
      (passes_target depth false).bind fun _ => .bind (.expect nofun) fun _ =>
        (passes_conditional depth).bind fun _ => inductionHypothesis false
    simp only [assignments]
    refine .at? fun ends => .weaken ?_
    cases ends with
    | true => exact .done _
    | false =>
      cases first with
      | true => exact assignment
      | false => exact .bind (.expect nofun) fun _ => assignment

theorem passes_printed (depth : Nat) (first : Bool) : Passes Any (printed depth first) Any := by
  induction depth generalizing first with
  | zero => exact .refuse _
  | succ depth inductionHypothesis =>
    have item : Passes Any (conditional depth >>= fun _ => printed depth false) Any :=
      (passes_conditional depth).bind fun _ => inductionHypothesis false
    simp only [printed]
    refine .at? fun ends => .weaken ?_
    cases ends with
    | true => exact .done _
    | false =>
      cases first with
      | true => exact item
      | false => exact .bind (.expect nofun) fun _ => item

/-! ## Statements -/

/-- An expression with both of its signs. -/
def expression (depth : Nat) : Reading Unit := do
  let _ ← advance
  let _ ← tuple depth false true false false
  expect .variableEnd

theorem run_body_of_empty (depth : Nat) (endings : List String) {start : Progress}
    (empty : start.tokens = []) :
    StateT.run (body (depth + 1) endings) start = .ok (true, start) := by
  rw [body, run_bind_of_ok _ (run_current start), empty]
  rfl

/-- An expression that is read up to its closing sign is accepted on its own. -/
theorem accept_printing {inner behind : List Token} {depth : Nat} {start last : Progress}
    {phrase : Phrase} (split : start.tokens = inner ++ behind)
    (isInner : ∀ token ∈ inner, token.isInner = true)
    (outer : ∀ token ∈ behind.head?, token.isInner = false)
    (read : StateT.run (tuple depth false true false false) start = .ok (phrase, last))
    (closed : last.tokens.headD .finish = .variableEnd) :
    accept ⟨printing inner, none⟩ = .ok () ∧ last.tokens = behind := by
  have facing : Facing behind inner start ⟨inner ++ behind.take 1, none, [], []⟩ :=
    ⟨split, rfl, rfl, outer⟩
  have keeps := (alike behind depth).tuple false true false false
  have deep : 24 * inner.length + 13 ≤ 24 * inner.length + 95 := by omega
  rcases keeps (Nat.le_add_right inner.length 0) deep facing read with
    ⟨left, other, readAlone, after, suffix, _⟩
  rw [after.whole_eq] at closed
  -- The closing sign is no inner token, so none of these is left in front of it.
  obtain rfl : left = [] := by
    cases left with
    | nil => rfl
    | cons token left =>
      obtain rfl : token = .variableEnd := closed
      exact absurd (isInner _ (suffix.subset (.head _))) (by decide)
  cases behind with
  | nil => cases closed
  | cons token behind =>
    obtain rfl : token = .variableEnd := closed
    refine ⟨?_, after.whole_eq⟩
    have opens : StateT.run advance ⟨printing inner, none, [], []⟩ =
        .ok (.variableBegin, ⟨inner ++ [.variableEnd], none, [], []⟩) :=
      run_advance rfl
    have stands : other.tokens.headD .finish = .variableEnd := by
      rw [after.alone_eq]
      rfl
    have closes := run_expect after.clear stands
    simp only [List.take_succ_cons, List.take_zero] at readAlone
    have ends : StateT.run (body (24 * inner.length + 95) [])
        { other with tokens := other.tokens.tail } =
          .ok (true, { other with tokens := other.tokens.tail }) :=
      run_body_of_empty _ _ (by rw [after.alone_eq]; rfl)
    have whole : StateT.run (body (24 * inner.length + 96) []) ⟨printing inner, none, [], []⟩ =
        .ok (false, { other with tokens := other.tokens.tail }) := by
      rw [body, run_bind_of_ok _ (run_current _)]
      change StateT.run (advance >>= fun _ => _) _ = _
      rw [run_bind_of_ok _ opens, run_bind_of_ok _ readAlone, run_bind_of_ok _ closes,
        run_bind_of_ok _ ends]
      rfl
    have size : 24 * (printing inner).length + 48 = 24 * inner.length + 96 := by
      simp only [printing, List.length_append, List.length_cons, List.length_nil]
      omega
    unfold accept
    dsimp only
    rw [size, run_bind_of_ok _ (run_meet rfl _), run_bind_of_ok _ whole]
    rfl

theorem passes_expression (depth : Nat) :
    Passes (fun state => state.tokens.headD .finish = .variableBegin) (expression depth) Any := by
  intro start value last opened read
  rcases bind_eq_ok read with ⟨_, inside, got, read⟩
  rcases advance_eq_ok got with ⟨_, rfl⟩
  rcases bind_eq_ok read with ⟨phrase, closing, got, read⟩
  rcases expect_eq_ok read with ⟨closed, rfl⟩
  cases tokens : start.tokens with
  | nil => simp [tokens] at opened
  | cons token rest =>
    obtain rfl : token = .variableBegin := by simpa [tokens] using opened
    rw [tokens, List.tail_cons] at got
    have split : rest = rest.takeWhile Token.isInner ++ rest.dropWhile Token.isInner :=
      List.takeWhile_append_dropWhile.symm
    rcases accept_printing split (fun _ => List.mem_takeWhile_imp) (outer_dropWhile rest) got
      closed with ⟨accepted, left⟩
    rw [left] at closed ⊢
    cases behind : rest.dropWhile Token.isInner with
    | nil => simp [behind] at closed
    | cons token behind =>
      obtain rfl : token = .variableEnd := by simpa [behind] using closed
      refine ⟨⟨printing (rest.takeWhile Token.isInner), ?_, ?_⟩, trivial⟩
      · rw [behind] at split
        simp [printing, ← split]
      · have sound := Sound.expression (fun _ => List.mem_takeWhile_imp) accepted .nil
        rwa [List.append_nil] at sound

/-- What all readings of statements do that go no deeper than `depth`. -/
structure Passing (depth : Nat) : Prop where
  body : ∀ endings, Passes Any (body depth endings) Plain
  enclosed : ∀ endings, Passes Any (enclosed depth endings) Plain
  enclosedUntil : ∀ ending, Passes Any (enclosedUntil depth ending) Any
  branches : Passes Any (branches depth) Any
  statement : Passes Any (statement depth) Any
  statementOf : ∀ tag, Passes Plain (statementOf depth tag) Any

theorem passing_zero : Passing 0 := by
  constructor <;> intros <;> exact .refuse _

section Deeper

variable {depth : Nat} (passing : Passing depth)

include passing

namespace Passing

theorem body_succ (endings : List String) :
    Passes Any (Reading.body (depth + 1) endings) Plain := by
  have rest (value : Bool → Bool) :
      Passes Any (Reading.body depth endings >>= fun blank => pure (value blank)) Plain :=
    (passing.body endings).bind fun _ => .pure _ fun _ => id
  simp only [Reading.body]
  refine .current fun token => ?_
  split
  next text => exact .bind (Passes.advance.mono (plain_of_head (by simp))) fun _ => rest _
  next =>
    have whole : (Reading.advance >>= fun _ => tuple depth false true false false >>= fun _ =>
        expect .variableEnd >>= fun _ => Reading.body depth endings >>= fun _ => pure false) =
          (expression depth >>= fun _ => Reading.body depth endings >>= fun _ => pure false) := by
      simp only [expression, bind_assoc]
    rw [whole]
    exact .bind ((passes_expression depth).mono fun _ => And.right) fun _ => rest fun _ => false
  next =>
    refine .bind (Passes.advance.mono (plain_of_head (by simp))) fun _ => .current fun token => ?_
    cases token with
    | name word =>
      dsimp only
      split
      · exact .pure _ (plain_of_head (by simp))
      · refine .weaken (passing.statement.bind fun _ => ?_)
        exact .bind (.expect nofun) fun _ => rest fun _ => false
    | _ =>
      refine .weaken (passing.statement.bind fun _ => ?_)
      exact .bind (.expect nofun) fun _ => rest fun _ => false
  next _ notExpression _ => exact .pure _ (plain_of_head notExpression)

theorem enclosed_succ (endings : List String) :
    Passes Any (Reading.enclosed (depth + 1) endings) Plain := by
  simp only [Reading.enclosed]
  refine .bind (.skip nofun) fun _ => .bind (.expect nofun) fun _ => ?_
  refine .bind (.remember_any fun _ => rfl) fun _ => ?_
  refine (passing.body endings).bind fun blank => ?_
  refine .bind (.remember (fun _ => rfl) fun _ => id) fun _ => ?_
  refine .at? fun atEnd => ?_
  cases atEnd with
  | true => exact .of_fails (.after (fun _ => .before (.refuseTag _ _) _) _)
  | false => exact .pure _ fun _ => And.left

theorem enclosedUntil_succ (ending : String) :
    Passes Any (Reading.enclosedUntil (depth + 1) ending) Any := by
  simp only [Reading.enclosedUntil]
  refine (passing.enclosed _).bind fun blank => ?_
  exact Passes.advance.bind fun _ => .done _

theorem branches_succ : Passes Any (Reading.branches (depth + 1)) Any := by
  simp only [Reading.branches]
  refine (passes_tuple depth _ _ _ _).bind fun _ => ?_
  refine (passing.enclosed _).bind fun _ => ?_
  refine Passes.advance.bind fun token => ?_
  split
  · exact passing.branches
  · exact (passing.enclosedUntil _).bind fun _ => .done _
  · exact .done _

theorem statement_succ : Passes Any (Reading.statement (depth + 1)) Any := by
  simp only [Reading.statement]
  refine .current fun token => ?_
  cases token with
  | name tag =>
    refine .bind (.remember (fun _ => rfl) (plain_of_head (by simp))) fun _ => ?_
    refine (passing.statementOf tag).bind fun _ => ?_
    exact .remember_any fun _ => rfl
  | _ => exact .refuse _

/-- What is looped over may be read again, and there may be something for when it is empty. -/
theorem loop : Passes Any (skip (.name "recursive") >>= fun _ =>
    Reading.enclosed depth ["endfor", "else"] >>= fun _ => advance >>= fun tag =>
      if tag != .name "endfor" then
        Reading.enclosedUntil depth "endfor" >>= fun _ => pure ()
      else pure ()) Any := by
  refine .bind (.skip nofun) fun _ => (passing.enclosed _).bind fun _ => ?_
  refine Passes.advance.bind fun _ => ?_
  split
  · exact (passing.enclosedUntil _).bind fun _ => .done _
  · exact .done _

/-- What is called has to be a call. -/
theorem called : Passes Any (conditional depth >>= fun phrase =>
    if phrase.kind ≠ "call" then refuse "expected call" >>= fun (_ : Unit) =>
      Reading.enclosedUntil depth "endcall" >>= fun _ => pure ()
    else Reading.enclosedUntil depth "endcall" >>= fun _ => pure ()) Any := by
  refine (passes_conditional depth).bind fun phrase => ?_
  split
  · exact .of_fails (.before (.refuse _) _)
  · exact (passing.enclosedUntil _).bind fun _ => .done _

/-- One case for each tag, in the order of the grammar. -/
theorem statementOf_succ (tag : String) :
    Passes Plain (Reading.statementOf (depth + 1) tag) Any := by
  simp only [Reading.statementOf]
  split
  next => -- `for`
    refine Passes.advance.bind fun _ => ?_
    refine (passes_target depth _).bind fun _ => ?_
    refine .bind (.expect nofun) fun _ => ?_
    refine (passes_tuple depth _ _ _ _).bind fun _ => ?_
    refine .bind (.skip nofun) fun filtered => ?_
    cases filtered with
    | true => exact (passes_conditional depth).bind fun _ => passing.loop
    | false => exact passing.loop
  next => -- `if`
    exact Passes.advance.bind fun _ => passing.branches
  next => -- `block`
    refine Passes.advance.bind fun _ => ?_
    refine Passes.expectName.bind fun name => ?_
    refine .bind (.skip nofun) fun _ => ?_
    refine .bind (.skip nofun) fun required => ?_
    refine .at? fun hyphen => .weaken ?_
    cases hyphen with
    | true => exact .of_fails (.before (.refuse _) _)
    | false =>
      refine (passing.enclosedUntil _).bind fun blank => ?_
      split
      · exact .of_fails (.before (.refuse _) _)
      · exact .bind (.skip (by simp)) fun _ => .done _
  next => -- `extends`
    exact Passes.advance.bind fun _ => (passes_conditional depth).bind fun _ => .done _
  next => -- `print`
    exact Passes.advance.bind fun _ => passes_printed depth true
  next => -- `macro`
    refine Passes.advance.bind fun _ => Passes.targetName.bind fun _ => ?_
    refine (passes_parameters depth).bind fun _ => ?_
    exact (passing.enclosedUntil _).bind fun _ => .done _
  next => -- `include`
    refine Passes.advance.bind fun _ => (passes_conditional depth).bind fun _ => ?_
    refine .at? fun ignores => .looksAt fun found => ?_
    cases found with
    | false => exact passes_contextWord.weaken
    | true =>
      refine (Passes.advance_twice fun _ => passes_contextWord).mono fun state here => ⟨?_, ?_⟩
      · rw [Plain, here.1.2 (here.2 rfl).1]
        exact nofun
      · rw [(here.2 rfl).2]
        exact nofun
  next => -- `from`
    refine Passes.advance.bind fun _ => (passes_conditional depth).bind fun _ => ?_
    exact .bind (.expect nofun) fun _ => passes_importNames depth true
  next => -- `import`
    refine Passes.advance.bind fun _ => (passes_conditional depth).bind fun _ => ?_
    refine .bind (.expect nofun) fun _ => Passes.targetName.bind fun _ => ?_
    exact passes_contextWord
  next => -- `set`
    refine Passes.advance.bind fun _ => (passes_target depth _).bind fun _ => ?_
    refine .bind (.skip nofun) fun given => ?_
    cases given with
    | true => exact (passes_tuple depth _ _ _ _).bind fun _ => .done _
    | false =>
      refine (passes_filterChain depth _).bind fun _ => ?_
      exact (passing.enclosedUntil _).bind fun _ => .done _
  next => -- `with`
    refine Passes.advance.bind fun _ => (passes_assignments depth true).bind fun _ => ?_
    exact (passing.enclosedUntil _).bind fun _ => .done _
  next => -- `autoescape`
    refine Passes.advance.bind fun _ => (passes_conditional depth).bind fun _ => ?_
    exact (passing.enclosedUntil _).bind fun _ => .done _
  next => -- `call`
    refine Passes.advance.bind fun _ => ?_
    refine .at? fun parameters => .weaken ?_
    cases parameters with
    | true => exact (passes_parameters depth).bind fun _ => passing.called
    | false => exact passing.called
  next => -- `filter`
    refine Passes.advance.bind fun _ => (passes_filterChain depth true).bind fun _ => ?_
    exact (passing.enclosedUntil _).bind fun _ => .done _
  next => -- any other tag
    exact .of_fails (.after (fun _ => .after (fun _ => .refuseTag _ _) _) _)

theorem succ : Passing (depth + 1) where
  body := passing.body_succ
  enclosed := passing.enclosed_succ
  enclosedUntil := passing.enclosedUntil_succ
  branches := passing.branches_succ
  statement := passing.statement_succ
  statementOf := passing.statementOf_succ

end Passing

end Deeper

theorem passing (depth : Nat) : Passing depth := by
  induction depth with
  | zero => exact passing_zero
  | succ depth inductionHypothesis => exact inductionHypothesis.succ

/-! ## Whole templates -/

theorem laid_of_expect {tokens : List Token} {inside last : Progress} {token : Token}
    {value : Unit} (laid : Laid tokens) (suffix : inside.tokens <:+ tokens)
    (closes : token.closesPart = true)
    (read : StateT.run (expect token) inside = .ok (value, last)) : Laid last.tokens := by
  rcases expect_eq_ok read with ⟨stands, rfl⟩
  cases left : inside.tokens with
  | nil =>
    rw [left] at stands
    cases stands
    cases closes
  | cons other rest =>
    rw [left] at stands suffix
    cases stands
    exact laid.behind suffix closes

theorem Passes.suffix {starts ends : Progress → Prop} {reading : Reading α} {start last : Progress}
    {value : α} (passes : Passes starts reading ends) (here : starts start)
    (read : StateT.run reading start = .ok (value, last)) : last.tokens <:+ start.tokens := by
  rcases passes here read with ⟨⟨passed, split, _⟩, _⟩
  exact ⟨passed, split.symm⟩

/-- Outside all statements, a reading goes on to the last token. -/
theorem tokens_eq_nil_of_body {depth : Nat} {start last : Progress} {blank : Bool}
    (laid : Laid start.tokens) (read : StateT.run (body depth []) start = .ok (blank, last)) :
    last.tokens = [] := by
  induction depth generalizing start last blank with
  | zero => cases read
  | succ depth inductionHypothesis =>
    simp only [body] at read
    rw [run_bind_of_ok _ (run_current start)] at read
    cases tokens : start.tokens with
    | nil =>
      rw [tokens] at read
      cases read
      exact tokens
    | cons token rest =>
      have opens := laid.first token (by rw [tokens]; rfl)
      rw [tokens, List.headD_cons] at read
      cases token with
      | data text =>
        rcases bind_eq_ok read with ⟨_, _, got, read⟩
        rcases advance_eq_ok got with ⟨_, rfl⟩
        rcases bind_eq_ok read with ⟨_, _, got, read⟩
        cases read
        have suffix : .data text :: rest <:+ start.tokens := by rw [tokens]
        refine inductionHypothesis ?_ got
        rw [tokens]
        exact laid.behind suffix rfl
      | variableBegin =>
        rcases bind_eq_ok read with ⟨_, _, got, read⟩
        rcases advance_eq_ok got with ⟨_, rfl⟩
        rcases bind_eq_ok read with ⟨_, inside, got, read⟩
        have suffix := (passes_tuple depth _ _ _ _).suffix trivial got
        rcases bind_eq_ok read with ⟨_, outside, closed, read⟩
        rcases bind_eq_ok read with ⟨_, _, got, read⟩
        cases read
        exact inductionHypothesis
          (laid_of_expect laid (suffix.trans (List.tail_suffix _)) rfl closed) got
      | blockBegin =>
        rcases bind_eq_ok read with ⟨_, _, got, read⟩
        rcases advance_eq_ok got with ⟨_, rfl⟩
        rcases bind_eq_ok read with ⟨tag, inside, got, read⟩
        cases got
        rw [if_neg (by split <;> simp)] at read
        rcases bind_eq_ok read with ⟨_, inside, got, read⟩
        have suffix := (passing depth).statement.suffix trivial got
        rcases bind_eq_ok read with ⟨_, outside, closed, read⟩
        rcases bind_eq_ok read with ⟨_, _, got, read⟩
        cases read
        exact inductionHypothesis
          (laid_of_expect laid (suffix.trans (List.tail_suffix _)) rfl closed) got
      | _ => cases opens

end Reading

open Reading

/-- All expressions of an accepted template are accepted. -/
theorem sound_of_accept {stream : TokenStream} (laid : Laid stream.tokens)
    (accepted : accept stream = .ok ()) : Sound stream.tokens := by
  unfold accept at accepted
  dsimp only at accepted
  generalize depthIs : 24 * stream.tokens.length + 48 = depth at accepted
  cases read : StateT.run (meet stream.tokens >>= fun _ => body depth [] >>= fun _ => pure ())
      ⟨stream.tokens, stream.failure, [], []⟩ with
  | error failure =>
    rw [read] at accepted
    cases accepted
  | ok result =>
    rcases bind_eq_ok read with ⟨_, _, met, read⟩
    obtain rfl := meet_eq_ok met
    rcases bind_eq_ok read with ⟨blank, last, got, _⟩
    rcases (passing depth).body [] trivial got with ⟨⟨passed, split, sound⟩, _⟩
    rw [tokens_eq_nil_of_body laid got, List.append_nil] at split
    rwa [← split] at sound

theorem takeWhile_printing {inner : List Token} (isInner : ∀ token ∈ inner, token.isInner = true)
    (rest : List Token) : (inner ++ .variableEnd :: rest).takeWhile Token.isInner = inner := by
  rw [List.takeWhile_append_of_pos isInner]
  simp [Token.isInner]

/-- An expression that stands among sound tokens is accepted. -/
theorem Sound.accept_of_split {before inner rest tokens : List Token} (sound : Sound tokens)
    (isInner : ∀ token ∈ inner, token.isInner = true)
    (split : tokens = before ++ .variableBegin :: (inner ++ .variableEnd :: rest)) :
    accept ⟨printing inner, none⟩ = .ok () := by
  induction sound generalizing before with
  | nil => simp at split
  | other plain _ inductionHypothesis =>
    cases before with
    | nil =>
      cases split
      exact absurd rfl plain
    | cons first before =>
      cases split
      exact inductionHypothesis rfl
  | @expression other tokens othersInner accepted _ inductionHypothesis =>
    have expands : printing other ++ tokens =
        .variableBegin :: (other ++ .variableEnd :: tokens) := by
      simp [printing]
    rw [expands] at split
    cases before with
    | nil =>
      have same := congrArg (List.takeWhile Token.isInner) (List.cons.inj split).2
      rw [takeWhile_printing isInner, takeWhile_printing othersInner] at same
      rwa [← same]
    | cons first before =>
      rcases List.append_eq_append_iff.mp (List.cons.inj split).2 with
        ⟨middle, rfl, shape⟩ | ⟨middle, rfl, shape⟩
      · cases middle with
        | nil => cases shape
        | cons token middle =>
          cases shape
          exact inductionHypothesis rfl
      · cases middle with
        | nil => cases shape
        | cons token middle =>
          obtain rfl := (List.cons.inj shape).1
          exact absurd (othersInner .variableBegin (by simp)) (by decide)

end Template

end HomeConfig
