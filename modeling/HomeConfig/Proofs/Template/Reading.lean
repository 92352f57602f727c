import HomeConfig.Template.Grammar

/-!
# Reading a part of the tokens alone

An expression is read in a template with whatever stands behind it, and it is read alone.  Both
readings do the same, step by step, because no step looks further than one token, and the token
behind an expression is no part of any.

`Follows` relates a reading of the whole to one of the part: as far as the first one succeeds, the
second one does the same.  A reading is bounded by how deep it may recurse, so the two are not the
same function; what relates them is how many tokens are left.  Each step has one rule here.
-/

namespace HomeConfig

namespace Template

/-- Whether a token stands inside an expression or a statement. -/
def Token.isInner : Token → Bool
  | .name _ => true
  | .string _ => true
  | .integer => true
  | .float => true
  | .operator _ => true
  | _ => false

namespace Reading

variable {α β : Type}

/-! ## Steps that succeed -/

theorem bind_eq_ok {first : Reading α} {next : α → Reading β} {start last : Progress} {value : β}
    (read : StateT.run (first >>= next) start = .ok (value, last)) :
    ∃ found between, StateT.run first start = .ok (found, between) ∧
      StateT.run (next found) between = .ok (value, last) := by
  rw [StateT.run_bind] at read
  cases got : StateT.run first start with
  | error failure =>
    rw [got] at read
    cases read
  | ok result =>
    rw [got] at read
    exact ⟨result.1, result.2, rfl, read⟩

theorem run_bind_of_ok {first : Reading α} {start between : Progress} {found : α}
    (next : α → Reading β) (got : StateT.run first start = .ok (found, between)) :
    StateT.run (first >>= next) start = StateT.run (next found) between := by
  rw [StateT.run_bind, got]
  rfl

theorem run_get (start : Progress) :
    StateT.run get start = (.ok (start, start) : Except Failure (Progress × Progress)) :=
  rfl

theorem run_current (start : Progress) :
    StateT.run current start = .ok (start.tokens.headD .finish, start) :=
  rfl

theorem meet_eq_ok {tokens : List Token} {start last : Progress}
    (read : StateT.run (meet tokens) start = .ok ((), last)) : last = start := by
  rcases bind_eq_ok read with ⟨_, _, here, got⟩
  cases here
  split at got <;> cases got
  rfl

theorem run_meet {start : Progress} (clear : start.failure = none) (tokens : List Token) :
    StateT.run (meet tokens) start = .ok ((), start) := by
  rw [meet, run_bind_of_ok _ (run_get start), clear]
  cases tokens <;> rfl

theorem look_eq_ok {start last : Progress} {token : Token}
    (read : StateT.run look start = .ok (token, last)) :
    token = start.tokens.tail.headD .finish ∧ last = start := by
  rcases bind_eq_ok read with ⟨_, _, here, read⟩
  cases here
  rcases bind_eq_ok read with ⟨_, between, got, read⟩
  obtain rfl := meet_eq_ok got
  cases read
  exact ⟨rfl, rfl⟩

theorem run_look {start : Progress} (clear : start.failure = none) :
    StateT.run look start = .ok (start.tokens.tail.headD .finish, start) := by
  rw [look, run_bind_of_ok _ (run_get start), run_bind_of_ok _ (run_meet clear _)]
  rfl

theorem advance_eq_ok {start last : Progress} {token : Token}
    (read : StateT.run advance start = .ok (token, last)) :
    token = start.tokens.headD .finish ∧ last = { start with tokens := start.tokens.tail } := by
  rcases bind_eq_ok read with ⟨_, _, got, read⟩
  cases got
  rcases bind_eq_ok read with ⟨_, _, got, read⟩
  cases got
  rcases bind_eq_ok read with ⟨_, between, got, read⟩
  obtain rfl := meet_eq_ok got
  cases read
  exact ⟨rfl, rfl⟩

theorem run_advance {start : Progress} (clear : start.failure = none) :
    StateT.run advance start =
      .ok (start.tokens.headD .finish, { start with tokens := start.tokens.tail }) := by
  rw [advance, run_bind_of_ok _ (run_current start), run_bind_of_ok _ (run_get start),
    run_bind_of_ok _ (run_meet clear _)]
  rfl

/-! ## Steps that cannot succeed -/

/-- A reading that succeeds nowhere. -/
def Fails (reading : Reading α) : Prop :=
  ∀ start result, StateT.run reading start ≠ .ok result

theorem Fails.refuse (message : String) : Fails (refuse message : Reading α) := by
  intro start result read
  cases read

theorem Fails.before {first : Reading α} (fails : Fails first) (next : α → Reading β) :
    Fails (first >>= next) := by
  intro start result read
  rcases bind_eq_ok read with ⟨found, between, got, _⟩
  exact fails start _ got

theorem Fails.after {next : α → Reading β} (fails : ∀ found, Fails (next found))
    (first : Reading α) : Fails (first >>= next) := by
  intro start result read
  rcases bind_eq_ok read with ⟨found, between, _, read⟩
  exact fails found between _ read

theorem Fails.unexpected (expected : String) : Fails (unexpected expected : Reading α) := by
  refine .after (fun token => ?_) _
  cases token <;> exact .refuse _

theorem run_expect {token : Token} {start : Progress} (clear : start.failure = none)
    (stands : start.tokens.headD .finish = token) :
    StateT.run (expect token) start = .ok ((), { start with tokens := start.tokens.tail }) := by
  have found : StateT.run (at? token) start = .ok (true, start) := by
    rw [at?, run_bind_of_ok _ (run_current start), stands, beq_self_eq_true]
    rfl
  have skipped : StateT.run (skip token) start =
      .ok (true, { start with tokens := start.tokens.tail }) := by
    rw [skip, run_bind_of_ok _ found, if_pos rfl, run_bind_of_ok _ (run_advance clear)]
    rfl
  rw [expect, run_bind_of_ok _ skipped]
  rfl

theorem expect_eq_ok {token : Token} {start last : Progress} {value : Unit}
    (read : StateT.run (expect token) start = .ok (value, last)) :
    start.tokens.headD .finish = token ∧ last = { start with tokens := start.tokens.tail } := by
  rcases bind_eq_ok read with ⟨found, between, got, read⟩
  rcases bind_eq_ok got with ⟨stands, here, asked, got⟩
  cases asked
  split at got
  next same =>
    rcases bind_eq_ok got with ⟨_, moved, passed, got⟩
    rcases advance_eq_ok passed with ⟨_, rfl⟩
    cases got
    cases read
    exact ⟨beq_iff_eq.mp same, rfl⟩
  next =>
    cases got
    exact absurd read (Fails.unexpected _ _ _)

/-! ## Two states side by side -/

/-- Two states with the same tokens in front.  Behind them stands something that no expression
contains; the second state has only the first token of it, and no failure. -/
structure Facing (behind front : List Token) (whole alone : Progress) : Prop where
  whole_eq : whole.tokens = front ++ behind
  alone_eq : alone.tokens = front ++ behind.take 1
  clear : alone.failure = none
  outer : ∀ token ∈ behind.head?, token.isInner = false

variable {behind front : List Token}

theorem Facing.head_eq {whole alone : Progress} (facing : Facing behind front whole alone) :
    alone.tokens.headD .finish = whole.tokens.headD .finish := by
  rw [facing.whole_eq, facing.alone_eq]
  cases front <;> cases behind <;> rfl

theorem Facing.stands {whole alone : Progress} (facing : Facing behind front whole alone)
    (inner : (whole.tokens.headD .finish).isInner = true) :
    front.head? = some (whole.tokens.headD .finish) := by
  rw [facing.whole_eq] at inner ⊢
  cases front with
  | cons token front => rfl
  | nil =>
    cases behind with
    | nil => cases inner
    | cons token behind => exact absurd inner (by simp [facing.outer token rfl])

theorem Facing.tail {token : Token} {whole alone : Progress}
    (facing : Facing behind (token :: front) whole alone) :
    Facing behind front { whole with tokens := whole.tokens.tail }
      { alone with tokens := alone.tokens.tail } :=
  ⟨by rw [facing.whole_eq]; rfl, by rw [facing.alone_eq]; rfl, facing.clear, facing.outer⟩

theorem length_pos_of_stands {token : Token} (stands : front.head? = some token) :
    0 < front.length := by
  cases front with
  | nil => cases stands
  | cons token front => exact Nat.succ_pos _

/-- The second reading does alone what the first one does on the whole, as far as that succeeds;
of the tokens in front at most `limit` are left. -/
def Follows (behind : List Token) (limit : Nat) (front : List Token)
    (first second : Reading α) : Prop :=
  ∀ ⦃whole alone value after⦄, Facing behind front whole alone →
    StateT.run first whole = .ok (value, after) →
      ∃ left last, StateT.run second alone = .ok (value, last) ∧
        Facing behind left after last ∧ left <:+ front ∧ left.length ≤ limit

namespace Follows

variable {limit middle : Nat}

theorem pure (value : α) (short : front.length ≤ limit) :
    Follows behind limit front (Pure.pure value) (Pure.pure value) := by
  intro whole alone found after facing read
  cases read
  exact ⟨front, alone, rfl, facing, List.suffix_rfl, short⟩

theorem of_fails {first : Reading α} (fails : Fails first) (second : Reading α) :
    Follows behind limit front first second :=
  fun _ _ _ _ _ read => absurd read (fails _ _)

theorem refuse (message : String) (second : Reading α) :
    Follows behind limit front (Reading.refuse message) second :=
  of_fails (.refuse message) second

theorem bind {first second : Reading α} {next others : α → Reading β}
    (follows : Follows behind middle front first second)
    (rest : ∀ value left, left.length ≤ middle →
      Follows behind limit left (next value) (others value)) :
    Follows behind limit front (first >>= next) (second >>= others) := by
  intro whole alone value last facing read
  rcases bind_eq_ok read with ⟨found, between, got, read⟩
  rcases follows facing got with ⟨left, other, gotAlone, facingBetween, suffix, short⟩
  rcases rest found left short facingBetween read with ⟨least, end_, readAlone, facingEnd, later⟩
  refine ⟨least, end_, ?_, facingEnd, later.1.trans suffix, later.2⟩
  rw [run_bind_of_ok _ gotAlone, readAlone]

theorem current {next others : Token → Reading β}
    (rest : ∀ token, (token.isInner = true → front.head? = some token) →
      Follows behind limit front (next token) (others token)) :
    Follows behind limit front (current >>= next) (current >>= others) := by
  intro whole alone value last facing read
  have followed := rest _ facing.stands facing read
  rw [← facing.head_eq] at followed
  exact followed

theorem current_stands {token : Token} {next others : Token → Reading β}
    (stands : front.head? = some token)
    (rest : Follows behind limit front (next token) (others token)) :
    Follows behind limit front (Reading.current >>= next) (Reading.current >>= others) := by
  intro whole alone value last facing read
  have head : whole.tokens.headD .finish = token := by
    rw [facing.whole_eq, List.headD_eq_head?_getD, List.head?_append, stands]
    rfl
  rw [run_bind_of_ok _ (run_current _), head] at read
  rw [run_bind_of_ok _ (run_current _), facing.head_eq, head]
  exact rest facing read

theorem advance_tail {token : Token} {next others : Token → Reading β}
    (stands : front.head? = some token)
    (rest : Follows behind limit front.tail (next token) (others token)) :
    Follows behind limit front (advance >>= next) (advance >>= others) := by
  intro whole alone value last facing read
  cases front with
  | nil => cases stands
  | cons token front =>
    cases stands
    rcases bind_eq_ok read with ⟨_, between, got, read⟩
    rcases advance_eq_ok got with ⟨rfl, rfl⟩
    have head : whole.tokens.headD .finish = token := by rw [facing.whole_eq]; rfl
    rw [head] at read
    rcases rest facing.tail read with ⟨left, end_, readAlone, facingEnd, later⟩
    refine ⟨left, end_, ?_, facingEnd, later.1.trans (List.suffix_cons _ _), later.2⟩
    rw [run_bind_of_ok _ (run_advance facing.clear), facing.head_eq, head, readAlone]

theorem advance {token : Token} {next others : Token → Reading β}
    (stands : front.head? = some token)
    (rest : ∀ left, left.length + 1 = front.length →
      Follows behind limit left (next token) (others token)) :
    Follows behind limit front (Reading.advance >>= next) (Reading.advance >>= others) := by
  refine advance_tail stands (rest _ ?_)
  cases front with
  | nil => cases stands
  | cons token front => rfl

theorem advance_inner {next others : Token → Reading β}
    (fails : ∀ token, token.isInner = false → Fails (next token))
    (rest : ∀ token left, left.length + 1 = front.length →
      Follows behind limit left (next token) (others token)) :
    Follows behind limit front (Reading.advance >>= next) (Reading.advance >>= others) := by
  cases front with
  | cons token front => exact advance rfl (rest token)
  | nil =>
    intro whole alone value last facing read
    rcases bind_eq_ok read with ⟨_, between, got, read⟩
    rcases advance_eq_ok got with ⟨rfl, rfl⟩
    refine absurd read (fails _ ?_ _ _)
    rw [← Bool.not_eq_true]
    intro inner
    cases facing.stands inner

theorem at? {token : Token} {next others : Bool → Reading β} (inner : token.isInner = true)
    (rest : ∀ found, (found = true → front.head? = some token) →
      Follows behind limit front (next found) (others found)) :
    Follows behind limit front (at? token >>= next) (at? token >>= others) := by
  unfold Reading.at?
  simp only [bind_assoc, pure_bind]
  refine current fun found stands => rest _ fun same => ?_
  obtain rfl := beq_iff_eq.mp same
  exact stands inner

theorem atSign {sign : String} {next others : Bool → Reading β}
    (rest : ∀ found, Follows behind limit front (next found) (others found)) :
    Follows behind limit front (atSign sign >>= next) (atSign sign >>= others) :=
  at? rfl fun found _ => rest found

theorem skip {token : Token} {next others : Bool → Reading β} (inner : token.isInner = true)
    (taken : ∀ left, left.length + 1 = front.length →
      Follows behind limit left (next true) (others true))
    (passed : Follows behind limit front (next false) (others false)) :
    Follows behind limit front (skip token >>= next) (skip token >>= others) := by
  unfold Reading.skip
  simp only [bind_assoc]
  refine at? inner fun found stands => ?_
  cases found with
  | false => simpa using passed
  | true =>
    simp only [if_true, bind_assoc, pure_bind]
    exact advance (stands rfl) taken

theorem skip_stands {token : Token} {next others : Bool → Reading β}
    (stands : front.head? = some token)
    (taken : ∀ left, left.length + 1 = front.length →
      Follows behind limit left (next true) (others true)) :
    Follows behind limit front (Reading.skip token >>= next) (Reading.skip token >>= others) := by
  unfold Reading.skip Reading.at?
  simp only [bind_assoc, pure_bind]
  refine current_stands stands ?_
  simp only [beq_self_eq_true, if_true, bind_assoc, pure_bind]
  exact advance stands taken

theorem expect {token : Token} {next others : Unit → Reading β} (inner : token.isInner = true)
    (rest : ∀ left, left.length + 1 = front.length →
      Follows behind limit left (next ()) (others ())) :
    Follows behind limit front (expect token >>= next) (expect token >>= others) := by
  unfold Reading.expect
  simp only [bind_assoc]
  refine skip inner (fun left less => ?_) ?_
  · simpa using rest left less
  · simp only [Bool.not_false, if_true]
    exact of_fails (.before (.unexpected _) _) _

theorem expectName {next others : String → Reading β}
    (rest : ∀ name left, left.length + 1 = front.length →
      Follows behind limit left (next name) (others name)) :
    Follows behind limit front (expectName >>= next) (expectName >>= others) := by
  unfold Reading.expectName
  simp only [bind_assoc]
  refine current fun token stands => ?_
  cases token with
  | name text =>
    simp only [bind_assoc, pure_bind]
    exact advance (stands rfl) (rest text)
  | _ => exact of_fails (.before (.unexpected _) _) _

theorem atName {next others : Bool → Reading β}
    (rest : ∀ found, (found = true → ∃ name, front.head? = some (.name name)) →
      Follows behind limit front (next found) (others found)) :
    Follows behind limit front (atName >>= next) (atName >>= others) := by
  unfold Reading.atName
  simp only [bind_assoc, pure_bind]
  refine current fun token stands => rest _ fun found => ?_
  cases token with
  | name text => exact ⟨text, stands rfl⟩
  | _ => cases found

theorem atTupleEnd {next others : Bool → Reading β}
    (rest : ∀ ends, Follows behind limit front (next ends) (others ends)) :
    Follows behind limit front (atTupleEnd >>= next) (atTupleEnd >>= others) := by
  unfold Reading.atTupleEnd
  simp only [bind_assoc]
  refine current fun token _ => ?_
  cases token <;> simpa only [pure_bind] using rest _

theorem looksAt {condition : Bool} {token : Token} {next others : Bool → Reading β}
    (inner : token.isInner = true) (some : condition = true → 0 < front.length)
    (rest : ∀ found, (found = true → condition = true ∧ front.tail.head? = .some token) →
      Follows behind limit front (next found) (others found)) :
    Follows behind limit front (looksAt condition token >>= next)
      (looksAt condition token >>= others) := by
  unfold Reading.looksAt
  cases condition with
  | false =>
    simp only [Bool.false_eq_true, if_false, pure_bind]
    exact rest false nofun
  | true =>
    simp only [if_true, bind_assoc, pure_bind]
    intro whole alone value last facing read
    cases front with
    | nil => cases some rfl
    | cons _ front =>
      rcases bind_eq_ok read with ⟨_, between, got, read⟩
      rcases look_eq_ok got with ⟨rfl, same⟩
      rw [same] at read
      have second : (whole.tokens.tail.headD .finish == token) = true →
          true = true ∧ front.head? = .some token := by
        intro same
        obtain rfl := beq_iff_eq.mp same
        exact ⟨rfl, facing.tail.stands inner⟩
      have followed := rest _ second facing read
      rw [run_bind_of_ok _ (run_look facing.clear), facing.tail.head_eq]
      exact followed

theorem ensure {possible : Bool} {next others : Unit → Reading β}
    (rest : Follows behind limit front (next ()) (others ())) :
    Follows behind limit front (ensure possible >>= next) (ensure possible >>= others) := by
  unfold Reading.ensure
  cases possible with
  | true => simpa using rest
  | false =>
    simp only [Bool.not_false, if_true]
    exact of_fails (.before (.refuse _) _) _

end Follows

end Reading

end Template

end HomeConfig
