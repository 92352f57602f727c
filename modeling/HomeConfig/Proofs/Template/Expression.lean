import HomeConfig.Proofs.Template.Reading

/-!
# Expressions read alone

Expressions are read by functions that call one another, each bounded by how deep it may go.  An
expression of a template is read there with a depth that the whole template allows, and alone with
one that its own tokens allow.  So each function is related to itself at another depth (`Keeps`):
if the second depth suffices for the tokens of the expression, both readings do the same.

How much depth suffices is counted by tokens: between two tokens that are taken, the functions go
down at most through the chain of precedences, which is shorter than 24 calls.  `need` is the place
of a function in that chain, and `gain` says that it takes a token at least.  `Alike` holds what is
known of all of them at one depth; the next depth follows from it, function by function.
-/

namespace HomeConfig

namespace Template

namespace Reading

variable {α β : Type} {behind : List Token}

/-- A reading keeps to the tokens in front: given enough depth for them, the second one does alone
what the first one does on the whole, and `gain` of them are taken at least. -/
def Keeps (behind : List Token) (need gain : Nat) (first : Reading α)
    (second : (bound : Nat) → Reading α) : Prop :=
  ∀ ⦃front limit bound⦄, front.length ≤ limit + gain → 24 * front.length + need ≤ bound →
    Follows behind limit front first (second bound)

/-- The same for a reading that starts at a given token, and takes at least that. -/
def KeepsFrom (behind : List Token) (starts : Token) (need : Nat) (first : Reading α)
    (second : (bound : Nat) → Reading α) : Prop :=
  ∀ ⦃front limit bound⦄, front.head? = some starts → front.length ≤ limit + 1 →
    24 * front.length + need ≤ bound → Follows behind limit front first (second bound)

section

variable {need gain limit bound : Nat} {front : List Token} {first : Reading α}
  {second : (bound : Nat) → Reading α}

/-- Only a reading with some depth left needs to be looked at. -/
theorem Keeps.of_step (positive : 0 < need)
    (step : ∀ ⦃front limit bound⦄, front.length ≤ limit + gain →
      24 * front.length + need ≤ bound + 1 →
        Follows behind limit front first (second (bound + 1))) :
    Keeps behind need gain first second := by
  intro front limit bound short deep
  obtain ⟨bound, rfl⟩ : ∃ less, bound = less + 1 := ⟨bound - 1, by omega⟩
  exact step short deep

theorem Keeps.bind {next others : α → Reading β} (keeps : Keeps behind need gain first second)
    (deep : 24 * front.length + need ≤ bound)
    (rest : ∀ value left, left.length ≤ front.length - gain →
      Follows behind limit left (next value) (others value)) :
    Follows behind limit front (first >>= next) (second bound >>= others) :=
  .bind (keeps (by omega) deep) rest

theorem KeepsFrom.of_step {starts : Token} (positive : 0 < need)
    (step : ∀ ⦃front limit bound⦄, front.head? = some starts → front.length ≤ limit + 1 →
      24 * front.length + need ≤ bound + 1 →
        Follows behind limit front first (second (bound + 1))) :
    KeepsFrom behind starts need first second := by
  intro front limit bound stands short deep
  obtain ⟨bound, rfl⟩ : ∃ less, bound = less + 1 := ⟨bound - 1, by omega⟩
  exact step stands short deep

theorem KeepsFrom.bind {starts : Token} {next others : α → Reading β}
    (keeps : KeepsFrom behind starts need first second) (stands : front.head? = some starts)
    (deep : 24 * front.length + need ≤ bound)
    (rest : ∀ value left, left.length ≤ front.length - 1 →
      Follows behind limit left (next value) (others value)) :
    Follows behind limit front (first >>= next) (second bound >>= others) :=
  .bind (keeps stands (by omega) deep) rest

end

theorem keeps_skipStrings (behind : List Token) (depth : Nat) :
    Keeps behind 1 0 (skipStrings depth) skipStrings := by
  induction depth with
  | zero =>
    intro front limit bound short deep
    exact .of_fails (.refuse _) _
  | succ depth inductionHypothesis =>
    refine .of_step (by decide) fun front limit bound short deep => ?_
    simp only [skipStrings]
    refine .current fun token stands => ?_
    cases token with
    | string text =>
      exact .advance (stands rfl) fun left less => inductionHypothesis (by omega) (by omega)
    | _ => exact .pure _ short

theorem keeps_skipDots (behind : List Token) (depth : Nat) :
    Keeps behind 1 0 (skipDots depth) skipDots := by
  induction depth with
  | zero =>
    intro front limit bound short deep
    exact .of_fails (.refuse _) _
  | succ depth inductionHypothesis =>
    refine .of_step (by decide) fun front limit bound short deep => ?_
    simp only [skipDots]
    refine .skip rfl (fun left less => ?_) (.pure _ short)
    exact .expectName fun _ rest fewer => inductionHypothesis (by omega) (by omega)

/-! ## Parts with a name of their own -/

/-- A limit of a slice, if there is one. -/
def sliceLimit (bound : Nat) : Reading Unit := do
  if !(← atSign "]") && !(← atSign ",") then
    let _ ← conditional bound

/-- What follows the first limit of a slice. -/
def sliceRest (bound : Nat) : Reading Unit := do
  if ← skip (.operator ":") then
    if !(← atSign ":") then sliceLimit bound
    if ← skip (.operator ":") then sliceLimit bound

theorem subscript_eq (bound : Nat) :
    subscript (bound + 1) = (do
      if !(← atSign ":") then
        let _ ← conditional bound
      sliceRest bound) := by
  simp only [subscript, sliceRest, sliceLimit]

/-- An argument of a call and those behind it, from an expression or a sign in front of one. -/
def argument (bound : Nat) (seen : Arguments) : Reading Unit := do
  let token ← current
  if token = .operator "*" then
    ensure (!seen.list && !seen.mapping)
    let _ ← advance
    let _ ← conditional bound
    argumentsFrom bound false { seen with list := true }
  else if token = .operator "**" then
    ensure (!seen.mapping)
    let _ ← advance
    let _ ← conditional bound
    argumentsFrom bound false { seen with mapping := true }
  else if ← looksAt (← atName) (.operator "=") then
    ensure (!seen.mapping)
    let _ ← advance
    let _ ← advance
    let _ ← conditional bound
    argumentsFrom bound false { seen with keyword := true }
  else
    ensure (!seen.list && !seen.mapping && !seen.keyword)
    let _ ← conditional bound
    argumentsFrom bound false seen

theorem argumentsFrom_eq (bound : Nat) (first : Bool) (seen : Arguments) :
    argumentsFrom (bound + 1) first seen = (do
      if ← skip (.operator ")") then return
      if !first then
        expectSign ","
        if ← skip (.operator ")") then return
      argument bound seen) := by
  simp only [argumentsFrom, argument]

/-- A filter from its name on, and those behind it. -/
def namedFilter (bound : Nat) : Reading Unit := do
  let _ ← expectName
  skipDots bound
  if ← atSign "(" then arguments bound
  filterChain bound false

theorem filterChain_eq (bound : Nat) (inline : Bool) :
    filterChain (bound + 1) inline = (do
      let starts ← if inline then pure true else skip (.operator "|")
      if starts then namedFilter bound) := by
  simp only [filterChain, namedFilter]

/-- An operand behind a test, as its argument. -/
def operand (bound : Nat) (negated : Bool) : Reading Bool := do
  let phrase ← primary bound false
  let _ ← postfixes bound phrase
  return negated

/-- The argument of a test, if there is one. -/
def testArgument (bound : Nat) (negated : Bool) : Reading Bool := do
  match ← current with
  | .operator "(" =>
    arguments bound
    return negated
  | .name "is" => refuse "You cannot chain multiple tests with is"
  | .name word =>
    if !(["else", "or", "and"].contains word) then operand bound negated else return negated
  | .string _ => operand bound negated
  | .integer => operand bound negated
  | .float => operand bound negated
  | .operator "[" => operand bound negated
  | .operator "\x7b" => operand bound negated
  | _ => return negated

theorem test_eq (bound : Nat) :
    test (bound + 1) = (do
      let _ ← advance
      let negated ← skip (.name "not")
      let _ ← expectName
      skipDots bound
      testArgument bound negated) := by
  simp only [test, testArgument, operand, bind_assoc, pure_bind]
  rfl

/-- What all readings of expressions do that go no deeper than `depth`. -/
structure Alike (behind : List Token) (depth : Nat) : Prop where
  conditional : Keeps behind 11 0 (conditional depth) conditional
  conditions : ∀ phrase, Keeps behind 1 0 (conditions depth phrase) (conditions · phrase)
  disjunction : Keeps behind 10 0 (disjunction depth) disjunction
  disjuncts : ∀ phrase, Keeps behind 1 0 (disjuncts depth phrase) (disjuncts · phrase)
  conjunction : Keeps behind 9 0 (conjunction depth) conjunction
  conjuncts : ∀ phrase, Keeps behind 1 0 (conjuncts depth phrase) (conjuncts · phrase)
  negation : Keeps behind 8 0 (negation depth) negation
  comparison : ∀ phrase compared,
    Keeps behind 1 0 (comparison depth phrase compared) (comparison · phrase compared)
  sum : Keeps behind 7 0 (sum depth) sum
  concatenation : Keeps behind 6 0 (concatenation depth) concatenation
  product : Keeps behind 5 0 (product depth) product
  power : Keeps behind 4 0 (power depth) power
  operations : ∀ signs phrase,
    Keeps behind 1 0 (operations depth signs phrase) (operations · signs phrase)
  unary : ∀ filtered, Keeps behind 3 0 (unary depth filtered) (unary · filtered)
  primary : ∀ namespaced, Keeps behind 1 0 (primary depth namespaced) (primary · namespaced)
  tuple : ∀ simple conditioned namespaced bracketed,
    Keeps behind 13 0 (tuple depth simple conditioned namespaced bracketed)
      (tuple · simple conditioned namespaced bracketed)
  tupleItem : ∀ simple conditioned namespaced,
    Keeps behind 12 0 (tupleItem depth simple conditioned namespaced)
      (tupleItem · simple conditioned namespaced)
  tupleRest : ∀ simple conditioned namespaced assignable,
    Keeps behind 1 0 (tupleRest depth simple conditioned namespaced assignable)
      (tupleRest · simple conditioned namespaced assignable)
  listItems : ∀ first : Bool,
    Keeps behind (if first then 13 else 12) 0 (listItems depth first) (listItems · first)
  dictItems : ∀ first : Bool,
    Keeps behind (if first then 13 else 12) 0 (dictItems depth first) (dictItems · first)
  postfixes : ∀ phrase, Keeps behind 2 0 (postfixes depth phrase) (postfixes · phrase)
  filters : ∀ phrase, Keeps behind 2 0 (filters depth phrase) (filters · phrase)
  subscripts : ∀ first : Bool,
    Keeps behind (if first then 13 else 12) 0 (subscripts depth first) (subscripts · first)
  subscript : Keeps behind 12 0 (subscript depth) subscript
  arguments : Keeps behind 1 1 (arguments depth) arguments
  argumentsFrom : ∀ (first : Bool) seen,
    Keeps behind (if first then 13 else 12) 0 (argumentsFrom depth first seen)
      (argumentsFrom · first seen)
  inlineFilters : Keeps behind 1 1 (filterChain depth true) (filterChain · true)
  chain : Keeps behind 1 0 (filterChain depth false) (filterChain · false)
  chainFrom : KeepsFrom behind (.operator "|") 1 (filterChain depth false)
    (filterChain · false)
  test : KeepsFrom behind (.name "is") 1 (test depth) test

theorem alike_zero (behind : List Token) : Alike behind 0 := by
  constructor <;> intros <;> intro <;> intros <;> exact .of_fails (.refuse _) _

section Deeper

variable {depth : Nat} (alike : Alike behind depth)

include alike

namespace Alike

theorem conditional_succ :
    Keeps behind 11 0 (Reading.conditional (depth + 1)) Reading.conditional := by
  refine .of_step (by decide) fun front limit bound short deep => ?_
  simp only [Reading.conditional]
  refine alike.disjunction.bind (by omega) fun phrase left less => ?_
  exact alike.conditions phrase (by omega) (by omega)

theorem conditions_succ (phrase : Phrase) :
    Keeps behind 1 0 (Reading.conditions (depth + 1) phrase) (Reading.conditions · phrase) := by
  refine .of_step (by decide) fun front limit bound short deep => ?_
  simp only [Reading.conditions]
  refine .skip rfl (fun left less => ?_) (.pure _ short)
  refine alike.disjunction.bind (by omega) fun _ left fewer => ?_
  refine .skip rfl (fun left less => ?_) (alike.conditions _ (by omega) (by omega))
  refine alike.conditional.bind (by omega) fun _ left fewer => ?_
  exact alike.conditions _ (by omega) (by omega)

theorem disjunction_succ :
    Keeps behind 10 0 (Reading.disjunction (depth + 1)) Reading.disjunction := by
  refine .of_step (by decide) fun front limit bound short deep => ?_
  simp only [Reading.disjunction]
  refine alike.conjunction.bind (by omega) fun phrase left less => ?_
  exact alike.disjuncts phrase (by omega) (by omega)

theorem disjuncts_succ (phrase : Phrase) :
    Keeps behind 1 0 (Reading.disjuncts (depth + 1) phrase) (Reading.disjuncts · phrase) := by
  refine .of_step (by decide) fun front limit bound short deep => ?_
  simp only [Reading.disjuncts]
  refine .skip rfl (fun left less => ?_) (.pure _ short)
  refine alike.conjunction.bind (by omega) fun _ left fewer => ?_
  exact alike.disjuncts _ (by omega) (by omega)

theorem conjunction_succ :
    Keeps behind 9 0 (Reading.conjunction (depth + 1)) Reading.conjunction := by
  refine .of_step (by decide) fun front limit bound short deep => ?_
  simp only [Reading.conjunction]
  refine alike.negation.bind (by omega) fun phrase left less => ?_
  exact alike.conjuncts phrase (by omega) (by omega)

theorem conjuncts_succ (phrase : Phrase) :
    Keeps behind 1 0 (Reading.conjuncts (depth + 1) phrase) (Reading.conjuncts · phrase) := by
  refine .of_step (by decide) fun front limit bound short deep => ?_
  simp only [Reading.conjuncts]
  refine .skip rfl (fun left less => ?_) (.pure _ short)
  refine alike.negation.bind (by omega) fun _ left fewer => ?_
  exact alike.conjuncts _ (by omega) (by omega)

theorem negation_succ :
    Keeps behind 8 0 (Reading.negation (depth + 1)) Reading.negation := by
  refine .of_step (by decide) fun front limit bound short deep => ?_
  simp only [Reading.negation]
  refine .skip rfl (fun left less => ?_) ?_
  · exact alike.negation.bind (by omega) fun _ left fewer => .pure _ (by omega)
  · refine alike.sum.bind (by omega) fun phrase left fewer => ?_
    exact alike.comparison phrase false (by omega) (by omega)

/-- Behind a sign that compares, the other side follows, and perhaps another comparison. -/
theorem compared {phrase : Phrase} {token : Token} {front : List Token} {limit bound : Nat}
    (stands : front.head? = some token) (short : front.length ≤ limit)
    (deep : 24 * front.length + 1 ≤ bound + 1) :
    Follows behind limit front
      (Reading.advance >>= fun _ => Reading.sum depth >>= fun _ =>
        Reading.comparison depth phrase true)
      (Reading.advance >>= fun _ => Reading.sum bound >>= fun _ =>
        Reading.comparison bound phrase true) := by
  refine .advance stands fun left less => ?_
  refine alike.sum.bind (by omega) fun _ left fewer => ?_
  exact alike.comparison phrase true (by omega) (by omega)

theorem comparison_succ (phrase : Phrase) (compared : Bool) :
    Keeps behind 1 0 (Reading.comparison (depth + 1) phrase compared)
      (Reading.comparison · phrase compared) := by
  refine .of_step (by decide) fun front limit bound short deep => ?_
  simp only [Reading.comparison]
  refine .current fun token stands => ?_
  split
  next sign =>
    simp only [pure_bind]
    split
    · exact alike.compared (stands rfl) short deep
    · exact .pure _ short
  next =>
    simp only [pure_bind, if_true]
    exact alike.compared (stands rfl) short deep
  next =>
    simp only [bind_assoc]
    refine .looksAt rfl (fun _ => length_pos_of_stands (stands rfl)) fun found second => ?_
    cases found with
    | false =>
      simp only [Bool.false_eq_true, if_false, pure_bind]
      exact .pure _ short
    | true =>
      simp only [if_true, bind_assoc, pure_bind]
      refine .advance_tail (stands rfl) (alike.compared (second rfl).2 ?_ ?_)
      · rw [List.length_tail]
        omega
      · rw [List.length_tail]
        omega
  next =>
    simp only [pure_bind, Bool.false_eq_true, if_false]
    exact .pure _ short

theorem sum_succ : Keeps behind 7 0 (Reading.sum (depth + 1)) Reading.sum := by
  refine .of_step (by decide) fun front limit bound short deep => ?_
  simp only [Reading.sum]
  refine alike.concatenation.bind (by omega) fun phrase left less => ?_
  exact alike.operations _ phrase (by omega) (by omega)

theorem concatenation_succ :
    Keeps behind 6 0 (Reading.concatenation (depth + 1)) Reading.concatenation := by
  refine .of_step (by decide) fun front limit bound short deep => ?_
  simp only [Reading.concatenation]
  refine alike.product.bind (by omega) fun phrase left less => ?_
  exact alike.operations _ phrase (by omega) (by omega)

theorem product_succ : Keeps behind 5 0 (Reading.product (depth + 1)) Reading.product := by
  refine .of_step (by decide) fun front limit bound short deep => ?_
  simp only [Reading.product]
  refine alike.power.bind (by omega) fun phrase left less => ?_
  exact alike.operations _ phrase (by omega) (by omega)

theorem power_succ : Keeps behind 4 0 (Reading.power (depth + 1)) Reading.power := by
  refine .of_step (by decide) fun front limit bound short deep => ?_
  simp only [Reading.power]
  refine (alike.unary true).bind (by omega) fun phrase left less => ?_
  exact alike.operations _ phrase (by omega) (by omega)

theorem operations_succ (signs : List String) (phrase : Phrase) :
    Keeps behind 1 0 (Reading.operations (depth + 1) signs phrase)
      (Reading.operations · signs phrase) := by
  refine .of_step (by decide) fun front limit bound short deep => ?_
  simp only [Reading.operations]
  refine .current fun token stands => ?_
  cases token with
  | operator sign =>
    dsimp only
    split
    · refine .advance (stands rfl) fun left less => ?_
      have rest (phrase : Phrase) (last : List Token) (fewer : last.length ≤ left.length) :
          Follows behind limit last (Reading.operations depth signs (.value (operationKind sign)))
            (Reading.operations bound signs (.value (operationKind sign))) :=
        alike.operations _ _ (by omega) (by omega)
      split
      · exact alike.concatenation.bind (by omega) rest
      split
      · exact alike.product.bind (by omega) rest
      split
      · exact alike.power.bind (by omega) rest
      · exact (alike.unary true).bind (by omega) rest
    · exact .pure _ short
  | _ => exact .pure _ short

theorem unary_succ (filtered : Bool) :
    Keeps behind 3 0 (Reading.unary (depth + 1) filtered) (Reading.unary · filtered) := by
  refine .of_step (by decide) fun front limit bound short deep => ?_
  simp only [Reading.unary, bind_assoc]
  have rest (phrase : Phrase) (left : List Token) (less : left.length ≤ front.length) :
      Follows behind limit left
        (Reading.postfixes depth phrase >>= fun phrase =>
          if filtered = true then Reading.filters depth phrase else pure phrase)
        (Reading.postfixes bound phrase >>= fun phrase =>
          if filtered = true then Reading.filters bound phrase else pure phrase) := by
    refine (alike.postfixes phrase).bind (by omega) fun phrase left fewer => ?_
    cases filtered with
    | false => exact .pure _ (by omega)
    | true => exact alike.filters phrase (by omega) (by omega)
  refine .skip rfl (fun left less => ?_) ?_
  · simp only [if_true, bind_assoc, pure_bind]
    exact (alike.unary false).bind (by omega) fun _ left fewer => rest _ left (by omega)
  simp only [Bool.false_eq_true, if_false, bind_assoc]
  refine .skip rfl (fun left less => ?_) ?_
  · simp only [if_true, bind_assoc, pure_bind]
    exact (alike.unary false).bind (by omega) fun _ left fewer => rest _ left (by omega)
  · exact (alike.primary false).bind (by omega) fun phrase left less => rest phrase left less

theorem primary_succ (namespaced : Bool) :
    Keeps behind 1 0 (Reading.primary (depth + 1) namespaced)
      (Reading.primary · namespaced) := by
  refine .of_step (by decide) fun front limit bound short deep => ?_
  simp only [Reading.primary]
  refine .current fun token stands => ?_
  split
  next word =>
    refine .advance (stands rfl) fun left less => ?_
    split
    · exact .pure _ (by omega)
    split
    · refine .skip rfl (fun left fewer => ?_) (.pure _ (by omega))
      exact .expectName fun _ left fewer => .pure _ (by omega)
    · exact .pure _ (by omega)
  next text =>
    exact (keeps_skipStrings behind (depth + 1)).bind (by omega) fun _ left less =>
      .pure _ (by omega)
  next => exact .advance (stands rfl) fun left less => .pure _ (by omega)
  next => exact .advance (stands rfl) fun left less => .pure _ (by omega)
  next =>
    refine .advance (stands rfl) fun left less => ?_
    refine (alike.tuple _ _ _ _).bind (by omega) fun phrase left fewer => ?_
    exact .expect rfl fun left fewer => .pure _ (by omega)
  next =>
    refine .advance (stands rfl) fun left less => ?_
    exact (alike.listItems true).bind (by simp; omega) fun _ left fewer => .pure _ (by omega)
  next =>
    refine .advance (stands rfl) fun left less => ?_
    exact (alike.dictItems true).bind (by simp; omega) fun _ left fewer => .pure _ (by omega)
  next => exact .refuse _ _

theorem tuple_succ (simple conditioned namespaced bracketed : Bool) :
    Keeps behind 13 0 (Reading.tuple (depth + 1) simple conditioned namespaced bracketed)
      (Reading.tuple · simple conditioned namespaced bracketed) := by
  refine .of_step (by decide) fun front limit bound short deep => ?_
  simp only [Reading.tuple]
  refine .atTupleEnd fun ends => ?_
  cases ends with
  | true =>
    cases bracketed with
    | true => exact .pure _ short
    | false => exact .current fun token _ => .refuse _ _
  | false =>
    simp only [Bool.false_eq_true, if_false]
    refine (alike.tupleItem _ _ _).bind (by omega) fun item left less => ?_
    refine .atSign fun goesOn => ?_
    cases goesOn with
    | false => exact .pure _ (by omega)
    | true =>
      exact (alike.tupleRest _ _ _ _).bind (by omega) fun _ left fewer => .pure _ (by omega)

theorem tupleItem_succ (simple conditioned namespaced : Bool) :
    Keeps behind 12 0 (Reading.tupleItem (depth + 1) simple conditioned namespaced)
      (Reading.tupleItem · simple conditioned namespaced) := by
  refine .of_step (by decide) fun front limit bound short deep => ?_
  simp only [Reading.tupleItem]
  split
  · exact alike.primary _ short (by omega)
  split
  · exact alike.conditional short (by omega)
  · exact alike.disjunction short (by omega)

theorem tupleRest_succ (simple conditioned namespaced assignable : Bool) :
    Keeps behind 1 0 (Reading.tupleRest (depth + 1) simple conditioned namespaced assignable)
      (Reading.tupleRest · simple conditioned namespaced assignable) := by
  refine .of_step (by decide) fun front limit bound short deep => ?_
  simp only [Reading.tupleRest]
  refine .skip rfl (fun left less => ?_) (.pure _ short)
  refine .atTupleEnd fun ends => ?_
  cases ends with
  | true => exact .pure _ (by omega)
  | false =>
    refine (alike.tupleItem _ _ _).bind (by omega) fun item left fewer => ?_
    exact alike.tupleRest _ _ _ _ (by omega) (by omega)

theorem listItems_succ (first : Bool) :
    Keeps behind (if first then 13 else 12) 0 (Reading.listItems (depth + 1) first)
      (Reading.listItems · first) := by
  refine .of_step (by cases first <;> decide) fun front limit bound short deep => ?_
  simp only [Reading.listItems]
  refine .skip rfl (fun left less => .pure _ (by omega)) ?_
  have item (left : List Token) (less : left.length ≤ front.length)
      (deep : 24 * left.length + 12 ≤ bound) :
      Follows behind limit left
        (Reading.conditional depth >>= fun _ => Reading.listItems depth false)
        (Reading.conditional bound >>= fun _ => Reading.listItems bound false) := by
    refine alike.conditional.bind (by omega) fun _ left fewer => ?_
    exact alike.listItems false (by omega) (by simp; omega)
  cases first with
  | true => exact item front (by omega) (by simpa using deep)
  | false =>
    refine .expect rfl fun left less => ?_
    refine .skip rfl (fun left fewer => .pure _ (by omega)) ?_
    exact item left (by omega) (by simp at deep; omega)

theorem dictItems_succ (first : Bool) :
    Keeps behind (if first then 13 else 12) 0 (Reading.dictItems (depth + 1) first)
      (Reading.dictItems · first) := by
  refine .of_step (by cases first <;> decide) fun front limit bound short deep => ?_
  simp only [Reading.dictItems]
  refine .skip rfl (fun left less => .pure _ (by omega)) ?_
  have entry (left : List Token) (less : left.length ≤ front.length)
      (deep : 24 * left.length + 12 ≤ bound) :
      Follows behind limit left
        (Reading.conditional depth >>= fun _ => Reading.expectSign ":" >>= fun _ =>
          Reading.conditional depth >>= fun _ => Reading.dictItems depth false)
        (Reading.conditional bound >>= fun _ => Reading.expectSign ":" >>= fun _ =>
          Reading.conditional bound >>= fun _ => Reading.dictItems bound false) := by
    refine alike.conditional.bind (by omega) fun _ left fewer => ?_
    refine .expect rfl fun left less => ?_
    refine alike.conditional.bind (by omega) fun _ left fewer => ?_
    exact alike.dictItems false (by omega) (by simp; omega)
  cases first with
  | true => exact entry front (by omega) (by simpa using deep)
  | false =>
    refine .expect rfl fun left less => ?_
    refine .skip rfl (fun left fewer => .pure _ (by omega)) ?_
    exact entry left (by omega) (by simp at deep; omega)

theorem postfixes_succ (phrase : Phrase) :
    Keeps behind 2 0 (Reading.postfixes (depth + 1) phrase) (Reading.postfixes · phrase) := by
  refine .of_step (by decide) fun front limit bound short deep => ?_
  simp only [Reading.postfixes]
  refine .current fun token stands => ?_
  split
  next =>
    refine .advance (stands rfl) fun left less => ?_
    refine .advance_inner (fun token outer => ?_) fun token left fewer => ?_
    · cases token <;> first | exact .refuse _ | cases outer
    split
    · exact alike.postfixes _ (by omega) (by omega)
    · exact alike.postfixes _ (by omega) (by omega)
    · exact .refuse _ _
  next =>
    refine .advance (stands rfl) fun left less => ?_
    refine (alike.subscripts true).bind (by simp; omega) fun _ left fewer => ?_
    exact alike.postfixes _ (by omega) (by omega)
  next =>
    have some := length_pos_of_stands (stands rfl)
    refine alike.arguments.bind (by omega) fun _ left less => ?_
    exact alike.postfixes _ (by omega) (by omega)
  next => exact .pure _ short

theorem filters_succ (phrase : Phrase) :
    Keeps behind 2 0 (Reading.filters (depth + 1) phrase) (Reading.filters · phrase) := by
  refine .of_step (by decide) fun front limit bound short deep => ?_
  simp only [Reading.filters]
  refine .current fun token stands => ?_
  split
  next =>
    have some := length_pos_of_stands (stands rfl)
    refine alike.chainFrom.bind (stands rfl) (by omega) fun _ left less => ?_
    exact alike.filters _ (by omega) (by omega)
  next =>
    have some := length_pos_of_stands (stands rfl)
    refine alike.test.bind (stands rfl) (by omega) fun negated left less => ?_
    exact alike.filters _ (by omega) (by omega)
  next =>
    have some := length_pos_of_stands (stands rfl)
    refine alike.arguments.bind (by omega) fun _ left less => ?_
    exact alike.filters _ (by omega) (by omega)
  next => exact .pure _ short

theorem subscripts_succ (first : Bool) :
    Keeps behind (if first then 13 else 12) 0 (Reading.subscripts (depth + 1) first)
      (Reading.subscripts · first) := by
  refine .of_step (by cases first <;> decide) fun front limit bound short deep => ?_
  simp only [Reading.subscripts]
  refine .skip rfl (fun left less => .pure _ (by omega)) ?_
  have part (left : List Token) (less : left.length ≤ front.length)
      (deep : 24 * left.length + 12 ≤ bound) :
      Follows behind limit left
        (Reading.subscript depth >>= fun _ => Reading.subscripts depth false)
        (Reading.subscript bound >>= fun _ => Reading.subscripts bound false) := by
    refine alike.subscript.bind (by omega) fun _ left fewer => ?_
    exact alike.subscripts false (by omega) (by simp; omega)
  cases first with
  | true => exact part front (by omega) (by simpa using deep)
  | false => exact .expect rfl fun left less => part left (by omega) (by simp at deep; omega)

theorem keeps_sliceLimit : Keeps behind 11 0 (sliceLimit depth) sliceLimit := by
  intro front limit bound short deep
  unfold sliceLimit
  refine .atSign fun closes => .atSign fun goesOn => ?_
  split
  · exact alike.conditional.bind deep fun _ left less => .pure _ (by omega)
  · exact .pure _ short

theorem keeps_sliceRest : Keeps behind 1 0 (sliceRest depth) sliceRest := by
  intro front limit bound short deep
  have last (left : List Token) (less : left.length + 1 ≤ front.length) :
      Follows behind limit left
        (Reading.skip (.operator ":") >>= fun found => if found then sliceLimit depth else pure ())
        (Reading.skip (.operator ":") >>= fun found =>
          if found then sliceLimit bound else pure ()) :=
    .skip rfl (fun left fewer => alike.keeps_sliceLimit (by omega) (by omega)) (.pure _ (by omega))
  unfold sliceRest
  refine .skip rfl (fun left less => ?_) (.pure _ short)
  refine .atSign fun starts => ?_
  cases starts with
  | true => exact last left (by omega)
  | false => exact alike.keeps_sliceLimit.bind (by omega) fun _ left fewer => last left (by omega)

theorem subscript_succ : Keeps behind 12 0 (Reading.subscript (depth + 1)) Reading.subscript := by
  refine .of_step (by decide) fun front limit bound short deep => ?_
  rw [subscript_eq, subscript_eq]
  refine .atSign fun starts => ?_
  cases starts with
  | true => exact alike.keeps_sliceRest short (by omega)
  | false =>
    refine alike.conditional.bind (by omega) fun _ left less => ?_
    exact alike.keeps_sliceRest (by omega) (by omega)

theorem arguments_succ : Keeps behind 1 1 (Reading.arguments (depth + 1)) Reading.arguments := by
  refine .of_step (by decide) fun front limit bound short deep => ?_
  simp only [Reading.arguments]
  exact .expect rfl fun left less => alike.argumentsFrom true _ (by omega) (by simp; omega)

theorem argument_step (seen : Arguments) {front : List Token} {limit bound : Nat}
    (short : front.length ≤ limit) (deep : 24 * front.length + 12 ≤ bound) :
    Follows behind limit front (argument depth seen) (argument bound seen) := by
  have expression (left : List Token) (less : left.length ≤ front.length) (seen : Arguments) :
      Follows behind limit left
        (Reading.conditional depth >>= fun _ => Reading.argumentsFrom depth false seen)
        (Reading.conditional bound >>= fun _ => Reading.argumentsFrom bound false seen) := by
    refine alike.conditional.bind (by omega) fun _ left fewer => ?_
    exact alike.argumentsFrom false seen (by omega) (by simp; omega)
  unfold argument
  refine .current fun token stands => ?_
  split
  next same =>
    subst same
    refine .ensure (.advance (stands rfl) fun left less => ?_)
    exact expression left (by omega) _
  split
  next same =>
    subst same
    refine .ensure (.advance (stands rfl) fun left less => ?_)
    exact expression left (by omega) _
  refine .atName fun isName name => ?_
  refine .looksAt rfl (fun isName => ?_) fun keyword second => ?_
  · rcases name isName with ⟨_, stands⟩
    exact length_pos_of_stands stands
  cases keyword with
  | false => exact .ensure (expression front (Nat.le_refl _) _)
  | true =>
    rcases second rfl with ⟨isName, sign⟩
    rcases name isName with ⟨_, stands⟩
    refine .ensure (.advance_tail stands (.advance sign fun left less => ?_))
    rw [List.length_tail] at less
    exact expression left (by omega) _

theorem argumentsFrom_succ (first : Bool) (seen : Arguments) :
    Keeps behind (if first then 13 else 12) 0 (Reading.argumentsFrom (depth + 1) first seen)
      (Reading.argumentsFrom · first seen) := by
  refine .of_step (by cases first <;> decide) fun front limit bound short deep => ?_
  rw [argumentsFrom_eq, argumentsFrom_eq]
  refine .skip rfl (fun left less => .pure _ (by omega)) ?_
  cases first with
  | true => exact alike.argument_step seen (by omega) (by simpa using deep)
  | false =>
    refine .expect rfl fun left less => ?_
    refine .skip rfl (fun left fewer => .pure _ (by omega)) ?_
    exact alike.argument_step seen (by omega) (by simp at deep; omega)

theorem keeps_namedFilter : Keeps behind 0 1 (namedFilter depth) namedFilter := by
  intro front limit bound short deep
  unfold namedFilter
  refine .expectName fun _ left less => ?_
  refine (keeps_skipDots behind depth).bind (by omega) fun _ left fewer => ?_
  refine .atSign fun called => ?_
  cases called with
  | false => exact alike.chain (by omega) (by omega)
  | true =>
    refine alike.arguments.bind (by omega) fun _ left less => ?_
    exact alike.chain (by omega) (by omega)

theorem inlineFilters_succ :
    Keeps behind 1 1 (Reading.filterChain (depth + 1) true) (Reading.filterChain · true) := by
  refine .of_step (by decide) fun front limit bound short deep => ?_
  rw [filterChain_eq, filterChain_eq]
  simp only [if_true, pure_bind]
  exact alike.keeps_namedFilter short (by omega)

theorem chain_succ :
    Keeps behind 1 0 (Reading.filterChain (depth + 1) false) (Reading.filterChain · false) := by
  refine .of_step (by decide) fun front limit bound short deep => ?_
  rw [filterChain_eq, filterChain_eq]
  refine .skip rfl (fun left less => ?_) (.pure _ short)
  exact alike.keeps_namedFilter (by omega) (by omega)

theorem chainFrom_succ :
    KeepsFrom behind (.operator "|") 1 (Reading.filterChain (depth + 1) false)
      (Reading.filterChain · false) := by
  refine .of_step (by decide) fun front limit bound stands short deep => ?_
  rw [filterChain_eq, filterChain_eq]
  refine .skip_stands stands fun left less => ?_
  exact alike.keeps_namedFilter (by omega) (by omega)

theorem keeps_operand (negated : Bool) :
    Keeps behind 2 0 (operand depth negated) (operand · negated) := by
  intro front limit bound short deep
  refine (alike.primary false).bind (by omega) fun phrase left less => ?_
  exact (alike.postfixes phrase).bind (by omega) fun _ left fewer => .pure _ (by omega)

theorem keeps_testArgument (negated : Bool) :
    Keeps behind 2 0 (testArgument depth negated) (testArgument · negated) := by
  intro front limit bound short deep
  unfold testArgument
  refine .current fun token _ => ?_
  split
  next => exact alike.arguments.bind (by omega) fun _ left less => .pure _ (by omega)
  next => exact .refuse _ _
  next word _ =>
    split
    · exact alike.keeps_operand negated short deep
    · exact .pure _ short
  next => exact alike.keeps_operand negated short deep
  next => exact alike.keeps_operand negated short deep
  next => exact alike.keeps_operand negated short deep
  next => exact alike.keeps_operand negated short deep
  next => exact alike.keeps_operand negated short deep
  next => exact .pure _ short

theorem test_succ : KeepsFrom behind (.name "is") 1 (Reading.test (depth + 1)) Reading.test := by
  refine .of_step (by decide) fun front limit bound stands short deep => ?_
  rw [test_eq, test_eq]
  have rest (negated : Bool) (left : List Token) (less : left.length + 1 ≤ front.length) :
      Follows behind limit left
        (Reading.expectName >>= fun _ => skipDots depth >>= fun _ => testArgument depth negated)
        (Reading.expectName >>= fun _ => skipDots bound >>= fun _ =>
          testArgument bound negated) := by
    refine .expectName fun _ left fewer => ?_
    refine (keeps_skipDots behind depth).bind (by omega) fun _ left fewer => ?_
    exact alike.keeps_testArgument negated (by omega) (by omega)
  refine .advance stands fun left less => ?_
  exact .skip rfl (fun left fewer => rest true left (by omega)) (rest false left (by omega))

theorem succ : Alike behind (depth + 1) where
  conditional := alike.conditional_succ
  conditions := alike.conditions_succ
  disjunction := alike.disjunction_succ
  disjuncts := alike.disjuncts_succ
  conjunction := alike.conjunction_succ
  conjuncts := alike.conjuncts_succ
  negation := alike.negation_succ
  comparison := alike.comparison_succ
  sum := alike.sum_succ
  concatenation := alike.concatenation_succ
  product := alike.product_succ
  power := alike.power_succ
  operations := alike.operations_succ
  unary := alike.unary_succ
  primary := alike.primary_succ
  tuple := alike.tuple_succ
  tupleItem := alike.tupleItem_succ
  tupleRest := alike.tupleRest_succ
  listItems := alike.listItems_succ
  dictItems := alike.dictItems_succ
  postfixes := alike.postfixes_succ
  filters := alike.filters_succ
  subscripts := alike.subscripts_succ
  subscript := alike.subscript_succ
  arguments := alike.arguments_succ
  argumentsFrom := alike.argumentsFrom_succ
  inlineFilters := alike.inlineFilters_succ
  chain := alike.chain_succ
  chainFrom := alike.chainFrom_succ
  test := alike.test_succ

end Alike

end Deeper

theorem alike (behind : List Token) (depth : Nat) : Alike behind depth := by
  induction depth with
  | zero => exact alike_zero behind
  | succ depth inductionHypothesis => exact inductionHypothesis.succ

end Reading

end Template

end HomeConfig
