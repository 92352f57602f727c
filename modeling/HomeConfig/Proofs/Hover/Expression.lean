import HomeConfig.Hover
import HomeConfig.Proofs.Document.Open

/-!
# The expression under the pointer

What is rendered for a place inside a template is found in two steps that do not know of each other:
the last opening is looked for backwards, the first closing forwards.  Here both are put together.
They are the two ends of one stretch of the text around the place, which has no closing inside it
and no later opening in front of the place (`Surrounds`).

Such a stretch is rendered only if no closing brace, even a single one, stands between its opening
and the place.  With this condition the two descriptions agree
(`shown_expression_surrounds_the_place`).
-/

namespace HomeConfig

namespace Text

variable {text : Text} {c : Char}

/-- A part is found first where it stands and does not end earlier. -/
theorem firstIndex?_eq_some_iff (part : Text) {place : Nat} :
    firstIndex? (part ++ [c]) text = some place ↔
      ∃ front behind, text = front ++ (part ++ [c]) ++ behind ∧ front.length = place ∧
        ¬ part ++ [c] <:+: front ++ part := by
  constructor
  · intro first
    induction text generalizing place with
    | nil => simp [firstIndex?] at first
    | cons d rest inductionHypothesis =>
      rw [firstIndex?] at first
      split at first
      next starts =>
        cases first
        rcases (startsWith_iff _ _).mp starts with ⟨behind, shape⟩
        exact ⟨[], behind, shape.symm, rfl, fun stands => absurd stands.length_le (by simp)⟩
      next starts =>
        rcases Option.map_eq_some_iff.mp first with ⟨later, found, rfl⟩
        rcases inductionHypothesis found with ⟨front, behind, rfl, rfl, nowhere⟩
        refine ⟨d :: front, behind, rfl, rfl, fun stands => ?_⟩
        rcases List.infix_cons_iff.mp stands with here | there
        · apply starts
          rw [startsWith_iff]
          refine here.trans ?_
          simp only [List.cons_append, List.append_assoc]
          exact (List.prefix_append_right_inj (d :: front)).mpr (List.prefix_append _ _)
        · exact nowhere there
  · rintro ⟨front, behind, rfl, rfl, nowhere⟩
    induction front with
    | nil =>
      have starts : startsWith (part ++ [c]) (part ++ [c] ++ behind) = true :=
        (startsWith_iff _ _).mpr (List.prefix_append _ _)
      cases shape : part ++ [c] ++ behind with
      | nil => simp at shape
      | cons d rest =>
        rw [shape] at starts
        simp [firstIndex?, shape, starts]
    | cons d front inductionHypothesis =>
      have starts : ¬ startsWith (part ++ [c]) (d :: front ++ (part ++ [c]) ++ behind) = true := by
        rw [startsWith_iff]
        intro here
        apply nowhere
        have short : part ++ [c] <+: d :: front ++ part := by
          refine List.prefix_of_prefix_length_le here ?_ (by simp)
          simp only [List.append_assoc]
          exact (List.prefix_append_right_inj (d :: front)).mpr (List.prefix_append _ _)
        exact short.isInfix
      have later := inductionHypothesis fun there => nowhere (List.infix_cons there)
      simp only [List.cons_append] at starts ⊢
      simp only [firstIndex?, if_neg starts, later]
      rfl

/-- What stands between two other parts is cut out at their ends. -/
theorem cut_eq (first last : Text) {middle : Text} {start stop : Nat}
    (parts : text = first ++ middle ++ last) (starts : first.length = start)
    (stops : start + middle.length = stop) : (text.take stop).drop start = middle := by
  subst parts starts stops
  rw [← List.length_append, List.take_left, List.drop_left]

theorem cut_append_drop {start stop : Nat} (order : start ≤ stop) (text : Text) :
    (text.take stop).drop start ++ text.drop stop = text.drop start := by
  have ends : stop = start + (stop - start) := by omega
  rw [List.drop_take, ends, Nat.add_sub_cancel_left, List.drop_take_append_drop]

end Text

namespace Document

variable {text source : Text} {offset start stop : Nat}

/-- A stretch of a text between an opening and a closing lies around an offset: the opening is the
last one before the offset, the closing the first one at or behind it, and there is no closing
between them. -/
structure Surrounds (text : Text) (offset start stop : Nat) : Prop where
  startsBefore : start + 2 ≤ offset
  stopsBehind : offset + 2 ≤ stop
  within : stop ≤ text.length
  opens : opening <+: (text.take stop).drop start
  closes : closing <:+ (text.take stop).drop start
  notClosed : ¬ closing <:+: (text.take (stop - 2)).drop (start + 2)
  opensLast : ¬ opening <:+: (text.take offset).drop (start + 1)
  closesFirst : ¬ closing <:+: (text.take (stop - 1)).drop offset

/-- A text is cut at both ends of an expression and at an offset inside it. -/
structure Splits (text : Text) (offset start stop : Nat) (front before behind rest : Text) :
    Prop where
  parts : text = front ++ (opening ++ before ++ behind ++ closing) ++ rest
  start_eq : front.length = start
  offset_eq : start + 2 + before.length = offset
  stop_eq : offset + behind.length + 2 = stop

section

variable {front before behind rest : Text}

theorem Splits.take_eq (splits : Splits text offset start stop front before behind rest) :
    text.take offset = front ++ opening ++ before := by
  rcases splits with ⟨rfl, rfl, rfl, rfl⟩
  refine Text.cut_eq [] (behind ++ closing ++ rest) ?_ rfl ?_
  · simp
  · simp [opening]
    omega

theorem Splits.drop_eq (splits : Splits text offset start stop front before behind rest) :
    text.drop offset = behind ++ closing ++ rest := by
  have both := List.take_append_drop offset text
  rw [splits.take_eq] at both
  refine List.append_cancel_left (both.trans ?_)
  rw [splits.parts]
  simp

theorem Splits.cut_eq (splits : Splits text offset start stop front before behind rest) :
    (text.take stop).drop start = opening ++ before ++ behind ++ closing := by
  refine Text.cut_eq front rest splits.parts splits.start_eq ?_
  rw [← splits.stop_eq, ← splits.offset_eq]
  simp [opening, closing]
  omega

theorem Splits.before_eq (splits : Splits text offset start stop front before behind rest) :
    (text.take offset).drop (start + 2) = before := by
  rw [splits.take_eq, ← splits.start_eq, drop_opening]

theorem Splits.fromBrace_eq (splits : Splits text offset start stop front before behind rest) :
    (text.take offset).drop (start + 1) = '\x7b' :: before := by
  rw [splits.take_eq, ← splits.start_eq, ← List.drop_drop, List.append_assoc, List.drop_left]
  rfl

theorem Splits.toBrace_eq (splits : Splits text offset start stop front before behind rest) :
    (text.take (stop - 1)).drop offset = behind ++ ['\x7d'] := by
  rcases splits with ⟨rfl, rfl, rfl, rfl⟩
  refine Text.cut_eq (front ++ opening ++ before) ('\x7d' :: rest) ?_ ?_ ?_
  · simp [closing]
  · simp [opening]
    omega
  · simp
    omega

theorem Splits.inner_eq (splits : Splits text offset start stop front before behind rest) :
    (text.take (stop - 2)).drop (start + 2) = before ++ behind := by
  rcases splits with ⟨rfl, rfl, rfl, rfl⟩
  refine Text.cut_eq (front ++ opening) (closing ++ rest) ?_ ?_ ?_
  · simp
  · simp [opening]
  · simp
    omega

/-- Without a closing brace in front of it, a closing does not begin earlier. -/
theorem closing_infix_of_plain (plain : '\x7d' ∉ before)
    (stands : closing <:+: before ++ behind) : closing <:+: behind := by
  induction before with
  | nil => exact stands
  | cons c before inductionHypothesis =>
    rw [List.mem_cons, not_or] at plain
    rcases List.infix_cons_iff.mp stands with here | there
    · exact absurd (List.cons_prefix_cons.mp here).1 plain.1
    · exact inductionHypothesis plain.2 there

/-- An expression that is opened last and closed first surrounds the offset, if it has no closing
brace in front of it. -/
theorem Splits.surrounds (splits : Splits text offset start stop front before behind rest)
    (opensLast : ¬ opening <:+: '\x7b' :: before) (plain : '\x7d' ∉ before)
    (closesFirst : ¬ closing <:+: behind ++ ['\x7d']) : Surrounds text offset start stop := by
  have offset_eq := splits.offset_eq
  have stop_eq := splits.stop_eq
  constructor
  · omega
  · omega
  · have length := congrArg List.length splits.parts
    have start_eq := splits.start_eq
    simp only [List.length_append, opening, closing, List.length_cons, List.length_nil] at length
    omega
  · rw [splits.cut_eq, List.append_assoc, List.append_assoc]
    exact List.prefix_append _ _
  · rw [splits.cut_eq]
    exact List.suffix_append _ _
  · rw [splits.inner_eq]
    intro stands
    have later := closing_infix_of_plain plain stands
    exact closesFirst (later.trans (List.prefix_append _ _).isInfix)
  · rwa [splits.fromBrace_eq]
  · rwa [splits.toBrace_eq]

theorem Surrounds.exists_splits (surrounds : Surrounds text offset start stop) :
    ∃ front before behind rest, Splits text offset start stop front before behind rest := by
  rcases surrounds with ⟨startsBefore, stopsBehind, within, ⟨tail, opens⟩, ⟨lead, closes⟩, _⟩
  have opened : text.drop start = opening ++ text.drop (start + 2) := by
    have cut : text.drop start = opening ++ (tail ++ text.drop stop) := by
      rw [← Text.cut_append_drop (by omega : start ≤ stop), ← opens, List.append_assoc]
    rw [← List.drop_drop, cut]
    rfl
  have closed : text.drop (stop - 2) = closing ++ text.drop stop := by
    have length := congrArg List.length closes
    simp only [List.length_append, List.length_drop, List.length_take, closing, List.length_cons,
      List.length_nil] at length
    have place : stop - 2 = start + lead.length := by omega
    have cut : text.drop start = lead ++ (closing ++ text.drop stop) := by
      rw [← Text.cut_append_drop (by omega : start ≤ stop), ← closes, List.append_assoc]
    rw [place, ← List.drop_drop, cut, List.drop_left]
  have before_eq := Text.cut_append_drop startsBefore text
  have behind_eq := Text.cut_append_drop (by omega : offset ≤ stop - 2) text
  refine ⟨text.take start, (text.take offset).drop (start + 2), (text.take (stop - 2)).drop offset,
    text.drop stop, ?_, ?_, ?_, ?_⟩
  · calc
      text = text.take start ++ text.drop start := (List.take_append_drop start text).symm
      _ = _ := by
        rw [opened, ← before_eq, ← behind_eq, closed]
        simp only [List.append_assoc]
  · rw [List.length_take]
    omega
  · rw [List.length_drop, List.length_take]
    omega
  · rw [List.length_drop, List.length_take]
    omega

end

/-- An expression is shown where it is opened last and closed first, with no closing brace in front
of the offset. -/
theorem enclosingTemplate_eq_some_iff : enclosingTemplate text offset = some source ↔
    ∃ start stop front before behind rest,
      Splits text offset start stop front before behind rest ∧
        ¬ opening <:+: '\x7b' :: before ∧ '\x7d' ∉ before ∧ ¬ closing <:+: behind ++ ['\x7d'] ∧
          source = (text.take stop).drop start := by
  constructor
  · intro shown
    rcases Option.bind_eq_some_iff.mp shown with ⟨start, opened, shown⟩
    rcases Text.lastIndex?_eq_some_iff.mp opened with ⟨front, before, passed, start_eq, opensLast⟩
    split at shown
    next => cases shown
    next noBrace =>
      rcases Option.bind_eq_some_iff.mp shown with ⟨distance, closed, shown⟩
      rcases (Text.firstIndex?_eq_some_iff ['\x7d']).mp closed with
        ⟨behind, rest, ahead, distance_eq, closesFirst⟩
      have both := List.take_append_drop offset text
      have inside : offset ≤ text.length := by
        have some_ := congrArg List.length ahead
        simp only [List.length_drop, List.length_append, List.length_cons] at some_
        omega
      have offset_eq : start + 2 + before.length = offset := by
        have length := congrArg List.length passed
        simp only [List.length_take, List.length_append, List.length_cons, List.length_nil]
          at length
        omega
      have splits :
          Splits text offset start (offset + behind.length + 2) front before behind rest := by
        refine ⟨?_, start_eq, offset_eq, rfl⟩
        rw [← both, passed, ahead]
        simp [opening, closing]
      refine ⟨start, _, front, before, behind, rest, splits, opensLast, ?_, closesFirst, ?_⟩
      · simpa [splits.before_eq] using noBrace
      · rw [distance_eq, ← List.length_take_of_le inside]
        exact (Option.some.inj shown).symm
  · rintro ⟨start, stop, front, before, behind, rest, splits, opensLast, plain, closesFirst, rfl⟩
    have opened : Text.lastIndex? opening (text.take offset) = some start :=
      Text.lastIndex?_eq_some_iff.mpr
        ⟨front, before, splits.take_eq, splits.start_eq, opensLast⟩
    have closed : Text.firstIndex? closing (text.drop offset) = some behind.length :=
      (Text.firstIndex?_eq_some_iff ['\x7d']).mpr
        ⟨behind, rest, splits.drop_eq, rfl, closesFirst⟩
    have noBrace : ¬ ((text.take offset).drop (start + 2)).any (· == '\x7d') = true := by
      simpa [splits.before_eq] using plain
    have stop_eq : (text.take offset).length + behind.length + 2 = stop := by
      rw [← splits.stop_eq, splits.take_eq, ← splits.offset_eq, ← splits.start_eq]
      simp [opening]
      omega
    unfold enclosingTemplate
    dsimp only
    rw [opened, Option.bind_eq_bind, Option.bind_some, if_neg noBrace, closed]
    rw [Option.bind_some, stop_eq]
    rfl

/-- A hover that asks for a template to be rendered is about a template around the place. -/
theorem enclosingTemplate_of_read {position : Position} {shown : String}
    {next : Except Failure Json → Activity (Option Hover)}
    (asks : Hover.find true text position = .read (.template shown) next) :
    enclosingTemplate text (position.toOffset text) = some shown.toList := by
  have target : HoverTarget.find text position = .template shown := by
    rw [Hover.find, if_pos rfl] at asks
    cases found : HoverTarget.find text position with
    | template source =>
      rw [found] at asks
      cases asks
      rfl
    | nothing | entity id range | service fullName range =>
      rw [found] at asks
      cases asks
  unfold HoverTarget.find at target
  split at target
  next => cases target
  next =>
    dsimp only at target
    split at target
    next => split at target <;> cases target
    next =>
      split at target
      next source encloses =>
        cases target
        rw [encloses, String.toList_ofList]
      next => cases target

/-- Whatever is shown for an offset is the expression that surrounds it, and this is shown unless a
closing brace stands between its opening and the offset.  In particular all that a hover asks to be
rendered surrounds the place that it is about. -/
theorem shown_expression_surrounds_the_place (text : Text) :
    (∀ (offset : Nat) (source : Text), enclosingTemplate text offset = some source ↔
      ∃ start stop, Surrounds text offset start stop ∧
        '\x7d' ∉ (text.take offset).drop (start + 2) ∧ source = (text.take stop).drop start) ∧
    ∀ (position : Position) (source : String)
        (next : Except Failure Json → Activity (Option Hover)),
      Hover.find true text position = .read (.template source) next →
        ∃ start stop, Surrounds text (position.toOffset text) start stop ∧
          source.toList = (text.take stop).drop start := by
  have shown : ∀ (offset : Nat) (source : Text), enclosingTemplate text offset = some source ↔
      ∃ start stop, Surrounds text offset start stop ∧
        '\x7d' ∉ (text.take offset).drop (start + 2) ∧ source = (text.take stop).drop start := by
    intro offset source
    rw [enclosingTemplate_eq_some_iff]
    constructor
    · rintro ⟨start, stop, front, before, behind, rest, splits, last, plain, first, same⟩
      refine ⟨start, stop, splits.surrounds last plain first, ?_, same⟩
      rwa [splits.before_eq]
    · rintro ⟨start, stop, surrounds, plain, same⟩
      rcases surrounds.exists_splits with ⟨front, before, behind, rest, splits⟩
      rw [splits.before_eq] at plain
      have last := surrounds.opensLast
      have first := surrounds.closesFirst
      rw [splits.fromBrace_eq] at last
      rw [splits.toBrace_eq] at first
      exact ⟨start, stop, front, before, behind, rest, splits, last, plain, first, same⟩
  refine ⟨shown, fun position source next asks => ?_⟩
  rcases (shown _ _).mp (enclosingTemplate_of_read asks) with ⟨start, stop, surrounds, _, same⟩
  exact ⟨start, stop, surrounds, same⟩

/-- Among three braces on either side, the inner two on the left and the first two on the right are
those of the expression. -/
theorem inner_expression_is_asked_for :
    let text := "a: \x7b\x7b x \x7d\x7d\nb: \x7b\x7b\x7b now() \x7d\x7d\x7d".toList
    ∃ next, Hover.find true text ⟨1, 8⟩ =
        .read (.template "\x7b\x7b now() \x7d\x7d") next ∧
      ∃ start stop, Surrounds text 19 start stop ∧
        "\x7b\x7b now() \x7d\x7d".toList = (text.take stop).drop start := by
  intro text
  have target : HoverTarget.find text ⟨1, 8⟩ = .template "\x7b\x7b now() \x7d\x7d" := by
    decide +kernel
  have asks : Hover.find true text ⟨1, 8⟩ =
      Hover.ofTarget (.template "\x7b\x7b now() \x7d\x7d") := by
    rw [Hover.find, if_pos rfl, target]
  exact ⟨_, asks, (shown_expression_surrounds_the_place text).2 ⟨1, 8⟩ _ _ asks⟩

end Document

end HomeConfig
