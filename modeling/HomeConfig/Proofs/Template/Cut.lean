import HomeConfig.Proofs.Template.Lexeme

/-!
# Steps of cutting a template

A template is cut in steps, and `Moves` says what each of them can do: deliver the text in front of
a sign, enter a part or leave it, or deliver a token inside a part.  From it follows that the cutter
stays on its text (`Within`) and that the parts of a template are delivered one behind the other
(`ordered_collect`), the order that reading relies on.
-/

namespace HomeConfig

namespace Template

namespace Cutter

/-- A token inside an expression or a statement only moves the state, but for the brackets. -/
theorem inside_moves {cutter after : Cutter} {c : Char} {tokens : List Token}
    (read : cutter.inside c = .ok (tokens, after)) :
    (∃ length, after.rest = cutter.rest.drop length ∧ after.offset = cutter.offset + length) ∧
      after.mode = cutter.mode ∧ ∀ token ∈ tokens, token.isInner = true := by
  unfold Cutter.inside at read
  cases found : lexeme cutter.before cutter.rest with
  | error failure =>
    rw [found] at read
    cases read
  | ok result =>
    rw [found] at read
    cases result with
    | some lexeme =>
      cases read
      exact ⟨⟨lexeme.2, rfl, rfl⟩, rfl, inner_of_lexeme found⟩
    | none =>
      cases found : operator? cutter.rest with
      | none =>
        rw [found] at read
        cases read
      | some sign =>
        rw [found] at read
        cases unclosed : unclosedBehind cutter.unclosed c sign with
        | error failure =>
          simp only [unclosed] at read
          cases read
        | ok unclosed =>
          simp only [unclosed] at read
          cases read
          exact ⟨⟨sign.length, rfl, rfl⟩, rfl, by simp [Token.isInner]⟩

/-! ## Steps -/

/-- The tokens of a sign that opens a part of a template. -/
def openingTokens : Mode → List Token
  | .variable => [.variableBegin]
  | .block => [.blockBegin]
  | _ => []

/-- What one step of cutting can do. -/
inductive Moves (cutter : Cutter) : List Token → Cutter → Prop
  | plain (text : cutter.mode = .text) :
      Moves cutter [.data cutter.rest] (cutter.advance cutter.rest.length)
  | opening {kind : Mode} {offset length : Nat} {strips : Bool} (text : cutter.mode = .text)
      (found : findFirst opening? cutter.rest = some (offset, kind, length, strips)) :
      Moves cutter (dataTokens (cutter.rest.take offset) strips ++ openingTokens kind)
        { cutter.advance (offset + length) with mode := kind }
  | leaving (length : Nat) (passed : Text) (strips : Bool)
      (outside : cutter.mode ≠ .block ∧ cutter.mode ≠ .variable) :
      Moves cutter (dataTokens passed strips) { cutter.advance length with mode := .text }
  | closing {length : Nat} {token : Token} (part : cutter.mode = .block ∨ cutter.mode = .variable)
      (closed : cutter.unclosed = []) (ends : token.closesPart = true) :
      Moves cutter [token] { cutter.advance length with mode := .text }
  | inside {c : Char} {tokens : List Token} {after : Cutter}
      (part : cutter.mode = .block ∨ cutter.mode = .variable)
      (read : cutter.inside c = .ok (tokens, after)) : Moves cutter tokens after

theorem moves_of_part {cutter after : Cutter} {c : Char} {tokens : List Token} {token : Token}
    {length : Nat} (part : cutter.mode = .block ∨ cutter.mode = .variable)
    (ends : token.closesPart = true)
    (read : (if cutter.unclosed.isEmpty ∧ 0 < length then
        pure (some ([token], { cutter.advance length with mode := .text }))
      else do return some (← cutter.inside c) :
        Except Failure (Option (List Token × Cutter))) = .ok (some (tokens, after))) :
    Moves cutter tokens after := by
  split at read
  next closes =>
    cases read
    exact .closing part (List.isEmpty_iff.mp closes.1) ends
  next =>
    cases inside : cutter.inside c with
    | error failure =>
      rw [inside] at read
      cases read
    | ok result =>
      rw [inside] at read
      cases read
      exact .inside part inside

theorem moves_of_step {cutter after : Cutter} {tokens : List Token}
    (read : cutter.step = .ok (some (tokens, after))) : Moves cutter tokens after := by
  unfold Cutter.step at read
  split at read
  · cases read
  next c rest ahead =>
    split at read
    next text =>
      split at read
      · cases read
        exact .plain text
      next found =>
        cases read
        exact .opening text found
    next comment =>
      split at read
      · cases read
      · cases read
        exact .leaving _ [] false (by simp [comment])
    next raw =>
      split at read
      · cases read
      · cases read
        exact .leaving _ _ _ (by simp [raw])
    next block => exact moves_of_part (.inl block) rfl read
    next expression => exact moves_of_part (.inr expression) rfl read

theorem step_of_opening {cutter : Cutter} {kind : Mode} {offset length : Nat} {strips : Bool}
    (text : cutter.mode = .text)
    (found : findFirst opening? cutter.rest = some (offset, kind, length, strips)) :
    cutter.step = .ok (some (dataTokens (cutter.rest.take offset) strips ++ openingTokens kind,
      { cutter.advance (offset + length) with mode := kind })) := by
  unfold Cutter.step
  split
  next ahead =>
    rw [ahead] at found
    cases found
  next =>
    simp only [text, found]
    rfl

/-- A state of cutting a given text.  Brackets are open only inside an expression or a statement. -/
structure Within (source : Text) (cutter : Cutter) : Prop where
  rest : cutter.rest = source.drop cutter.offset
  unclosed : cutter.mode ≠ .block → cutter.mode ≠ .variable → cutter.unclosed = []

theorem Within.drop {source : Text} {cutter : Cutter} (within : Within source cutter)
    (length : Nat) : cutter.rest.drop length = source.drop (cutter.offset + length) := by
  rw [within.rest, List.drop_drop]

theorem Within.advance {source : Text} {cutter : Cutter} (within : Within source cutter)
    (length : Nat) (mode : Mode) (closed : cutter.unclosed = []) :
    Within source { cutter.advance length with mode := mode } :=
  ⟨within.drop length, fun _ _ => closed⟩

theorem Within.inside {source : Text} {cutter after : Cutter} {c : Char} {tokens : List Token}
    (within : Within source cutter) (part : cutter.mode = .block ∨ cutter.mode = .variable)
    (read : cutter.inside c = .ok (tokens, after)) : Within source after := by
  rcases inside_moves read with ⟨⟨length, behind, offset⟩, mode, _⟩
  refine ⟨by rw [behind, offset, within.drop], fun notBlock notVariable => ?_⟩
  rw [mode] at notBlock notVariable
  exact (part.elim notBlock notVariable).elim

theorem Within.step {source : Text} {cutter after : Cutter} {tokens : List Token}
    (within : Within source cutter) (moves : Moves cutter tokens after) :
    Within source after := by
  cases moves with
  | plain text => exact within.advance _ _ (within.unclosed (by simp [text]) (by simp [text]))
  | opening text found =>
    exact within.advance _ _ (within.unclosed (by simp [text]) (by simp [text]))
  | leaving _ _ _ outside => exact within.advance _ _ (within.unclosed outside.1 outside.2)
  | closing part closed ends => exact within.advance _ _ closed
  | inside part read => exact within.inside part read

/-! ## The order of tokens -/

theorem ordered_cons {token : Token} {rest : List Token} (ordered : Ordered rest)
    (isOpen : token.closesPart = false) : Ordered (token :: rest) := by
  refine List.isChain_cons.mpr ⟨fun next _ closes => ?_, ordered⟩
  rw [isOpen] at closes
  cases closes

theorem ordered_cons_of_laid {rest : List Token} (token : Token) (laid : Laid rest) :
    Ordered (token :: rest) :=
  List.isChain_cons.mpr ⟨fun next first _ => laid.first next first, laid.ordered⟩

theorem ordered_append {tokens rest : List Token} (ordered : Ordered rest)
    (isInner : ∀ token ∈ tokens, token.isInner = true) : Ordered (tokens ++ rest) := by
  induction tokens with
  | nil => exact ordered
  | cons token tokens inductionHypothesis =>
    refine ordered_cons (inductionHypothesis fun other member => isInner other (.tail _ member)) ?_
    have inner := isInner token (.head _)
    cases token <;> first | rfl | cases inner

theorem laid_cons {rest : List Token} (token : Token) (laid : Laid rest)
    (opens : token.opensPart = true) : Laid (token :: rest) := by
  refine ⟨fun other first => ?_, ordered_cons_of_laid token laid⟩
  cases first
  exact opens

theorem laid_dataTokens {rest : List Token} (laid : Laid rest) (passed : Text) (strips : Bool) :
    Laid (dataTokens passed strips ++ rest) := by
  unfold dataTokens
  dsimp only
  split_ifs
  · exact laid
  · exact laid_cons _ laid rfl
  · exact laid
  · exact laid_cons _ laid rfl

/-- Cutting delivers the parts of a template one behind the other. -/
theorem ordered_collect (bound : Nat) (cutter : Cutter) :
    Ordered (collect bound cutter).tokens ∧
      (cutter.mode ≠ .block → cutter.mode ≠ .variable → Laid (collect bound cutter).tokens) := by
  induction bound generalizing cutter with
  | zero => exact ⟨.nil, fun _ _ => ⟨nofun, .nil⟩⟩
  | succ bound inductionHypothesis =>
    rw [collect]
    split
    · exact ⟨.nil, fun _ _ => ⟨nofun, .nil⟩⟩
    · exact ⟨.nil, fun _ _ => ⟨nofun, .nil⟩⟩
    next tokens after read =>
      rcases inductionHypothesis after with ⟨ordered, laid⟩
      cases moves_of_step read with
      | plain text =>
        have outside (part : Mode) (other : part ≠ .text) : cutter.mode ≠ part :=
          text ▸ other.symm
        have laid := laid_cons (.data cutter.rest) (laid (outside _ nofun) (outside _ nofun)) rfl
        exact ⟨laid.ordered, fun _ _ => laid⟩
      | @opening kind offset length strips text found =>
        have sign : Laid (openingTokens kind ++ (collect bound
            { cutter.advance (offset + length) with mode := kind }).tokens) := by
          cases kind with
          | «variable» => exact ⟨by simp [openingTokens, Token.opensPart], ordered_cons ordered rfl⟩
          | block => exact ⟨by simp [openingTokens, Token.opensPart], ordered_cons ordered rfl⟩
          | _ => exact laid nofun nofun
        have laid := laid_dataTokens sign (cutter.rest.take offset) strips
        rw [← List.append_assoc] at laid
        exact ⟨laid.ordered, fun _ _ => laid⟩
      | leaving length passed strips outside =>
        have laid := laid_dataTokens (laid nofun nofun) passed strips
        exact ⟨laid.ordered, fun _ _ => laid⟩
      | @closing length token part closed ends =>
        exact ⟨ordered_cons_of_laid token (laid nofun nofun),
          fun notBlock notVariable => (part.elim notBlock notVariable).elim⟩
      | inside part read =>
        exact ⟨ordered_append ordered (inside_moves read).2.2,
          fun notBlock notVariable => (part.elim notBlock notVariable).elim⟩

end Cutter

end Template

end HomeConfig
