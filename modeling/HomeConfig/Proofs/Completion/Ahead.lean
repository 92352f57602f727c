import HomeConfig.Proofs.Completion.Continued

/-!
# What follows the cursor

A document is analysed while it is being typed, and what follows the cursor may be anything: the
rest of a line that is being changed, or lines that belong to another automation.  None of it has a
say in what is offered.  Two documents with the same lines above the cursor and the same characters
in front of it on its line (`Text.AgreeUpTo`) get the same completions, and in getting them the same
questions are asked and the same failures reported.

The context of a cursor does look ahead, for it has the whole line, and on it finds the type of a
trigger and the domain of a service.  These are the fields that `Context.Agrees` leaves out, and
nothing that is offered depends on them (`Offer.ofContext_eq`).
-/

namespace HomeConfig

/-- Two texts have the same lines above a place, and the same characters in front of it on its
line. -/
structure Text.AgreeUpTo (place : Position) (text other : Text) : Prop where
  above : (lines text).take place.line = (lines other).take place.line
  before : before (lineAt text place.line) place.character =
    before (lineAt other place.line) place.character

namespace Context

/-- Two contexts agree in all that is read off the lines above the cursor and the text in front of
it. -/
structure Agrees (context other : Context) : Prop where
  lineBefore : context.lineBefore = other.lineBefore
  inKey : context.inKey = other.inKey
  inValue : context.inValue = other.inValue
  key : context.key = other.key
  parentKeys : context.parentKeys = other.parentKeys
  inList : context.inList = other.inList
  inTemplate : context.inTemplate = other.inTemplate

theorem agrees_ofCursor {place : Position} {text other : Text}
    (agree : Text.AgreeUpTo place text other) :
    (ofCursor text place.line place.character).Agrees
      (ofCursor other place.line place.character) := by
  have above : enclosingKeys (Text.lines text) place.line =
      enclosingKeys (Text.lines other) place.line := by
    funext indent
    rw [enclosingKeys, enclosingKeys, Int.toNat_natCast, agree.above]
  constructor
  · exact agree.before
  · simp only [ofCursor, agree.before]
  · simp only [ofCursor, agree.before]
  · simp only [ofCursor, agree.before]
  · simp only [ofCursor, agree.before, above]
  · simp only [ofCursor, agree.before]
  · simp only [ofCursor, agree.before]

end Context

namespace Offer

variable {context other : Context}

theorem value_eq (agrees : context.Agrees other) (cursor : Position) :
    value context cursor = value other cursor := by
  unfold value
  rw [agrees.key, agrees.lineBefore, Context.inTrigger_eq_of_parentKeys agrees.parentKeys]

/-- What is offered is told by the part of a context that does not look ahead. -/
theorem ofContext_eq (agrees : context.Agrees other) (cursor : Position) :
    ofContext context cursor = ofContext other cursor := by
  unfold ofContext
  rw [agrees.inTemplate, agrees.inValue, agrees.lineBefore, value_eq agrees,
    keys_eq_of_parentKeys agrees.parentKeys]

end Offer

/-- Whatever follows the cursor, the context up to the cursor is the same, and so are the
completions: from any store, at any time, they are asked for and made in the same way. -/
theorem completions_do_not_look_ahead (text other : Text) (cursor : Position)
    (agree : Text.AgreeUpTo cursor text other) :
    (Context.ofCursor text cursor.line cursor.character).Agrees
        (Context.ofCursor other cursor.line cursor.character) ∧
      complete text cursor = complete other cursor := by
  have agrees := Context.agrees_ofCursor agree
  constructor
  · exact agrees
  · unfold complete
    dsimp only
    rw [Offer.ofContext_eq agrees cursor]

theorem the_light_is_offered_whatever_follows :
    let text := "entity_id: li".toList
    let other := "entity_id: light: \x7b\x7b x\nmode: single\n".toList
    let cursor : Position := ⟨0, 13⟩
    Text.AgreeUpTo cursor text other ∧ complete text cursor = complete other cursor ∧
      ((complete other cursor).given oneLight).map Item.label = ["light.attic"] := by
  intro text other cursor
  have agree : Text.AgreeUpTo cursor text other := by
    constructor
    · decide
    · decide
  exact ⟨agree, (completions_do_not_look_ahead text other cursor agree).2, by decide +kernel⟩

/-- The type of a trigger is read off the whole line. -/
example :
    (Context.ofCursor "trigger:\n  - id: a".toList 1 5).triggerType = none ∧
      (Context.ofCursor "trigger:\n  - id: a, platform: sun".toList 1 5).triggerType =
        some "sun" := by
  decide +kernel

end HomeConfig
