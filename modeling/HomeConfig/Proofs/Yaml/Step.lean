import Mathlib
import HomeConfig.Proofs.Yaml.Mark

/-!
# Steps that may refuse a document

A document is read, put together and made into values by steps that have a state and may refuse the
document.  What is known of the state is stated as a triple: a step `Keeps` a property if it leads
from any state that has it to one that has it again, and it `Gives` a property of its result if in
addition the result has it.  Both say too what a refusal is like, so what holds of every refusal is
shown together with what holds of every state, one step at a time.

A refusal is `Explained` if its mark, where it has one, is a mark of the text.  What explains a
fault of content is different for each of the three programs and is left open.
-/

namespace HomeConfig

namespace Yaml

open Std.Do

set_option mvcgen.warning false

section

variable {State Result : Type}

/-- A step keeps a property of the state; if it refuses the document, then for a reason of the
given kind. -/
abbrev Keeps (sound : State → Prop) (refusal : Failure → Prop)
    (step : StateT State (Except Failure) Result) : Prop :=
  ⦃fun state => ⌜sound state⌝⦄ step
    ⦃post⟨fun _ state => ⌜sound state⌝, fun failure => ⌜refusal failure⌝⟩⦄

/-- A step keeps a property of the state and gives a result of the given kind. -/
abbrev Gives (sound : State → Prop) (refusal : Failure → Prop) (good : Result → Prop)
    (step : StateT State (Except Failure) Result) : Prop :=
  ⦃fun state => ⌜sound state⌝⦄ step
    ⦃post⟨fun result state => ⌜sound state ∧ good result⌝,
      fun failure => ⌜refusal failure⌝⟩⦄

/-- How a step ends: in a sound state with a good result, or with a refusal of the given kind. -/
def EndsWell (sound : State → Prop) (refusal : Failure → Prop) (good : Result → Prop) :
    Except Failure (Result × State) → Prop
  | .ok (result, state) => sound state ∧ good result
  | .error failure => refusal failure

variable {sound : State → Prop} {refusal : Failure → Prop} {good : Result → Prop}
  {step : StateT State (Except Failure) Result} {state : State}

@[simp]
theorem endsWell_ok {result : Result} :
    EndsWell sound refusal good (.ok (result, state)) ↔ sound state ∧ good result :=
  Iff.rfl

@[simp]
theorem endsWell_error {failure : Failure} :
    EndsWell sound refusal good (.error failure : Except Failure (Result × State)) ↔
      refusal failure :=
  Iff.rfl

theorem Gives.endsWell_run (gives : Gives sound refusal good step) (begins : sound state) :
    EndsWell sound refusal good (step.run state) := by
  refine Except.of_wp_eq rfl (EndsWell sound refusal good) ?_
  rw [WP.StateT_run]
  exact fun _ => gives state begins

theorem Keeps.endsWell_run (keeps : Keeps sound refusal step) (begins : sound state) :
    EndsWell sound refusal (fun _ => True) (step.run state) := by
  have gives : Gives sound refusal (fun _ => True) step := by
    mvcgen [keeps]
    exact id
  exact gives.endsWell_run begins

/-- To refuse a document, only what follows from its refusal is needed. -/
@[spec high]
theorem throw_spec {post : PostCond Result (.arg State (.except Failure .pure))}
    (failure : Failure) :
    ⦃fun _ => post.2.1 failure⦄
      (throw failure : StateT State (Except Failure) Result) ⦃post⦄ :=
  fun _ => id

end

/-- A failure with its reason: an error of syntax is marked in the text if it is marked at all, and
a fault of content arises only if the given reason for it holds. -/
def Failure.Explained (text : Text) (reason : Prop) : Failure → Prop
  | .syntaxError error => ∀ mark, error.mark? = some mark → mark.Within text
  | .content _ => reason

end Yaml

end HomeConfig
