import HomeConfig.Rehearsal.Agenda

/-!
# A time of its own

A timeline has a present moment and an agenda of what is to come.  The present moves only when
there is nothing left to do in it, and then to the next time on the agenda; all events for that
time are due.

What is begun in the present moment, such as a countdown, gets onto the agenda only when there is
nothing else to do.  An event without a delay is due at once.  An event can become void; what is
begun is then never entered, and what has been entered is struck out when it comes next.  An event
`none` is the end of a time that was waited for.
-/

namespace HomeConfig

/-- A present moment and what is to come. -/
structure Timeline (τ ε : Type) where
  now : τ
  /-- What is to happen in the present moment. -/
  due : List (Option ε)
  agenda : Agenda τ (Option ε)
  /-- What was begun in the present moment, and how long each takes. -/
  begun : List (τ × ε)

namespace Timeline

variable {τ ε σ : Type}

/-- A timeline on which nothing is to come. -/
def start (now : τ) : Timeline τ ε :=
  ⟨now, [], .empty, []⟩

/-- How many events are to come. -/
def size (timeline : Timeline τ ε) : Nat :=
  timeline.due.length + timeline.agenda.events.size + timeline.begun.length

/-- Begin something that ends after a delay. -/
def begin (timeline : Timeline τ ε) (delay : τ) (event : ε) : Timeline τ ε :=
  { timeline with begun := timeline.begun ++ [(delay, event)] }

variable [Add τ] [OfNat τ 0] [LT τ] [DecidableLT τ]

/-- Enter an event after a delay. -/
def enter (timeline : Timeline τ ε) (delay : τ) (event : Option ε) : Timeline τ ε :=
  if 0 < delay then
    { timeline with agenda := timeline.agenda.add (timeline.now + delay) event }
  else { timeline with due := timeline.due ++ [event] }

/-- Enter what was begun and has not become void. -/
def release (timeline : Timeline τ ε) (isLive : ε → Bool) : Timeline τ ε :=
  (timeline.begun.filter fun (_, event) => isLive event).foldl
    (fun timeline (delay, event) => timeline.enter delay (some event))
    { timeline with begun := [] }

/-- Go to the next time on the agenda. -/
def proceed (timeline : Timeline τ ε) (isLive : ε → Bool) : Timeline τ ε :=
  let purge (agenda : Agenda τ (Option ε)) := agenda.purge fun event => event.all isLive
  match (purge timeline.agenda).next? with
  | none => timeline
  | some (time, due, agenda) => { timeline with now := time, due := due, agenda := purge agenda }

/-- The next event, and the timeline on which it has been taken out. -/
def next? (timeline : Timeline τ ε) (isLive : ε → Bool) : Option (Option ε × Timeline τ ε) :=
  let take (timeline : Timeline τ ε) : Option (Option ε × Timeline τ ε) :=
    match timeline.due with
    | [] => none
    | event :: due => some (event, { timeline with due := due })
  let released := timeline.release isLive
  take timeline <|> take released <|> take (released.proceed isLive)

/-- What plays on a timeline: a state, and the timeline that it is in. -/
structure Scene (τ ε σ : Type) where
  timeline : Timeline τ ε
  state : σ

/-- How a state and events go together. -/
structure Rule (τ ε σ : Type) where
  /-- Whether an event has not become void. -/
  isLive : σ → ε → Bool
  happen : ε → Scene τ ε σ → Scene τ ε σ

/-- Let events happen until the end of a time that was waited for, or until the state is as is
wanted.  The bound limits how many events there may be. -/
def playUntil (rule : Rule τ ε σ) (isWanted : σ → Bool) :
    (bound : Nat) → Scene τ ε σ → Scene τ ε σ
  | 0, scene => scene
  | bound + 1, scene =>
    if isWanted scene.state then scene
    else
      match scene.timeline.next? (rule.isLive scene.state) with
      | none => scene
      | some (none, timeline) => { scene with timeline := timeline }
      | some (some event, timeline) =>
        playUntil rule isWanted bound (rule.happen event { scene with timeline := timeline })

/-- Let some time pass. -/
def pass (rule : Rule τ ε σ) (bound : Nat) (time : τ) (scene : Scene τ ε σ) : Scene τ ε σ :=
  playUntil rule (fun _ => false) bound
    { scene with timeline := scene.timeline.enter time none }

end Timeline

end HomeConfig
