/-!
# Agendas

What is to happen and when.  The events are kept in a heap: the two events below place `n` stand at
places `2 * n + 1` and `2 * n + 2`, and none of them is earlier than the event at `n`, so the next
event stands at place zero.  Events for one time come out in the order in which the heap holds
them: a new event rises only past later ones, and when one is taken out the last one takes its
place, sinks to the bottom, past the earlier of two events and past the second of two for one
time, and rises again.
-/

namespace HomeConfig

/-- Coming events, each with its time. -/
structure Agenda (τ ε : Type) where
  events : Array (τ × ε)

namespace Agenda

variable {τ ε : Type}

/-- An agenda without events. -/
def empty : Agenda τ ε := ⟨#[]⟩

variable [LT τ] [DecidableLT τ]

/-- Let the event at a place rise past the later ones above it. -/
def rise (events : Array (τ × ε)) (place : Nat) : Array (τ × ε) :=
  if place = 0 then events
  else
    let above := (place - 1) / 2
    match events[place]?, events[above]? with
    | some (time, _), some (other, _) =>
      if time < other then rise (events.swapIfInBounds place above) above else events
    | _, _ => events
termination_by place
decreasing_by omega

/-- The place below a place whose event is to rise. -/
def below? (events : Array (τ × ε)) (place : Nat) : Option Nat :=
  match events[2 * place + 1]?, events[2 * place + 2]? with
  | some (first, _), some (second, _) =>
    some (if first < second then 2 * place + 1 else 2 * place + 2)
  | some _, none => some (2 * place + 1)
  | none, _ => none

/-- Let the event at a place sink to the bottom and rise again.  The bound limits how deep it may
sink. -/
def sink : (bound : Nat) → Array (τ × ε) → (place : Nat) → Array (τ × ε)
  | 0, events, place => rise events place
  | bound + 1, events, place =>
    match below? events place with
    | some lower => sink bound (events.swapIfInBounds place lower) lower
    | none => rise events place

/-- Enter an event. -/
def add (agenda : Agenda τ ε) (time : τ) (event : ε) : Agenda τ ε :=
  ⟨rise (agenda.events.push (time, event)) agenda.events.size⟩

/-- The next event, with its time. -/
def head? (agenda : Agenda τ ε) : Option (τ × ε) :=
  agenda.events[0]?

/-- What comes after the next event. -/
def tail (agenda : Agenda τ ε) : Agenda τ ε :=
  match agenda.events.back? with
  | none => agenda
  | some last =>
    let rest := agenda.events.pop
    if rest.isEmpty then ⟨rest⟩ else ⟨sink rest.size (rest.setIfInBounds 0 last) 0⟩

/-- Take events out while the next one is as told. -/
def dropWhile (agenda : Agenda τ ε) (isWanted : τ × ε → Bool) : List ε × Agenda τ ε :=
  drop agenda.events.size agenda
where
  /-- Take out a limited number of events. -/
  drop : Nat → Agenda τ ε → List ε × Agenda τ ε
    | 0, agenda => ([], agenda)
    | bound + 1, agenda =>
      match agenda.head? with
      | none => ([], agenda)
      | some next =>
        if isWanted next then
          let (events, agenda) := drop bound agenda.tail
          (next.2 :: events, agenda)
        else ([], agenda)

/-- Strike out events that have become void, as far as they come next. -/
def purge (agenda : Agenda τ ε) (isLive : ε → Bool) : Agenda τ ε :=
  (agenda.dropWhile fun (_, event) => !isLive event).2

/-- The events for the next time, with that time, and what comes after them. -/
def next? (agenda : Agenda τ ε) : Option (τ × List ε × Agenda τ ε) :=
  agenda.head?.map fun (time, _) =>
    (time, agenda.dropWhile fun (other, _) => !decide (time < other))

end Agenda

end HomeConfig
