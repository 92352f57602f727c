import HomeConfig.Notice
import HomeConfig.Text.Basic

/-!
# The log

What is reported goes to one place, if it weighs enough.  Every part of the program has a name, and
names with points stand below their beginnings.  A part has the threshold that was set for it, or
else that of the nearest part above it.  What passes it must also pass the threshold of the place
where the log is written.

Libraries that report much have thresholds of their own, which no setting lowers.
-/

namespace HomeConfig

/-- The thresholds of a log, and where else the parts of a program report to. -/
structure Log where
  /-- The threshold of the place where the log is written. -/
  threshold : Nat
  /-- The thresholds of the parts that have one. -/
  thresholds : List (String × Nat)
  /-- The parts that report to other places, each once for every place. -/
  elsewhere : List String

namespace Log

/-- The name of the server among the parts. -/
def server : String := "ha_lsp"

/-- The threshold of the part above all others. -/
def rootThreshold : Nat := Level.debug.weight

/-- The libraries that report much, with their thresholds. -/
def libraries : List (String × Nat) := [
  ("asyncio", Level.warning.weight),
  ("httpcore", Level.warning.weight),
  ("httpx", Level.warning.weight),
  ("pygls", Level.warning.weight),
  ("pygls.protocol", Level.error.weight),
  ("pygls.server", Level.warning.weight)]

/-- The log with a threshold for the server.  Libraries report nowhere else any more. -/
def configure (threshold : Nat) (elsewhere : List String) : Log where
  threshold := threshold
  thresholds := (server, threshold) :: libraries
  elsewhere := elsewhere.filter fun name => (libraries.lookup name).isNone

/-- The part of a text before its last point, if something stands before it. -/
def beforeLastPoint? (text : Text) : Option Text :=
  match (text.reverse.dropWhile (· != '.')).drop 1 with
  | [] => none
  | before => some before.reverse

/-- The names above a name, nearest first.  Of points in a row only the last one counts. -/
def above : (bound : Nat) → Text → List Text
  | 0, _ => []
  | bound + 1, text =>
    match beforeLastPoint? text with
    | none => []
    | some name => name :: above bound name.dropLast

/-- The threshold that was set for a part. -/
def own? (log : Log) (name : String) : Option Nat :=
  (log.thresholds.lookup name).filter (0 < ·)

/-- The threshold that holds for a part. -/
def thresholdOf (log : Log) (name : String) : Nat :=
  let names := name.toList :: above name.length name.toList
  (names.findSome? fun name => log.own? (String.ofList name)).getD rootThreshold

/-- Whether the log takes what a part reports with a weight. -/
def takes (log : Log) (name : String) (weight : Nat) : Bool :=
  decide (log.thresholdOf name ≤ weight) && decide (log.threshold ≤ weight)

/-- Whether the log takes a notice. -/
def takesNotice (log : Log) (notice : Notice) : Bool :=
  log.takes notice.logger notice.level.weight

/-- A line of the log. -/
def line (level name message : String) : String :=
  " | ".intercalate [level, if name = "" then "root" else name, message]

end Log

end HomeConfig
