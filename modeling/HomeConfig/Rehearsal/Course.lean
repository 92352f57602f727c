import HomeConfig.Command.Course
import HomeConfig.Log
import HomeConfig.Rehearsal.Stage

/-!
# Rehearsing commands

The course of a command is run against a script.  What is recorded is what the console shows, the
lines of the log among the others in the order in which they come, and how the command ends.
-/

namespace HomeConfig

/-- What a rehearsed command leaves behind. -/
structure CourseRecord where
  /-- What the console shows. -/
  lines : List String
  ending : Ending
  requests : List (Access × Endpoint)

namespace Course

/-- The lines of the log that are written. -/
def logLines (course : Course) (notices : List Notice) : List String :=
  let log := Log.configure course.threshold.weight []
  (notices.filter log.takesNotice).map (Notice.line Failure.message)

/-- Run a course against a script. -/
def rehearse (course : Course) (script : Script) (timeToLive : Moment) : CourseRecord :=
  let stage := Stage.new script (Store.new course.access timeToLive) 0
  let (ending, stage) := stage.run? course.work
  let ending := ending.getD {}
  { lines := course.opening ++ course.logLines stage.notices ++ ending.lines
    ending := ending
    requests := stage.requests }

end Course

end HomeConfig
