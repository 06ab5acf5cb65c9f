/-!
# Starting programs

A program is started by name on some arguments, and it is given a time.  A start can fail,
or the program can run longer than it is given; otherwise it ends with a code, or by a
signal, having printed something.

A launcher stands for all that happens in between: the program is started, both of its
channels are read while it runs, it is looked at from time to time, and it is stopped when
its time is over.  **Only what comes of a start is seen**, and an analysis is a function of
that, whatever the launcher is.

The end of a program's time is a point on the clock of the machine, set once the program is
started.  A limit so long that the clock cannot hold that point makes the run break off there,
with no result at all.  That is outside of what is told here: a launcher answers for the limits
that its clock can hold.
-/

namespace ExportAudit.Machine

set_option autoImplicit false

/-- What a program did. -/
structure Execution where
  /-- The exit code, absent when a signal ended the program. -/
  exitCode : Option Int
  output : String
  errors : String
  deriving DecidableEq, Repr

/-- Why a program has no execution to show. -/
inductive LaunchError where
  | notFound
  | refused (reason : String)
  | timedOut
  deriving DecidableEq, Repr

/-- Starts a program on some arguments, for at most a number of milliseconds. -/
abbrev Launcher := String → List String → Nat → Except LaunchError Execution

end ExportAudit.Machine
