set_option autoImplicit false
set_option relaxedAutoImplicit false

/-!
# Daemon programs

What a run of an installed program does. A program prints to its two outputs and then exits, dies
by a signal, or leaves a daemon behind; which of these is fixed for each run in advance, so a
statement about every course of events is a statement about every program.

## Main definitions

* `ResolverMesh.Ending`, `ResolverMesh.Outcome` — what one run does.
* `ResolverMesh.Program` — what each run does, and how many there have been.
* `ResolverMesh.Finished` — what the caller learns of a run.
-/

namespace ResolverMesh

/-- What a program adds to its standard error output where it can leave no daemon behind. -/
structure Excuse where
  /-- What it says where its configuration names no pid file. -/
  noPidFile : List UInt8
  /-- What it says where that file cannot be written. -/
  notWritten : List UInt8
  deriving DecidableEq, Repr

/-- How a run of a program ends. -/
inductive Ending
  /-- It exits with a code. -/
  | exit (code : Nat)
  /-- It dies by a signal. -/
  | dies
  /-- It leaves a daemon behind and exits, or it exits with an excuse. -/
  | daemonizes (excuse : Excuse)
  deriving DecidableEq, Repr

/-- What one run of a program does. -/
structure Outcome where
  /-- What it prints to its standard output. -/
  stdout : List UInt8
  /-- What it prints to its standard error output. -/
  stderr : List UInt8
  /-- How it ends. -/
  ending : Ending
  deriving DecidableEq, Repr

/-- A run that prints nothing and succeeds. -/
def Outcome.quiet : Outcome := ⟨[], [], .exit 0⟩

/-- A program with the runs that it has had. -/
structure Program where
  /-- What each run does, counted from the first. -/
  outcomes : Nat → Outcome
  /-- The number of runs so far. -/
  runs : Nat

namespace Program

/-- A program that prints nothing and succeeds. -/
def quiet : Program := ⟨fun _ => .quiet, 0⟩

/-- A program that goes through a list of outcomes and stays with the last one. -/
def ofList (outcomes : List Outcome) : Program :=
  ⟨fun n => (outcomes[n]?).getD (outcomes.getLastD .quiet), 0⟩

/-- What the next run does. -/
def next (p : Program) : Outcome :=
  p.outcomes p.runs

/-- The program after one more run. -/
def advance (p : Program) : Program :=
  { p with runs := p.runs + 1 }

end Program

/-- What the caller learns of a run. -/
structure Finished where
  /-- The program exited with the code for success. -/
  success : Bool
  /-- What it printed to its standard output. -/
  stdout : List UInt8
  /-- What it printed to its standard error output. -/
  stderr : List UInt8
  deriving DecidableEq, Repr

end ResolverMesh
