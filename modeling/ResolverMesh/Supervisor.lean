import ResolverMesh.Host.Launch
import ResolverMesh.Host.Signal
import ResolverMesh.Text.Blank
import ResolverMesh.Text.Number
import ResolverMesh.Text.Utf8

set_option autoImplicit false
set_option relaxedAutoImplicit false

/-!
# Supervision of a daemon

A daemon is known by its pid file. It runs if that file holds the pid of a live process; a
missing file, one that holds no pid and one that cannot be read all mean that it does not run.

## Main definitions

* `ResolverMesh.PidFile` — what a pid file tells.
* `ResolverMesh.Supervisor` — the daemon of one configuration.
* `ResolverMesh.Supervisor.state` — whether it runs, and as which process.
* `ResolverMesh.Supervisor.start`, `ResolverMesh.Supervisor.stop`, `ResolverMesh.Supervisor.hup`,
  `ResolverMesh.Supervisor.restartIfRunning` — the changes of that state.
-/

namespace ResolverMesh

/-- What a pid file tells. -/
inductive PidFile
  /-- There is no pid file. -/
  | missing
  /-- It cannot be read as text. -/
  | unreadable (cause : IoError)
  /-- Its text, without the blanks around it, is not a pid. -/
  | corrupt (content : Text)
  /-- It holds a pid. -/
  | pid (pid : Nat)
  deriving DecidableEq, Repr

namespace PidFile

/-- The greatest pid that a pid file can hold. -/
def greatestPid : Nat := 2147483647

/-- The pid that a text stands for: digits, after a plus sign or not, for a number from one up. -/
def parsePid? (cs : Text) : Option Nat :=
  (Text.number? 10 (match cs with | '+' :: rest => rest | _ => cs)).filter
    (fun n => 1 ≤ n ∧ n ≤ greatestPid)

/-- What the text of a pid file tells. -/
def ofText (t : Text) : PidFile :=
  match parsePid? (Text.trim t) with
  | some n => .pid n
  | none => .corrupt (Text.trim t)

/-- What the pid file at a path tells. -/
def read (d : Disk) (p : Path) : PidFile :=
  match d.readText p with
  | .ok s => ofText s
  | .error e => if e = .notFound then .missing else .unreadable e

end PidFile

/-- Whether a daemon runs. -/
inductive ProcessState
  /-- It does not run. -/
  | notRunning
  /-- It runs as this process. -/
  | running (pid : Nat)
  deriving DecidableEq, Repr

/-- The daemon of one configuration. -/
structure Supervisor where
  /-- Its program. -/
  binary : Path
  /-- Its configuration file. -/
  configFile : Path
  /-- The file that it writes its pid to. -/
  pidFile : Path
  /-- The user that it runs as. -/
  user : Text
  deriving DecidableEq, Repr

namespace Supervisor

/-- Whether the daemon runs on a host. -/
def stateOn (s : Supervisor) (h : Host) : ProcessState :=
  match PidFile.read h.disk s.pidFile with
  | .pid n => if Signal.accepts h n then .running n else .notRunning
  | _ => .notRunning

/-- Whether the daemon runs. -/
def state (s : Supervisor) : Query ProcessState := fun h =>
  .ok (s.stateOn h)

/-- The daemon runs. -/
def isRunning (s : Supervisor) : Query Bool := fun h =>
  .ok (s.stateOn h != .notRunning)

/-- The arguments that the daemon's program is given. -/
def arguments (s : Supervisor) : List Text :=
  ["-u".toList, s.user, "--conf-file=".toList ++ s.configFile.text]

/-- The daemon's program is run; it is expected to leave the daemon behind. -/
def start (s : Supervisor) : Action Unit := do
  let finished ← Launch.run s.binary s.arguments
  if finished.success then
    Action.log (.startedDaemon s.configFile)
  else
    throw (.startFailure
      (Text.Utf8.decodeLossy finished.stdout ++ Text.Utf8.decodeLossy finished.stderr))

/-- The process that the pid file names is killed. A missing or corrupt pid file and a process
that is gone already count as stopped. -/
def stop (s : Supervisor) : Action Unit := do
  match ← Action.ask (fun h => .ok (PidFile.read h.disk s.pidFile)) with
  | .missing => return
  | .unreadable cause => throw (.io cause)
  | .corrupt content => Action.log (.corruptPidFile s.pidFile content)
  | .pid n =>
    match ← Action.attempt (Signal.send n Signal.terminate) with
    | .ok () => Action.log (.stoppedDaemon n)
    | .error (.processGone _) => return
    | .error fault => throw fault

/-- The daemon reads its files again, or is started if it does not run. -/
def hup (s : Supervisor) : Action Unit := do
  match ← s.state with
  | .notRunning => s.start
  | .running n =>
    match ← Action.attempt (Signal.send n Signal.reload) with
    | .ok () => return
    | .error (.processGone _) => s.start
    | .error fault => throw fault

/-- The daemon is killed and started again, if it runs. -/
def restartIfRunning (s : Supervisor) : Action Unit := do
  match ← s.state with
  | .notRunning => return
  | .running n =>
    s.stop
    if ← Action.ask (fun h => .ok (Signal.accepts h n)) then
      Action.log (.daemonSurvived n)
    s.start

end Supervisor

end ResolverMesh
