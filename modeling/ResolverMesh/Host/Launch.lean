import ResolverMesh.Host.Files
import ResolverMesh.Text.Lines

set_option autoImplicit false
set_option relaxedAutoImplicit false

/-!
# Running a program

Finding the program that a command names, and running it to its end. A program that leaves a
daemon behind takes the path of the pid file from the first `pid-file=` line of the configuration
file that it is given, and succeeds only once the pid is written there.

## What is assumed

* A run does to the host what its outcome says and nothing else: it leaves a daemon behind or not,
  and all that it writes is the line with the daemon's pid. What it prints, how it ends, and what it
  says where it can leave no daemon behind is up to the program (`ResolverMesh.Program`).
* The daemon has the next pid, and is alive once its program has ended. It ends when it is killed,
  not by itself.
* The program reads its configuration as the mesh does, and no other file matters to its run.

## Main definitions

* `ResolverMesh.Launch.findProgram` — whether the system can run a program.
* `ResolverMesh.Launch.runProgram` — a run of a program that has been found.
* `ResolverMesh.Launch.run` — a program found and run.
-/

namespace ResolverMesh.Launch

/-- The greatest length of an argument in bytes. -/
def longestArgument : Nat := 131071

/-- A path leads to a program that the system can run with the words of a command. -/
def runnable (d : Disk) (command : List Text) (p : Path) : Except IoError Unit :=
  match d.find p with
  | .error e => .error e
  | .ok ⟨_, .file _ true content⟩ =>
    if command.any (fun word => longestArgument < Text.utf8Size word) then
      .error .argumentTooLong
    else if content = .program then .ok ()
    else .error .notAProgram
  | .ok _ => .error .notPermitted

/-- The first directory with a runnable program of a name. A directory without it and one whose
entry may not be executed are passed over; `last` is the error to be reported so far. -/
def searchIn (d : Disk) (command : List Text) (name : Text) (last : IoError) :
    List Path → Except IoError Unit
  | [] => .error last
  | dir :: dirs =>
    match runnable d command (dir.join name) with
    | .ok () => .ok ()
    | .error e =>
      if e = .notFound ∨ e = .notADirectory ∨ e = .notPermitted then
        searchIn d command name (if last = .notPermitted then last else e) dirs
      else .error e

/-- Whether the system can run a program with the words of a command. One that is named without
a slash is looked up in the search path. -/
def findProgram (h : Host) (program : Path) (command : List Text) : Except IoError Unit :=
  if program.text.contains '/' then runnable h.disk command program
  else if program.text = [] then .error .notFound
  else if FileTree.longestName < Text.utf8Size program.text then .error .nameTooLong
  else searchIn h.disk command program.text .notFound h.searchPath.dirs

/-- What begins an argument that names the configuration file. -/
def configOption : Text := "--conf-file=".toList

/-- What begins the line of a configuration that names the pid file. -/
def pidFileKey : Text := "pid-file=".toList

/-- What follows `key` in a text that begins with it. -/
def after? (key t : Text) : Option Text :=
  if key.isPrefixOf t then some (t.drop key.length) else none

/-- The path of the pid file that a configuration names. -/
def pidFileOf? (config : Text) : Option Path :=
  ((Text.lines config).findSome? (after? pidFileKey)).map Path.mk

/-- The text of the configuration file that a command names, empty if it cannot be read. Bytes
that are not UTF-8 do not keep the rest from being read. -/
def configOf (d : Disk) (command : List Text) : Text :=
  let arg := (command[3]?).getD []
  let path : Path := ⟨(after? configOption arg).getD arg⟩
  match d.find path with
  | .ok ⟨_, .file _ _ content⟩ => content.lossyText
  | _ => []

/-- The line that a daemon writes to its pid file. -/
def pidLine (pid : Nat) : Text :=
  Text.decimal pid ++ ['\n']

/-- A run that has failed with a message after what it printed. -/
def failed (o : Outcome) (message : List UInt8) : Finished :=
  ⟨false, o.stdout, o.stderr ++ message⟩

/-- A daemon is left behind, if its pid can be written. -/
def daemonize (command : List Text) (o : Outcome) (excuse : Excuse) : Action Finished := fun h =>
  match pidFileOf? (configOf h.disk command) with
  | none => (.ok (failed o excuse.noPidFile), h)
  | some pidFile =>
    match h.disk.writeText pidFile (pidLine h.nextPid) with
    | .error _ => (.ok (failed o excuse.notWritten), h)
    | .ok c =>
      let h' := { h with disk := c.disk }.addProcess
      (.ok ⟨true, o.stdout, o.stderr⟩,
        (h'.record (.daemonStarted h.nextPid)).record (.pidWritten c.loc))

/-- The name that a program's runs are counted by: the last step of the path it is called by. -/
def programName (command : List Text) : Text :=
  ((Path.mk (command.headD [])).steps.getLast?).getD []

/-- A run of a program that has been found. -/
def runProgram (command : List Text) : Action Finished := fun h =>
  let name := programName command
  let program := h.programs name
  let h := { h with
    programs := fun n => if n = name then program.advance else h.programs n }.record
      (.began command)
  match program.next.ending with
  | .exit code => (.ok ⟨code % 256 = 0, program.next.stdout, program.next.stderr⟩, h)
  | .dies => (.ok ⟨false, program.next.stdout, program.next.stderr⟩, h)
  | .daemonizes excuse => daemonize command program.next excuse h

/-- A program found and run to its end. -/
def run (program : Path) (args : List Text) : Action Finished := do
  let command := program.text :: args
  Action.record (.launched command)
  if command.any Path.hasNul then
    throw (.io .nulInArgument)
  Action.ask (fun h => (findProgram h program command).mapError Fault.io)
  runProgram command

end ResolverMesh.Launch
