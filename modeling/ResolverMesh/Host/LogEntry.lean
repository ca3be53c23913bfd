import ResolverMesh.Fault

set_option autoImplicit false
set_option relaxedAutoImplicit false

/-!
# The log

What the mesh tells its operator: a few events of three levels, each with named fields.

## Main definitions

* `ResolverMesh.LogEntry` — an event.
* `ResolverMesh.LogEntry.record` — its level, message and fields as text.
* `ResolverMesh.LogRecord.line` — a record on one line.
-/

namespace ResolverMesh

/-- The weight of a log entry. -/
inductive Level
  | info
  | warning
  | error
  deriving DecidableEq, Repr

/-- The name of a level in the log. -/
def Level.text : Level → String
  | .info => "INFO"
  | .warning => "WARN"
  | .error => "ERROR"

/-- An event that the mesh logs. -/
inductive LogEntry
  /-- A daemon was started with a configuration file. -/
  | startedDaemon (config : Path)
  /-- A daemon was killed. -/
  | stoppedDaemon (pid : Nat)
  /-- A pid file holds no pid. -/
  | corruptPidFile (pidFile : Path) (content : Text)
  /-- A killed daemon has not ended in time. -/
  | daemonSurvived (pid : Nat)
  /-- A network's forwarders were published to its siblings. -/
  | propagated (network domain : Text) (updated : Nat)
  /-- A network's forwarders were withdrawn from its siblings. -/
  | withdrew (network domain : Text)
  /-- A network's instance was removed. -/
  | removedInstance (network : Text)
  /-- The forwarding chain of an interface was not removed. -/
  | chainNotRemoved (interface : Text) (fault : Fault)
  /-- A failed attachment was not undone. -/
  | notCleanedUp (network : Text) (fault : Fault)
  deriving DecidableEq, Repr

/-- A log entry as text: its level, its message and its fields in order. -/
structure LogRecord where
  /-- The level. -/
  level : Level
  /-- The message. -/
  message : String
  /-- The names and values of the fields. -/
  fields : List (String × String)
  deriving DecidableEq, Repr

/-- A record on one line, each field after a blank. -/
def LogRecord.line (r : LogRecord) : String :=
  r.level.text ++ " " ++ r.message ++
    String.join (r.fields.map (fun f => " " ++ f.1 ++ "=" ++ f.2))

namespace LogEntry

/-- A field whose value is a text. -/
def field (name : String) (value : Text) : String × String :=
  (name, String.ofList value)

/-- The text of a log entry. -/
def record : LogEntry → LogRecord
  | .startedDaemon config => ⟨.info, "Started resolver daemon", [field "config" config.text]⟩
  | .stoppedDaemon pid => ⟨.info, "Stopped resolver daemon", [field "pid" (Text.decimal pid)]⟩
  | .corruptPidFile pidFile content =>
    ⟨.warning, "Ignoring corrupt pid file",
      [field "pid_file" pidFile.text, field "content" content]⟩
  | .daemonSurvived pid =>
    ⟨.warning, "Resolver daemon still alive after kill, starting anyway",
      [field "pid" (Text.decimal pid)]⟩
  | .propagated network domain updated =>
    ⟨.info, "Propagated local servers",
      [field "network" network, field "domain" domain,
        field "siblings_updated" (Text.decimal updated)]⟩
  | .withdrew network domain =>
    ⟨.info, "Withdrew local servers", [field "network" network, field "domain" domain]⟩
  | .removedInstance network =>
    ⟨.info, "Removed resolver instance", [field "network" network]⟩
  | .chainNotRemoved interface fault =>
    ⟨.warning, "Failed to remove forwarding chain",
      [field "interface" interface, ("error", fault.message)]⟩
  | .notCleanedUp network fault =>
    ⟨.error, "Can't clean up after failed add",
      [field "network" network, ("error", fault.message)]⟩

end LogEntry

end ResolverMesh
