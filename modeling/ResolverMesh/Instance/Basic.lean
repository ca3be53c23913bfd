import ResolverMesh.Supervisor

set_option autoImplicit false
set_option relaxedAutoImplicit false

/-!
# Instances

One network's resolver: a directory with the network's name under the root, a few files in it,
and the daemon that reads them.

## Main definitions

* `ResolverMesh.Instance` — one network's resolver.
* `ResolverMesh.Instance.configLines` — the configuration that its daemon is given.
* `ResolverMesh.Instance.ensureConfigFile` — that configuration written, unless there is one.
-/

namespace ResolverMesh

/-- One network's resolver. -/
structure Instance where
  /-- The network. -/
  network : Text
  /-- The domain that the network's pods are found in; empty for none. -/
  domain : Text
  /-- The network's domain is known to the other networks, and theirs to it. -/
  multiDomain : Bool
  /-- The directory of the instance. -/
  dir : Path
  /-- The path of the daemon's program. -/
  binary : Path
  /-- The user that the daemon runs as. -/
  user : Text
  deriving DecidableEq, Repr

namespace Instance

/-- The configuration file of the daemon. -/
def configFile (i : Instance) : Path := i.dir.join "dnsmasq.conf".toList

/-- The file that the daemon writes its pid to. -/
def pidFile (i : Instance) : Path := i.dir.join "pidfile".toList

/-- The hosts file of the network's pods. -/
def hostsFile (i : Instance) : Path := i.dir.join "addnhosts".toList

/-- The forwarders that the daemon uses. -/
def localServersFile (i : Instance) : Path := i.dir.join "local-servers.conf".toList

/-- The forwarders to the network itself, for the other networks. -/
def ownServersFile (i : Instance) : Path := i.dir.join "own-servers.conf".toList

/-- The daemon. -/
def supervisor (i : Instance) : Supervisor :=
  ⟨i.binary, i.configFile, i.pidFile, i.user⟩

/-- The lines at the head of every configuration. -/
def marker : List Text :=
  ["## WARNING: THIS IS AN AUTOGENERATED FILE".toList,
   "## AND SHOULD NOT BE EDITED MANUALLY AS IT".toList,
   "## LIKELY TO AUTOMATICALLY BE REPLACED.".toList]

/-- A line of a configuration that gives a key a value. -/
def directive (key : String) (value : Text) : Text :=
  key.toList ++ '=' :: value

/-- The lines of a configuration about the domain of the pods. -/
def domainLines (domain : Text) : List Text :=
  if domain = [] then []
  else [directive "local" ('/' :: domain ++ ['/']), directive "domain" domain,
    "expand-hosts".toList]

/-- The lines of the daemon's configuration for an interface. -/
def configLines (i : Instance) (interface : Text) : List Text :=
  marker ++ ["strict-order".toList] ++ domainLines i.domain ++
    [directive "pid-file" i.pidFile.text, directive "except-interface" "lo".toList,
      "bind-dynamic".toList, "no-hosts".toList, directive "interface" interface,
      directive "addn-hosts" i.hostsFile.text, directive "servers-file" i.localServersFile.text]

/-- A configuration file for an interface, unless the instance has one. An empty file of
forwarders is put beside it if none is there, since the daemon reads it. -/
def ensureConfigFile (i : Instance) (interface : Text) : Action Unit := do
  unless ← Files.isThere i.localServersFile do
    Files.write i.localServersFile []
  unless ← Files.isThere i.configFile do
    Files.write i.configFile (Text.unlines (i.configLines interface))

end Instance

end ResolverMesh
