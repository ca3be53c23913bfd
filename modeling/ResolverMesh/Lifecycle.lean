import ResolverMesh.HostsFile
import ResolverMesh.Host.Lock
import ResolverMesh.ChainHook
import ResolverMesh.Propagation

set_option autoImplicit false
set_option relaxedAutoImplicit false

/-!
# The lifecycle of an instance

A pod is attached to a network, detached from it, and its network checked. The first pod brings
the network's instance up, the last one takes it down. Every change is made under the lock on the
root, and an attachment that fails is undone as far as that is possible.

## Main definitions

* `ResolverMesh.Attachment` — a pod and the network that it joins.
* `ResolverMesh.Mesh` — the settings and the forwarding chain hook.
* `ResolverMesh.Mesh.add`, `ResolverMesh.Mesh.del`, `ResolverMesh.Mesh.check` — the operations.
-/

namespace ResolverMesh

/-- A pod and the network that it joins. -/
structure Attachment where
  /-- The network. -/
  network : Text
  /-- The domain that the network's pods are found in; empty for none. -/
  domain : Text := []
  /-- The network's domain is made known to the other networks. -/
  multiDomain : Bool := false
  /-- The interface that the daemon listens on. -/
  interface : Text := []
  /-- The name of the pod. -/
  podName : Text := []
  /-- Further names of the pod. -/
  aliases : List Text := []
  /-- The addresses of the pod. -/
  containerIps : List Address := []
  /-- The addresses at which the network's daemon answers. -/
  nameservers : List Address := []
  /-- Servers for what the daemon cannot answer. -/
  defaultServers : List Text := []
  /-- The servers that the pod would use without the network. -/
  prevNameservers : List Text := []
  deriving DecidableEq, Repr

/-- The addresses at which the network's daemon answers, as text. -/
def Attachment.servers (a : Attachment) : List Text :=
  a.nameservers.map Address.text

/-- The settings and the forwarding chain hook. -/
structure Mesh where
  /-- The settings. -/
  settings : Settings
  /-- The forwarding chain hook. -/
  chain : ChainHook

namespace Mesh

/-- The permission bits of an instance's directory, which only its owner may enter. -/
def instanceMode : Nat := 0o700

/-- The instance that a pod is attached to. -/
def resolve (m : Mesh) (a : Attachment) : Query Instance :=
  m.settings.resolve a.network a.domain a.multiDomain

/-- An action under the lock on the root, which is created if it is missing. -/
def locked {α : Type} (m : Mesh) (body : Action α) : Action α :=
  LockGuard.hold (LockGuard.acquire m.settings.rootDir m.settings.lockTimeout) body

/-- A pod is entered into its network's instance, which is brought up first if it has to be. -/
def provision (m : Mesh) (i : Instance) (a : Attachment) : Action Unit := do
  Files.makeDirectories instanceMode i.dir
  i.ensureConfigFile a.interface
  m.chain.call (.ensure a.interface)
  HostsFile.append i.hostsFile a.podName a.aliases a.containerIps
  unless a.defaultServers.isEmpty do
    Forwarders.addPlain i.localServersFile a.defaultServers
  if i.multiDomain then
    unless ← i.supervisor.isRunning do
      Propagation.publish m.settings i a.servers
  i.supervisor.hup

/-- A network's instance is taken down. -/
def tearDown (m : Mesh) (i : Instance) (a : Attachment) : Action Unit := do
  if i.multiDomain then
    Propagation.withdraw m.settings i a.servers
  i.supervisor.stop
  Files.removeIfThere i.dir
  Action.log (.removedInstance i.network)

/-- The forwarding chain of a pod's interface is removed; a hook that fails is only logged. -/
def dropChain (m : Mesh) (a : Attachment) : Action Unit := do
  match ← Action.attempt (m.chain.call (.remove a.interface)) with
  | .ok () => return
  | .error fault => Action.log (.chainNotRemoved a.interface fault)

/-- A pod is taken out of its network's instance, which is taken down with its last pod. -/
def cleanUp (m : Mesh) (i : Instance) (a : Attachment) : Action Unit := do
  m.dropChain a
  if ← HostsFile.removePod i.hostsFile a.podName then
    i.supervisor.hup
  else
    m.tearDown i a

/-- A pod is entered, or taken out again if that fails. -/
def provisionOrUndo (m : Mesh) (i : Instance) (a : Attachment) : Action Unit := do
  match ← Action.attempt (m.provision i a) with
  | .ok () => return
  | .error fault =>
    match ← Action.attempt (m.cleanUp i a) with
    | .ok () => throw fault
    | .error second =>
      Action.log (.notCleanedUp i.network second)
      throw fault

/-- A pod is attached to its network. The answer is the list of servers that it should use. -/
def add (m : Mesh) (a : Attachment) : Action (List Text) := do
  let i ← m.resolve a
  m.locked (m.provisionOrUndo i a)
  return a.servers ++ a.prevNameservers

/-- A pod is detached from its network. -/
def del (m : Mesh) (a : Attachment) : Action Unit := do
  let i ← m.resolve a
  m.locked (m.cleanUp i a)

/-- The files that a running instance has to have. -/
def verifyFiles : List Path → Query Unit
  | [] => return
  | p :: ps => do
    unless ← Files.isFile p do
      throw (.missingFile p)
    verifyFiles ps

/-- An instance's daemon runs and its files are there. -/
def verify (i : Instance) : Query Unit := do
  unless ← i.supervisor.isRunning do
    throw (.notRunning i.network)
  verifyFiles [i.hostsFile, i.configFile]

/-- A network's instance is checked. Nothing is created. -/
def check (m : Mesh) (a : Attachment) : Action Unit := do
  let i ← m.resolve a
  unless ← Files.isDirectory m.settings.rootDir do
    throw (.notRunning i.network)
  LockGuard.hold (LockGuard.acquireExisting m.settings.rootDir m.settings.lockTimeout)
    (Action.ask (verify i))

end Mesh

end ResolverMesh
