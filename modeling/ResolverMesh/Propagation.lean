import ResolverMesh.Forwarders.File
import ResolverMesh.Instance.Registry

set_option autoImplicit false
set_option relaxedAutoImplicit false

/-!
# Propagation

The networks of a root know each other's domains: each has a file of forwarders to itself, and a
file of forwarders to the others, which its daemon uses. Publishing first looks at all siblings
and only then changes any of them, so a domain that is already claimed leaves them untouched.

## Main definitions

* `ResolverMesh.SiblingUpdate` — the new forwarders of one sibling.
* `ResolverMesh.Propagation.survey` — what there is to be done, found without changing anything.
* `ResolverMesh.Propagation.publish`, `ResolverMesh.Propagation.withdraw` — a network's forwarders
  made known to its siblings, and taken back.
-/

namespace ResolverMesh

/-- The new forwarders of one sibling. -/
structure SiblingUpdate where
  /-- The sibling. -/
  sibling : Instance
  /-- Its new forwarders. -/
  lines : List Text
  deriving DecidableEq, Repr

/-- The sibling's forwarders are written anew, and its daemon is restarted if it runs. -/
def SiblingUpdate.apply (u : SiblingUpdate) : Action Unit := do
  Forwarders.writeLines u.sibling.localServersFile u.lines
  u.sibling.supervisor.restartIfRunning

namespace Propagation

/-- What a look at the siblings finds. -/
structure Survey where
  /-- The forwarders that the instance has or learns from its siblings. -/
  known : List Text
  /-- The siblings that lack a forwarder to the instance, in order. -/
  updates : List SiblingUpdate
  deriving DecidableEq, Repr

/-- A look at the siblings in order: what each publishes and knows is learnt, and those that lack
a line of `own` are noted. A sibling that claims the domain ends it. -/
def survey (s : Settings) (domain : Text) (own : List Text) :
    List Text → Survey → Query Survey
  | [], found => return found
  | name :: names, found => do
    let sibling ← s.resolve name [] true
    let published ← Forwarders.readLines sibling.ownServersFile
    if Forwarders.claims published domain then
      throw (.domainCollision domain name)
    let theirs ← Forwarders.readLines sibling.localServersFile
    let merged := Forwarders.merge theirs own
    let learnt := Forwarders.merge (Forwarders.merge found.known published).lines theirs
    survey s domain own names
      ⟨learnt.lines,
        if merged.changed then found.updates ++ [⟨sibling, merged.lines⟩] else found.updates⟩

/-- Updates applied in order. -/
def applyAll : List SiblingUpdate → Action Unit
  | [] => return
  | u :: us => do
    u.apply
    applyAll us

/-- An instance's forwarders made known to its siblings, and theirs to the instance. -/
def publish (s : Settings) (i : Instance) (servers : List Text) : Action Unit := do
  let own := Forwarders.scopedLines i.domain servers
  Forwarders.writeLines i.ownServersFile own
  let current ← Forwarders.readLines i.localServersFile
  let names ← s.siblings i.dir
  let found ← survey s i.domain own names ⟨current, []⟩
  applyAll found.updates
  Forwarders.writeLines i.localServersFile (Forwarders.remove found.known own).lines
  Action.log (.propagated i.network i.domain found.updates.length)

/-- An instance's forwarders taken from its siblings, one after the other. -/
def withdrawFrom (s : Settings) (own : List Text) : List Text → Action Unit
  | [] => return
  | name :: names => do
    let sibling ← s.resolve name [] true
    let current ← Forwarders.readLines sibling.localServersFile
    let rest := Forwarders.remove current own
    if rest.changed then
      SiblingUpdate.apply ⟨sibling, rest.lines⟩
    withdrawFrom s own names

/-- An instance's forwarders taken back from its siblings. The instance's own files are left
alone. -/
def withdraw (s : Settings) (i : Instance) (servers : List Text) : Action Unit := do
  let own := Forwarders.scopedLines i.domain servers
  let names ← s.siblings i.dir
  withdrawFrom s own names
  Action.log (.withdrew i.network i.domain)

end Propagation

end ResolverMesh
