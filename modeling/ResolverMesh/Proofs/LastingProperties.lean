import ResolverMesh.Proofs.OperationEffects

set_option autoImplicit false
set_option relaxedAutoImplicit false

/-!
# Properties that last

A property of the host that holds between any two requests to it holds however an operation ends.
This module says which requests there are: a property that is kept by each of them, on a host with
the root in order, is kept by attaching and by detaching a pod.

## Main definitions

* `ResolverMesh.Host.Lasts` — the requests of an attachment keep a property.
* `ResolverMesh.Host.LastsThroughout` — so does the end of a network.
* `ResolverMesh.Propagation.Noted` — what is known of an update that a survey has noted.

## Main results

* `ResolverMesh.Host.Lasts.keeps_provision` — a pod attached.
* `ResolverMesh.Host.LastsThroughout.keeps_cleanUp` — a pod detached.
* `ResolverMesh.Host.LastsThroughout.keeps_provisionOrUndo` — a pod attached, or that undone.
-/

namespace ResolverMesh

open ResolverMesh.Action Disk

/-! ## The requests of an operation -/

namespace Host

/-- A property of hosts with the root in order lasts while pods are attached: it is kept by all
requests that an attachment makes. -/
structure Lasts (root : Path) (base : Location) (P : Host → Prop) : Prop where
  /-- The root is in order. -/
  inOrder : ∀ {h}, P h → h.disk.InOrder root base
  /-- An effect in which no daemon takes part. -/
  record : ∀ {h e}, P h → e.isQuiet = true → P (h.record e)
  /-- The directory of a network made. -/
  opened : ∀ {h k n}, P h → Settings.isNetworkName n = true →
    h.Opened k (base ++ [Name.text n]) → P k
  /-- A file of a network written that is neither its configuration nor its pid file. -/
  wrote : ∀ {h k n f s}, P h → h.disk.HasNetwork base n → f ≠ configName → f ≠ pidName →
    h.Wrote k (base ++ [Name.text n, .text f]) s → P k
  /-- The configuration of a network written. -/
  configured : ∀ {h k} {i : Instance} {interface}, P h → i.IsBelow root →
    h.disk.HasNetwork base i.network → (∀ l ∈ i.configLines interface, '\n' ∉ l) →
    h.Wrote k (base ++ [Name.text i.network, .text configName])
      (Text.unlines (i.configLines interface)) → P k
  /-- A network's daemon reads its files again. -/
  hup : ∀ {i : Instance}, i.IsBelow root → Keeps P i.supervisor.hup
  /-- A network's daemon restarted. -/
  restartIfRunning : ∀ {i : Instance}, i.IsBelow root → Keeps P i.supervisor.restartIfRunning

/-- A property lasts throughout: it is kept when a network is taken down, too. -/
structure LastsThroughout (root : Path) (base : Location) (P : Host → Prop) : Prop
    extends Lasts root base P where
  /-- A network's daemon stopped, and its directory removed. -/
  closed : ∀ {i : Instance}, i.IsBelow root → Keeps P (do
    i.supervisor.stop
    Files.removeIfThere i.dir)

namespace Lasts

variable {root : Path} {base : Location} {P : Host → Prop} {n f : Text} {i : Instance}

section Requests

variable (hP : Lasts root base P)

include hP

/-- A line of the log is a quiet effect. -/
lemma keeps_log (entry : LogEntry) : Keeps P (log entry) :=
  fun _ hh => hP.record hh rfl

/-- The directory of a network is made directly under the root, is there already, or cannot be
made. -/
lemma keeps_makeDirectories (hn : Settings.isNetworkName n = true) (mode : Nat) :
    Keeps P (Files.makeDirectories mode (root.join n)) := by
  intro h hh
  rcases (hP.inOrder hh).linkless.makeDirectories_network hn mode with
    ⟨hm, -⟩ | ⟨-, hp⟩ | ⟨-, e, hm⟩
  · rw [hm]
    exact hh
  · exact hP.opened hh hn hp
  · rw [hm]
    exact hh

/-- A network's file that is neither its configuration nor its pid file may be written. -/
lemma keeps_write (hn : Settings.isNetworkName n = true) (hf : IsFileName f)
    (hc : f ≠ configName) (hp : f ≠ pidName) (s : Text) :
    Keeps P (Files.write (root.fileOf n f) s) := by
  intro h hh
  rcases (hP.inOrder hh).files_write hn hf s with ⟨-, hnet, -, hw⟩ | ⟨-, e, hw⟩
  · exact hP.wrote hh hnet hc hp hw
  · rw [hw]
    exact hh

/-- Something may be added to it, which writes the file as a whole. -/
lemma keeps_append (hn : Settings.isNetworkName n = true) (hf : IsFileName f)
    (hc : f ≠ configName) (hp : f ≠ pidName) (s : Text) :
    Keeps P (Files.append (root.fileOf n f) s) := by
  intro h hh
  rcases (hP.inOrder hh).files_append hn hf s with ⟨-, hnet, -, hw⟩ | ⟨-, e, hw⟩
  · exact hP.wrote hh hnet hc hp hw
  · rw [hw]
    exact hh

/-- The configuration of a network may be written, if none of its lines holds a line feed. -/
lemma keeps_writeConfig (hi : i.IsBelow root) {interface : Text}
    (hl : ∀ l ∈ i.configLines interface, '\n' ∉ l) :
    Keeps P (Files.write i.configFile (Text.unlines (i.configLines interface))) := by
  intro h hh
  rw [hi.configFile]
  rcases (hP.inOrder hh).files_write hi.name isFileName_configName
      (Text.unlines (i.configLines interface)) with ⟨-, hnet, -, hw⟩ | ⟨-, e, hw⟩
  · exact hP.configured hh hi hnet hl hw
  · rw [hw]
    exact hh

/-- The file of forwarders of a network may be written. -/
lemma keeps_writeLocal (hi : i.IsBelow root) (s : Text) :
    Keeps P (Files.write i.localServersFile s) := by
  rw [hi.localServersFile]
  exact hP.keeps_write hi.name isFileName_localServersName (by decide) (by decide) s

/-- A call of the hook is a quiet effect. -/
lemma keeps_call (c : ChainHook) (request : ChainCall) : Keeps P (c.call request) := by
  refine .bind (keeps_ask _) fun past => .bind (fun _ hh => hP.record hh rfl) fun _ => ?_
  split
  · exact keeps_pure _
  · exact keeps_throw _

/-- Default servers may be added to a network's forwarders. -/
lemma keeps_addPlain (hi : i.IsBelow root) (servers : List Text) :
    Keeps P (Forwarders.addPlain i.localServersFile servers) := by
  refine .bind (keeps_lift _) fun current => ?_
  dsimp only
  split
  · exact hP.keeps_writeLocal hi _
  · exact keeps_pure _

/-- The files of a network's daemon may be written where they are missing. -/
lemma keeps_ensureConfigFile (hi : i.IsBelow root) {interface : Text}
    (hl : ∀ l ∈ i.configLines interface, '\n' ∉ l) : Keeps P (i.ensureConfigFile interface) := by
  rw [Instance.ensureConfigFile_eq]
  exact .bind (.ensure (hP.keeps_writeLocal hi _)) fun _ => .ensure (hP.keeps_writeConfig hi hl)

end Requests

/-! ## Siblings -/

section Siblings

variable (hP : Lasts root base P)

include hP

/-- A sibling may be updated. -/
lemma keeps_apply {u : SiblingUpdate} (hu : u.sibling.IsBelow root) : Keeps P u.apply :=
  .bind (hP.keeps_writeLocal hu _) fun _ => hP.restartIfRunning hu

/-- So may several, one after the other. -/
lemma keeps_applyAll {us : List SiblingUpdate} (hus : ∀ u ∈ us, u.sibling.IsBelow root) :
    Keeps P (Propagation.applyAll us) := by
  induction us with
  | nil => exact keeps_pure _
  | cons u us ih =>
    exact .bind (hP.keeps_apply (hus u (by simp))) fun _ => ih fun v hv => hus v (by simp [hv])

end Siblings

end Lasts

end Host

/-- An update is of one of the listed siblings, and adds to its forwarders the lines that they
lack. -/
structure Propagation.Noted (s : Settings) (own names : List Text) (h : Host)
    (u : SiblingUpdate) : Prop where
  /-- The sibling is below the root. -/
  below : u.sibling.IsBelow s.rootDir
  /-- It is listed. -/
  mem : u.sibling.network ∈ names
  /-- It lacks a line, and the new forwarders are the old ones with the lines. -/
  lines : ∃ theirs, Forwarders.readLines u.sibling.localServersFile h = .ok theirs ∧
    (Forwarders.merge theirs own).changed = true ∧ u.lines = (Forwarders.merge theirs own).lines

/-- **What a look at the siblings notes.**

**Proof sketch.** Induction on the names that are left. The one at the head may be passed over, may
stop the look, or adds an update to those found; the update holds what was just read of the
sibling, and the rest is the induction hypothesis. -/
theorem Propagation.noted_of_survey {s : Settings} {domain : Text} {own all : List Text} {h : Host}
    {names : List Text} {found result : Survey}
    (hr : survey s domain own names found h = .ok result) (hnames : ∀ p ∈ names, p ∈ all)
    (hfound : ∀ u ∈ found.updates, Noted s own all h u) :
    ∀ u ∈ result.updates, Noted s own all h u := by
  induction names generalizing found with
  | nil =>
    cases hr
    exact hfound
  | cons name names ih =>
    unfold survey at hr
    rw [Query.run_bind] at hr
    rcases s.resolve_eq name [] true h with ⟨i, hi, hb, hin, -⟩ | ⟨fault, hf, -⟩
    · rw [hi] at hr
      dsimp only at hr
      rw [Query.run_bind] at hr
      cases hown : Forwarders.readLines i.ownServersFile h with
      | error fault => simp [hown] at hr
      | ok published =>
        rw [hown] at hr
        dsimp only at hr
        split at hr
        · rw [Query.run_bind] at hr
          cases hr
        · rw [Query.run_bind] at hr
          cases hlocal : Forwarders.readLines i.localServersFile h with
          | error fault => simp [hlocal] at hr
          | ok theirs =>
            rw [hlocal] at hr
            refine ih hr (fun p hp => hnames p (by simp [hp])) fun u hu => ?_
            dsimp only at hu
            split at hu
            · next hchanged =>
              rcases List.mem_append.mp hu with hu | hu
              · exact hfound u hu
              · rw [List.mem_singleton.mp hu]
                exact ⟨hb, hnames _ (by simp [hin]), theirs, hlocal, hchanged, rfl⟩
            · exact hfound u hu
    · rw [hf] at hr
      cases hr

namespace Host.Lasts

variable {m : Mesh} {base : Location} {P : Host → Prop} {i : Instance} {a : Attachment}

section Operations

variable (hP : Lasts m.settings.rootDir base P)

include hP

/-- A network's servers may be published.

**Proof sketch.** The network's own file is written first. Of the siblings that are updated
afterwards only this is needed: that each is a network of the root, as
`Propagation.noted_of_survey` tells. -/
lemma keeps_publish (hi : i.IsBelow m.settings.rootDir) (servers : List Text) :
    Keeps P (Propagation.publish m.settings i servers) := by
  unfold Propagation.publish
  dsimp only
  refine .bind ?_ fun _ => .bind (keeps_lift _) fun current => .bind (keeps_lift _) fun names => ?_
  · unfold Forwarders.writeLines
    rw [hi.ownServersFile]
    exact hP.keeps_write hi.name isFileName_ownServersName (by decide) (by decide) _
  refine .bind_lift fun h found hh hfound => ?_
  have hnoted := Propagation.noted_of_survey hfound (fun _ hp => hp) (by simp)
  have hrest : Keeps P (do
      Propagation.applyAll found.updates
      Forwarders.writeLines i.localServersFile
        (Forwarders.remove found.known (Forwarders.scopedLines i.domain servers)).lines
      Action.log (.propagated i.network i.domain found.updates.length)) :=
    .bind (hP.keeps_applyAll fun u hu => (hnoted u hu).below) fun _ =>
      .bind (hP.keeps_writeLocal hi _) fun _ => hP.keeps_log _
  exact hrest h hh

/-- A pod may be entered in the files of its network.

**Proof sketch.** One request after the other, each of which keeps the property. -/
lemma keeps_enter (hi : i.IsBelow m.settings.rootDir)
    (hl : ∀ l ∈ i.configLines a.interface, '\n' ∉ l) : Keeps P (m.enter i a) := by
  unfold Mesh.enter
  refine .bind ?_ fun _ => .bind (hP.keeps_ensureConfigFile hi hl) fun _ =>
    .bind (hP.keeps_call _ _) fun _ => .bind ?_ fun _ => ?_
  · rw [hi.dir]
    exact hP.keeps_makeDirectories hi.name _
  · unfold HostsFile.append
    rw [hi.hostsFile]
    exact hP.keeps_append hi.name isFileName_hostsName (by decide) (by decide) _
  · split
    · exact keeps_pure _
    · exact hP.keeps_addPlain hi _

/-- A network may be announced to its siblings, whether or not that is called for. -/
lemma keeps_announce (hi : i.IsBelow m.settings.rootDir) : Keeps P (m.announce i a) := by
  intro h hh
  unfold Mesh.announce
  split
  · exact hP.keeps_publish hi _ h hh
  · exact hh

/-- **A pod attached.** -/
theorem keeps_provision (hi : i.IsBelow m.settings.rootDir)
    (hl : ∀ l ∈ i.configLines a.interface, '\n' ∉ l) : Keeps P (m.provision i a) := by
  rw [Mesh.provision_eq]
  exact .bind (hP.keeps_enter hi hl) fun _ => .bind (hP.keeps_announce hi) fun _ => hP.hup hi

/-- Lines may be withdrawn from a list of networks.

**Proof sketch.** By the networks: each of them is resolved, and a file of it that has lost lines
is written and its daemon restarted. -/
lemma keeps_withdrawFrom (own names : List Text) :
    Keeps P (Propagation.withdrawFrom m.settings own names) := by
  induction names with
  | nil => exact keeps_pure _
  | cons name names ih =>
    refine .bind_lift fun h i hh hi => ?_
    obtain ⟨hbelow, -⟩ := Settings.of_resolve_ok hi
    refine Keeps.bind (keeps_lift _) (fun current => ?_) h hh
    dsimp only
    split
    · exact .bind (hP.keeps_apply hbelow) fun _ => ih
    · exact ih

/-- A network's servers may be withdrawn from all its siblings. -/
lemma keeps_withdraw (servers : List Text) :
    Keeps P (Propagation.withdraw m.settings i servers) :=
  .bind (keeps_lift _) fun _ => .bind (hP.keeps_withdrawFrom _ _) fun _ => hP.keeps_log _

/-- A pod may be taken out of the files of its network.

**Proof sketch.** The chain's hook may fail, which is only logged, and a hosts file is written if
there is one. -/
lemma keeps_takeOut (hi : i.IsBelow m.settings.rootDir) : Keeps P (m.takeOut i a) := by
  refine .bind (.bind (hP.keeps_call _ _).attempt fun r => ?_) fun _ =>
    .bind (keeps_lift _) fun r => ?_
  · cases r with
    | ok _ => exact keeps_pure _
    | error fault => exact hP.keeps_log _
  · cases r with
    | none => exact keeps_pure _
    | some t =>
      refine .bind ?_ fun _ => keeps_pure _
      rw [hi.hostsFile]
      exact hP.keeps_write hi.name isFileName_hostsName (by decide) (by decide) _

end Operations

end Host.Lasts

namespace Host.LastsThroughout

variable {m : Mesh} {base : Location} {P : Host → Prop} {i : Instance} {a : Attachment}
  (hP : LastsThroughout m.settings.rootDir base P)

include hP

/-- A network taken down. -/
lemma keeps_tearDown (hi : i.IsBelow m.settings.rootDir) : Keeps P (m.tearDown i a) := by
  have hdemolish : Keeps P i.demolish := by
    have hboth := Keeps.bind (hP.closed hi) fun _ => hP.keeps_log (.removedInstance i.network)
    rwa [bind_assoc] at hboth
  rw [Mesh.tearDown_eq_demolish]
  split
  · exact .bind (hP.keeps_withdraw _) fun _ => hdemolish
  · exact hdemolish

/-- **A pod detached.** -/
theorem keeps_cleanUp (hi : i.IsBelow m.settings.rootDir) : Keeps P (m.cleanUp i a) := by
  rw [Mesh.cleanUp_eq]
  refine .bind (hP.keeps_takeOut hi) fun left => ?_
  split
  · exact hP.hup hi
  · exact hP.keeps_tearDown hi

/-- **A pod attached, or that undone.** -/
theorem keeps_provisionOrUndo (hi : i.IsBelow m.settings.rootDir)
    (hl : ∀ l ∈ i.configLines a.interface, '\n' ∉ l) : Keeps P (m.provisionOrUndo i a) := by
  refine .bind (hP.keeps_provision hi hl).attempt fun r => ?_
  cases r with
  | ok _ => exact keeps_pure _
  | error fault =>
    refine .bind (hP.keeps_cleanUp hi).attempt fun r => ?_
    cases r with
    | ok _ => exact keeps_throw _
    | error second => exact .bind (hP.keeps_log _) fun _ => keeps_throw _

end Host.LastsThroughout

end ResolverMesh
