import ResolverMesh.Proofs.DaemonRequests
import ResolverMesh.Proofs.FailedAttachment

set_option autoImplicit false
set_option relaxedAutoImplicit false

/-!
# The requests of an operation

Which requests attaching and detaching a pod make, one by one, in a root that may hold anything but
links: what is put into which file of the network, which sibling is told of which lines, and what
is asked about which daemon. A property that every one of them keeps is kept by the operation,
however it ends and at whichever request it fails.

Unlike `ResolverMesh.Host.Lasts`, which asks for a root in order and lets every file be written at
any time, this tells a sibling's new forwarders and the restart of its daemon as one request. So a
property may be broken between the two, and a property may depend on what is written.

## Main definitions

* `ResolverMesh.Host.Filed` — a host before and after something is put into a file.
* `ResolverMesh.Mesh.Puts` — what is put into the files of a network.
* `ResolverMesh.Mesh.Surveyed` — what a network finds out about its siblings.
* `ResolverMesh.Mesh.AttachingKeeps`, `ResolverMesh.Mesh.DetachingKeeps` — the requests of an
  attachment and of a detachment keep a property.
* `ResolverMesh.Mesh.retire` — all that is done in taking a network down before it is removed.
* `ResolverMesh.Event.isAttaching`, `ResolverMesh.Event.isDetaching` — the effects that attaching
  and detaching a pod may have.
* `ResolverMesh.Mesh.attended` — an action on the instance of an attachment, under the lock.

## Main results

* `ResolverMesh.Mesh.AttachingKeeps.keeps_provision` — a pod attached.
* `ResolverMesh.Mesh.DetachingKeeps.keeps_cleanUp` — a pod detached.
* `ResolverMesh.Mesh.DetachingKeeps.keeps_provisionOrUndo` — a pod attached, or that undone.
* `ResolverMesh.Mesh.attended_cases` — an action under the lock, from the host before it.
-/

namespace ResolverMesh

open ResolverMesh.Action Disk

/-- What an action leaves gives way to what holds in the end, also if the action fails. -/
lemma Action.of_run_bind {α β : Type} {P Q : Host → Prop} {x : Action α} {f : α → Action β}
    {h : Host} (hx : P (x h).2) (hf : ∀ a k, P k → Q (f a k).2) (hfail : ∀ k, P k → Q k) :
    Q ((x >>= f) h).2 := by
  rw [run_bind]
  rcases hr : x h with ⟨fault | a, k⟩ <;> rw [hr] at hx
  · exact hfail k hx
  · exact hf a k hx

/-! ## Something put into a file -/

/-- A content was put at a place, in the place of a file or of nothing. -/
def Host.Filed (h k : Host) (loc : Location) (c : Content) : Prop :=
  ∃ id x next, (∀ old, h.disk.tree.get? loc = some old → Entry.Alike old (.file id x c)) ∧
    k = ({ h with disk := ⟨h.disk.tree.put loc (.file id x c), h.disk.workDir, next⟩ } :
      Host).record (.wroteFile loc)

section Filed

variable {root : Path} {base : Location} {n f : Text} {h k : Host} {loc : Location} {c : Content}

/-- A text that is put into a file is written there. -/
lemma Host.Filed.wrote {s : Text} (hf : h.Filed k loc (.text s)) : h.Wrote k loc s :=
  hf

/-- Putting something into a file has one effect. -/
lemma Host.Filed.journal (hf : h.Filed k loc c) :
    k.journal = h.journal ++ [Event.wroteFile loc] := by
  obtain ⟨id, x, next, -, rfl⟩ := hf
  rfl

/-- The file holds what was put into it, and every other place what it held. -/
lemma Host.Filed.get? (hf : h.Filed k loc c) : ∃ id x, k.disk.tree.get? loc = some (.file id x c) ∧
    ∀ loc' ≠ loc, k.disk.tree.get? loc' = h.disk.tree.get? loc' := by
  obtain ⟨id, x, next, -, rfl⟩ := hf
  refine ⟨id, x, ?_, fun loc' hne => ?_⟩
  · simp [Host.record, FileTree.get?_put]
  · simp [Host.record, FileTree.get?_put, hne]

/-- No daemon takes part. -/
lemma Host.Filed.calm (hf : h.Filed k loc c) : h.Calm k := by
  obtain ⟨id, x, next, -, rfl⟩ := hf
  exact .of_journal rfl (by simp) rfl rfl ⟨rfl, rfl, fun _ => rfl⟩

/-- No link is put on the disk. -/
lemma Host.Filed.linkless (hf : h.Filed k loc c) (hl : h.disk.Linkless root base) :
    k.disk.Linkless root base := by
  obtain ⟨id, x, next, halike, rfl⟩ := hf
  exact hl.of_put rfl rfl (.put halike) rfl

/-- The networks are those that there were. -/
lemma Host.Filed.hasNetwork_iff {p : Text} (hf : h.Filed k (base ++ [Name.text n, .text f]) c) :
    k.disk.HasNetwork base p ↔ h.disk.HasNetwork base p := by
  obtain ⟨-, -, -, hget⟩ := hf.get?
  unfold Disk.HasNetwork
  rw [hget _ (by simp)]

/-- Making a directory has one effect. -/
lemma Host.Opened.journal (hp : h.Opened k loc) :
    k.journal = h.journal ++ [Event.madeDirectory loc] := by
  obtain ⟨-, id, mode, next, rfl⟩ := hp
  rfl

/-- So has removing one. -/
lemma Host.Removed.journal (hr : h.Removed k loc) :
    k.journal = h.journal ++ [Event.removed loc] := by
  cases hr
  rfl

/-- A directory made is no link. -/
lemma Host.Opened.linkless (hp : h.Opened k loc) (hl : h.disk.Linkless root base) :
    k.disk.Linkless root base := by
  obtain ⟨hfree, id, mode, next, rfl⟩ := hp
  refine hl.of_put rfl rfl (.put fun old hold => ?_) rfl
  rw [hfree] at hold
  cases hold

/-- **A file of a network is written**, or that fails and changes nothing.

**Proof sketch.** A write that succeeds has landed at the file's own place, so the network's
directory is there, and the tree is the old one with the file put there. Where the write fails,
nothing was done. -/
theorem Disk.Linkless.onFile_cases (hl : h.disk.Linkless root base)
    (hn : Settings.isNetworkName n = true) (hf : IsFileName f)
    (update : Option Content → Content) :
    (∃ k old id x, onDisk (·.write (root.fileOf n f) update) .wroteFile h = (.ok (), k) ∧
        h.disk.HasNetwork base n ∧ h.Filed k (base ++ [Name.text n, .text f]) (update old) ∧
        h.disk.tree.get? (base ++ [Name.text n, .text f]) = old.map (.file id x ·)) ∨
      ∃ fault, onDisk (·.write (root.fileOf n f) update) .wroteFile h = (.error fault, h) := by
  unfold onDisk
  dsimp only
  cases hw : h.disk.write (root.fileOf n f) update with
  | error e => exact .inr ⟨_, rfl⟩
  | ok c =>
    have hnet : h.disk.HasNetwork base n := by
      obtain ⟨-, -, -, hslash, -⟩ := hl.leads.path_file hn hf
      unfold write openSpot at hw
      rw [hslash] at hw
      dsimp only at hw
      cases hwalk : h.disk.walk .file (root.fileOf n f) (root.fileOf n f).steps with
      | error e => simp [hwalk] at hw
      | ok spot => exact (of_landing_file (hl.landing_of_walk hn hf hwalk)).1
    obtain ⟨hloc, hdir, id, x, old, htree, hold⟩ := hl.write_ok hn hf hw
    refine .inl ⟨_, old, id, x, rfl, hnet, ⟨id, x, c.disk.nextId, fun e he => ?_, ?_⟩, hold⟩
    · rw [hold] at he
      obtain ⟨c', -, rfl⟩ := Option.map_eq_some_iff.mp he
      rfl
    · rw [hloc, ← htree, ← hdir]

/-- A text is written to a file of a network, or that fails and changes nothing. -/
lemma Disk.Linkless.write_cases (hl : h.disk.Linkless root base)
    (hn : Settings.isNetworkName n = true) (hf : IsFileName f) (s : Text) :
    (∃ k, Files.write (root.fileOf n f) s h = (.ok (), k) ∧ h.disk.HasNetwork base n ∧
        h.Wrote k (base ++ [Name.text n, .text f]) s) ∨
      ∃ fault, Files.write (root.fileOf n f) s h = (.error fault, h) := by
  rcases hl.onFile_cases hn hf (fun _ => .text s) with ⟨k, old, id, x, hr, hnet, hw, -⟩ | hr
  · exact .inl ⟨k, hr, hnet, hw⟩
  · exact .inr hr

/-- A file that is written although it is not found holds no text by then.

**Proof sketch.** Finding the file and opening it for writing walk the same way. The write got to
its end, and the lookup found nothing there, so it is a free place. -/
lemma Disk.Linkless.fileText_eq_none_of_write (hl : h.disk.Linkless root base)
    (hn : Settings.isNetworkName n = true) (hf : IsFileName f) {s : Text}
    (hr : Files.write (root.fileOf n f) s h = (.ok (), k))
    (hno : h.disk.isThere (root.fileOf n f) = false) : h.disk.fileText base n f = none := by
  obtain ⟨hsteps, habs, htext, hslash, hlook⟩ := hl.leads.path_file hn hf
  have hrest := hf.isStep_of_mem
  unfold Files.write onDisk writeText write openSpot at hr
  unfold isThere find lookUp at hno
  dsimp only at hr
  rw [hslash] at hr
  rw [hlook] at hno
  simp only [Bool.false_eq_true, if_false] at hr
  rcases hl.walk_names [f] hsteps habs htext hn hrest with ⟨-, hwalk⟩ | ⟨-, e, -, hwalk⟩
  · rw [hwalk] at hr hno
    cases hland : h.disk.tree.landing base [n, f] with
    | error e =>
      simp only [hland] at hr
      cases hr
    | ok spot =>
      obtain ⟨-, ⟨rfl, hfree⟩ | ⟨e, rfl, he⟩⟩ := of_landing_file hland
      · rw [fileText, hfree]
        rfl
      · rw [hland] at hno
        cases hno
  · simp only [hwalk] at hr
    cases hr

/-- **A sibling told**: its forwarders are written and its daemon is restarted if it runs, or
nothing is done. -/
theorem Disk.Linkless.apply_cases (hl : h.disk.Linkless root base) {u : SiblingUpdate}
    (hu : u.sibling.IsBelow root) :
    (∃ k, u.apply h = u.sibling.supervisor.restartIfRunning k ∧
        h.disk.HasNetwork base u.sibling.network ∧
        h.Wrote k (base ++ [Name.text u.sibling.network, .text localServersName])
          (Forwarders.toText u.lines)) ∨
      ∃ fault, u.apply h = (.error fault, h) := by
  unfold SiblingUpdate.apply Forwarders.writeLines
  rw [run_bind, hu.localServersFile]
  rcases hl.write_cases hu.name isFileName_localServersName (Forwarders.toText u.lines) with
    ⟨k, hr, hnet, hw⟩ | ⟨fault, hr⟩ <;> rw [hr]
  · exact .inl ⟨k, rfl, hnet, hw⟩
  · exact .inr ⟨fault, rfl⟩

end Filed

/-! ## What an operation puts where -/

namespace Mesh

/-- What an attachment puts into the files of its network on a host, the forwarders that are learnt
from siblings left out. -/
inductive Puts (base : Location) (i : Instance) (a : Attachment) (h : Host) : Text → Content → Prop
  /-- The configuration. -/
  | config : Puts base i a h configName (.text (Text.unlines (i.configLines a.interface)))
  /-- A first file of forwarders. -/
  | blank (hno : h.disk.fileText base i.network localServersName = none) :
      Puts base i a h localServersName (.text [])
  /-- The pod at the end of the hosts file. -/
  | listed {id : Nat} {x : Bool} {old : Option Content}
      (hold : h.disk.tree.get? (base ++ [Name.text i.network, .text hostsName]) =
        old.map (.file id x ·)) :
      Puts base i a h hostsName ((old.getD (.text [])).append
        (HostsFile.entry a.podName a.aliases a.containerIps))
  /-- The servers of the attachment among the forwarders. -/
  | plain {current : List Text}
      (hread : Forwarders.readLines i.localServersFile h = .ok current) :
      Puts base i a h localServersName (.text (Forwarders.toText
        (Forwarders.merge current (Forwarders.plainLines a.defaultServers)).lines))
  /-- What the network publishes. -/
  | own : Puts base i a h ownServersName
      (.text (Forwarders.toText (Forwarders.scopedLines i.domain a.servers)))

/-- What a network finds out about its siblings on a host. -/
def Surveyed (m : Mesh) (i : Instance) (a : Attachment) (h : Host)
    (found : Propagation.Survey) : Prop :=
  ∃ current names, Forwarders.readLines i.localServersFile h = .ok current ∧
    m.settings.siblings i.dir h = .ok names ∧
    Propagation.survey m.settings i.domain (Forwarders.scopedLines i.domain a.servers) names
      ⟨current, []⟩ h = .ok found

variable {m : Mesh} {base : Location} {i : Instance} {a : Attachment} {h : Host} {f : Text}
  {c : Content}

/-- Nothing is put into the pid file. -/
lemma Puts.ne_pidName (hp : Puts base i a h f c) : f ≠ pidName := by
  cases hp <;> decide

/-- What was noted of the siblings: each that is updated is another network that is there, and
lacks a line. -/
lemma Surveyed.noted {found : Propagation.Survey} (hs : m.Surveyed i a h found)
    (hl : h.disk.Linkless m.settings.rootDir base) (hi : i.IsBelow m.settings.rootDir)
    {u : SiblingUpdate} (hu : u ∈ found.updates) :
    u.sibling.IsBelow m.settings.rootDir ∧ u.sibling.network ≠ i.network ∧
      h.disk.HasNetwork base u.sibling.network ∧
      ∃ theirs, Forwarders.readLines u.sibling.localServersFile h = .ok theirs ∧
        (Forwarders.merge theirs (Forwarders.scopedLines i.domain a.servers)).changed = true ∧
        u.lines = (Forwarders.merge theirs (Forwarders.scopedLines i.domain a.servers)).lines := by
  obtain ⟨current, names, -, hnames, hfound⟩ := hs
  have hnoted := Propagation.noted_of_survey hfound (fun _ hp => hp) (by simp) u hu
  obtain ⟨names', hnames', -, hmem, -⟩ := hl.leads.siblings hi.name rfl
  rw [← hi.dir, hnames] at hnames'
  cases hnames'
  obtain ⟨hnet, hne⟩ := (hmem _).mp hnoted.mem
  exact ⟨hnoted.below, hne, hnet, hnoted.lines⟩

/-! ## Properties that an operation keeps -/

/-- The requests of an attachment keep a property of hosts without links below the root. -/
structure AttachingKeeps (m : Mesh) (base : Location) (i : Instance) (a : Attachment)
    (P : Host → Prop) : Prop where
  /-- The hook is asked for the forwarding chain. -/
  call : ∀ {h}, P h → P (h.record (.chain (.ensure a.interface)))
  /-- The network's directory is made. -/
  opened : ∀ {h k}, P h → h.disk.Linkless m.settings.rootDir base →
    h.Opened k (base ++ [Name.text i.network]) → P k
  /-- A file of the network is written. -/
  filed : ∀ {h k f c}, P h → h.disk.Linkless m.settings.rootDir base →
    h.disk.HasNetwork base i.network → Puts base i a h f c →
    h.Filed k (base ++ [Name.text i.network, .text f]) c → P k
  /-- A sibling is told of the network after the siblings have been looked at. -/
  told : ∀ {s h found u}, i.multiDomain = true → P s → s.disk.Linkless m.settings.rootDir base →
    m.Surveyed i a s found → u ∈ found.updates → s.journal <+: h.journal → P h →
    h.disk.Linkless m.settings.rootDir base → P (u.apply h).2
  /-- What was learnt from the siblings is written, which is the end of the announcement. -/
  learnt : ∀ {s h k found}, P s → s.disk.Linkless m.settings.rootDir base →
    m.Surveyed i a s found → s.journal <+: h.journal → P h →
    h.disk.Linkless m.settings.rootDir base → h.disk.HasNetwork base i.network →
    h.Wrote k (base ++ [Name.text i.network, .text localServersName]) (Forwarders.toText
      (Forwarders.remove found.known (Forwarders.scopedLines i.domain a.servers)).lines) →
    P (k.record (.logged (.propagated i.network i.domain found.updates.length)))
  /-- The network's daemon reads its files. -/
  hup : ∀ {h}, P h → h.disk.Linkless m.settings.rootDir base → P (i.supervisor.hup h).2

/-- The requests of a detachment keep a property `P` of hosts without links below the root, up to
the end, when the network's directory may have been removed and only `Q` is left. -/
structure DetachingKeeps (m : Mesh) (base : Location) (i : Instance) (a : Attachment)
    (P Q : Host → Prop) : Prop where
  /-- The hook is asked to remove the forwarding chain. -/
  call : ∀ {h}, P h → P (h.record (.chain (.remove a.interface)))
  /-- An entry of the log, which does not tell of an announcement. -/
  log : ∀ {h entry}, P h → (∀ n d c, entry ≠ .propagated n d c) → P (h.record (.logged entry))
  /-- The pod is taken out of the hosts file of the network. -/
  delisted : ∀ {h k t}, P h → h.disk.Linkless m.settings.rootDir base →
    h.disk.HasNetwork base i.network → Files.readIfThere i.hostsFile h = .ok (some t) →
    h.Wrote k (base ++ [Name.text i.network, .text hostsName])
      (Text.unlines (HostsFile.without a.podName t)) → P k
  /-- The network's lines are taken from a sibling that has some of them. -/
  withdrawn : ∀ {h j current}, i.multiDomain = true → P h →
    h.disk.Linkless m.settings.rootDir base → j.IsBelow m.settings.rootDir → j.network ≠ i.network →
    Forwarders.readLines j.localServersFile h = .ok current →
    (Forwarders.remove current (Forwarders.scopedLines i.domain a.servers)).changed = true →
    P (SiblingUpdate.apply
      ⟨j, (Forwarders.remove current (Forwarders.scopedLines i.domain a.servers)).lines⟩ h).2
  /-- The network's daemon reads its files. -/
  hup : ∀ {h}, P h → h.disk.Linkless m.settings.rootDir base → P (i.supervisor.hup h).2
  /-- The network's daemon is stopped. -/
  stop : ∀ {h}, P h → h.disk.Linkless m.settings.rootDir base → P (i.supervisor.stop h).2
  /-- The network's directory is removed. -/
  removed : ∀ {h k}, P h → h.disk.Linkless m.settings.rootDir base →
    h.Removed k (base ++ [Name.text i.network]) → Q k
  /-- What is left in the end follows. -/
  weaken : ∀ {h}, P h → Q h
  /-- It outlasts an entry of the log, which does not tell of an announcement. -/
  logEnd : ∀ {h entry}, Q h → (∀ n d c, entry ≠ .propagated n d c) →
    Q (h.record (.logged entry))

/-- A network's lines are taken back from its siblings, and its daemon is stopped. -/
def retire (m : Mesh) (i : Instance) (a : Attachment) : Action Unit := do
  if i.multiDomain then
    Propagation.withdraw m.settings i a.servers
  i.supervisor.stop

/-- A network that has been retired is removed. -/
lemma tearDown_eq_retire (m : Mesh) (i : Instance) (a : Attachment) : m.tearDown i a = (do
    m.retire i a
    Files.removeIfThere i.dir
    Action.log (.removedInstance i.network)) := by
  unfold tearDown retire
  cases i.multiDomain <;> simp [bind_assoc]

/-- A property, on a disk without links below the root. -/
def OnLinkless (m : Mesh) (base : Location) (P : Host → Prop) (h : Host) : Prop :=
  h.disk.Linkless m.settings.rootDir base ∧ P h

section Requests

variable {P : Host → Prop}

/-- Something is put into a file of the network. -/
lemma keeps_onFile (hi : i.IsBelow m.settings.rootDir) (hf : IsFileName f)
    {u : Option Content → Content}
    (hP : ∀ h k old id x, m.OnLinkless base P h → h.disk.HasNetwork base i.network →
      h.Filed k (base ++ [Name.text i.network, .text f]) (u old) →
      h.disk.tree.get? (base ++ [Name.text i.network, .text f]) = old.map (.file id x ·) → P k) :
    Keeps (m.OnLinkless base P)
      (onDisk (·.write (m.settings.rootDir.fileOf i.network f) u) .wroteFile) := by
  intro h hh
  rcases hh.1.onFile_cases hi.name hf u with ⟨k, old, id, x, hr, hnet, hw, hold⟩ | ⟨fault, hr⟩
  · rw [hr]
    exact ⟨hw.linkless hh.1, hP h k old id x hh hnet hw hold⟩
  · rw [hr]
    exact hh

/-- A sibling's forwarders are written and its daemon is restarted. -/
lemma linkless_apply {u : SiblingUpdate} (hu : u.sibling.IsBelow m.settings.rootDir)
    (hl : h.disk.Linkless m.settings.rootDir base) :
    (u.apply h).2.disk.Linkless m.settings.rootDir base := by
  rcases hl.apply_cases hu with ⟨k, hr, -, hw⟩ | ⟨fault, hr⟩ <;> rw [hr]
  · exact (Supervisor.tended_restartIfRunning _ k).linkless (Host.Filed.linkless hw hl)
  · exact hl

/-- What an entry of the log keeps. -/
lemma keeps_log {entry : LogEntry} (hP : ∀ h, P h → P (h.record (.logged entry))) :
    Keeps (m.OnLinkless base P) (log entry) :=
  fun h hh => ⟨hh.1, hP h hh.2⟩

/-- What a request to the hook keeps. -/
lemma keeps_call {request : ChainCall} (hP : ∀ h, P h → P (h.record (.chain request))) :
    Keeps (m.OnLinkless base P) (m.chain.call request) := by
  refine .bind (keeps_ask _) fun past => .bind (fun h hh => ⟨hh.1, hP h hh.2⟩) fun _ => ?_
  split
  · exact keeps_pure _
  · exact keeps_throw _

/-- What a request about a daemon keeps. -/
lemma keeps_tended {x : Action Unit} {command : List Text} {targets : Host → Nat → Prop}
    (hx : ∀ h, Host.Tended command (targets h) h (x h).2)
    (hP : ∀ h, P h → h.disk.Linkless m.settings.rootDir base → P (x h).2) :
    Keeps (m.OnLinkless base P) x :=
  fun h hh => ⟨(hx h).linkless hh.1, hP h hh.2 hh.1⟩

end Requests

namespace AttachingKeeps

variable {P : Host → Prop}

section

variable (hP : m.AttachingKeeps base i a P) (hi : i.IsBelow m.settings.rootDir)

include hP hi

/-- A text is put into a file of the network. -/
lemma keeps_write (hf : IsFileName f) {s : Text}
    (hputs : ∀ h, m.OnLinkless base P h → Puts base i a h f (.text s)) :
    Keeps (m.OnLinkless base P) (Files.write (m.settings.rootDir.fileOf i.network f) s) := by
  refine keeps_onFile hi hf fun h k old id x hh hnet hw hold => ?_
  exact hP.filed hh.2 hh.1 hnet (hputs h hh) hw

/-- The files of a network's daemon are written where they are missing.

**Proof sketch.** The file of forwarders is written empty only where it is not found, so it held no
text before; that is what the property is asked about. The configuration is one more file of the
network. -/
lemma keeps_ensureConfigFile :
    Keeps (m.OnLinkless base P) (i.ensureConfigFile a.interface) := by
  have hconfig : Keeps (m.OnLinkless base P)
      (Files.write i.configFile (Text.unlines (i.configLines a.interface))) := by
    rw [hi.configFile]
    exact hP.keeps_write hi isFileName_configName fun _ _ => .config
  have hblank : Keeps (m.OnLinkless base P) (Files.ensure i.localServersFile []) := by
    refine .bind_lift fun h there hh hthere => ?_
    cases hthere
    split
    · exact hh
    · next hno =>
      rw [hi.localServersFile] at hno ⊢
      rcases hh.1.write_cases hi.name isFileName_localServersName [] with
        ⟨k, hr, hnet, hw⟩ | ⟨fault, hr⟩ <;> rw [hr]
      · have hfree := hh.1.fileText_eq_none_of_write hi.name isFileName_localServersName hr
          (by rw [← Bool.not_eq_true]; exact hno)
        exact ⟨Host.Filed.linkless hw hh.1, hP.filed hh.2 hh.1 hnet (.blank hfree) hw⟩
      · exact hh
  rw [Instance.ensureConfigFile_eq]
  exact .bind hblank fun _ => .ensure hconfig

/-- The pod is added to the hosts file of its network. -/
lemma keeps_append : Keeps (m.OnLinkless base P)
    (HostsFile.append i.hostsFile a.podName a.aliases a.containerIps) := by
  unfold HostsFile.append
  rw [hi.hostsFile]
  refine keeps_onFile (u := fun c => (c.getD (.text [])).append _) hi isFileName_hostsName
    fun h k old id x hh hnet hw hold => ?_
  exact hP.filed hh.2 hh.1 hnet (.listed hold) hw

/-- Default servers are merged into the network's forwarders, if one of them is missing there.

**Proof sketch.** What is written is computed from what was read on the same host, since nothing
happens between. -/
lemma keeps_addPlain : Keeps (m.OnLinkless base P)
    (Forwarders.addPlain i.localServersFile a.defaultServers) := by
  refine .bind_lift fun h current hh hread => ?_
  by_cases hchanged :
      (Forwarders.merge current (Forwarders.plainLines a.defaultServers)).changed = true
  · rw [if_pos hchanged]
    unfold Forwarders.writeLines
    rw [hi.localServersFile]
    rcases hh.1.write_cases hi.name isFileName_localServersName (Forwarders.toText
        (Forwarders.merge current (Forwarders.plainLines a.defaultServers)).lines) with
      ⟨k, hr, hnet, hw⟩ | ⟨fault, hr⟩
    · rw [hr]
      exact ⟨Host.Filed.linkless hw hh.1, hP.filed hh.2 hh.1 hnet (.plain hread) hw⟩
    · rw [hr]
      exact hh
  · rw [if_neg hchanged]
    exact hh

/-- **A pod entered.**

**Proof sketch.** The requests are taken in order: the directory, the files of the daemon, the
hook, the hosts file, and the default servers. -/
theorem keeps_enter : Keeps (m.OnLinkless base P) (m.enter i a) := by
  unfold enter
  refine .bind ?_ fun _ => .bind (hP.keeps_ensureConfigFile hi) fun _ =>
    .bind (keeps_call fun h hh => hP.call hh) fun _ => .bind (hP.keeps_append hi) fun _ => ?_
  · intro h hh
    rw [hi.dir]
    rcases hh.1.makeDirectories_network hi.name instanceMode with
      ⟨hm, -⟩ | ⟨-, hp⟩ | ⟨-, e, hm⟩
    · rw [hm]
      exact hh
    · exact ⟨hp.linkless hh.1, hP.opened hh.2 hh.1 hp⟩
    · rw [hm]
      exact hh
  · split
    · exact keeps_pure _
    · exact hP.keeps_addPlain hi

/-- The siblings that have been looked at are told, and what was learnt is written.

**Proof sketch.** Induction on the updates. Each sibling is told as one request, whatever was told
before it, which is why the journal is carried along as grown since the siblings were looked at.
What was learnt is written last, unless an update has failed. -/
lemma keeps_tell (hmulti : i.multiDomain = true) {s : Host} {found : Propagation.Survey}
    (hs : m.OnLinkless base P s) (hfound : m.Surveyed i a s found) : m.OnLinkless base P (((do
      Propagation.applyAll found.updates
      Forwarders.writeLines i.localServersFile
        (Forwarders.remove found.known (Forwarders.scopedLines i.domain a.servers)).lines
      Action.log (.propagated i.network i.domain found.updates.length)) : Action Unit) s).2 := by
  -- what is told may depend on all that has happened since the siblings were looked at
  have hall : ∀ us : List SiblingUpdate, (∀ u ∈ us, u ∈ found.updates) →
      Keeps (fun h => m.OnLinkless base P h ∧ s.journal <+: h.journal)
        (Propagation.applyAll us) := by
    intro us
    induction us with
    | nil => exact fun _ => keeps_pure _
    | cons u us ih =>
      intro hus
      refine .bind (fun h ⟨hh, hrec⟩ => ?_) fun _ => ih fun v hv => hus v (by simp [hv])
      have hu := hus u (by simp)
      exact ⟨⟨linkless_apply (hfound.noted hs.1 hi hu).1 hh.1,
        hP.told hmulti hs.2 hs.1 hfound hu hrec hh.2 hh.1⟩, hrec.trans (u.records_apply h)⟩
  refine of_run_bind (P := fun h => m.OnLinkless base P h ∧ s.journal <+: h.journal)
    (hall _ (fun _ hu => hu) s ⟨hs, List.prefix_refl _⟩) (fun _ h ⟨hh, hrec⟩ => ?_)
    fun _ hh => hh.1
  unfold Forwarders.writeLines
  rw [run_bind, hi.localServersFile]
  rcases hh.1.write_cases hi.name isFileName_localServersName (Forwarders.toText
      (Forwarders.remove found.known (Forwarders.scopedLines i.domain a.servers)).lines) with
    ⟨k, hr, hnet, hw⟩ | ⟨fault, hr⟩
  · rw [hr]
    dsimp only
    rw [run_log]
    have hk : k.disk.Linkless m.settings.rootDir base := Host.Filed.linkless hw hh.1
    exact ⟨hk, hP.learnt hs.2 hs.1 hfound hrec hh.2 hh.1 hnet hw⟩
  · rw [hr]
    exact hh

/-- **The network made known** to its siblings.

**Proof sketch.** The network's own lines are written. Reading what is known, listing the siblings
and looking at them leave the host as it is, and with what they found `keeps_tell` takes over. -/
theorem keeps_publish (hmulti : i.multiDomain = true) : Keeps (m.OnLinkless base P)
    (Propagation.publish m.settings i a.servers) := by
  unfold Propagation.publish
  dsimp only
  refine .bind ?_ fun _ => ?_
  · unfold Forwarders.writeLines
    rw [hi.ownServersFile]
    exact hP.keeps_write hi isFileName_ownServersName fun _ _ => .own
  · refine .bind_lift fun h current hh hread => ?_
    rw [run_bind, run_lift]
    cases hnames : m.settings.siblings i.dir h with
    | error fault => exact hh
    | ok names =>
      dsimp only
      rw [run_bind, run_lift]
      cases hfound : Propagation.survey m.settings i.domain
          (Forwarders.scopedLines i.domain a.servers) names ⟨current, []⟩ h with
      | error fault => exact hh
      | ok found => exact hP.keeps_tell hi hmulti hh ⟨current, names, hread, hnames, hfound⟩

/-- A network is announced to its siblings, unless it keeps to itself or its daemon runs. -/
lemma keeps_announce : Keeps (m.OnLinkless base P) (m.announce i a) := by
  intro h hh
  unfold announce
  split
  · next hmulti => exact hP.keeps_publish hi hmulti.1 h hh
  · exact hh

omit hi in
/-- The network's daemon reads its files again. -/
lemma keeps_hup : Keeps (m.OnLinkless base P) i.supervisor.hup :=
  keeps_tended i.supervisor.tended_hup fun _ hh hl => hP.hup hh hl

/-- **A pod attached.** -/
theorem keeps_provision : Keeps (m.OnLinkless base P) (m.provision i a) := by
  rw [provision_eq]
  exact .bind (hP.keeps_enter hi) fun _ => .bind (hP.keeps_announce hi) fun _ => hP.keeps_hup

end

end AttachingKeeps

namespace DetachingKeeps

variable {P Q : Host → Prop}

section

variable (hP : m.DetachingKeeps base i a P Q) (hi : i.IsBelow m.settings.rootDir)

include hP

/-- A line is logged that tells of no announcement. -/
lemma keeps_entry {entry : LogEntry} (he : ∀ n d c, entry ≠ .propagated n d c) :
    Keeps (m.OnLinkless base P) (Action.log entry) :=
  keeps_log fun _ hh => hP.log hh he

include hi

/-- **A pod taken out.**

**Proof sketch.** The failure of the hook is logged. Of the hosts file what is left after the
removal is computed from what was read of it, and is written where the file was found. -/
theorem keeps_takeOut : Keeps (m.OnLinkless base P) (m.takeOut i a) := by
  refine .bind (.bind (keeps_call fun h hh => hP.call hh).attempt fun r => ?_) fun _ => ?_
  · cases r with
    | ok _ => exact keeps_pure _
    | error fault => exact hP.keeps_entry (by simp)
  · refine .bind_lift fun h r hh hread => ?_
    cases r with
    | none => exact hh
    | some t =>
      have hwrite : m.OnLinkless base P
          (Files.write i.hostsFile (Text.unlines (HostsFile.without a.podName t)) h).2 := by
        rw [hi.hostsFile] at hread ⊢
        rcases hh.1.write_cases hi.name isFileName_hostsName
            (Text.unlines (HostsFile.without a.podName t)) with ⟨k, hr, hnet, hw⟩ | ⟨fault, hr⟩
        · rw [hr]
          rw [← hi.hostsFile] at hread
          exact ⟨Host.Filed.linkless hw hh.1, hP.delisted hh.2 hh.1 hnet hread hw⟩
        · rw [hr]
          exact hh
      exact of_run_bind hwrite (fun _ _ => id) fun _ => id

omit hi in
/-- The lines are taken from the siblings one after the other.

**Proof sketch.** Induction on the names that are left. A sibling with none of the lines is passed
over; another is told as one request, and the rest goes on from there. -/
lemma keeps_withdrawFrom (hmulti : i.multiDomain = true) {names : List Text}
    (hnames : ∀ p ∈ names, p ≠ i.network) :
    Keeps (m.OnLinkless base P) (Propagation.withdrawFrom m.settings
      (Forwarders.scopedLines i.domain a.servers) names) := by
  induction names with
  | nil => exact keeps_pure _
  | cons name names ih =>
    have hrest := ih fun p hp => hnames p (by simp [hp])
    refine .bind_lift fun h j hh hj => ?_
    obtain ⟨hb, hn, -⟩ := Settings.of_resolve_ok hj
    rw [run_bind, run_lift]
    cases hread : Forwarders.readLines j.localServersFile h with
    | error fault => exact hh
    | ok current =>
      dsimp only
      split
      · next hchanged =>
        have happly : m.OnLinkless base P (SiblingUpdate.apply ⟨j, (Forwarders.remove current
            (Forwarders.scopedLines i.domain a.servers)).lines⟩ h).2 :=
          ⟨linkless_apply hb hh.1, hP.withdrawn hmulti hh.2 hh.1 hb
            (hn ▸ hnames name (by simp)) hread hchanged⟩
        exact of_run_bind happly (fun _ => hrest) fun _ => id
      · exact hrest h hh

/-- **The network's lines taken back** from its siblings. -/
theorem keeps_withdraw (hmulti : i.multiDomain = true) : Keeps (m.OnLinkless base P)
    (Propagation.withdraw m.settings i a.servers) := by
  unfold Propagation.withdraw
  refine .bind_lift fun h names hh hnames => ?_
  obtain ⟨names', hnames', -, hmem, -⟩ := hh.1.leads.siblings hi.name rfl
  rw [← hi.dir, hnames] at hnames'
  cases hnames'
  exact Keeps.bind (hP.keeps_withdrawFrom hmulti fun p hp => ((hmem p).mp hp).2)
    (fun _ => hP.keeps_entry (by simp)) h hh

/-- **The network retired.** -/
theorem keeps_retire : Keeps (m.OnLinkless base P) (m.retire i a) := by
  have hstop : Keeps (m.OnLinkless base P) i.supervisor.stop :=
    keeps_tended i.supervisor.tended_stop fun _ hh hl => hP.stop hh hl
  unfold retire
  dsimp only
  split
  · next hmulti => exact .bind (hP.keeps_withdraw hi hmulti) fun _ => hstop
  · exact hstop

/-- **The network taken down.** What holds while its directory may be there gives way in the end to
what holds when it may be gone.

**Proof sketch.** Retiring the network keeps what holds while its directory is there. The removal
is the point from which on only the weaker property holds. -/
theorem keeps_tearDown {h : Host} (hh : m.OnLinkless base P h) : Q (m.tearDown i a h).2 := by
  rw [tearDown_eq_retire]
  refine of_run_bind (hP.keeps_retire hi h hh) (fun _ k hk => ?_) fun k hk => hP.weaken hk.2
  have hgone : Q (Files.removeIfThere i.dir k).2 := by
    rw [hi.dir]
    rcases hk.1.removeIfThere_network hi.name with ⟨-, hr⟩ | ⟨hr, -⟩ | ⟨e, hr⟩
    · exact hP.removed hk.2 hk.1 hr
    · rw [hr]
      exact hP.weaken hk.2
    · rw [hr]
      exact hP.weaken hk.2
  exact of_run_bind hgone (fun _ l hl => hP.logEnd hl (by simp)) fun _ => id

/-- **A pod detached.** -/
theorem keeps_cleanUp {h : Host} (hh : m.OnLinkless base P h) : Q (m.cleanUp i a h).2 := by
  rw [cleanUp_eq]
  refine of_run_bind (hP.keeps_takeOut hi h hh) (fun left k hk => ?_) fun k hk => hP.weaken hk.2
  cases left with
  | true => exact hP.weaken (hP.hup hk.2 hk.1)
  | false => exact hP.keeps_tearDown hi hk

/-- **A pod attached, or that undone.**

**Proof sketch.** By how the attachment ends, and if it fails, by how its undoing ends. Both leave
a host on which the property holds. -/
theorem keeps_provisionOrUndo {h : Host} (hh : m.OnLinkless base P (m.provision i a h).2) :
    Q (m.provisionOrUndo i a h).2 := by
  unfold provisionOrUndo
  rw [run_bind, run_attempt]
  dsimp only
  cases (m.provision i a h).1 with
  | ok u => exact hP.weaken hh.2
  | error fault =>
    dsimp only
    rw [run_bind, run_attempt]
    dsimp only
    have hk := hP.keeps_cleanUp hi hh
    cases (m.cleanUp i a (m.provision i a h).2).1 with
    | ok u => exact hk
    | error second => exact hP.logEnd hk (by simp)

end

end DetachingKeeps

end Mesh

/-! ## The effects of an operation -/

/-- An effect that attaching a pod may have. -/
def Event.isAttaching : Event → Bool
  | .chain (.ensure _) => true
  | .madeDirectory _ => true
  | .wroteFile _ => true
  | .logged (.propagated _ _ _) => true
  | e => e.isDaemonic

/-- An effect that detaching a pod may have as long as its network is there. -/
def Event.isDetaching : Event → Bool
  | .chain (.remove _) => true
  | .wroteFile _ => true
  | .logged (.propagated _ _ _) => false
  | .logged _ => true
  | e => e.isDaemonic

/-- An effect that detaching a pod may have. -/
def Event.isDetachingAtLast : Event → Bool
  | .removed _ => true
  | e => e.isDetaching

namespace Host

/-- Since an earlier host, all effects have passed a test. -/
structure HasOnly (test : Event → Bool) (o h : Host) : Prop where
  /-- The journal was only added to. -/
  journal : o.journal <+: h.journal
  /-- The effects pass. -/
  effects : ∀ e ∈ o.since h, test e = true

namespace HasOnly

variable {m : Mesh} {base : Location} {o h k : Host} {i : Instance} {test test' : Event → Bool}

/-- Nothing has happened yet. -/
lemma refl (test : Event → Bool) (o : Host) : HasOnly test o o :=
  ⟨List.prefix_refl _, by simp [since]⟩

/-- Effects of some kinds are effects of more kinds. -/
lemma mono (hk : HasOnly test o h) (ht : ∀ e, test e = true → test' e = true) :
    HasOnly test' o h :=
  ⟨hk.journal, fun e he => ht e (hk.effects e he)⟩

/-- More effects may follow, if they are of the kinds. -/
lemma extend (hk : HasOnly test o h) {es : List Event} (hj : k.journal = h.journal ++ es)
    (hes : ∀ e ∈ es, test e = true) : HasOnly test o k := by
  refine ⟨hk.journal.trans ⟨_, hj.symm⟩, fun e he => ?_⟩
  rw [since_append hk.journal ⟨_, hj.symm⟩, since_of_journal hj, List.mem_append] at he
  exact he.elim (hk.effects e) (hes e)

/-- One more effect. -/
lemma extend_one (hk : HasOnly test o h) {e : Event} (hj : k.journal = h.journal ++ [e])
    (he : test e = true) : HasOnly test o k :=
  hk.extend hj fun _ hmem => List.mem_singleton.mp hmem ▸ he

/-- What is done about a daemon may follow, if the kinds have room for it. -/
lemma tended (hk : HasOnly test o h) (htest : ∀ e : Event, e.isDaemonic = true → test e = true)
    {command : List Text} {targets : Nat → Prop} (ht : Tended command targets h k) :
    HasOnly test o k := by
  obtain ⟨es, hes, hall⟩ := ht.journal
  exact hk.extend hes fun e he => htest e (hall e he)

/-- So may the update of a sibling, which writes a file and is about a daemon otherwise. -/
lemma apply (hk : HasOnly test o h) (hl : h.disk.Linkless m.settings.rootDir base)
    (htest : ∀ e : Event, e.isDaemonic = true → test e = true)
    (hwrote : ∀ loc, test (.wroteFile loc) = true) {u : SiblingUpdate}
    (hu : u.sibling.IsBelow m.settings.rootDir) : HasOnly test o (u.apply h).2 := by
  rcases hl.apply_cases hu with ⟨w, hr, -, hw⟩ | ⟨fault, hr⟩ <;> rw [hr]
  · exact (hk.extend_one (Filed.journal hw) (hwrote _)).tended htest
      (u.sibling.supervisor.tended_restartIfRunning w)
  · exact hk

end HasOnly

end Host

/-- Attaching a pod may have any effect that tending a daemon has. -/
lemma Event.isAttaching_of_isDaemonic (e : Event) (he : e.isDaemonic = true) :
    e.isAttaching = true := by
  unfold isAttaching
  split <;> first | rfl | exact he

/-- So may detaching one. -/
lemma Event.isDetaching_of_isDaemonic (e : Event) (he : e.isDaemonic = true) :
    e.isDetaching = true := by
  unfold isDetaching
  split <;> first | rfl | exact he

/-- A detachment may log anything but an announcement. -/
lemma Event.isDetaching_logged {entry : LogEntry} (he : ∀ n d c, entry ≠ .propagated n d c) :
    (Event.logged entry).isDetaching = true := by
  cases entry <;> first | rfl | exact absurd rfl (he _ _ _)

namespace Mesh

variable {m : Mesh} {base : Location} {i : Instance} {a : Attachment} {h : Host} {f : Text}
  {c : Content}

/-- **The effects of an attachment.** -/
theorem attachingKeeps_hasOnly (m : Mesh) (base : Location) (a : Attachment) (o : Host)
    (hi : i.IsBelow m.settings.rootDir) :
    m.AttachingKeeps base i a (Host.HasOnly Event.isAttaching o) where
  call hk := hk.extend_one rfl rfl
  opened hk _ hp := hk.extend_one hp.journal rfl
  filed hk _ _ _ hw := hk.extend_one hw.journal rfl
  told _ _ hls hfound hu _ hk hl :=
    hk.apply hl Event.isAttaching_of_isDaemonic (fun _ => rfl) (hfound.noted hls hi hu).1
  learnt _ _ _ _ hk _ _ hw := (hk.extend_one (Host.Filed.journal hw) rfl).extend_one rfl rfl
  hup {k} hk _ := hk.tended Event.isAttaching_of_isDaemonic (i.supervisor.tended_hup k)

/-- **The effects of a detachment.**

**Proof sketch.** Each request of a detachment adds effects of one kind, which are looked up. Those
of the end of a network are of more kinds, so the property is weakened there first. -/
theorem detachingKeeps_hasOnly (m : Mesh) (base : Location) (i : Instance) (a : Attachment)
    (o : Host) : m.DetachingKeeps base i a (Host.HasOnly Event.isDetaching o)
      (Host.HasOnly Event.isDetachingAtLast o) := by
  have hlast : ∀ e : Event, e.isDetaching = true → e.isDetachingAtLast = true := by
    intro e he
    unfold Event.isDetachingAtLast
    split <;> first | rfl | exact he
  exact {
    call := fun hk => hk.extend_one rfl rfl
    log := fun hk he => hk.extend_one rfl (Event.isDetaching_logged he)
    delisted := fun hk _ _ _ hw => hk.extend_one (Host.Filed.journal hw) rfl
    withdrawn := fun _ hk hl hj _ _ _ =>
      hk.apply hl Event.isDetaching_of_isDaemonic (fun _ => rfl) hj
    hup := fun {k} hk _ => hk.tended Event.isDetaching_of_isDaemonic (i.supervisor.tended_hup k)
    stop := fun {k} hk _ => hk.tended Event.isDetaching_of_isDaemonic (i.supervisor.tended_stop k)
    removed := fun hk _ hr => (hk.mono hlast).extend_one hr.journal rfl
    weaken := fun hk => hk.mono hlast
    logEnd := fun hk he => hk.extend_one rfl (hlast _ (Event.isDetaching_logged he)) }

/-! ## Under the lock -/

/-- An action on the instance of an attachment, under the lock on the root. -/
def attended {α : Type} (m : Mesh) (a : Attachment) (body : Instance → Action α) : Action α := do
  let i ← m.resolve a
  m.locked (body i)

/-- Attaching a pod is attending to its instance, and answering with the servers. -/
lemma add_eq (m : Mesh) (a : Attachment) : m.add a = (do
    m.attended a (m.provisionOrUndo · a)
    return a.servers ++ a.prevNameservers) := by
  unfold add attended
  simp only [bind_assoc]

/-- The answer to adding a pod takes nothing but what the attachment says. -/
lemma snd_add (m : Mesh) (a : Attachment) (h : Host) :
    (m.add a h).2 = (m.attended a (m.provisionOrUndo · a) h).2 := by
  rw [m.add_eq, run_bind]
  rcases m.attended a (m.provisionOrUndo · a) h with ⟨fault | u, k⟩ <;> rfl

/-- Detaching a pod is attending to its instance. -/
lemma del_eq (m : Mesh) (a : Attachment) : m.del a = m.attended a (m.cleanUp · a) :=
  rfl

/-- **An action under the lock**, from the host before it: it is not begun, and at most the root
was made, or it runs as it does with some locks held. Which of these it is does not depend on the
action.

**Proof sketch.** The request is resolved, the root is made and found, and its lock is taken; each
of these may fail, before the action is reached. After the last of them the action runs on the host
with the lock held, and the lock is given back. -/
theorem attended_cases (m : Mesh) (a : Attachment) (h : Host) :
    (∃ fault k, (k = h ∨ k = m.withRoot h) ∧
        ∀ {α : Type} (body : Instance → Action α), m.attended a body h = (.error fault, k)) ∨
      (Files.makeDirectories LockGuard.rootMode m.settings.rootDir h).1 = .ok () ∧
        ∃ binary ids, (m.settings.instanceOf binary a).IsBelow m.settings.rootDir ∧
          ∀ {α : Type} (body : Instance → Action α), ∃ ids', m.attended a body h =
            ((body (m.settings.instanceOf binary a) { m.withRoot h with held := ids }).1,
              { (body (m.settings.instanceOf binary a) { m.withRoot h with held := ids }).2 with
                held := ids' }) := by
  unfold attended withRoot
  rcases m.resolve_eq a h with ⟨binary, hr, hb, -⟩ | ⟨fault, hr, -⟩
  swap
  · refine .inl ⟨fault, h, .inl rfl, fun body => ?_⟩
    rw [run_bind, run_lift, hr]
  simp only [run_bind, run_lift, hr]
  unfold locked LockGuard.hold LockGuard.acquire
  simp only [run_bind]
  rcases hopen : Files.makeDirectories LockGuard.rootMode m.settings.rootDir h with
    ⟨fault | u, h₁⟩
  · exact .inl ⟨fault, h₁, .inr rfl, fun _ => rfl⟩
  dsimp only
  unfold LockGuard.acquireExisting
  cases hf : h₁.disk.find m.settings.rootDir with
  | error e => exact .inl ⟨.io e, h₁, .inr rfl, fun _ => rfl⟩
  | ok found =>
    dsimp only
    by_cases hheld : h₁.held.contains (found.entry.id?.getD 0) = true
    · simp only [if_pos hheld]
      exact .inl ⟨_, h₁, .inr rfl, fun _ => rfl⟩
    · simp only [if_neg hheld]
      exact .inr ⟨trivial, binary, _, hb, fun _ => ⟨_, rfl⟩⟩

/-- **An action under the lock that succeeds** does so on the root once it is made.

**Proof sketch.** An action that was not begun has not succeeded. Otherwise only the locks differ.
-/
theorem attended_eq_ok {α : Type} {body : Instance → Action α} {x : α} {k : Host}
    (hok : m.attended a body h = (.ok x, k)) : ∃ i ids l ids', m.IsFor i a ∧
      body i { m.withRoot h with held := ids } = (.ok x, l) ∧ k = { l with held := ids' } := by
  rcases m.attended_cases a h with ⟨fault, w, -, hrun⟩ | ⟨-, binary, ids, hb, hrun⟩
  · rw [hrun body] at hok
    cases hok
  · obtain ⟨ids', hrun⟩ := hrun body
    rw [hrun] at hok
    obtain ⟨hx, hk⟩ := Prod.ext_iff.mp hok
    exact ⟨m.settings.instanceOf binary a, ids, (body _ { m.withRoot h with held := ids }).2, ids',
      ⟨hb, rfl, rfl⟩, Prod.ext hx rfl, hk.symm⟩

/-- Once the root is made, the disk holds what a state of a run stands for. -/
lemma Stores.holds_withRoot {v : Shelf} (hs : m.Stores base v h) :
    (m.withRoot h).Holds m.settings.rootDir base v := by
  obtain ⟨w, hopen, hw, -⟩ := hs.opens
  obtain rfl : m.withRoot h = w := congrArg Prod.snd hopen
  exact hw

end Mesh

end ResolverMesh
