import ResolverMesh.Proofs.OperationFrame

set_option autoImplicit false
set_option relaxedAutoImplicit false

/-!
# Daemons and the files that they serve from

A daemon reads its hosts file and its forwarders when it starts and when it is told to, and at no
other time. An operation that succeeds has made every daemon that runs in the end read what it has
written: its own daemon is told last, and a sibling's daemon is restarted right after its forwarders
are written.

## Main definitions

* `ResolverMesh.Event.Refreshes` — a process is started, or told to read its files again.
* `ResolverMesh.Mesh.UpToDate` — each write of a served file was followed by that.
* `ResolverMesh.Mesh.KeptUpToDate` — the daemons of some networks were kept up to date.
* `ResolverMesh.Host.Fresh` — what has changed was written, and the daemon is up to date.

## Main results

* `ResolverMesh.Host.Tended.running` — which daemons run after a request about one of them.
* `ResolverMesh.Mesh.refreshed_hup`, `ResolverMesh.Mesh.refreshed_restartIfRunning` — a daemon that
  runs after it was told to read its files, or restarted.
* `ResolverMesh.Mesh.KeptUpToDate.attachingKeeps`, `ResolverMesh.Mesh.KeptUpToDate.detachingKeeps` —
  the requests of an operation keep its siblings up to date.
* `ResolverMesh.Mesh.leavesUpToDate_provision`, `ResolverMesh.Mesh.leavesUpToDate_cleanUp` — an
  operation leaves all networks up to date.
* `ResolverMesh.no_stale_files` — operations that succeed.
-/

namespace ResolverMesh

open ResolverMesh.Action Disk

/-! ## Definitions -/

/-- The files of a network that its daemon serves names from. -/
def IsServed (f : Text) : Prop :=
  f = hostsName ∨ f = localServersName

/-- A process is started, or told to read its files again. -/
def Event.Refreshes (pid : Nat) (e : Event) : Prop :=
  e = .daemonStarted pid ∨ e = .signalled pid Signal.reload

/-- If the daemon of a network runs, then since an earlier host each write of a file that it serves
from was followed by its start, or by its being told to read its files again. -/
def Mesh.UpToDate (m : Mesh) (base : Location) (n : Text) (o h : Host) : Prop :=
  ∀ pid, m.stateOf h n = .running pid → ∀ f, IsServed f → ∀ before after,
    o.since h = before ++ .wroteFile (base ++ [Name.text n, .text f]) :: after →
      ∃ e ∈ after, e.Refreshes pid

/-! ## Which daemons run -/

section Running

variable {m : Mesh} {base : Location} {n : Text} {h k : Host} {pid : Nat}

/-- **A daemon runs** as the live process that the pid file of its network names, if the system
takes the path. -/
theorem Mesh.stateOf_eq_running_iff (hl : h.disk.Linkless m.settings.rootDir base)
    (hn : Settings.isNetworkName n = true) : m.stateOf h n = .running pid ↔
      (Admits (m.settings.rootDir.fileOf n pidName) n ∧ h.disk.HasNetwork base n ∧
        h.disk.NamesPid base n pid) ∧ Signal.accepts h pid = true := by
  have hstate : m.stateOf h n =
      Supervisor.stateOn ⟨⟨[]⟩, ⟨[]⟩, m.settings.rootDir.fileOf n pidName, []⟩ h := rfl
  rw [hstate, Supervisor.stateOn_eq_running_iff, hl.read_pidFile_iff hn]

/-- Where no daemon is left behind, a daemon that runs has run before, if its network and its pid
file were there. -/
lemma Host.Calm.running (hc : Host.Calm h k) (hl : h.disk.Linkless m.settings.rootDir base)
    (hl' : k.disk.Linkless m.settings.rootDir base) (hn : Settings.isNetworkName n = true)
    (hnet : k.disk.HasNetwork base n → h.disk.HasNetwork base n)
    (hpid : ∀ t, k.disk.fileText base n pidName = some t →
      h.disk.fileText base n pidName = some t)
    (hs : m.stateOf k n = .running pid) : m.stateOf h n = .running pid := by
  obtain ⟨⟨ha, hk, t, ht, hnames⟩, hacc⟩ := (Mesh.stateOf_eq_running_iff hl' hn).mp hs
  obtain ⟨hpos, hlive⟩ := Signal.accepts_iff.mp hacc
  exact (Mesh.stateOf_eq_running_iff hl hn).mpr ⟨⟨ha, hnet hk, t, hpid t ht, hnames⟩,
    Signal.accepts_iff.mpr ⟨hpos, hc.isAlive hlive⟩⟩

/-- **A daemon that runs** after a request about a daemon has run before, or was started.

**Proof sketch.** The process lives, so it lived before or was started. In the first case its pid
file is as before, or was written by a daemon that was started, and then the file names that one. -/
theorem Host.Tended.running {command : List Text} {targets : Nat → Prop}
    (ht : Host.Tended command targets h k) (hl : h.disk.Linkless m.settings.rootDir base)
    (hn : Settings.isNetworkName n = true) (hs : m.stateOf k n = .running pid) :
    m.stateOf h n = .running pid ∨ .daemonStarted pid ∈ h.since k := by
  obtain ⟨⟨ha, hnet, t, htext, hnames⟩, hacc⟩ :=
    (Mesh.stateOf_eq_running_iff (ht.linkless hl) hn).mp hs
  obtain ⟨hpos, hlive⟩ := Signal.accepts_iff.mp hacc
  refine (ht.alive pid hlive).elim (fun hlive => ?_) .inr
  unfold fileText at htext
  rcases ht.files (base ++ [Name.text n, .text pidName]) with hsame | ⟨-, id, x, q, hq, hfile⟩
  · rw [hsame] at htext
    exact .inl ((Mesh.stateOf_eq_running_iff hl hn).mpr
      ⟨⟨ha, ht.hasNetwork_iff.mp hnet, t, htext, hnames⟩, Signal.accepts_iff.mpr ⟨hpos, hlive⟩⟩)
  · -- the pid file tells of a daemon that was started
    rw [hfile] at htext
    cases htext
    exact .inr (PidFile.eq_of_ofText_pidLine hnames ▸ hq)

variable {i : Instance}

/-- **A daemon told to read its files again**, or started, if it runs in the end.

**Proof sketch.** If it did not run, the request has started it. If it ran, it was sent the signal,
and it still runs as the same process. -/
theorem Mesh.refreshed_hup (hi : i.IsBelow m.settings.rootDir)
    (hl : h.disk.Linkless m.settings.rootDir base)
    (hs : m.stateOf (i.supervisor.hup h).2 i.network = .running pid) :
    ∃ e ∈ h.since (i.supervisor.hup h).2, e.Refreshes pid := by
  cases hrun : i.supervisor.stateOn h with
  | notRunning =>
    have hstarted := ((i.supervisor.tended_hup h).running hl hi.name hs).resolve_left fun hold => by
      rw [← Mesh.stateOf_eq hi, hrun] at hold
      cases hold
    exact ⟨_, hstarted, .inl rfl⟩
  | running q =>
    rw [Supervisor.hup_of_running hrun] at hs ⊢
    -- the signal changes nothing of which process runs
    have hsame : m.stateOf (h.record (.signalled q Signal.reload)) i.network = .running q :=
      (Mesh.stateOf_eq hi h).symm.trans hrun
    rw [hsame] at hs
    cases hs
    exact ⟨_, by rw [Host.since_record]; simp, .inr rfl⟩

/-- **A daemon restarted** because it ran, if it runs in the end.

**Proof sketch.** The process that ran is dead once it was stopped, so the process that runs in the
end was started by the request. -/
theorem Mesh.refreshed_restartIfRunning (hi : i.IsBelow m.settings.rootDir)
    (hl : h.disk.Linkless m.settings.rootDir base)
    (hs : m.stateOf (i.supervisor.restartIfRunning h).2 i.network = .running pid) :
    ∃ e ∈ h.since (i.supervisor.restartIfRunning h).2, e.Refreshes pid := by
  cases hrun : i.supervisor.stateOn h with
  | notRunning =>
    rw [Supervisor.restartIfRunning_of_notRunning hrun, ← Mesh.stateOf_eq hi, hrun] at hs
    cases hs
  | running q =>
    obtain ⟨hread, hacc⟩ := Supervisor.stateOn_eq_running_iff.mp hrun
    have hstopped := Supervisor.tended_stopped hacc hread
    have hdead := Supervisor.stateOn_stopped hread
    rw [Supervisor.restartIfRunning_of_running hrun] at hs ⊢
    have hstart := i.supervisor.tended_start (fun _ => True) (h.stopped q)
    have hstarted := (hstart.running (hstopped.linkless hl) hi.name hs).resolve_left fun hold => by
      rw [← Mesh.stateOf_eq hi, hdead] at hold
      cases hold
    exact ⟨_, Host.mem_since_of_suffix hstopped.records hstart.records hstarted, .inl rfl⟩

end Running

/-! ## Daemons kept up to date -/

namespace Mesh

section UpToDate

variable {m : Mesh} {base : Location} {n N f : Text} {o h k : Host} {S : Text → Prop}
  {i : Instance} {a : Attachment}

/-- **A stretch of effects** in which no file that the daemon of a network serves from is written
leaves it up to date, if the daemon that runs in the end has been refreshed in the stretch, or ran
and was up to date before.

**Proof sketch.** The write in question lies before the stretch, as none lies in it. If the daemon
was refreshed in the stretch, that came later. If not, it ran before, and was refreshed after the
write then. -/
theorem UpToDate.extend (ho : o.journal <+: h.journal) (hrec : h.journal <+: k.journal)
    (hquiet : ∀ f, IsServed f → .wroteFile (base ++ [Name.text n, .text f]) ∉ h.since k)
    (hnew : ∀ pid, m.stateOf k n = .running pid → (∃ e ∈ h.since k, e.Refreshes pid) ∨
      m.stateOf h n = .running pid ∧ m.UpToDate base n o h) : m.UpToDate base n o k := by
  intro pid hs f hf before after hsplit
  have hnone := hquiet f hf
  rw [Host.since_append ho hrec, List.append_eq_append_iff] at hsplit
  rcases hsplit with ⟨mid, -, hmid⟩ | ⟨mid, hmid, hafter⟩
  · exact absurd (by rw [hmid]; simp) hnone
  · cases mid with
    | nil => exact absurd (by rw [← List.nil_append (h.since k), ← hafter]; simp) hnone
    | cons e rest =>
      obtain ⟨rfl, rfl⟩ := List.cons.inj hafter
      rcases hnew pid hs with ⟨e, he, href⟩ | ⟨hrun, hup⟩
      · exact ⟨e, List.mem_append_right _ he, href⟩
      · obtain ⟨e, he, href⟩ := hup pid hrun f hf before rest hmid
        exact ⟨e, List.mem_append_left _ he, href⟩

/-- What has happened before the root was there plays no part.

**Proof sketch.** Where the last change of a file is looked for, the stretch is cut in two. In the
part before the root was there only directories were made. -/
lemma UpToDate.of_raised {w : Host} {paths : List Path} (hw : h.Raised paths w)
    (hrec : w.journal <+: k.journal) (hk : m.UpToDate base n w k) : m.UpToDate base n h k := by
  intro pid hs f hf before after hsplit
  rw [Host.since_append hw.prepared.records hrec, List.append_eq_append_iff] at hsplit
  rcases hsplit with ⟨mid, -, hmid⟩ | ⟨mid, hmid, hafter⟩
  · exact hk pid hs f hf mid after hmid
  · -- only directories are made
    cases mid with
    | nil => exact hk pid hs f hf [] after hafter.symm
    | cons e rest =>
      obtain ⟨rfl, -⟩ := List.cons.inj hafter
      obtain ⟨loc, hloc, -⟩ := hw.made (.wroteFile (base ++ [Name.text n, .text f]))
        (by rw [hmid]; simp)
      cases hloc

/-- Since an earlier host, the daemons of some networks were kept up to date. -/
structure KeptUpToDate (m : Mesh) (base : Location) (S : Text → Prop) (o h : Host) : Prop where
  /-- The journal was only added to. -/
  journal : o.journal <+: h.journal
  /-- The daemon of each of the networks is up to date. -/
  upToDate : ∀ n, S n → Settings.isNetworkName n = true → m.UpToDate base n o h

namespace KeptUpToDate

/-- Without an effect there is no file to read again. -/
lemma refl (m : Mesh) (base : Location) (S : Text → Prop) (o : Host) :
    m.KeptUpToDate base S o o := by
  refine ⟨List.prefix_refl _, fun n _ _ pid _ f _ before after hsplit => ?_⟩
  simp [Host.since] at hsplit

/-- What holds of more networks holds of fewer. -/
lemma mono {T : Text → Prop} (hk : m.KeptUpToDate base S o h) (hS : ∀ n, T n → S n) :
    m.KeptUpToDate base T o h :=
  ⟨hk.journal, fun n hn => hk.upToDate n (hS n hn)⟩

/-- One effect in which no daemon takes part, and which leaves the networks alone. -/
lemma quiet (hk : m.KeptUpToDate base S o h) {e : Event} (hj : k.journal = h.journal ++ [e])
    (he : ∀ n f, S n → e ≠ .wroteFile (base ++ [Name.text n, .text f]))
    (hrun : ∀ n pid, S n → Settings.isNetworkName n = true → m.stateOf k n = .running pid →
      m.stateOf h n = .running pid) : m.KeptUpToDate base S o k := by
  refine ⟨hk.journal.trans ⟨_, hj.symm⟩, fun n hS hn => ?_⟩
  refine .extend hk.journal ⟨_, hj.symm⟩ (fun f _ hmem => ?_) fun pid hs => .inr
    ⟨hrun n pid hS hn hs, hk.upToDate n hS hn⟩
  rw [Host.since_of_journal hj, List.mem_singleton] at hmem
  exact he n f hS hmem.symm

/-- An effect that changes nothing. -/
lemma record (hk : m.KeptUpToDate base S o h) {e : Event} (he : ∀ loc, e ≠ .wroteFile loc) :
    m.KeptUpToDate base S o (h.record e) :=
  hk.quiet rfl (fun _ _ _ => he _) fun _ _ _ _ => id

/-- The directory of another network made. -/
lemma opened (hk : m.KeptUpToDate base S o h) (hl : h.disk.Linkless m.settings.rootDir base)
    (hS : ∀ n, S n → n ≠ N) (hp : h.Opened k (base ++ [Name.text N])) :
    m.KeptUpToDate base S o k := by
  have hf : Host.Framed m.settings.rootDir base N h k := .opened (.refl ..) hp
  refine hk.quiet hp.journal (by simp) fun n pid hn hname => (Host.Calm.opened hp).running hl
    (hp.linkless hl) hname (hf.networks n (hS n hn)).mp fun t ht => ?_
  rwa [hp.fileText] at ht

/-- A file of another network written that is no pid file. -/
lemma filed (hk : m.KeptUpToDate base S o h) (hl : h.disk.Linkless m.settings.rootDir base)
    (hS : ∀ n, S n → n ≠ N) (hf : f ≠ pidName) {c : Content}
    (hw : h.Filed k (base ++ [Name.text N, .text f]) c) : m.KeptUpToDate base S o k := by
  have hframe : Host.Framed m.settings.rootDir base N h k := .filed (.refl ..) hf (.inl ⟨f, rfl⟩) hw
  obtain ⟨id, x, -, hget⟩ := hw.get?
  refine hk.quiet hw.journal (fun n g hn => by simp [(hS n hn).symm]) fun n pid hn hname =>
    hw.calm.running hl (hw.linkless hl) hname (hframe.networks n (hS n hn)).mp fun t ht => ?_
  unfold fileText at ht ⊢
  rwa [hget _ (by simp [hS n hn])] at ht

/-- The directory of another network removed. -/
lemma removed (hk : m.KeptUpToDate base S o h) (hl : h.disk.Linkless m.settings.rootDir base)
    (hl' : k.disk.Linkless m.settings.rootDir base) (hS : ∀ n, S n → n ≠ N)
    (hr : h.Removed k (base ++ [Name.text N])) : m.KeptUpToDate base S o k := by
  have hframe : Host.Framed m.settings.rootDir base N h k := .removed (.refl ..) hr
  refine hk.quiet hr.journal (by simp) fun n pid hn hname => (Host.Calm.removed hr).running hl hl'
    hname (hframe.networks n (hS n hn)).mp fun t ht => ?_
  rwa [hr.fileText, if_neg (hS n hn)] at ht

/-- A request about a daemon. -/
lemma tended (hk : m.KeptUpToDate base S o h) (hl : h.disk.Linkless m.settings.rootDir base)
    {command : List Text} {targets : Nat → Prop} (ht : Host.Tended command targets h k) :
    m.KeptUpToDate base S o k := by
  refine ⟨hk.journal.trans ht.records, fun n hS hn => ?_⟩
  refine .extend hk.journal ht.records (fun f _ hmem => ?_) fun pid hs => ?_
  · cases ht.isDaemonic hmem
  · rcases ht.running hl hn hs with hrun | hstarted
    · exact .inr ⟨hrun, hk.upToDate n hS hn⟩
    · exact .inl ⟨_, hstarted, .inl rfl⟩

/-- **A request about a daemon** that refreshes it: its network joins those that were kept up to
date. -/
theorem refreshed (hk : m.KeptUpToDate base (fun n => S n ∧ n ≠ N) o h)
    (hl : h.disk.Linkless m.settings.rootDir base) {command : List Text} {targets : Nat → Prop}
    (ht : Host.Tended command targets h k)
    (href : ∀ pid, m.stateOf k N = .running pid → ∃ e ∈ h.since k, e.Refreshes pid) :
    m.KeptUpToDate base S o k := by
  refine ⟨hk.journal.trans ht.records, fun n hS hn => ?_⟩
  by_cases hne : n = N
  · subst hne
    refine .extend hk.journal ht.records (fun f _ hmem => ?_) fun pid hs => .inl (href pid hs)
    cases ht.isDaemonic hmem
  · exact (hk.tended hl ht).upToDate n ⟨hS, hne⟩ hn

/-- **The network's own daemon** told to read its files brings all networks up to date. -/
theorem hup (hk : m.KeptUpToDate base (· ≠ i.network) o h)
    (hl : h.disk.Linkless m.settings.rootDir base) (hi : i.IsBelow m.settings.rootDir) :
    m.KeptUpToDate base (fun _ => True) o (i.supervisor.hup h).2 :=
  .refreshed (hk.mono fun _ hn => hn.2) hl (i.supervisor.tended_hup h)
    fun _ => refreshed_hup hi hl

/-- **A sibling told**: its daemon is restarted once its forwarders are written, if it runs.

**Proof sketch.** Once the forwarders are written, all but this sibling are up to date. The restart
refreshes its daemon, if it runs. -/
theorem apply (hk : m.KeptUpToDate base S o h) (hl : h.disk.Linkless m.settings.rootDir base)
    {u : SiblingUpdate} (hu : u.sibling.IsBelow m.settings.rootDir) :
    m.KeptUpToDate base S o (u.apply h).2 := by
  rcases hl.apply_cases hu with ⟨w, hr, -, hw⟩ | ⟨fault, hr⟩ <;> rw [hr]
  · -- in between, the sibling itself may not be up to date
    have hbut := hk.mono (T := fun n => S n ∧ n ≠ u.sibling.network) fun _ hn => hn.1
    have hl' : w.disk.Linkless m.settings.rootDir base := Host.Filed.linkless hw hl
    exact (hbut.filed hl (fun _ hn => hn.2) (by decide) hw).refreshed hl'
      (u.sibling.supervisor.tended_restartIfRunning w)
      fun _ => refreshed_restartIfRunning hu hl'
  · exact hk

/-- **The requests of an attachment** leave its siblings up to date. -/
theorem attachingKeeps (a : Attachment) (o : Host) (hi : i.IsBelow m.settings.rootDir) :
    m.AttachingKeeps base i a (m.KeptUpToDate base (· ≠ i.network) o) where
  call hk := hk.record (by simp)
  opened hk hl hp := hk.opened hl (fun _ => id) hp
  filed hk hl _ hputs hw := hk.filed hl (fun _ => id) hputs.ne_pidName hw
  told _ _ hls hfound hu _ hk hl := hk.apply hl (hfound.noted hls hi hu).1
  learnt _ _ _ _ hk hl _ hw := (hk.filed hl (fun _ => id) (by decide) hw).record (by simp)
  hup {k} hk hl := hk.tended hl (i.supervisor.tended_hup k)

/-- **The requests of a detachment** leave its siblings up to date, if no link is in the way when
the network's directory has been removed. -/
theorem detachingKeeps (a : Attachment) (o : Host) :
    m.DetachingKeeps base i a (m.KeptUpToDate base (· ≠ i.network) o)
      fun k => k.disk.Linkless m.settings.rootDir base →
        m.KeptUpToDate base (· ≠ i.network) o k where
  call hk := hk.record (by simp)
  log hk _ := hk.record (by simp)
  delisted hk hl _ _ hw := hk.filed hl (fun _ => id) (by decide) hw
  withdrawn _ hk hl hj _ _ _ := hk.apply hl hj
  hup {k} hk hl := hk.tended hl (i.supervisor.tended_hup k)
  stop {k} hk hl := hk.tended hl (i.supervisor.tended_stop k)
  removed hk hl hr hl' := hk.removed hl hl' (fun _ => id) hr
  weaken hk _ := hk
  logEnd hk _ hl := (hk hl).record (by simp)

end KeptUpToDate

end UpToDate

/-! ## The operations -/

/-- From one host to a later one, an operation on a network has left the daemons of all networks up
to date, and its directory has not been removed and made again. -/
def LeavesUpToDate (m : Mesh) (base : Location) (N : Text) (h k : Host) : Prop :=
  ∀ n, k.disk.HasNetwork base n → Settings.isNetworkName n = true →
    m.UpToDate base n h k ∧ (n = N → ∀ loc, .removed loc ∉ h.since k)

section Operations

variable {m : Mesh} {base : Location} {i : Instance} {a : Attachment} {h k : Host}

/-- **A pod attached.** The network's own daemon comes last.

**Proof sketch.** Entering the pod and announcing it keep the siblings up to date. The request
about the network's own daemon comes after all of that. No effect of an attachment removes a
directory. -/
theorem leavesUpToDate_provision (hi : i.IsBelow m.settings.rootDir)
    (hl : h.disk.Linkless m.settings.rootDir base) (hok : m.provision i a h = (.ok (), k)) :
    m.LeavesUpToDate base i.network h k := by
  have hP : m.AttachingKeeps base i a (m.KeptUpToDate base (· ≠ i.network) h) :=
    KeptUpToDate.attachingKeeps a h hi
  have heffects := (m.attachingKeeps_hasOnly base a h hi).keeps_provision hi h ⟨hl, .refl _ h⟩
  have hentered := hP.keeps_enter hi h ⟨hl, .refl ..⟩
  rw [hok] at heffects
  rw [provision_eq] at hok
  obtain ⟨_, w, henter, hok⟩ := of_bind_ok hok
  rw [henter] at hentered
  have hannounced := hP.keeps_announce hi w hentered
  obtain ⟨_, w', hannounce, hhup⟩ := of_bind_ok hok
  rw [hannounce] at hannounced
  have hkept := hannounced.2.hup hannounced.1 hi
  rw [hhup] at hkept
  exact fun n _ hn => ⟨hkept.upToDate n trivial hn, fun _ loc hmem => by
    cases heffects.2.effects _ hmem⟩

/-- A network that has been taken down is not there.

**Proof sketch.** Retiring the daemon leaves no links. Its directory is then removed or was not
there, since the removal has succeeded. -/
lemma not_hasNetwork_of_tearDown (hi : i.IsBelow m.settings.rootDir)
    (hl : h.disk.Linkless m.settings.rootDir base) (hok : m.tearDown i a h = (.ok (), k)) :
    ¬ k.disk.HasNetwork base i.network := by
  have hretired := (m.detachingKeeps_hasOnly base i a h).keeps_retire hi h ⟨hl, .refl _ h⟩
  rw [tearDown_eq_retire] at hok
  obtain ⟨_, w, hretire, hok⟩ := of_bind_ok hok
  rw [hretire] at hretired
  obtain ⟨_, w', hremove, hlog⟩ := of_bind_ok hok
  obtain rfl : w'.record (.logged (.removedInstance i.network)) = k :=
    congrArg Prod.snd hlog
  change ¬ w'.disk.HasNetwork base i.network
  have hgone := hretired.1.removeIfThere_network hi.name
  rw [← hi.dir, hremove] at hgone
  rcases hgone with ⟨-, hr⟩ | ⟨hr, -, hnone⟩ | ⟨e, hr⟩
  · cases hr
    refine not_hasNetwork_of_get?_eq_none ?_
    rw [FileTree.get?_removeAt, if_pos (List.prefix_refl _)]
  · cases hr
    exact not_hasNetwork_of_get?_eq_none hnone
  · cases hr

/-- **A pod detached.** The network's own daemon comes last if it is left, and its directory is
removed otherwise.

**Proof sketch.** Either a pod is left, and the request about the daemon comes last. Or the network
is taken down, which keeps the siblings up to date, and the network itself is not there any more. -/
theorem leavesUpToDate_cleanUp (hi : i.IsBelow m.settings.rootDir)
    (hl : h.disk.Linkless m.settings.rootDir base) (hok : m.cleanUp i a h = (.ok (), k))
    (hl' : k.disk.Linkless m.settings.rootDir base) :
    m.LeavesUpToDate base i.network h k := by
  have hP : m.DetachingKeeps base i a (m.KeptUpToDate base (· ≠ i.network) h) fun k =>
      k.disk.Linkless m.settings.rootDir base → m.KeptUpToDate base (· ≠ i.network) h k :=
    KeptUpToDate.detachingKeeps a h
  have htaken := hP.keeps_takeOut hi h ⟨hl, .refl ..⟩
  have heffects := (m.detachingKeeps_hasOnly base i a h).keeps_takeOut hi h ⟨hl, .refl _ h⟩
  rw [cleanUp_eq] at hok
  obtain ⟨left, w, htake, hok⟩ := of_bind_ok hok
  rw [htake] at htaken heffects
  cases left with
  | true =>
    have hhup : i.supervisor.hup w = (.ok (), k) := hok
    have hkept := htaken.2.hup htaken.1 hi
    have heffects := heffects.2.tended Event.isDetaching_of_isDaemonic
      (i.supervisor.tended_hup w)
    rw [hhup] at hkept heffects
    exact fun n _ hn => ⟨hkept.upToDate n trivial hn, fun _ loc hmem => by
      cases heffects.effects _ hmem⟩
  | false =>
    have hdown : m.tearDown i a w = (.ok (), k) := hok
    have hkept := hP.keeps_tearDown hi htaken
    rw [hdown] at hkept
    have hgone := not_hasNetwork_of_tearDown hi htaken.1 hdown
    intro n hnet hn
    have hne : n ≠ i.network := fun heq => hgone (heq ▸ hnet)
    exact ⟨(hkept hl').upToDate n hne hn, fun heq => absurd heq hne⟩

end Operations

end Mesh

/-! ## Between the states of a run -/

/-- What has changed since an earlier host of the files that the daemon of a network serves from was
written, and after each write the process was started, or told to read its files again. -/
structure Host.Fresh (base : Location) (n : Text) (pid : Nat) (h k : Host) : Prop where
  /-- A change has left the effect of a write. -/
  written : ∀ f, IsServed f → k.disk.fileText base n f ≠ h.disk.fileText base n f →
    .wroteFile (base ++ [Name.text n, .text f]) ∈ h.since k
  /-- The process has been refreshed after each write. -/
  refreshed : ∀ f, IsServed f → ∀ before after,
    h.since k = before ++ .wroteFile (base ++ [Name.text n, .text f]) :: after →
      ∃ e ∈ after, e.Refreshes pid

section Runs

variable {m : Mesh} {base : Location} {a : Attachment} {h k o : Host} {n : Text} {pid : Nat}

/-- No daemon writes its pid into a file that a daemon serves from. -/
lemma Host.Tame.not_mem_pidWritten (ht : Host.Tame base h k) {f : Text} (hf : IsServed f) :
    .pidWritten (base ++ [Name.text n, .text f]) ∉ h.since k := by
  intro hmem
  obtain rfl : f = pidName := ht _ hmem n f rfl
  rcases hf with hf | hf <;> exact absurd hf (by decide)

/-- A signal sent leaves no other effect than that.

**Proof sketch.** By whether the pid may be sent a signal at all, and whether the process is there
to take it. -/
lemma Signal.journal_send (pid signal : Int) (h : Host) :
    ∃ es, (send pid signal h).2.journal = h.journal ++ es ∧
      ∀ e ∈ es, ∃ p s, e = .signalled p s := by
  unfold send
  split
  · exact ⟨[], by simp, by simp⟩
  · unfold deliver
    dsimp only
    split
    · exact ⟨[], by simp, by simp⟩
    · refine ⟨[.signalled pid.toNat signal], ?_, by simp⟩
      split <;> rfl

/-- **An operation on the instance of an attachment** that has kept to its frame and leaves all
networks up to date.

**Proof sketch.** A file that differs has been written on the way or was removed, by the frame of
the operation. It was not written by a daemon, since daemons write their pid files only, and not
removed, as the network is still there. -/
theorem Mesh.fresh_of_attended {body : Instance → Action Unit}
    (hok : m.attended a body h = (.ok (), k))
    (hl : (m.withRoot h).disk.Linkless m.settings.rootDir base)
    (hframe : ∀ i w, m.IsFor i a → w.disk.Linkless m.settings.rootDir base →
      Host.Framed m.settings.rootDir base i.network w (body i w).2)
    (hbody : ∀ i w l, m.IsFor i a → w.disk.Linkless m.settings.rootDir base →
      l.disk.Linkless m.settings.rootDir base → body i w = (.ok (), l) →
      m.LeavesUpToDate base i.network w l)
    (hl' : k.disk.Linkless m.settings.rootDir base) (ht : Host.Tame base h k)
    (hn : Settings.isNetworkName n = true) (hnet : k.disk.HasNetwork base n)
    (hs : m.stateOf k n = .running pid) : Host.Fresh base n pid h k := by
  obtain ⟨i, ids, l, ids', hfor, hr, rfl⟩ := m.attended_eq_ok hok
  have hw := m.raised_withRoot h
  have hf := hframe i { m.withRoot h with held := ids } hfor hl
  obtain ⟨hup, hstays⟩ := hbody i { m.withRoot h with held := ids } l hfor hl hl' hr n hnet hn
  rw [hr] at hf
  refine ⟨fun f hserved hne => ?_, hup.of_raised hw hf.journal pid hs⟩
  rcases hf.get?_cases n f with hsame | hwrote | hpid | ⟨heq, hremoved⟩
  · refine absurd ?_ hne
    rw [← hw.prepared.fileText]
    unfold fileText
    exact congrArg (fun e => e.bind Entry.text?) hsame
  · exact Host.mem_since_of_suffix hw.prepared.records hf.journal hwrote
  · exact absurd (Host.mem_since_of_suffix hw.prepared.records hf.journal hpid)
      (ht.not_mem_pidWritten hserved)
  · exact absurd hremoved (hstays heq _)

/-- **No live daemon is left with stale files.** In a run from an empty root with daemons that write
their pid files and no other files of networks, let a move succeed. Then for each network whose
daemon runs after it: what has changed of the hosts file and the forwarders was written, and after
each of these writes, so after the last one, the very process that runs was started or was told to
read its files again.

**Proof sketch.** The state before the move is reachable, so its root holds no links. An attachment
and a detachment keep to the frame of their network and leave all networks up to date. A kill has
no effect but a dead process. -/
theorem no_stale_files (h₀ : m.StartsEmpty base o) {moves : List Move}
    (hrun : m.Along (fun h move => Host.Tame base h (m.step h move)) o moves)
    (hh : m.play o moves = h) {move : Move} (hok : m.perform move h = (.ok (), k))
    (ht : Host.Tame base h k) (hnet : k.disk.HasNetwork base n)
    (hs : m.stateOf k n = .running pid) : Host.Fresh base n pid h k := by
  have hk : m.step h move = k := congrArg Prod.snd hok
  obtain ⟨v, hstores, -⟩ : ∃ v, m.Stores base v h ∧ True := by
    rw [← hh]
    refine hrun.stores (J := fun _ => True) h₀ trivial fun l v move hl _ htame => ?_
    obtain ⟨v', hl', -⟩ := hl.step move htame
    exact ⟨v', hl', trivial⟩
  obtain ⟨v', hstores', -⟩ := hstores.step move (by rw [hk]; exact ht)
  rw [hk] at hstores'
  have hk' := (hstores'.holds (hstores'.hasNetwork_iff.mp hnet)).inOrder
  have hl := hstores.holds_withRoot.inOrder.linkless
  have hn := hk'.tidy.isNetworkName hnet
  cases move with
  | add a =>
    obtain ⟨servers, w, hadd, hpure⟩ := of_bind_ok hok
    cases hpure
    rw [m.add_eq] at hadd
    obtain ⟨_, w', hadd, hpure⟩ := of_bind_ok hadd
    cases hpure
    refine Mesh.fresh_of_attended hadd hl (fun i w hi hlw => ?_) (fun i w l hi hlw _ hr => ?_)
      hk'.linkless ht hn hnet hs
    · have hframe := (Host.Framed.attachingKeeps m base a w hi.below).keeps_provision hi.below w
        ⟨hlw, .refl ..⟩
      exact (Host.Framed.detachingKeeps m base a w hi.below).keeps_provisionOrUndo hi.below hframe
    · exact Mesh.leavesUpToDate_provision hi.below hlw (Mesh.provision_of_provisionOrUndo hr)
  | del a =>
    refine Mesh.fresh_of_attended (a := a) (hok : m.attended a (m.cleanUp · a) h = _) hl
      (fun i w hi hlw => ?_) (fun i w l hi hlw hll hr => ?_) hk'.linkless ht hn hnet hs
    · exact (Host.Framed.detachingKeeps m base a w hi.below).keeps_cleanUp hi.below
        ⟨hlw, .refl ..⟩
    · exact Mesh.leavesUpToDate_cleanUp hi.below hlw hr hll
  | kill q =>
    obtain ⟨es, hes, hsignals⟩ := Signal.journal_send q Signal.terminate h
    rw [← m.step_kill, hk] at hes
    refine ⟨fun f _ hne => absurd ?_ hne, fun f _ before after hsplit => ?_⟩
    · rw [← hk, m.disk_step_kill]
    · rw [Host.since_of_journal hes] at hsplit
      obtain ⟨p, s, hsignal⟩ := hsignals (.wroteFile (base ++ [Name.text n, .text f]))
        (by rw [hsplit]; simp)
      cases hsignal

end Runs

namespace Sample

/-- A pod of one network is added. -/
def firstMoves : List Move :=
  [.add (pod "a" "x" "p" (octets 10 1 0 1))]

/-- A pod of another network is added. -/
def joining : Move :=
  .add (pod "b" "y" "q" (octets 10 2 0 1))

/-- The host with the first network, whose daemon runs. -/
def lone : Host :=
  mesh.play (host [daemon]) firstMoves

/-- The host with both networks. -/
def joined : Host :=
  mesh.step lone joining

end Sample

/-- The first network hears of the second one, so its daemon is restarted as another process.

**Proof sketch.** All that the theorem asks is read off the run of two attachments. -/
theorem no_stale_files_of_joining :
    Sample.mesh.stateOf Sample.lone "a".toList = .running 100 ∧
      Sample.joined.disk.fileText Sample.base "a".toList localServersName =
        some "server=/y/10.2.0.1\n".toList ∧
      Host.Fresh Sample.base "a".toList 101 Sample.lone Sample.joined := by
  -- all that is read off the run, so that it is made once
  have hread : Sample.mesh.stateOf Sample.lone "a".toList = .running 100 ∧
      Sample.joined.disk.fileText Sample.base "a".toList localServersName =
        some "server=/y/10.2.0.1\n".toList ∧
      Sample.mesh.Along (fun h move => Host.Tame Sample.base h (Sample.mesh.step h move))
        (Sample.host [Sample.daemon]) Sample.firstMoves ∧
      (Sample.mesh.perform Sample.joining Sample.lone).1 = .ok () ∧
      Host.Tame Sample.base Sample.lone Sample.joined ∧
      Sample.joined.disk.HasNetwork Sample.base "a".toList ∧
      Sample.mesh.stateOf Sample.joined "a".toList = .running 101 := by decide +kernel
  have hlone : Sample.mesh.play (Sample.host [Sample.daemon]) Sample.firstMoves = Sample.lone := rfl
  have hjoined : (Sample.mesh.perform Sample.joining Sample.lone).2 = Sample.joined := rfl
  generalize Sample.joined = k at *
  generalize Sample.lone = h at *
  obtain ⟨hbefore, htext, htame, hok, htame', hnet, hstate⟩ := hread
  exact ⟨hbefore, htext, no_stale_files (Sample.startsEmpty _) htame hlone
    (Prod.ext hok hjoined) htame' hnet hstate⟩

end ResolverMesh
