import ResolverMesh.Proofs.FreshFiles
import ResolverMesh.Proofs.LockDiscipline
import ResolverMesh.Proofs.PodsSpared

set_option autoImplicit false
set_option relaxedAutoImplicit false

/-!
# What a run leaves in place

A run that starts with an empty root only ever removes directories that it has made. So what was
there at first is there in the end, the daemon's program among it, without which no network could
have come to be. Pid files hold pids that have been given, no lock is left behind, and the system
takes the path of each hosts file that is there.

## Main definitions

* `ResolverMesh.Disk.FreeOfNetworks` — there is no network below a place, and nothing in one.
* `ResolverMesh.Host.Continues` — what was there is there, and pid files hold pids that were given.
* `ResolverMesh.Shelf.HostsAdmitted` — the system takes the paths of the hosts files.

## Main results

* `ResolverMesh.Host.Continues.attachingKeeps`, `ResolverMesh.Host.Continues.detachingKeeps` — the
  requests of an operation leave in place what was there.
* `ResolverMesh.Mesh.Along.continues` — so does a run.
* `ResolverMesh.Mesh.StartsEmpty.found` — where there is a network, the daemon's program is found.
* `ResolverMesh.Mesh.Along.hostsAdmitted` — the paths of hosts files after a run.
-/

namespace ResolverMesh

open ResolverMesh.Action Disk

/-! ## What was there at first -/

/-- There is no network below a place, and nothing in the place of one. -/
def Disk.FreeOfNetworks (d : Disk) (base : Location) : Prop :=
  ∀ n rest e, d.tree.get? (base ++ .text n :: rest) = some e → rest = [] ∧ e.isDirectory = false

/-- A run starts on a disk without networks.

**Proof sketch.** Making the root adds directories only, and then there is no network. What is
below the root is so in the layout, but in no network's directory: it is a file directly under the
root. -/
lemma Mesh.StartsEmpty.freeOfNetworks {m : Mesh} {base : Location} {o : Host}
    (h₀ : m.StartsEmpty base o) : o.disk.FreeOfNetworks base := by
  obtain ⟨k, hopen, hk⟩ := h₀.opens o rfl
  have hprep := Files.prepared_makeDirectories LockGuard.rootMode m.settings.rootDir o
  rw [hopen] at hprep
  have hnone : ∀ n, ¬ k.disk.HasNetwork base n := by
    intro n hn
    rw [← isNetwork_shelf_iff, hk.shelf_eq] at hn
    cases hn
  intro n rest e he
  -- what is there is still there once the root is made
  have hthere : k.disk.tree.get? (base ++ .text n :: rest) = some e := by
    rcases hprep.tree (base ++ .text n :: rest) with hsame | ⟨hfree, -⟩
    · exact hsame.trans he
    · rw [hfree] at he
      cases he
  rcases hk.inOrder.tidy _ e hthere (by simp) with ⟨p, hp, hplace⟩ | ⟨p, f, hp, -, hnet⟩
  · cases hp
    refine ⟨rfl, ?_⟩
    by_contra hdir
    rw [Bool.not_eq_false] at hdir
    refine hnone n (isNetwork_shelf_iff.mp ?_)
    simp only [Disk.shelf, hthere, Option.any_some, hdir]
  · exact absurd hnet (hnone p)

namespace Host

/-- No change of the host but the setting itself changes where programs are looked up. -/
lemma stable_searchPath (s : SearchPath) : Stable (·.searchPath = s) where
  record hh _ := hh
  disk _ hh := hh
  programs _ hh := hh
  addProcess hh := hh
  kill _ hh := hh

/-- On a host after an earlier one, all is there that was there, and programs are looked up in the
same places. Each pid that a pid file holds has been given. -/
structure Continues (base : Location) (o k : Host) : Prop where
  /-- Nothing is gone. -/
  grows : o.disk.tree.Grows k.disk.tree
  /-- The current directory is the same. -/
  workDir : k.disk.workDir = o.disk.workDir
  /-- So are the directories in which programs are looked up. -/
  searchPath : k.searchPath = o.searchPath
  /-- The pids in pid files have been given. -/
  given : ∀ n pid, k.disk.NamesPid base n pid → pid < k.nextPid

namespace Continues

variable {m : Mesh} {root : Path} {base : Location} {n p : Text} {i : Instance} {a : Attachment}
  {o h k l : Host}

/-- A program that was found is found. -/
lemma found (hk : Continues base o k) {binary : Text}
    (hl : (Settings.locate? o binary).isSome = true) :
    (Settings.locate? k binary).isSome = true :=
  Settings.locate?_of_grows hk.grows hk.workDir hk.searchPath hl

/-- A host on which nothing is gone, and on which pid files are as they were or tell of daemons that
were started. -/
lemma extend (hk : Continues base o k) (hg : k.disk.tree.Grows l.disk.tree)
    (hw : l.disk.workDir = k.disk.workDir) (hp : l.searchPath = k.searchPath)
    (hn : k.nextPid ≤ l.nextPid)
    (hpid : ∀ n t, l.disk.fileText base n pidName = some t →
      k.disk.fileText base n pidName = some t ∨ ∃ pid < l.nextPid, t = Launch.pidLine pid) :
    Continues base o l := by
  refine ⟨hk.grows.trans hg, hw.trans hk.workDir, hp.trans hk.searchPath, ?_⟩
  rintro n pid ⟨t, ht, hnames⟩
  rcases hpid n t ht with hold | ⟨q, hq, rfl⟩
  · exact (hk.given n pid ⟨t, hold, hnames⟩).trans_le hn
  · exact PidFile.eq_of_ofText_pidLine hnames ▸ hq

/-- A host on which only effects, locks, processes that have died or the runs of programs differ. -/
lemma of_same (hk : Continues base o k) (hd : l.disk = k.disk) (hp : l.searchPath = k.searchPath)
    (hn : l.nextPid = k.nextPid) : Continues base o l :=
  hk.extend (by rw [hd]; exact .refl _) (by rw [hd]) hp hn.ge fun _ _ ht => .inl (by rwa [← hd])

/-- The root made. -/
lemma prepared (hk : Continues base o k) (hp : k.Prepared l) : Continues base o l := by
  have hrest := hp.rest
  refine hk.extend hp.grows hp.workDir (by rw [hrest]) (by rw [hrest]) fun n t ht => .inl ?_
  rwa [hp.fileText] at ht

/-- The directory of a network made. -/
lemma opened (hk : Continues base o k) (hp : k.Opened l (base ++ [Name.text n])) :
    Continues base o l := by
  have htext := hp.fileText
  obtain ⟨hfree, id, mode, next, rfl⟩ := hp
  refine hk.extend (.put fun old hold => ?_) rfl rfl le_rfl fun q t ht => .inl ?_
  · rw [hfree] at hold
    cases hold
  · rwa [htext] at ht

/-- A file of a network written that is no pid file. -/
lemma filed (hk : Continues base o k) {f : Text} {c : Content} (hf : f ≠ pidName)
    (hw : k.Filed l (base ++ [Name.text n, .text f]) c) : Continues base o l := by
  obtain ⟨-, -, -, hget⟩ := hw.get?
  obtain ⟨id, x, next, halike, rfl⟩ := hw
  refine hk.extend (.put halike) rfl rfl le_rfl fun q t ht => .inl ?_
  unfold fileText at ht ⊢
  rw [hget _ (by simp [Ne.symm hf])] at ht
  exact ht

/-- A request about a daemon. -/
lemma tended (hk : Continues base o k) {command : List Text} {targets : Nat → Prop}
    (ht : Tended command targets k l) (hp : l.searchPath = k.searchPath) :
    Continues base o l := by
  refine hk.extend ht.grows ht.workDir hp ht.nextPid fun n t htext => ?_
  unfold fileText at htext ⊢
  rcases ht.files (base ++ [Name.text n, .text pidName]) with hsame | ⟨-, id, x, pid, hpid, hfile⟩
  · exact .inl (hsame ▸ htext)
  · rw [hfile] at htext
    cases htext
    exact .inr ⟨pid, (ht.started pid hpid).2, rfl⟩

/-- A sibling told. -/
lemma apply (hk : Continues base o k) {u : SiblingUpdate} (hu : u.sibling.IsBelow root)
    (hl : k.disk.Linkless root base) : Continues base o (u.apply k).2 := by
  have hpath := (stable_searchPath k.searchPath).keeps_apply u k rfl
  rcases hl.apply_cases hu with ⟨w, hr, -, hw⟩ | ⟨fault, hr⟩ <;> rw [hr] at hpath ⊢
  · have hsame : w.searchPath = k.searchPath := by
      obtain ⟨-, -, -, -, rfl⟩ := hw
      rfl
    exact (hk.filed (by decide) hw).tended (u.sibling.supervisor.tended_restartIfRunning w)
      (hpath.trans hsame.symm)
  · exact hk

/-- The directory of a network removed, which was not there at first.

**Proof sketch.** What was there at first is a file under the root, and not below a network's
directory; nor is it the directory itself. The pid files that are left were there before. -/
lemma removed (hk : Continues base o k) (hfree : o.disk.FreeOfNetworks base)
    (hn : k.disk.HasNetwork base n) (hr : k.Removed l (base ++ [Name.text n])) :
    Continues base o l := by
  have htext := hr.fileText
  cases hr
  refine ⟨fun loc e he => ?_, hk.workDir, hk.searchPath, fun q pid ⟨t, ht, hnames⟩ => ?_⟩
  · obtain ⟨e', he', halike⟩ := hk.grows loc e he
    refine ⟨e', ?_, halike⟩
    change (k.disk.tree.removeAt _).get? loc = _
    rw [FileTree.get?_removeAt, if_neg, he']
    rintro ⟨rest, rfl⟩
    rw [List.append_assoc] at he he'
    obtain ⟨rfl, hfile⟩ := hfree n rest e he
    -- what was in the place of the directory would be there still
    obtain ⟨id, mode, hdir⟩ := hn
    rw [List.append_nil] at he'
    cases he'.symm.trans hdir
    cases e with
    | directory _ _ => cases hfile
    | file _ _ _ =>
      obtain ⟨_, _, hcontra⟩ := halike.of_file
      cases hcontra
    | link _ => cases halike.of_link
  · rw [htext] at ht
    split at ht
    · cases ht
    · exact hk.given q pid ⟨t, ht, hnames⟩

/-- **The requests of an attachment** leave in place what was there. -/
theorem attachingKeeps (m : Mesh) (base : Location) {i : Instance} (a : Attachment) (o : Host)
    (hi : i.IsBelow m.settings.rootDir) : m.AttachingKeeps base i a (Continues base o) where
  call hk := hk.of_same rfl rfl rfl
  opened hk _ hp := hk.opened hp
  filed hk _ _ hputs hw := hk.filed hputs.ne_pidName hw
  told _ _ hls hfound hu _ hk hl := hk.apply (hfound.noted hls hi hu).1 hl
  learnt _ _ _ _ hk _ _ hw := (hk.filed (by decide) hw).of_same rfl rfl rfl
  hup {k} hk _ := hk.tended (i.supervisor.tended_hup k)
    ((stable_searchPath k.searchPath).keeps_hup _ k rfl)

/-- **The requests of a detachment** leave in place what was there, as long as the network is.

**Proof sketch.** Each request keeps the processes and files that there were, except that of the
network's directory, behind which nothing is asked for. -/
theorem detachingKeeps (m : Mesh) (base : Location) (i : Instance) (a : Attachment) (o : Host) :
    m.DetachingKeeps base i a (Continues base o) (fun _ => True) where
  call hk := hk.of_same rfl rfl rfl
  log hk _ := hk.of_same rfl rfl rfl
  delisted hk _ _ _ hw := hk.filed (by decide) hw
  withdrawn _ hk hl hj _ _ _ := hk.apply hj hl
  hup {k} hk _ := hk.tended (i.supervisor.tended_hup k)
    ((stable_searchPath k.searchPath).keeps_hup _ k rfl)
  stop {k} hk _ := hk.tended (i.supervisor.tended_stop k)
    ((stable_searchPath k.searchPath).keeps_stop _ k rfl)
  removed _ _ _ := trivial
  weaken _ := trivial
  logEnd _ _ := trivial

/-- What is removed is the directory of a network.

**Proof sketch.** By what stands at the place: a directory, nothing, or something that cannot be
removed. Only in the first case something changes. -/
lemma removeIfThere (hk : Continues base o k) (hfree : o.disk.FreeOfNetworks base)
    (hl : k.disk.Linkless root base) (hi : i.IsBelow root) :
    Continues base o (Files.removeIfThere i.dir k).2 := by
  rw [hi.dir]
  unfold Files.removeIfThere
  rw [run_bind, run_attempt]
  unfold Files.removeAll onDisk
  dsimp only
  rcases hl.removeAll_network hi.name with ⟨hnet, hr⟩ | ⟨-, -, hr⟩ | ⟨e, he, hr⟩ <;> rw [hr]
  · exact hk.removed hfree hnet rfl
  · exact hk
  · simpa [he] using hk

/-- **A pod detached.**

**Proof sketch.** Taking the pod out keeps what was there. If the network is taken down after that,
its directory is removed last, and at first there were no networks. -/
theorem cleanUp (hk : Continues base o k) (hfree : o.disk.FreeOfNetworks base)
    (hi : i.IsBelow m.settings.rootDir) (hl : k.disk.Linkless m.settings.rootDir base) :
    Continues base o (m.cleanUp i a k).2 := by
  have hP := detachingKeeps m base i a o
  rw [Mesh.cleanUp_eq]
  refine of_run_bind (hP.keeps_takeOut hi k ⟨hl, hk⟩) (fun left w hw => ?_) fun w hw => hw.2
  cases left with
  | true => exact hP.hup hw.2 hw.1
  | false =>
    change Continues base o (m.tearDown i a w).2
    rw [Mesh.tearDown_eq_retire]
    refine of_run_bind (hP.keeps_retire hi w hw) (fun _ x hx => ?_) fun x hx => hx.2
    exact of_run_bind (hx.2.removeIfThere hfree hx.1 hi)
      (fun _ y hy => hy.of_same rfl rfl rfl) fun _ => id

/-- **A pod attached, or that undone.**

**Proof sketch.** The attachment continues the host, by the requests it makes, and so does the
cleanup that may follow it. What is logged about the cleanup changes no file. -/
theorem provisionOrUndo (hk : Continues base o k) (hfree : o.disk.FreeOfNetworks base)
    (hi : i.IsBelow m.settings.rootDir) (hl : k.disk.Linkless m.settings.rootDir base) :
    Continues base o (m.provisionOrUndo i a k).2 := by
  obtain ⟨hl', hk'⟩ := (attachingKeeps m base a o hi).keeps_provision hi k ⟨hl, hk⟩
  have hclean : Continues base o (m.cleanUp i a (m.provision i a k).2).2 :=
    hk'.cleanUp hfree hi hl'
  unfold Mesh.provisionOrUndo
  rw [run_bind, run_attempt]
  dsimp only
  cases (m.provision i a k).1 with
  | ok u => exact hk'
  | error fault =>
    dsimp only
    rw [run_bind, run_attempt]
    dsimp only
    cases (m.cleanUp i a (m.provision i a k).2).1 with
    | ok u => exact hclean
    | error second => exact hclean.of_same rfl rfl rfl

/-- **An action on an instance**, under the lock or not begun.

**Proof sketch.** If the action is not begun, at most the root was made. If it is, only the locks
held are put back behind it, and those play no part. -/
lemma attended {body : Instance → Action Unit} (hk : Continues base o k)
    (hl : (m.withRoot k).disk.Linkless m.settings.rootDir base)
    (hbody : ∀ i w, m.IsFor i a → w.disk.Linkless m.settings.rootDir base →
      Continues base o w → Continues base o (body i w).2) :
    Continues base o (m.attended a body k).2 := by
  have hroot : Continues base o (m.withRoot k) := hk.prepared (Files.prepared_makeDirectories _ _ k)
  rcases m.attended_cases a k with ⟨fault, w, hw, hrun⟩ | ⟨-, binary, ids, hb, hrun⟩
  · rw [hrun]
    rcases hw with rfl | rfl
    · exact hk
    · exact hroot
  · obtain ⟨ids', hrun⟩ := hrun body
    rw [hrun]
    have hdone := hbody _ { m.withRoot k with held := ids } ⟨hb, rfl, rfl⟩ hl
      (hroot.of_same rfl rfl rfl)
    exact hdone.of_same rfl rfl rfl

/-- **Any move** leaves in place what was there at first.

**Proof sketch.** An attachment and a detachment run on an instance below the root. A kill leaves
the disk as it is. -/
theorem step {v : Shelf} (hk : Continues base o k) (hfree : o.disk.FreeOfNetworks base)
    (hs : m.Stores base v k) (move : Move) : Continues base o (m.step k move) := by
  have hl := hs.holds_withRoot.inOrder.linkless
  cases move with
  | add a =>
    rw [Mesh.step_add, Mesh.snd_add]
    exact hk.attended hl fun i w hi hw hc => hc.provisionOrUndo hfree hi.below hw
  | del a => exact hk.attended hl fun i w hi hw hc => hc.cleanUp hfree hi.below hw
  | kill pid =>
    have hcalm : k.Calm (m.step k (.kill pid)) := by
      rw [Mesh.step_kill]
      exact .send _ _
    exact hk.of_same (m.disk_step_kill k pid) hcalm.setting.searchPath hcalm.nextPid

end Continues

end Host

/-! ## Runs -/

/-- The system takes the paths of the hosts files that are there. -/
def Shelf.HostsAdmitted (root : Path) (v : Shelf) : Prop :=
  ∀ n t, v.text? n hostsName = some t → Admits (root.fileOf n hostsName) n

section Listings

variable {root : Path} {n pod s : Text} {v v' : Shelf}

/-- The paths of all hosts files are taken, also once a pod is entered. -/
lemma Shelf.Registers.hostsAdmitted (h : v.Registers root n s v') (hv : v.HostsAdmitted root) :
    v'.HostsAdmitted root := by
  intro p t ht
  by_cases hp : p = n
  · subst hp
    rcases h.hosts with hsame | ⟨hadmits, -, -⟩
    · exact hv p t (hsame ▸ ht)
    · exact hadmits
  · exact hv p t ((h.others p hp).1 ▸ ht)

/-- So they are once a pod is taken out. -/
lemma Shelf.Releases.hostsAdmitted (h : v.Releases root n pod v') (hv : v.HostsAdmitted root) :
    v'.HostsAdmitted root := by
  intro p t ht
  by_cases hp : p = n
  · subst hp
    obtain ⟨-, t', ht'⟩ := h.there t ht
    exact hv p t' ht'
  · exact hv p t ((h.others p hp).1 ▸ ht)

end Listings

namespace Mesh

variable {m : Mesh} {base : Location} {o k : Host} {moves : List Move}

/-- **A run** leaves in place what was there at first.

**Proof sketch.** Induction over the run, together with the invariant that the networks are stored
in order: it gives the root without links that each move needs. -/
theorem Along.continues (h₀ : m.StartsEmpty base o)
    (hrun : m.Along (fun k move => Host.Tame base k (m.step k move)) o moves) :
    Host.Continues base o (m.play o moves) := by
  have hfree := h₀.freeOfNetworks
  have hnone : ∀ n t, o.disk.fileText base n pidName ≠ some t := by
    intro n t ht
    unfold fileText at ht
    cases he : o.disk.tree.get? (base ++ [Name.text n, .text pidName]) with
    | none => simp [he] at ht
    | some e => cases (hfree n _ e he).1
  refine (hrun.keeps (I := fun k => Host.Continues base o k ∧ ∃ v, m.Stores base v k) ?_
    ⟨⟨.refl _, rfl, rfl, fun n pid ⟨t, ht, _⟩ => absurd ht (hnone n t)⟩, _, .inr ⟨rfl, h₀⟩⟩).1
  rintro k move ⟨hk, v, hs⟩ ht
  obtain ⟨v', hs', -⟩ := hs.step move ht
  exact ⟨hk.step hfree hs move, v', hs'⟩

/-- Without the daemon's program no move does anything to the disk.

**Proof sketch.** No request can be resolved then, so an operation is not begun. A killed process
changes no file. -/
lemma step_of_not_found (hno : Settings.locate? k m.settings.binary = none) (move : Move) :
    (m.step k move).disk = k.disk ∧ (m.step k move).searchPath = k.searchPath := by
  have hattended : ∀ a (body : Instance → Action Unit), (m.attended a body k).2 = k := by
    intro a body
    unfold attended
    rw [run_bind, run_lift]
    rcases m.resolve_eq a k with ⟨binary, -, -, hl⟩ | ⟨fault, hf, -⟩
    · rw [hno] at hl
      cases hl
    · rw [hf]
  cases move with
  | add a =>
    rw [step_add, snd_add, hattended]
    exact ⟨rfl, rfl⟩
  | del a =>
    rw [step_del, del_eq, hattended]
    exact ⟨rfl, rfl⟩
  | kill pid =>
    refine ⟨m.disk_step_kill k pid, ?_⟩
    rw [step_kill]
    exact (Host.stable_searchPath _).keeps_send _ _ k rfl

/-- Nor does a run. -/
lemma disk_play_of_not_found (hno : Settings.locate? o m.settings.binary = none)
    (moves : List Move) : (m.play o moves).disk = o.disk := by
  induction moves generalizing o with
  | nil => rfl
  | cons move moves ih =>
    obtain ⟨hdisk, hpath⟩ := m.step_of_not_found hno move
    refine (ih ?_).trans hdisk
    unfold Settings.locate? at hno ⊢
    rw [hdisk, hpath]
    exact hno

/-- **The daemon's program is found** where there is a network. -/
theorem StartsEmpty.found (h₀ : m.StartsEmpty base o) {n : Text}
    (hn : (m.play o moves).disk.HasNetwork base n) :
    (Settings.locate? o m.settings.binary).isSome = true := by
  by_contra hno
  rw [Option.not_isSome_iff_eq_none] at hno
  rw [m.disk_play_of_not_found hno, ← isNetwork_shelf_iff, h₀.shelf_eq] at hn
  cases hn

/-- **No lock is left behind** by a run. -/
theorem held_play (m : Mesh) (o : Host) (moves : List Move) :
    (m.play o moves).held = o.held := by
  induction moves generalizing o with
  | nil => rfl
  | cons move moves ih => exact (ih _).trans (m.held_takeTurn o (.move move))

/-- **The paths of hosts files** after a run from an empty root: the system takes those of the files
that are there. -/
theorem Along.hostsAdmitted (h₀ : m.StartsEmpty base o)
    (hrun : m.Along (fun k move => Host.Tame base k (m.step k move)) o moves) :
    ∃ v, m.Stores base v (m.play o moves) ∧ v.HostsAdmitted m.settings.rootDir :=
  hrun.stores h₀ (fun _ _ ht => by cases ht) fun _ _ move hs hv ht => hs.listings
    (fun _ _ _ _ hreg => hreg.hostsAdmitted) (fun _ _ _ _ hrel => hrel.hostsAdmitted) hv move ht

end Mesh

end ResolverMesh
