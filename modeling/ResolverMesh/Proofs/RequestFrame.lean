import ResolverMesh.Proofs.OperationRequests

set_option autoImplicit false
set_option relaxedAutoImplicit false

/-!
# The frame of the requests

What an operation on a network may touch: the network's directory, the files of forwarders of its
siblings, and the daemons of siblings whose files it has written. This module says so of every
state that an attachment or a detachment passes through, in a root that may hold anything but links,
and whatever the daemons write.

## Main definitions

* `ResolverMesh.Host.Raised` — some of a list of directories were made.
* `ResolverMesh.Event.Touches` — an effect changes what is at a place.
* `ResolverMesh.Event.IsWithin` — an effect is one that an operation on a network may have.
* `ResolverMesh.Host.Framed` — from one host to a later one, an operation kept to its frame.

## Main results

* `ResolverMesh.Disk.Linkless.readText_eq_ok_iff` — which file of a network is read as which text.
* `ResolverMesh.Files.raised_makeDirectories` — a directory is made with those above it.
* `ResolverMesh.Host.Framed.attachingKeeps`, `ResolverMesh.Host.Framed.detachingKeeps` — the
  requests of an operation keep to its frame.

## Design

That a daemon may be signalled or started only after the file that it reads was written is said
without the states in between: a signal goes to a process that a pid file named in the beginning, or
to one that has a later pid.
-/

namespace ResolverMesh

open ResolverMesh.Action Disk

/-! ## Reading the files of a network -/

namespace Disk

variable {d : Disk} {root : Path} {base : Location} {n f s : Text} {pid : Nat}

/-- **A file of a network is read** as the text that it holds, if its path is admitted.

**Proof sketch.** If the network is there, what reading gives is known: a refusal of the path, or
what the file holds. If not, a walk without links ends before its directory, and reading fails. -/
theorem Linkless.readText_eq_ok_iff (hl : d.Linkless root base)
    (hn : Settings.isNetworkName n = true) (hf : IsFileName f) :
    d.readText (root.fileOf n f) = .ok s ↔
      Admits (root.fileOf n f) n ∧ d.HasNetwork base n ∧ d.fileText base n f = some s := by
  by_cases hnet : d.HasNetwork base n
  · rw [hl.readText_eq hn hf hnet]
    cases hu : d.unreadable? root base n f with
    | some e =>
      refine iff_of_false (by simp) ?_
      rintro ⟨ha, -, ht⟩
      rw [unreadable?_eq_none ha ht] at hu
      cases hu
    | none =>
      have ha := admits_of_unreadable? hu
      cases d.fileText base n f <;> simp [ha, hnet]
  · refine iff_of_false (fun hr => hnet ?_) fun h => hnet h.2.1
    obtain ⟨hsteps, habs, -, -, hlook⟩ := hl.leads.path_file hn hf
    have hrest := hf.isStep_of_mem
    unfold readText find lookUp at hr
    rw [hlook, hl.walk_eq [f] hsteps habs hn hrest] at hr
    cases hrefused : refusalBy? (root.fileOf n f) n with
    | some e => simp [hrefused] at hr
    | none =>
      rw [hrefused] at hr
      cases hland : d.tree.landing base [n, f] with
      | error e => simp [hland] at hr
      | ok spot => exact (of_landing_file hland).1

/-- The pid file of a network names a process. -/
def NamesPid (d : Disk) (base : Location) (n : Text) (pid : Nat) : Prop :=
  ∃ t, d.fileText base n pidName = some t ∧ PidFile.ofText t = .pid pid

/-- **A pid file is read** as the pid that it holds, if its path is admitted.

**Proof sketch.** A pid is read only from a text that was read, and `readText_eq_ok_iff` says when
there is one. -/
theorem Linkless.read_pidFile_iff (hl : d.Linkless root base)
    (hn : Settings.isNetworkName n = true) :
    PidFile.read d (root.fileOf n pidName) = .pid pid ↔
      Admits (root.fileOf n pidName) n ∧ d.HasNetwork base n ∧ d.NamesPid base n pid := by
  unfold PidFile.read
  constructor
  · intro hr
    cases hread : d.readText (root.fileOf n pidName) with
    | error e =>
      rw [hread] at hr
      dsimp only at hr
      split at hr <;> cases hr
    | ok s =>
      rw [hread] at hr
      obtain ⟨ha, hnet, ht⟩ := (hl.readText_eq_ok_iff hn isFileName_pidName).mp hread
      exact ⟨ha, hnet, s, ht, hr⟩
  · rintro ⟨ha, hnet, t, ht, hpid⟩
    rw [(hl.readText_eq_ok_iff hn isFileName_pidName).mpr ⟨ha, hnet, ht⟩]
    exact hpid

end Disk

/-- The line of a pid is read back as no other pid. -/
lemma PidFile.eq_of_ofText_pidLine {pid q : Nat} (h : ofText (Launch.pidLine pid) = .pid q) :
    q = pid := by
  rw [ofText_pidLine_eq] at h
  split at h <;> cases h
  rfl

/-! ## The root made -/

/-- From one host to a later one, directories were made where some of a list of paths lead. -/
structure Host.Raised (paths : List Path) (h k : Host) : Prop where
  /-- What was there is as it was. -/
  prepared : h.Prepared k
  /-- The effects are those of making the directories, each where nothing was. -/
  made : ∀ e ∈ h.since k, ∃ loc, e = .madeDirectory loc ∧ h.disk.tree.get? loc = none ∧
    ∃ p ∈ paths, k.disk.Leads p loc
  /-- Each change has left an effect. -/
  told : ∀ loc, k.disk.tree.get? loc = h.disk.tree.get? loc ∨ .madeDirectory loc ∈ h.since k

namespace Host.Raised

variable {paths : List Path} {h k l : Host}

/-- Nothing has been made yet. -/
lemma refl (paths : List Path) (h : Host) : Raised paths h h :=
  ⟨.refl h, fun e he => by simp [since] at he, fun _ => .inl rfl⟩

/-- One more directory.

**Proof sketch.** The events are those so far and one more, whose place was free. It was free on
the first host as well, since the host so far is prepared. A place that held something before still
leads where it did, as the tree has only grown. -/
lemma made_one (hk : Raised paths h k) {p : Path} (hp : p ∈ paths) {mode : Nat} {c : Change}
    (hm : k.disk.makeDirectory mode p = .ok c) :
    Raised paths h (({ k with disk := c.disk } : Host).record (.madeDirectory c.loc)) := by
  obtain ⟨hdir, hfree, htree⟩ := makeDirectory_ok hm
  have hprep : h.Prepared (({ k with disk := c.disk } : Host).record (.madeDirectory c.loc)) := by
    have hkeep := Files.keeps_makeDirectory h mode p k hk.prepared
    unfold Files.makeDirectory onDisk at hkeep
    dsimp only at hkeep
    rw [hm] at hkeep
    exact hkeep
  have hsince : h.since (({ k with disk := c.disk } : Host).record (.madeDirectory c.loc)) =
      h.since k ++ [Event.madeDirectory c.loc] := by
    have hj : (({ k with disk := c.disk } : Host).record (.madeDirectory c.loc)).journal =
        k.journal ++ [Event.madeDirectory c.loc] := rfl
    rw [since_append hk.prepared.records ⟨_, hj.symm⟩, since_of_journal hj]
  have hgrows : k.disk.tree.Grows c.disk.tree := by
    rw [htree]
    refine .put fun old hold => ?_
    rw [hfree] at hold
    cases hold
  refine ⟨hprep, fun e he => ?_, fun loc => ?_⟩
  · rw [hsince, List.mem_append, List.mem_singleton] at he
    rcases he with he | rfl
    · obtain ⟨loc, rfl, hnone, q, hq, hleads⟩ := hk.made e he
      exact ⟨loc, rfl, hnone, q, hq, hleads.of_grows hgrows hdir⟩
    · refine ⟨c.loc, rfl, ?_, p, hp, leads_of_makeDirectory_ok hm⟩
      rcases hk.prepared.tree c.loc with hsame | ⟨hnone, -⟩
      · rw [← hsame, hfree]
      · exact hnone
  · rw [hsince, List.mem_append, List.mem_singleton]
    have hget : c.disk.tree.get? loc =
        if loc = c.loc then some (.directory k.disk.nextId mode) else k.disk.tree.get? loc := by
      rw [htree, FileTree.get?_put]
    change c.disk.tree.get? loc = _ ∨ _
    rw [hget]
    by_cases hloc : loc = c.loc
    · exact .inr (.inr (by rw [hloc]))
    · rw [if_neg hloc]
      exact (hk.told loc).imp_right .inl

end Host.Raised

/-- **A directory made with those above it**: effects tell of each directory that was made. -/
theorem Files.raised_makeDirectories (mode : Nat) (p : Path) (h : Host) :
    h.Raised (p :: p.ancestors) (makeDirectories mode p h).2 := by
  refine keeps_makeFromAbove (fun q hq k hk => ?_) h (.refl _ h)
  unfold makeDirectory onDisk
  dsimp only
  cases hm : k.disk.makeDirectory mode q with
  | error e => exact hk
  | ok c => exact hk.made_one hq hm

/-- The root is made with those above it. -/
lemma Mesh.raised_withRoot (m : Mesh) (h : Host) :
    h.Raised (m.settings.rootDir :: m.settings.rootDir.ancestors) (m.withRoot h) :=
  Files.raised_makeDirectories LockGuard.rootMode m.settings.rootDir h

/-! ## What an operation touches -/

/-- An effect changes what is at a place. -/
def Event.Touches (loc : Location) : Event → Prop
  | .madeDirectory made => made = loc
  | .wroteFile written => written = loc
  | .pidWritten written => written = loc
  | .removed top => top <+: loc
  | _ => False

/-- An effect is one that an operation on a network may have, where a disk tells which networks
there are. -/
def Event.IsWithin (d : Disk) (base : Location) (n : Text) : Event → Prop
  | .madeDirectory loc => loc = base ++ [Name.text n]
  | .wroteFile loc => (∃ f, loc = base ++ [Name.text n, .text f]) ∨
      ∃ p ≠ n, d.HasNetwork base p ∧ loc = base ++ [Name.text p, .text localServersName]
  | .removed loc => loc = base ++ [Name.text n]
  | _ => True

/-- The effect of writing the forwarders of a network. -/
abbrev Event.toldOf (base : Location) (p : Text) : Event :=
  .wroteFile (base ++ [Name.text p, .text localServersName])

/-- From one host to a later one, an operation on a network has kept to its frame. -/
structure Host.Framed (root : Path) (base : Location) (n : Text) (h k : Host) : Prop where
  /-- The journal was only added to. -/
  journal : h.journal <+: k.journal
  /-- The effects are those that it may have. -/
  within : ∀ e ∈ h.since k, e.IsWithin h.disk base n
  /-- Each change has left an effect at its place. -/
  told : ∀ loc, k.disk.tree.get? loc = h.disk.tree.get? loc ∨ ∃ e ∈ h.since k, e.Touches loc
  /-- The other networks are those that there were. -/
  networks : ∀ p ≠ n, k.disk.HasNetwork base p ↔ h.disk.HasNetwork base p
  /-- Pids are not given again. -/
  nextPid : h.nextPid ≤ k.nextPid
  /-- A pid file is as it was, or tells of a daemon that was started since. -/
  pidFile : ∀ p t, k.disk.fileText base p pidName = some t →
    h.disk.fileText base p pidName = some t ∨ ∃ pid, h.nextPid ≤ pid ∧ t = Launch.pidLine pid
  /-- Signals were sent to the daemon of the network and to those of siblings that were told, or to
  daemons that were started since. -/
  signalled : ∀ pid signal, .signalled pid signal ∈ h.since k → h.nextPid ≤ pid ∨
    ∃ p, h.disk.NamesPid base p pid ∧ (p = n ∨ .toldOf base p ∈ h.since k)
  /-- The daemon of the network was run, and those of siblings that were told. -/
  launched : ∀ c, .launched c ∈ h.since k → ∃ p, Settings.isNetworkName p = true ∧
    Launch.IsFor root p c ∧ (p = n ∨ .toldOf base p ∈ h.since k)

namespace Host.Framed

variable {root : Path} {base : Location} {n p : Text} {h k l : Host}

/-- No effect so far. -/
lemma refl (root : Path) (base : Location) (n : Text) (h : Host) : Framed root base n h h := by
  have hnone : h.since h = [] := by simp [since]
  exact ⟨List.prefix_refl _, by simp [hnone], fun _ => .inl rfl, fun _ _ => .rfl, le_rfl,
    fun _ _ ht => .inl ht, by simp [hnone], by simp [hnone]⟩

/-- Which locks are held plays no part. -/
lemma held (hk : Framed root base n h k) (ids ids' : List Nat) :
    Framed root base n { h with held := ids } { k with held := ids' } :=
  ⟨hk.journal, hk.within, hk.told, hk.networks, hk.nextPid, hk.pidFile, hk.signalled, hk.launched⟩

/-- One more effect that has nothing to do with a daemon.

**Proof sketch.** The effect is quiet, so what the frame says of daemons and signals still speaks
of the events before it. Each place is as it was before the effect, or is touched by it. -/
lemma extend (hk : Framed root base n h k) {e : Event} (hj : l.journal = k.journal ++ [e])
    (hq : e.isQuiet = true) (hwithin : e.IsWithin h.disk base n)
    (htold : ∀ loc, l.disk.tree.get? loc = k.disk.tree.get? loc ∨ e.Touches loc)
    (hnet : ∀ p ≠ n, l.disk.HasNetwork base p ↔ k.disk.HasNetwork base p)
    (hnext : l.nextPid = k.nextPid)
    (hpid : ∀ p t, l.disk.fileText base p pidName = some t →
      k.disk.fileText base p pidName = some t) : Framed root base n h l := by
  have hrec : k.journal <+: l.journal := ⟨_, hj.symm⟩
  have hsince : h.since l = h.since k ++ [e] := by
    rw [since_append hk.journal hrec, since_of_journal hj]
  have hold : ∀ e' ∈ h.since k, e' ∈ h.since l := fun _ => mem_since_mono hk.journal hrec
  have hcases : ∀ e' ∈ h.since l, e'.isQuiet = false → e' ∈ h.since k := by
    intro e' he' hq'
    rw [hsince, List.mem_append, List.mem_singleton] at he'
    rcases he' with he' | rfl
    · exact he'
    · rw [hq] at hq'
      cases hq'
  refine ⟨hk.journal.trans hrec, fun e' he' => ?_, fun loc => ?_,
    fun p hp => (hnet p hp).trans (hk.networks p hp), hnext ▸ hk.nextPid,
    fun p t ht => hk.pidFile p t (hpid p t ht), fun pid signal hs => ?_, fun c hc => ?_⟩
  · rw [hsince, List.mem_append, List.mem_singleton] at he'
    rcases he' with he' | rfl
    · exact hk.within e' he'
    · exact hwithin
  · rcases htold loc with hsame | htouch
    · rw [hsame]
      exact (hk.told loc).imp_right fun ⟨e', he', ht⟩ => ⟨e', hold e' he', ht⟩
    · exact .inr ⟨e, by rw [hsince]; simp, htouch⟩
  · exact (hk.signalled pid signal (hcases _ hs rfl)).imp_right fun ⟨p, hp, htold⟩ =>
      ⟨p, hp, htold.imp_right (hold _)⟩
  · obtain ⟨p, hp, hfor, htold⟩ := hk.launched c (hcases _ hc rfl)
    exact ⟨p, hp, hfor, htold.imp_right (hold _)⟩

/-- An effect that changes nothing. -/
lemma record (hk : Framed root base n h k) {e : Event} (hq : e.isQuiet = true)
    (hwithin : e.IsWithin h.disk base n) : Framed root base n h (k.record e) :=
  hk.extend rfl hq hwithin (fun _ => .inl rfl) (fun _ _ => .rfl) rfl fun _ _ ht => ht

/-- The directory of the network made.

**Proof sketch.** One effect that touches the directory only. No file of any network changes. -/
lemma opened (hk : Framed root base n h k) (hp : k.Opened l (base ++ [Name.text n])) :
    Framed root base n h l := by
  have hnext : l.nextPid = k.nextPid := by
    obtain ⟨-, id, mode, next, rfl⟩ := hp
    rfl
  have hget : ∀ loc ≠ base ++ [Name.text n], l.disk.tree.get? loc = k.disk.tree.get? loc := by
    obtain ⟨-, id, mode, next, rfl⟩ := hp
    intro loc hloc
    dsimp only [Host.record]
    rw [FileTree.get?_put, if_neg hloc]
  refine hk.extend hp.journal rfl rfl (fun loc => ?_) (fun q hq => ?_) hnext fun q t ht => ?_
  · by_cases hloc : loc = base ++ [Name.text n]
    · exact .inr hloc.symm
    · exact .inl (hget loc hloc)
  · unfold HasNetwork
    rw [hget _ (by simpa using hq)]
  · rw [hp.fileText] at ht
    exact ht

/-- A file written that is no pid file.

**Proof sketch.** Only the entry of that file is another one, and it is not the pid file, which the
frame speaks of. -/
lemma filed (hk : Framed root base n h k) {f : Text} {c : Content} (hf : f ≠ pidName)
    (hwithin : (Event.wroteFile (base ++ [Name.text p, .text f])).IsWithin h.disk base n)
    (hw : k.Filed l (base ++ [Name.text p, .text f]) c) : Framed root base n h l := by
  have hnext : l.nextPid = k.nextPid := by
    obtain ⟨id, x, next, -, rfl⟩ := hw
    rfl
  obtain ⟨id, x, -, hget⟩ := hw.get?
  refine hk.extend hw.journal rfl hwithin (fun loc => ?_) (fun _ _ => hw.hasNetwork_iff) hnext
    fun q t ht => ?_
  · by_cases hloc : loc = base ++ [Name.text p, .text f]
    · exact .inr hloc.symm
    · exact .inl (hget loc hloc)
  · unfold fileText at ht ⊢
    rw [hget _ (by simp [Ne.symm hf])] at ht
    exact ht

/-- The directory of the network removed.

**Proof sketch.** One effect that touches all that lies below the directory. The siblings lie
elsewhere, and files only go. -/
lemma removed (hk : Framed root base n h k) (hr : k.Removed l (base ++ [Name.text n])) :
    Framed root base n h l := by
  have hget : ∀ loc, l.disk.tree.get? loc =
      if base ++ [Name.text n] <+: loc then none else k.disk.tree.get? loc := by
    cases hr
    intro loc
    exact FileTree.get?_removeAt ..
  have hnext : l.nextPid = k.nextPid := by
    cases hr
    rfl
  refine hk.extend hr.journal rfl rfl (fun loc => ?_) (fun q hq => ?_) hnext fun q t ht => ?_
  · by_cases hloc : base ++ [Name.text n] <+: loc
    · exact .inr hloc
    · exact .inl (by rw [hget, if_neg hloc])
  · unfold HasNetwork
    rw [hget, if_neg (by simpa using Ne.symm hq)]
  · rw [hr.fileText] at ht
    split at ht
    · cases ht
    · exact ht

/-- **A request about a daemon**, of the network itself or of a sibling that has been told.

**Proof sketch.** The events of the request are about the daemon of `i`, and follow those before.
The places that change are pid files that it wrote. Its signals go to the process that its pid file
named, and this file was written by a launch on the way or was there at the start. -/
theorem tended (hk : Framed root base n h k) {i : Instance} (hi : i.IsBelow root)
    (hl : k.disk.Linkless root base)
    (ht : Tended i.supervisor.command (i.supervisor.Names k) k l)
    (hp : i.network = n ∨ .toldOf base i.network ∈ h.since k) : Framed root base n h l := by
  have hsince := since_append hk.journal ht.records
  have hold : ∀ e ∈ h.since k, e ∈ h.since l := fun _ =>
    mem_since_mono hk.journal ht.records
  have hnew : ∀ e ∈ k.since l, e ∈ h.since l := fun _ =>
    mem_since_of_suffix hk.journal ht.records
  refine ⟨hk.journal.trans ht.records, fun e he => ?_, fun loc => ?_, fun q hq => ?_,
    hk.nextPid.trans ht.nextPid, fun q t hq => ?_, fun pid signal hs => ?_, fun c hc => ?_⟩
  · rw [hsince, List.mem_append] at he
    rcases he with he | he
    · exact hk.within e he
    · have hd := ht.isDaemonic he
      cases e <;> trivial
  · rcases ht.files loc with hsame | ⟨hw, -⟩
    · rw [hsame]
      exact (hk.told loc).imp_right fun ⟨e, he, htouch⟩ => ⟨e, hold e he, htouch⟩
    · exact .inr ⟨_, hnew _ hw, rfl⟩
  · exact ht.hasNetwork_iff.trans (hk.networks q hq)
  · rcases ht.files (base ++ [Name.text q, .text pidName]) with hsame | ⟨-, id, x, pid, hpid, hfile⟩
    · refine hk.pidFile q t ?_
      unfold fileText at hq ⊢
      rw [← hsame]
      exact hq
    · refine .inr ⟨pid, hk.nextPid.trans (ht.started pid hpid).1, ?_⟩
      unfold fileText at hq
      rw [hfile] at hq
      cases hq
      rfl
  · rw [hsince, List.mem_append] at hs
    rcases hs with hs | hs
    · exact (hk.signalled pid signal hs).imp_right fun ⟨p, hp, htold⟩ =>
        ⟨p, hp, htold.imp_right (hold _)⟩
    · have hnames := (ht.signalled pid signal hs).1
      rw [hi.pidFile, hl.read_pidFile_iff hi.name] at hnames
      obtain ⟨-, -, t, htext, hpid⟩ := hnames
      rcases hk.pidFile _ t htext with hsame | ⟨q, hq, rfl⟩
      · exact .inr ⟨i.network, ⟨t, hsame, hpid⟩, hp.imp_right (hold _)⟩
      · exact .inl (PidFile.eq_of_ofText_pidLine hpid ▸ hq)
  · rw [hsince, List.mem_append] at hc
    rcases hc with hc | hc
    · obtain ⟨p, hname, hfor, htold⟩ := hk.launched c hc
      exact ⟨p, hname, hfor, htold.imp_right (hold _)⟩
    · rw [ht.launched c hc]
      exact ⟨i.network, hi.name, hi.isFor_command, hp.imp_right (hold _)⟩

/-- **A sibling told**: its forwarders are written, and its daemon is restarted if it runs. -/
theorem apply (hk : Framed root base n h k) {u : SiblingUpdate} (hu : u.sibling.IsBelow root)
    (hl : k.disk.Linkless root base) (hne : u.sibling.network ≠ n) :
    Framed root base n h (u.apply k).2 := by
  rcases hl.apply_cases hu with ⟨w, hr, hnet, hw⟩ | ⟨fault, hr⟩ <;> rw [hr]
  · have hwritten := hk.filed (by decide) (.inr ⟨_, hne, (hk.networks _ hne).mp hnet, rfl⟩) hw
    refine hwritten.tended hu (Filed.linkless hw hl) (Supervisor.tended_restartIfRunning _ w)
      (.inr ?_)
    have hj := Host.Filed.journal hw
    rw [since_append hk.journal ⟨_, hj.symm⟩, since_of_journal hj]
    simp
  · exact hk

variable {m : Mesh} {i : Instance} {a : Attachment}

/-- What is put into a file of the network is within its directory. -/
lemma filed_own (hk : Framed root base i.network h k) {f : Text} {c : Content}
    (hputs : Mesh.Puts base i a k f c)
    (hw : k.Filed l (base ++ [Name.text i.network, .text f]) c) : Framed root base i.network h l :=
  hk.filed hputs.ne_pidName (.inl ⟨f, rfl⟩) hw

/-- **The requests of an attachment** keep to the frame of the network. -/
theorem attachingKeeps (m : Mesh) (base : Location) {i : Instance} (a : Attachment) (h : Host)
    (hi : i.IsBelow m.settings.rootDir) :
    m.AttachingKeeps base i a (Framed m.settings.rootDir base i.network h) where
  call hk := hk.record rfl trivial
  opened hk _ hp := hk.opened hp
  filed hk _ _ hputs hw := hk.filed_own hputs hw
  told {s k found u} _ _ hls hfound hu _ hk hl :=
    hk.apply (hfound.noted hls hi hu).1 hl (hfound.noted hls hi hu).2.1
  learnt {s k l found} _ _ _ _ hk _ _ hw :=
    (hk.filed (by decide) (.inl ⟨_, rfl⟩) hw).record rfl trivial
  hup {k} hk hl := hk.tended hi hl (i.supervisor.tended_hup k) (.inl rfl)

/-- **The requests of a detachment** keep to the frame of the network.

**Proof sketch.** Each request is within the frame by its own effect: the network's files, its
daemon, and what a sibling is told to forget. -/
theorem detachingKeeps (m : Mesh) (base : Location) {i : Instance} (a : Attachment) (h : Host)
    (hi : i.IsBelow m.settings.rootDir) :
    m.DetachingKeeps base i a (Framed m.settings.rootDir base i.network h)
      (Framed m.settings.rootDir base i.network h) where
  call hk := hk.record rfl trivial
  log hk _ := hk.record rfl trivial
  delisted hk _ _ _ hw := hk.filed (by decide) (.inl ⟨_, rfl⟩) hw
  withdrawn _ hk hl hj hne _ _ := hk.apply hj hl hne
  hup {k} hk hl := hk.tended hi hl (i.supervisor.tended_hup k) (.inl rfl)
  stop {k} hk hl := hk.tended hi hl (i.supervisor.tended_stop k) (.inl rfl)
  removed hk _ hr := hk.removed hr
  weaken hk := hk
  logEnd hk _ := hk.record rfl trivial

end Host.Framed

end ResolverMesh
