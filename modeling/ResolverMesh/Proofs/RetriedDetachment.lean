import Mathlib.Data.Set.Card
import ResolverMesh.Proofs.AdmittedRequests
import ResolverMesh.Proofs.SiblingRestarts

set_option autoImplicit false
set_option relaxedAutoImplicit false

/-!
# A detachment retried

The detachment of a network's last pod fails if the daemon of a sibling cannot be restarted that
had lines of the network. It leaves the network to be taken down, and can be called again. Since
the daemon does not run any more, it is not in the way of the next call; so the calls succeed
after no more failures than there are such daemons, whatever comes of the starts.

What is left to the siblings in the end is not always what one call would have left. A sibling
that was told by a call that failed is told again if it has lines of the network still. That can be
where lines stood twice, and where a line ended in carriage returns: one of them is lost each time
that the file is written, so that a line of somebody else's may have become one of the network's.

## Main definitions

* `ResolverMesh.Mesh.AwaitsRemoval` — a network that is to be taken down.
* `ResolverMesh.Mesh.Retires`, `ResolverMesh.Mesh.Stalls` — what a call has done.
* `ResolverMesh.Mesh.exposed` — the siblings whose daemons have to be restarted.
* `ResolverMesh.Mesh.Retired` — what several calls have done.

## Main results

* `ResolverMesh.Mesh.AwaitsRemoval.del` — one call.
* `ResolverMesh.Mesh.Stalls.exposed_less` — a call that fails leaves fewer daemons in the way.
* `ResolverMesh.Mesh.AwaitsRemoval.finishes`, `ResolverMesh.Mesh.AwaitsRemoval.retired` — calls in
  sequence.
* `ResolverMesh.retried_detachment_retires` — the same in every state of a run.
-/

namespace ResolverMesh

open ResolverMesh.Action Disk Propagation

/-! ## One call -/

/-- What the first of two actions has recorded stays recorded. -/
lemma Action.records_bind_left {α β : Type} {x : Action α} {f : α → Action β}
    (hf : ∀ r, Records (f r)) (h : Host) : (x h).2.journal <+: ((x >>= f) h).2.journal := by
  rw [run_bind]
  rcases x h with ⟨fault | r, k⟩
  · exact List.prefix_refl _
  · exact hf r k

namespace Mesh

/-- The lines that a detachment takes back from the siblings: none, if the domain was not made
known. -/
def takenBack (a : Attachment) : List Text :=
  if a.multiDomain then ownLines a else []

/-- A network is to be taken down by a detachment: no pod is left in its hosts file but that of the
attachment, at most. -/
structure AwaitsRemoval (m : Mesh) (base : Location) (a : Attachment) (o h : Host) : Prop where
  /-- The root is in order. -/
  inOrder : h.disk.InOrder m.settings.rootDir base
  /-- What was there at first is there. -/
  continues : Host.Continues base o h
  /-- The daemon's program was there. -/
  found : (Settings.locate? o m.settings.binary).isSome = true
  /-- The system takes the path of the hosts file. -/
  admits : Admits (m.settings.rootDir.fileOf a.network hostsName) a.network
  /-- No other pod is left. -/
  lastPod : ∃ t, h.disk.fileText base a.network hostsName = some t ∧
    HostsFile.without a.podName t = []

/-- From one host to a later one, a network was removed with its daemon, and its siblings were left
alone. -/
structure Demolished (base : Location) (n : Text) (h k : Host) : Prop where
  /-- The journal was only added to. -/
  journal : h.journal <+: k.journal
  /-- It tells of no forwarders written. -/
  untold : ∀ p, .toldOf base p ∉ h.since k
  /-- The others have the forwarders that they had. -/
  text : ∀ p ≠ n, k.disk.fileText base p localServersName = h.disk.fileText base p localServersName
  /-- The network is gone. -/
  gone : ∀ rest, k.disk.tree.get? (base ++ .text n :: rest) = none
  /-- So is its daemon. -/
  dead : ∀ pid, h.disk.NamesPid base n pid → k.isAlive pid = false

/-- From one host to a later one, a detachment has taken its network down: the network is gone with
its daemon, and each sibling that had lines of the network was told once that they are gone. -/
structure Retires (m : Mesh) (base : Location) (a : Attachment) (h k : Host) : Prop where
  /-- The journal was only added to. -/
  journal : h.journal <+: k.journal
  /-- The system takes the paths of the siblings' forwarders, if the domain was made known. -/
  admits : a.multiDomain = true → ∀ p ≠ a.network, h.disk.HasNetwork base p →
    Admits (m.settings.rootDir.fileOf p localServersName) p
  /-- The siblings that had lines were told. -/
  count : ∀ p ≠ a.network, (h.since k).count (.toldOf base p) =
    if Forwarders.HasSome (takenBack a) (h.disk.fileText base p localServersName) then 1 else 0
  /-- They have them no more. -/
  text : ∀ p ≠ a.network, k.disk.fileText base p localServersName =
    if Forwarders.HasSome (takenBack a) (h.disk.fileText base p localServersName)
    then Forwarders.strip (takenBack a) (h.disk.fileText base p localServersName)
    else h.disk.fileText base p localServersName
  /-- The network is gone. -/
  gone : ∀ rest, k.disk.tree.get? (base ++ .text a.network :: rest) = none
  /-- So is its daemon. -/
  dead : ∀ pid, h.disk.NamesPid base a.network pid → k.isAlive pid = false

/-- From one host to a later one, a detachment has come to nothing: the system does not take the
path of a sibling's forwarders, or the daemon of a sibling that had lines of the network could not
be restarted. -/
structure Stalls (m : Mesh) (base : Location) (a : Attachment) (h k : Host) : Prop where
  /-- The domain was made known. -/
  multi : a.multiDomain = true
  /-- Some siblings were told. -/
  told : ∃ times, times a.network = 0 ∧ m.Told base (ownLines a) times h k
  /-- What has ended it. -/
  cause : (∃ p ≠ a.network, h.disk.HasNetwork base p ∧
      ¬ Admits (m.settings.rootDir.fileOf p localServersName) p) ∨
    ∃ p ≠ a.network, h.disk.HasNetwork base p ∧
      Forwarders.HasSome (ownLines a) (h.disk.fileText base p localServersName) ∧
      m.stateOf h p ≠ .notRunning ∧ m.stateOf k p = .notRunning

section Call

variable {m : Mesh} {base : Location} {a : Attachment} {o h k l : Host} {own : List Text}
  {i : Instance}

namespace Retires

/-- A stretch before that in which nobody was told.

**Proof sketch.** Nobody was told in the first stretch, so the siblings have the same files at its
end and all counts are those of the second. -/
lemma of_told (hr : m.Retires base a k l) (ht : m.Told base own (fun _ => 0) h k)
    (hn : Settings.isNetworkName a.network = true) : m.Retires base a h l := by
  have hsame : ∀ p, k.disk.fileText base p localServersName =
      h.disk.fileText base p localServersName := fun p => (ht.stripped p).eq_of_zero
  refine ⟨ht.journal.trans hr.journal, fun hmulti p hp hnet => hr.admits hmulti p hp
    ((ht.networks p).mpr hnet), fun p hp => ?_, fun p hp => ?_, hr.gone, fun pid hnames => ?_⟩
  · rw [Host.since_append ht.journal hr.journal, List.count_append, ht.count, hr.count p hp, hsame,
      Nat.zero_add]
  · rw [hr.text p hp, hsame]
  · obtain ⟨t, htext, hpid⟩ := hnames
    exact hr.dead pid ⟨t, (ht.pidFile a.network hn rfl).trans htext, hpid⟩

/-- Which locks are held plays no part. -/
lemma held {ids ids' : List Nat} (hr : m.Retires base a { h with held := ids } k) :
    m.Retires base a h { k with held := ids' } :=
  ⟨hr.journal, hr.admits, hr.count, hr.text, hr.gone, hr.dead⟩

end Retires

namespace Stalls

/-- A stretch before that in which nobody was told. -/
lemma of_told (hs : m.Stalls base a k l) (ht : m.Told base (ownLines a) (fun _ => 0) h k)
    (ho : h.disk.InOrder m.settings.rootDir base) : m.Stalls base a h l := by
  obtain ⟨times, hzero, htold⟩ := hs.told
  refine ⟨hs.multi, ⟨_, (Nat.zero_add _).trans hzero, ht.trans htold⟩, hs.cause.imp ?_ ?_⟩
  · rintro ⟨p, hp, hnet, hno⟩
    exact ⟨p, hp, (ht.networks p).mp hnet, hno⟩
  · rintro ⟨p, hp, hnet, hsome, hran, hdead⟩
    rw [ht.networks p] at hnet
    rw [(ht.stripped p).eq_of_zero] at hsome
    exact ⟨p, hp, hnet, hsome, ht.runs p (ho.tidy.isNetworkName hnet) hran, hdead⟩

/-- Which locks are held plays no part. -/
lemma held {ids ids' : List Nat} (hs : m.Stalls base a { h with held := ids } k) :
    m.Stalls base a h { k with held := ids' } := by
  obtain ⟨times, hzero, htold⟩ := hs.told
  exact ⟨hs.multi, ⟨times, hzero, htold.held h.held ids'⟩, hs.cause⟩

end Stalls

/-- A hook's refusal to drop a chain is only logged.

**Proof sketch.** The call and the message about its refusal are effects that touch no file. -/
lemma told_dropChain (m : Mesh) (base : Location) (a : Attachment) (own : List Text) (h : Host) :
    ∃ k, m.dropChain a h = (.ok (), k) ∧ k.disk = h.disk ∧ m.Told base own (fun _ => 0) h k := by
  have hcall : m.Told base own (fun _ => 0) h (h.record (.chain (.remove a.interface))) :=
    (Told.refl m base own h).record (by simp)
  unfold dropChain ChainHook.call
  rw [run_bind, run_attempt, run_bind, run_ask]
  dsimp only
  rw [run_bind, run_record]
  dsimp only
  cases m.chain.refusal h.chainCalls (.remove a.interface) with
  | none => exact ⟨_, rfl, rfl, hcall⟩
  | some fault => exact ⟨_, rfl, rfl, hcall.record (by simp)⟩

namespace AwaitsRemoval

/-- The networks are those on the disk. -/
lemma holds (hw : m.AwaitsRemoval base a o h) :
    h.Holds m.settings.rootDir base (h.disk.shelf base) :=
  ⟨hw.inOrder, rfl⟩

/-- The network is still there. -/
lemma hasNetwork (hw : m.AwaitsRemoval base a o h) : h.disk.HasNetwork base a.network := by
  obtain ⟨t, ht, -⟩ := hw.lastPod
  exact hw.inOrder.tidy.hasNetwork_of_fileText ht

/-- Its name is that of a network. -/
lemma name (hw : m.AwaitsRemoval base a o h) : Settings.isNetworkName a.network = true :=
  hw.inOrder.tidy.isNetworkName hw.hasNetwork

/-- Its siblings told. -/
lemma of_toldAll (hw : m.AwaitsRemoval base a o h) {names : List Text}
    (ht : m.ToldAll base (h.disk.shelf base) own names h k) : m.AwaitsRemoval base a o k := by
  obtain ⟨t, htext, hlast⟩ := hw.lastPod
  refine ⟨ht.holds.inOrder, ht.told.continues o hw.continues, hw.found, hw.admits, t, ?_, hlast⟩
  have hne : hostsName ≠ pidName := by decide
  rw [← text?_shelf_eq hne, ht.holds.shelf_eq, Shelf.text?_revise_of_ne (by decide),
    text?_shelf_eq hne]
  exact htext

/-- **The pod is taken out.**

**Proof sketch.** The hook changes no file, whatever it answers. The hosts file can be read and
written, since its path is taken and the network is there, and no line is left in it. Nobody is
told by that. -/
theorem takeOut (hw : m.AwaitsRemoval base a o h) (hi : i.IsBelow m.settings.rootDir)
    (hn : i.network = a.network) (own : List Text) : ∃ k, m.takeOut i a h = (.ok false, k) ∧
      m.AwaitsRemoval base a o k ∧ m.Told base own (fun _ => 0) h k := by
  obtain ⟨k, hdrop, hdisk, hk⟩ := m.told_dropChain base a own h
  obtain ⟨t, htext, hlast⟩ := hw.lastPod
  have hpath : i.hostsFile = m.settings.rootDir.fileOf a.network hostsName := hn ▸ hi.hostsFile
  have ho : k.disk.InOrder m.settings.rootDir base := by
    rw [hdisk]
    exact hw.inOrder
  have hread : Files.readIfThere i.hostsFile k = .ok (some t) := by
    rw [hpath]
    rcases ho.readIfThere_file hw.name isFileName_hostsName with ⟨-, hr⟩ | ⟨hno, -⟩
    · rw [hr, hdisk, htext]
    · rw [hdisk] at hno
      exact absurd ⟨hw.admits, hw.hasNetwork⟩ hno
  obtain ⟨-, hnet, hok, hwrote⟩ := (ho.files_write hw.name isFileName_hostsName []).resolve_right
    fun hno => hno.1 ⟨hw.admits, by
      rw [hdisk]
      exact hw.hasNetwork⟩
  rw [← hpath] at hok hwrote
  have hrun : m.takeOut i a h = (.ok false, (Files.write i.hostsFile [] k).2) := by
    unfold Mesh.takeOut HostsFile.removePod
    rw [run_bind, hdrop]
    dsimp only
    rw [run_bind, run_lift, hread]
    dsimp only
    have hblank : Text.unlines [] = [] := rfl
    rw [run_bind, hlast, hblank]
    generalize Files.write i.hostsFile [] k = written at hok
    obtain ⟨r, l⟩ := written
    obtain rfl : r = .ok () := hok
    rfl
  generalize (Files.write i.hostsFile [] k).2 = l at hrun hwrote
  have hfile : ∀ p f, l.disk.fileText base p f =
      if p = a.network ∧ f = hostsName then some [] else h.disk.fileText base p f := by
    intro p f
    rw [hwrote.fileText, hdisk]
  have htold : m.Told base own (fun _ => 0) k l :=
    (Told.of_wrote ho.linkless hwrote (by decide) fun hf => absurd hf (by decide)).congr
      fun _ => if_neg fun hq => absurd hq.2 (by decide)
  refine ⟨l, hrun, ⟨hwrote.inOrder ho hnet, htold.continues o (hk.continues o hw.continues),
    hw.found, hw.admits, [], ?_, rfl⟩, (hk.trans htold).congr fun _ => rfl⟩
  rw [hfile, if_pos ⟨rfl, rfl⟩]

/-- **The network is removed** with its daemon.

**Proof sketch.** The pid file can be read, so the daemon is stopped, if there is one. The
directory can be removed after that. Neither writes a file of another network. -/
theorem demolish (hw : m.AwaitsRemoval base a o h) (hi : i.IsBelow m.settings.rootDir)
    (hn : i.network = a.network) :
    Ends i.demolish h (fun _ k => Demolished base a.network h k) (fun _ _ => False) := by
  have hplain : Path.IsPlain a.network := (Settings.isNetworkName_iff.mp hw.name).1
  have hpid := hw.admits.file (by decide) isFileName_pidName.1 (by decide) (by decide)
  have hdir := hw.admits.directory hplain (by decide)
  have hnet := hw.hasNetwork
  rw [← hn] at hpid hdir hnet ⊢
  obtain ⟨w, hstop, hdisk, hdead⟩ := Supervisor.stop_ok hw.inOrder hi hpid hnet
  have htended := i.supervisor.tended_stop h
  rw [hstop] at htended
  have hl : w.disk.Linkless m.settings.rootDir base := htended.linkless hw.inOrder.linkless
  obtain ⟨hok, hremoved⟩ := hl.removeIfThere_ok hi.name hdir (htended.hasNetwork_iff.mpr hnet)
  unfold Ends Instance.demolish
  rw [run_bind, hstop]
  dsimp only
  rw [run_bind, hi.dir]
  generalize Files.removeIfThere (m.settings.rootDir.join i.network) w = removed at hok hremoved
  obtain ⟨r, l⟩ := removed
  obtain rfl : r = .ok () := hok
  have hfile := hremoved.fileText
  have hrec : w.journal <+: l.journal := ⟨_, hremoved.journal.symm⟩
  have hsince : h.since (l.record (.logged (.removedInstance i.network))) =
      h.since w ++ [.removed (base ++ [Name.text i.network]),
        .logged (.removedInstance i.network)] := by
    rw [Host.since_append htended.records (hrec.trans (List.prefix_append _ _)),
      Host.since_of_journal (h := w)]
    rw [Host.record, hremoved.journal]
    simp
  refine ⟨htended.records.trans (hrec.trans (List.prefix_append _ _)), fun p hmem => ?_,
    fun p hp => ?_, fun rest => ?_, fun pid hnames => ?_⟩
  · change _ ∈ h.since (l.record _) at hmem
    rw [hsince, List.mem_append] at hmem
    rcases hmem with hmem | hmem
    · cases htended.isDaemonic hmem
    · simp at hmem
  · change l.disk.fileText base p localServersName = _
    rw [hfile, if_neg hp, hdisk]
  · change l.disk.tree.get? _ = none
    cases hremoved
    change (w.disk.tree.removeAt _).get? _ = none
    rw [FileTree.get?_removeAt, if_pos]
    exact ⟨rest, by simp⟩
  · cases hremoved
    exact hdead pid hnames

/-- **The siblings told and the network removed.**

**Proof sketch.** Every other network is a sibling, and it was told if it had some of the lines.
The removal leaves it as it was then, and with the directory the pid file is gone that names the
daemon. -/
theorem retires (hw : m.AwaitsRemoval base a o h) {names : List Text}
    (hsib : Siblings (h.disk.shelf base) a.network names)
    (ht : m.ToldAll base (h.disk.shelf base) (takenBack a) names h k)
    (hadm : a.multiDomain = true → ∀ p ∈ names,
      Admits (m.settings.rootDir.fileOf p localServersName) p)
    (hd : Demolished base a.network k l) : m.Retires base a h l := by
  have hmem : ∀ p ≠ a.network, h.disk.HasNetwork base p → p ∈ names := fun p hp hnet =>
    (hsib.mem_iff p).mpr ⟨isNetwork_shelf_iff.mpr hnet, hp⟩
  -- only networks have forwarders
  have hsome : ∀ p ≠ a.network,
      Forwarders.HasSome (takenBack a) (h.disk.fileText base p localServersName) → p ∈ names := by
    intro p hp hsome
    refine hmem p hp ?_
    by_contra hno
    rw [hw.inOrder.tidy.fileText_eq_none hno] at hsome
    obtain ⟨l, -, hl⟩ := Forwarders.changed_remove_iff.mp hsome
    cases hl
  refine ⟨ht.told.journal.trans hd.journal, fun hmulti p hp hnet => hadm hmulti p (hmem p hp hnet),
    fun p hp => ?_, fun p hp => ?_, hd.gone, fun pid hnames => hd.dead pid ?_⟩
  · rw [Host.since_append ht.told.journal hd.journal, List.count_append, ht.told.count,
      List.count_eq_zero_of_not_mem (hd.untold p), Nat.add_zero]
    refine if_congr ?_ rfl rfl
    rw [Bool.and_eq_true, List.contains_iff_mem]
    exact ⟨And.right, fun hs => ⟨hsome p hp hs, hs⟩⟩
  · have hne : localServersName ≠ pidName := by decide
    rw [hd.text p hp, ← text?_shelf_eq hne, ht.holds.shelf_eq]
    by_cases hs : Forwarders.HasSome (takenBack a) (h.disk.fileText base p localServersName)
    · rw [if_pos hs]
      exact if_pos ⟨rfl, hsome p hp hs, hs⟩
    · rw [if_neg hs]
      exact (if_neg fun hc => hs hc.2.2).trans (text?_shelf_eq hne p)
  · obtain ⟨t, htext, hpid⟩ := hnames
    exact ⟨t, (ht.told.pidFile a.network hw.name (Shelf.due_of_not_mem hsib.not_mem)).trans htext,
      hpid⟩

/-- A withdrawal that was cut short. -/
lemma stalls (hw : m.AwaitsRemoval base a o h) (ha : a.multiDomain = true) {names : List Text}
    (hsib : Siblings (h.disk.shelf base) a.network names)
    (hk : m.CutShort base (h.disk.shelf base) (ownLines a) names h k) :
    m.AwaitsRemoval base a o k ∧ m.Stalls base a h k := by
  have hnet : ∀ p ∈ names, p ≠ a.network ∧ h.disk.HasNetwork base p := fun p hp =>
    ⟨((hsib.mem_iff p).mp hp).2, isNetwork_shelf_iff.mp ((hsib.mem_iff p).mp hp).1⟩
  obtain ⟨done, hdone, htold⟩ := hk.toldSome
  refine ⟨hw.of_toldAll htold, ha, ⟨_, ?_, htold.told⟩, ?_⟩
  · exact Shelf.due_of_not_mem fun hmem => hsib.not_mem (hdone.subset hmem)
  · exact hk.cause.imp (fun ⟨p, hp, hno⟩ => ⟨p, (hnet p hp).1, (hnet p hp).2, hno⟩)
      fun ⟨p, hp, hsome, hend⟩ => ⟨p, (hnet p hp).1, (hnet p hp).2, hsome, hend⟩

/-- **The network taken down**, or a sibling is in the way.

**Proof sketch.** A network that keeps to itself is demolished at once. Another one is withdrawn
from its siblings first, by `told_withdrawFrom`; if that is cut short, nothing of the network
itself was touched. -/
theorem tearDown (hw : m.AwaitsRemoval base a o h) (hi : i.IsBelow m.settings.rootDir)
    (hn : i.network = a.network) (hdomain : i.domain = a.domain)
    (hmulti : i.multiDomain = a.multiDomain)
    (hf : Host.Faithful m.settings.rootDir base h (m.tearDown i a h).2) :
    (m.tearDown i a).Ends h (fun _ k => m.Retires base a h k)
      (fun _ k => m.AwaitsRemoval base a o k ∧ m.Stalls base a h k) := by
  obtain ⟨names, hnames, hsib⟩ := exists_siblings rfl hw.holds hw.name
  cases ha : a.multiDomain with
  | false =>
    have hrun : m.tearDown i a = i.demolish := by
      rw [tearDown_eq_demolish, hmulti, ha, if_neg Bool.false_ne_true]
    rw [hrun]
    have hnone : takenBack a = [] := by simp [takenBack, ha]
    refine (hw.demolish hi hn).mono (fun _ k hk => hw.retires hsib (.refl hw.holds fun p _ => ?_)
      (by simp [ha]) hk) fun _ _ he => he.elim
    rw [hnone]
    rfl
  | true =>
    rw [← hn, ← hi.dir] at hnames
    have hrun := m.tearDown_eq (a := a) (hmulti.trans ha) hnames
    have hback : takenBack a = Forwarders.scopedLines a.domain a.servers := by simp [takenBack, ha]
    rw [hdomain, ← hback] at hrun
    have hrec : (withdrawFrom m.settings (takenBack a) names h).2.journal <+:
        (m.tearDown i a h).2.journal := by
      rw [hrun]
      exact records_bind_left (fun _ => .bind (records_log _) fun _ => i.records_demolish) h
    have hwithdrawn := told_withdrawFrom hw.holds hw.continues hw.found
      (fun p hp => ((hsib.mem_iff p).mp hp).1) hsib.nodup
      (hf.split (records_withdrawFrom _ _ _ h) hrec).1
    have hall : Ends (do
        withdrawFrom m.settings (takenBack a) names
        Action.log (.withdrew i.network a.domain)
        i.demolish) h (fun _ k => m.Retires base a h k)
        (fun _ k => m.AwaitsRemoval base a o k ∧ m.Stalls base a h k) := by
      refine .bind (hwithdrawn.mono (fun _ _ hq => hq) fun _ k hk =>
        hw.stalls ha hsib (by rw [hback] at hk; exact hk)) fun _ k hk => ?_
      -- the siblings are told, which is logged
      have htold := hk.1.record (e := .logged (.withdrew i.network a.domain)) (by simp)
      exact ((hw.of_toldAll htold).demolish hi hn).mono
        (fun _ l hl => hw.retires hsib htold (fun _ => hk.2) hl) fun _ _ he => he.elim
    unfold Ends at hall ⊢
    rw [hrun]
    exact hall

/-- Which locks are held plays no part. -/
lemma held (hw : m.AwaitsRemoval base a o h) (ids : List Nat) :
    m.AwaitsRemoval base a o { h with held := ids } :=
  ⟨hw.inOrder, hw.continues.of_same rfl rfl rfl, hw.found, hw.admits, hw.lastPod⟩

/-- **A detachment under the lock**, which is free.

**Proof sketch.** The request is resolved, as the program is still found. The root is there and its
lock is free, so it is taken, and the detachment is what remains. -/
theorem del_eq (hw : m.AwaitsRemoval base a o h) (hheld : h.held = []) : ∃ binary ids ids',
    (m.settings.instanceOf binary a).IsBelow m.settings.rootDir ∧
      m.del a h = ((m.cleanUp (m.settings.instanceOf binary a) a { h with held := ids }).1,
        { (m.cleanUp (m.settings.instanceOf binary a) a { h with held := ids }).2 with
          held := ids' }) := by
  have hfound := hw.continues.found hw.found
  obtain ⟨binary, hres, hb⟩ : ∃ binary, m.resolve a h = .ok (m.settings.instanceOf binary a) ∧
      (m.settings.instanceOf binary a).IsBelow m.settings.rootDir := by
    rcases m.resolve_eq a h with ⟨binary, hres, hb, -⟩ | ⟨fault, hfault, -⟩
    · exact ⟨binary, hres, hb⟩
    · obtain ⟨i, hi, -⟩ := Settings.exists_resolve hfound hw.name a.domain a.multiDomain
      cases hi.symm.trans hfault
  obtain ⟨id, mode, hfind⟩ := hw.inOrder.linkless.leads
  have hlock : LockGuard.acquire m.settings.rootDir m.settings.lockTimeout h =
      (.ok ⟨m.settings.rootDir, id⟩, { h with held := [id] }) := by
    rw [LockGuard.acquire_eq_acquireExisting hfind,
      LockGuard.acquireExisting_of_free hfind (by rw [hheld]; simp), hheld]
  unfold Mesh.del
  rw [run_bind, run_lift, hres]
  unfold locked LockGuard.hold
  dsimp only
  rw [hlock]
  exact ⟨binary, [id], _, hb, rfl⟩

/-- **A detachment** takes the network down, or a sibling is in the way and the network is still to
be taken down.

**Proof sketch.** The pod is taken out, and none is left. So the detachment is the network's end,
which is told by `tearDown`, with the siblings told of nothing in between. -/
theorem del (hw : m.AwaitsRemoval base a o h) (hheld : h.held = [])
    (hf : Host.Faithful m.settings.rootDir base h (m.del a h).2) :
    (m.del a).Ends h (fun _ k => m.Retires base a h k)
      (fun _ k => m.AwaitsRemoval base a o k ∧ m.Stalls base a h k) := by
  obtain ⟨binary, ids, ids', hi, hrun⟩ := hw.del_eq hheld
  obtain ⟨k, htake, hk, htold⟩ := (hw.held ids).takeOut hi rfl (ownLines a)
  have hclean : m.cleanUp (m.settings.instanceOf binary a) a { h with held := ids } =
      m.tearDown (m.settings.instanceOf binary a) a k := by
    rw [cleanUp_eq, run_bind, htake]
    rfl
  rw [hclean] at hrun
  rw [hrun] at hf
  have hf' : Host.Faithful m.settings.rootDir base h
      (m.tearDown (m.settings.instanceOf binary a) a k).2 := hf.congr rfl rfl
  have hdown := hk.tearDown hi rfl rfl rfl (hf'.split htold.journal (m.records_tearDown _ a k)).2
  unfold Ends at hdown ⊢
  rw [hrun]
  rcases hr : m.tearDown (m.settings.instanceOf binary a) a k with ⟨fault | u, l⟩ <;>
    rw [hr] at hdown
  · exact ⟨hdown.1.held ids', (hdown.2.of_told htold hw.inOrder).held⟩
  · exact (hdown.of_told htold hw.name).held

end AwaitsRemoval

end Call

/-! ## Calls in sequence -/

/-- The host after a detachment was called a number of times. -/
def retried (m : Mesh) (a : Attachment) (h : Host) (j : Nat) : Host :=
  m.play h (List.replicate j (.del a))

/-- After `j` calls of a detachment, the next one is the first that succeeds. -/
structure FinishesAt (m : Mesh) (a : Attachment) (h : Host) (j : Nat) : Prop where
  /-- The calls before it failed. -/
  failed : ∀ i < j, ∃ fault, (m.del a (m.retried a h i)).1 = .error fault
  /-- It succeeds. -/
  succeeded : (m.del a (m.retried a h j)).1 = .ok ()

/-- The siblings whose daemons have to be restarted to take the lines of an attachment back. -/
def exposed (m : Mesh) (base : Location) (a : Attachment) (h : Host) : Set Text :=
  {p | p ≠ a.network ∧ m.Runs base h p ∧ ∃ l ∈ ownLines a, l ∈ (h.disk.shelf base).forwarders p}

/-- From one host to a later one, a network has been retired by calls of a detachment. -/
structure Retired (m : Mesh) (base : Location) (a : Attachment) (h k : Host) : Prop where
  /-- The network is gone. -/
  gone : ∀ rest, k.disk.tree.get? (base ++ .text a.network :: rest) = none
  /-- So is its daemon. -/
  dead : ∀ pid, h.disk.NamesPid base a.network pid → k.isAlive pid = false
  /-- The others have the forwarders that a single call leaves, whatever comes of the programs that
  it runs as long as it succeeds, just if they were not written more than once. -/
  alike : ∀ programs once, m.del a { h with programs := programs } = (.ok (), once) →
    Host.Faithful m.settings.rootDir base { h with programs := programs } once →
      ∀ p ≠ a.network, k.disk.fileText base p localServersName =
          once.disk.fileText base p localServersName ↔
        (h.since k).count (.toldOf base p) ≤ 1
  /-- They were not, where no line stood twice and none ended in a carriage return. -/
  clean : ∀ p ≠ a.network, ((h.disk.shelf base).forwarders p).Nodup →
    (∀ l ∈ (h.disk.shelf base).forwarders p, l.getLast? ≠ some '\r') →
      (h.since k).count (.toldOf base p) ≤ 1

section Calls

variable {m : Mesh} {base : Location} {a : Attachment} {o h k : Host} {j n : Nat}

/-- One more attempt. -/
lemma retried_succ (m : Mesh) (a : Attachment) (h : Host) (j : Nat) :
    m.retried a h (j + 1) = (m.del a (m.retried a h j)).2 := by
  unfold retried play
  rw [List.replicate_succ', List.foldl_append]
  rfl

/-- More attempts only add to the journal. -/
lemma records_retried (m : Mesh) (a : Attachment) (h : Host) {i j : Nat} (hij : i ≤ j) :
    (m.retried a h i).journal <+: (m.retried a h j).journal := by
  induction j, hij using Nat.le_induction with
  | base => exact List.prefix_refl _
  | succ j _ ih =>
    rw [retried_succ]
    exact ih.trans (m.records_del a _)

/-- A call that fails before the others. -/
lemma FinishesAt.succ {fault : Fault} (hr : (m.del a h).1 = .error fault)
    (hk : m.FinishesAt a (m.del a h).2 j) : m.FinishesAt a h (j + 1) where
  failed i hi := by
    cases i with
    | zero => exact ⟨fault, hr⟩
    | succ i => exact hk.failed i (by omega)
  succeeded := hk.succeeded

/-- A sibling is exposed if it is there, its daemon runs, and it has some of the lines. -/
lemma mem_exposed_iff {p : Text} : p ∈ m.exposed base a h ↔ p ≠ a.network ∧
    h.disk.HasNetwork base p ∧ m.stateOf h p ≠ .notRunning ∧
      Forwarders.HasSome (ownLines a) (h.disk.fileText base p localServersName) := by
  unfold exposed Runs Forwarders.HasSome
  rw [Forwarders.changed_remove_iff, Set.mem_ofPred_eq, and_assoc]
  rfl

/-- There are only so many siblings. -/
lemma AwaitsRemoval.finite_exposed (hw : m.AwaitsRemoval base a o h) :
    (m.exposed base a h).Finite := by
  obtain ⟨names, -, hsib⟩ := exists_siblings rfl hw.holds hw.name
  refine (List.finite_toSet names).subset fun p hmem => ?_
  obtain ⟨hp, hnet, -⟩ := mem_exposed_iff.mp hmem
  exact (hsib.mem_iff p).mpr ⟨isNetwork_shelf_iff.mpr hnet, hp⟩

/-- **A detachment that comes to nothing** leaves fewer daemons to be restarted.

**Proof sketch.** No daemon begins to run, and a sibling that was not told has the lines that it
had. The sibling whose daemon could not be restarted was among them and does not run any more. -/
theorem Stalls.exposed_less (hs : m.Stalls base a h k) (hw : m.AwaitsRemoval base a o h)
    (hadm : ∀ p ≠ a.network, h.disk.HasNetwork base p →
      Admits (m.settings.rootDir.fileOf p localServersName) p) :
    (m.exposed base a k).ncard < (m.exposed base a h).ncard := by
  obtain ⟨times, -, htold⟩ := hs.told
  refine Set.ncard_lt_ncard ?_ hw.finite_exposed
  rw [Set.ssubset_iff_of_subset]
  · rcases hs.cause with ⟨p, hp, hnet, hno⟩ | ⟨p, hp, hnet, hsome, hran, hdead⟩
    · exact absurd (hadm p hp hnet) hno
    · exact ⟨p, mem_exposed_iff.mpr ⟨hp, hnet, hran, hsome⟩, fun hmem =>
        (mem_exposed_iff.mp hmem).2.2.1 hdead⟩
  · intro p hmem
    obtain ⟨hp, hnet, hran, hsome⟩ := mem_exposed_iff.mp hmem
    rw [htold.networks] at hnet
    exact mem_exposed_iff.mpr ⟨hp, hnet, htold.runs p (hw.inOrder.tidy.isNetworkName hnet) hran,
      (htold.stripped p).hasSome hsome⟩

namespace AwaitsRemoval

/-- **A detachment called again and again** succeeds once there are no daemons left that cannot be
restarted.

**Proof sketch.** Induction on the number of attempts that are allowed. An attempt that fails has
left a sibling without a daemon that ran before, so fewer siblings are exposed for the next one. -/
theorem finishes (hw : m.AwaitsRemoval base a o h) (hheld : h.held = [])
    (hadm : a.multiDomain = true → ∀ p ≠ a.network, h.disk.HasNetwork base p →
      Admits (m.settings.rootDir.fileOf p localServersName) p)
    (hn : (m.exposed base a h).ncard < n)
    (hf : Host.Faithful m.settings.rootDir base h (m.retried a h n)) :
    ∃ j < n, m.FinishesAt a h j := by
  induction n generalizing h with
  | zero => exact absurd hn (Nat.not_lt_zero _)
  | succ n ih =>
    obtain ⟨hf₁, hf₂⟩ := hf.split (m.records_del a h) (m.records_retried a h (Nat.le_add_left 1 n))
    rcases (hw.del hheld hf₁).cases with ⟨_, k, hr, -⟩ | ⟨fault, k, hr, hk, hstalls⟩
    · exact ⟨0, Nat.succ_pos n, fun i hi => absurd hi (Nat.not_lt_zero i), by
        change (m.del a h).1 = _
        rw [hr]⟩
    · have hlater : (m.del a h).2 = k := by rw [hr]
      obtain ⟨times, -, htold⟩ := hstalls.told
      have hless := hstalls.exposed_less hw (hadm hstalls.multi)
      obtain ⟨j, hj, hfin⟩ := ih hk (by rw [← hlater, m.held_del, hheld])
        (fun hmulti p hp hnet => hadm hmulti p hp ((htold.networks p).mp hnet)) (by omega)
        (by rw [← hlater]; exact hf₂)
      exact ⟨j + 1, by omega, .succ (by rw [hr]) (by rw [hlater]; exact hfin)⟩

/-- **As long as it fails**, the network is to be taken down still.

**Proof sketch.** Induction on the attempts. Each that has failed has left the network to be taken
down, and the siblings told so many times more. -/
theorem afterFailures (hw : m.AwaitsRemoval base a o h) (hheld : h.held = [])
    (hfailed : ∀ i < j, ∃ fault, (m.del a (m.retried a h i)).1 = .error fault)
    (hf : Host.Faithful m.settings.rootDir base h (m.retried a h j)) :
    m.AwaitsRemoval base a o (m.retried a h j) ∧ (m.retried a h j).held = [] ∧
      ∃ times, times a.network = 0 ∧ m.Told base (takenBack a) times h (m.retried a h j) := by
  induction j with
  | zero => exact ⟨hw, hheld, _, rfl, .refl m base _ h⟩
  | succ j ih =>
    rw [retried_succ] at hf ⊢
    obtain ⟨hf₁, hf₂⟩ := hf.split (m.records_retried a h (Nat.zero_le j)) (m.records_del a _)
    obtain ⟨hk, hheld', times, hzero, htold⟩ := ih (fun i hi => hfailed i (by omega)) hf₁
    have hheld'' := m.held_del a (m.retried a h j)
    rcases (hk.del hheld' hf₂).cases with ⟨_, l, hr, -⟩ | ⟨_, l, hr, hl, hstalls⟩
    · obtain ⟨fault, hfault⟩ := hfailed j (Nat.lt_succ_self j)
      rw [hr] at hfault
      cases hfault
    · obtain ⟨times', hzero', htold'⟩ := hstalls.told
      have hback : takenBack a = ownLines a := by simp [takenBack, hstalls.multi]
      rw [hr] at hheld'' ⊢
      rw [← hback] at htold'
      exact ⟨hl, hheld''.trans hheld', _, by simp [hzero, hzero'], htold.trans htold'⟩

/-- **The call that succeeds** retires the network.

**Proof sketch.** All attempts before have failed, which `afterFailures` tells of. The one that
succeeds retires the network from there, and what was told in both is added up. -/
theorem retired (hw : m.AwaitsRemoval base a o h) (hheld : h.held = [])
    (hj : m.FinishesAt a h j)
    (hf : Host.Faithful m.settings.rootDir base h (m.retried a h (j + 1))) :
    (a.multiDomain = true → ∀ p ≠ a.network, h.disk.HasNetwork base p →
      Admits (m.settings.rootDir.fileOf p localServersName) p) ∧
      m.Retired base a h (m.retried a h (j + 1)) := by
  obtain ⟨hf₁, hf₂⟩ := hf.split (m.records_retried a h (Nat.zero_le j))
    (m.records_retried a h (Nat.le_succ j))
  obtain ⟨hk, hheld', times, hzero, htold⟩ := hw.afterFailures hheld hj.failed hf₁
  have hsucc := hj.succeeded
  rw [retried_succ] at hf₂ ⊢
  rcases (hk.del hheld' hf₂).cases with ⟨_, l, hr, hl⟩ | ⟨fault, l, hr, -⟩
  swap
  · rw [hr] at hsucc
    cases hsucc
  rw [hr]
  have hcount : ∀ p ≠ a.network, (h.since l).count (.toldOf base p) = times p +
      if Forwarders.HasSome (takenBack a)
        ((m.retried a h j).disk.fileText base p localServersName) then 1 else 0 := by
    intro p hp
    rw [Host.since_append htold.journal hl.journal, List.count_append, htold.count, hl.count p hp]
  refine ⟨fun hmulti p hp hnet => hl.admits hmulti p hp ((htold.networks p).mpr hnet),
    hl.gone, fun pid hnames => ?_, fun programs once hrun honce p hp => ?_,
    fun p hp hnodup hending => ?_⟩
  · obtain ⟨t, htext, hpid⟩ := hnames
    exact hl.dead pid ⟨t, (htold.pidFile a.network hw.name hzero).trans htext, hpid⟩
  · have hw' : m.AwaitsRemoval base a o { h with programs := programs } :=
      ⟨hw.inOrder, hw.continues.of_same rfl rfl rfl, hw.found, hw.admits, hw.lastPod⟩
    rcases (hw'.del hheld (by rw [hrun]; exact honce)).cases with
      ⟨_, once', hr', hretires⟩ | ⟨fault, once', hr', -⟩ <;> rw [hrun] at hr' <;> cases hr'
    rw [hcount p hp, hl.text p hp, hretires.text p hp]
    exact (htold.stripped p).eq_iff
  · rw [hcount p hp]
    exact ((htold.stripped p).trans (.once _ _)).le_one hnodup hending

end AwaitsRemoval

end Calls

end Mesh

namespace Sample

/-- A pod that brings a server for the domain of another network. Its line ends in carriage
returns, one of which is lost each time that it is read. -/
def returningPod : Attachment :=
  { pod "a" "x" "p" (octets 10 1 0 1) with defaultServers := ["/y/10.2.0.1\r\r\r\r".toList] }

/-- The only pod of that network. -/
def lonelyPod : Attachment := pod "b" "y" "q" (octets 10 2 0 1)

/-- Both pods are added. -/
def returningMoves : List Move := [.add returningPod, .add lonelyPod]

/-- The host after that. The next run of the daemon's program is going to fail. -/
def returning : Host :=
  mesh.play (host [daemon, daemon, daemon, failure, daemon]) returningMoves

/-- The same host, but for that the daemon's program does not fail. -/
def lucky : Host := { returning with programs := fun _ => .ofList [daemon] }

/-- A pid file was written. -/
def writesPid : Event → Bool
  | .pidWritten _ => true
  | _ => false

end Sample

/-- **A detachment retried.** Take any state of a run that starts with an empty root, and an
attachment whose pod is the only one in the hosts file of its network. Let `k` be the number of
siblings whose daemons run and that have one of its lines. Whatever comes of the starts of daemons,
as long as each that is started writes its own pid file and no other file of a network: one of the
first `k + 1` calls of the detachment succeeds, just if the system takes the paths of the siblings'
forwarders or the domain was not made known. The first that succeeds leaves the network gone and
its daemon dead. A sibling has what one call would have left to it, just if it was not told twice;
and it was not, if none of its lines stood twice or ended in a carriage return.

**Proof sketch.** A call that fails was cut short by a sibling whose daemon could not be restarted,
so there is one less of the `k`: no daemon begins to run, and a sibling that has lines of the
network has had some before. The call that succeeds has told the siblings that have lines still.
Each time that a sibling is told it has a line less, so told twice it has fewer lines than one
call would have left. -/
theorem retried_detachment_retires {m : Mesh} {base : Location} {a : Attachment} {o h : Host}
    {t : Text} {k : Nat} (h₀ : m.StartsEmpty base o) (hheld : o.held = []) {moves : List Move}
    (hrun : m.Along (fun k move => Host.Tame base k (m.step k move)) o moves)
    (hh : m.play o moves = h) (ht : h.disk.fileText base a.network hostsName = some t)
    (hlast : HostsFile.without a.podName t = []) (hk : (m.exposed base a h).ncard = k)
    (hf : Host.Faithful m.settings.rootDir base h (m.retried a h (k + 1))) :
    ((∃ j ≤ k, m.FinishesAt a h j) ↔ (a.multiDomain = true →
      ∀ p ≠ a.network, h.disk.HasNetwork base p →
        Admits (m.settings.rootDir.fileOf p localServersName) p)) ∧
      ∀ j ≤ k, m.FinishesAt a h j → m.Retired base a h (m.retried a h (j + 1)) := by
  obtain ⟨v, hs, hv⟩ := hrun.hostsAdmitted h₀
  have hcont := hrun.continues h₀
  have hheld' := (m.held_play o moves).trans hheld
  rw [hh] at hs hcont hheld'
  obtain ⟨hnet, htext⟩ := hs.listed ht
  have hthere : (m.play o moves).disk.HasNetwork base a.network := by
    rw [hh]
    exact hs.hasNetwork_iff.mpr hnet
  have hw : m.AwaitsRemoval base a o h :=
    ⟨(hs.holds hnet).inOrder, hcont, h₀.found hthere, hv _ t htext, t, ht, hlast⟩
  have hretired : ∀ j ≤ k, m.FinishesAt a h j → _ := fun j hj hfin => hw.retired hheld' hfin
    (hf.split (m.records_retried a h (Nat.zero_le (j + 1)))
      (m.records_retried a h (Nat.succ_le_succ hj))).1
  refine ⟨⟨fun ⟨j, hj, hfin⟩ => (hretired j hj hfin).1, fun hadm => ?_⟩,
    fun j hj hfin => (hretired j hj hfin).2⟩
  obtain ⟨j, hj, hfin⟩ := hw.finishes hheld' hadm (n := k + 1) (by omega) hf
  exact ⟨j, by omega, hfin⟩

/-- The second call succeeds, and has taken the other server's line for one of the network's. A
single call leaves that line, and no line stood twice before.

**Proof sketch.** What is read off the concrete calls is computed at once. The network awaits its
removal at the end of the run, and the daemon that was killed and not started again is the only one
exposed. -/
theorem retried_detachment_retires_of_returning :
    ((∃ j ≤ 1, Sample.mesh.FinishesAt Sample.lonelyPod Sample.returning j) ∧
      Sample.mesh.Retired Sample.base Sample.lonelyPod Sample.returning
        (Sample.mesh.retried Sample.lonelyPod Sample.returning 2)) ∧
      ((Sample.returning.disk.shelf Sample.base).forwarders "a".toList).Nodup ∧
      (Sample.mesh.retried Sample.lonelyPod Sample.returning 2).disk.fileText Sample.base
        "a".toList localServersName = some [] ∧
      (Sample.mesh.del Sample.lonelyPod Sample.lucky).1 = .ok () ∧
      (Sample.mesh.del Sample.lonelyPod Sample.lucky).2.disk.fileText Sample.base
        "a".toList localServersName = some "server=/y/10.2.0.1\r\n".toList := by
  have hrun : Sample.mesh.Along (fun h move => Host.Tame Sample.base h (Sample.mesh.step h move))
      (Sample.host [Sample.daemon, Sample.daemon, Sample.daemon, Sample.failure, Sample.daemon])
      Sample.returningMoves := by decide +kernel
  have hplay : Sample.mesh.play
      (Sample.host [Sample.daemon, Sample.daemon, Sample.daemon, Sample.failure, Sample.daemon])
      Sample.returningMoves = Sample.returning := rfl
  -- all that is read off the calls, so that they are made once
  have hread : (((Sample.returning.disk.shelf Sample.base).forwarders "a".toList).Nodup ∧
        (Sample.mesh.retried Sample.lonelyPod Sample.returning 2).disk.fileText Sample.base
          "a".toList localServersName = some [] ∧
        (Sample.mesh.del Sample.lonelyPod Sample.lucky).1 = .ok () ∧
        (Sample.mesh.del Sample.lonelyPod Sample.lucky).2.disk.fileText Sample.base
          "a".toList localServersName = some "server=/y/10.2.0.1\r\n".toList) ∧
      (Sample.returning.disk.fileText Sample.base "b".toList hostsName =
          some "10.9.0.5\tq\n".toList ∧
        Sample.returning.disk.HasNetwork Sample.base "a".toList ∧
        Sample.mesh.stateOf Sample.returning "a".toList ≠ .notRunning ∧
        Forwarders.HasSome (Mesh.ownLines Sample.lonelyPod) (Sample.returning.disk.fileText
          Sample.base "a".toList localServersName) ∧
        ∀ e ∈ Sample.returning.disk.tree.entries, Sample.base <+: e.1.loc →
          e.1.loc = Sample.base ∨ Sample.base ++ [Name.text "a".toList] <+: e.1.loc ∨
            Sample.base ++ [Name.text "b".toList] <+: e.1.loc) ∧
      ((Sample.mesh.del Sample.lonelyPod Sample.returning).1 = .error (.startFailure []) ∧
        (Sample.mesh.del Sample.lonelyPod
          (Sample.mesh.retried Sample.lonelyPod Sample.returning 1)).1 = .ok ()) ∧
      ∀ e ∈ Sample.returning.since (Sample.mesh.retried Sample.lonelyPod Sample.returning 2),
        Sample.writesPid e = false := by decide +kernel
  generalize Sample.returning = h at *
  obtain ⟨hend, ⟨ht, hnet, hran, hsome, honly⟩, ⟨hfirst, hsecond⟩, hnone⟩ := hread
  have ha : ∀ p ≠ "b".toList, h.disk.HasNetwork Sample.base p → p = "a".toList := by
    rintro p hp ⟨id, mode, hdir⟩
    obtain ⟨x, hx, hloc⟩ := FileTree.exists_of_get? hdir
    have hplace := honly x hx (by rw [hloc]; exact List.prefix_append _ _)
    rw [hloc] at hplace
    have hcases : p = "a".toList ∨ p = "b".toList := by simpa [eq_comm] using hplace
    exact hcases.resolve_right hp
  have hexposed : (Sample.mesh.exposed Sample.base Sample.lonelyPod h).ncard = 1 := by
    refine Set.ncard_eq_one.mpr ⟨"a".toList, Set.ext fun p => ?_⟩
    rw [Mesh.mem_exposed_iff, Set.mem_singleton_iff]
    constructor
    · exact fun hp => ha p hp.1 hp.2.1
    · rintro rfl
      exact ⟨by decide, hnet, hran, hsome⟩
  have hfaithful : Host.Faithful Sample.mesh.settings.rootDir Sample.base h
      (Sample.mesh.retried Sample.lonelyPod h 2) :=
    .of_none fun loc hmem => by cases hnone _ hmem
  obtain ⟨hiff, hretired⟩ := retried_detachment_retires (Sample.startsEmpty _) rfl hrun hplay ht
    (by decide) hexposed hfaithful
  refine ⟨⟨hiff.mpr fun _ p hp hp' => ?_, hretired 1 (Nat.le_refl 1) ⟨fun i hi => ?_, hsecond⟩⟩,
    hend⟩
  · rw [ha p hp hp']
    decide +kernel
  · obtain rfl : i = 0 := by omega
    exact ⟨_, hfirst⟩

end ResolverMesh
