import ResolverMesh.Proofs.AttachmentUnderway

set_option autoImplicit false
set_option relaxedAutoImplicit false

/-!
# A failed first attachment leaves no trace

An attachment that fails is undone. If the network was not there before, the undoing takes back all
that the attachment has done: the pod is the only one in the hosts file, so the network is taken
down, its lines are withdrawn from the siblings that were told, and its directory is removed. What
is left is what was there before, byte by byte, but for the root, which was made if it was missing,
and for the pid files of siblings whose daemons were restarted on the way.

## Main definitions

* `ResolverMesh.Host.Reverted` — the directory of a network is gone, and only daemons have written
  elsewhere.
* `ResolverMesh.Host.Confined` — daemons wrote their own pid files and nothing else.
* `ResolverMesh.Mesh.AwaitsFirst` — a root in which a network gets its first pod.
* `ResolverMesh.Mesh.LeftNoTrace` — what is left of an attachment that was undone.

## Main results

* `ResolverMesh.Mesh.Underway.of_withdraw` — the siblings get their forwarders back.
* `ResolverMesh.Mesh.Underway.of_cleanUp` — the network is taken down.
* `ResolverMesh.Mesh.Unaware.provisionOrUndo_reverted` — an attachment that is undone.
* `ResolverMesh.Mesh.AwaitsFirst.of_unaware`, `ResolverMesh.Mesh.AwaitsFirst.of_missing` — a root
  that is there, and one that is missing.
* `ResolverMesh.failed_attachment_leaves_no_trace` — an attachment that fails, wherever it does.
-/

namespace ResolverMesh

open ResolverMesh.Action Disk

/-- From a host `o`, the directory of a network is gone, and elsewhere daemons have written their
pid files. -/
structure Host.Reverted (base : Location) (n : Text) (o k : Host) : Prop where
  /-- The journal is only added to. -/
  journal : o.journal <+: k.journal
  /-- Nothing is left of the network's directory. -/
  gone : ∀ rest, k.disk.tree.get? (base ++ .text n :: rest) = none
  /-- Outside of it, pid files were written. -/
  elsewhere : ∀ loc, ¬ base ++ [Name.text n] <+: loc →
    k.disk.tree.get? loc = o.disk.tree.get? loc ∨ o.HasPidAt base k loc

/-- The same holds between other hosts that agree in what it is about. -/
lemma Host.Reverted.congr {base : Location} {n : Text} {o o' k k' : Host}
    (hk : o.Reverted base n k) (hj : o'.journal <+: k'.journal)
    (hsince : ∀ e ∈ o.since k, e ∈ o'.since k')
    (ho : ∀ loc, ¬ base ++ [Name.text n] <+: loc → o.disk.tree.get? loc = o'.disk.tree.get? loc)
    (hd : k'.disk = k.disk) : o'.Reverted base n k' := by
  refine ⟨hj, by rw [hd]; exact hk.gone, fun loc hloc => ?_⟩
  rw [hd, ← ho loc hloc]
  exact (hk.elsewhere loc hloc).imp_right fun hpid => hpid.mono hsince (by rw [hd])

namespace Mesh

variable {m : Mesh} {base : Location} {a : Attachment} {i : Instance} {touched : Text → Prop}
  {h o k l : Host}

/-! ## The network's forwarders withdrawn -/

namespace Underway

/-- A sibling whose forwarders are as they were need not have been told. -/
lemma settle (hk : m.Underway base a touched o k) {p : Text}
    (hsame : k.disk.tree.get? (base ++ [Name.text p, .text localServersName]) =
      o.disk.tree.get? (base ++ [Name.text p, .text localServersName])) :
    m.Underway base a (fun q => touched q ∧ q ≠ p) o k := by
  refine ⟨hk.journal, hk.workDir, hk.grows, hk.linkless, fun loc hloc => ?_, hk.hosts⟩
  rcases hk.elsewhere loc hloc with hsame' | hpid | ⟨q, rfl, htold, hmerged⟩
  · exact .inl hsame'
  · exact .inr (.inl hpid)
  · by_cases hq : q = p
    · rw [hq]
      exact .inl hsame
    · exact .inr (.inr ⟨q, rfl, ⟨htold, hq⟩, hmerged⟩)

/-- Where no sibling that is there may have been told, none has been. -/
lemma settled (hk : m.Underway base a touched o k)
    (hno : ∀ p ≠ a.network, o.disk.HasNetwork base p → ¬ touched p) :
    m.Underway base a (fun _ => False) o k := by
  refine ⟨hk.journal, hk.workDir, hk.grows, hk.linkless, fun loc hloc => ?_, hk.hosts⟩
  rcases hk.elsewhere loc hloc with hsame | hpid | ⟨p, rfl, htold, hmerged⟩
  · exact .inl hsame
  · exact .inr (.inl hpid)
  · refine absurd htold (hno p (fun hp => hloc ?_) hmerged.network)
    rw [hp]
    simp

/-- A step of a run after which an attachment is still under way. -/
lemma of_run {α : Type} {x : Action α} {r : Except Fault α}
    (hk : m.Underway base a touched o k)
    (hx : Preserves base (m.Underway base a touched o) x) (hr : x k = (r, l))
    (ht : Host.Tame base k l) : m.Underway base a touched o l := by
  have hl := hx.keeps k hk
  rw [hr] at hl
  exact hl ht

/-- What is left of the forwarders of a sibling without the lines is what they were before. If
nothing is to be removed, the file was not changed.

**Proof sketch.** By `Underway.local_cases` the sibling's forwarders are as they were, without any
of the lines, or have them merged in. In the first case there is nothing to remove, and in the
second removing them gives the canonical text back. -/
lemma removed_local (hk : m.Underway base a touched o k) (ho : m.Ready base a o)
    (hd : '\n' ∉ a.domain) (hi : i.IsBelow m.settings.rootDir) (hne : i.network ≠ a.network)
    (hnet : o.disk.HasNetwork base i.network) {current : List Text}
    (hread : Forwarders.readLines i.localServersFile k = .ok current) :
    o.disk.fileText base i.network localServersName =
        some (Forwarders.toText (Forwarders.remove current (ownLines a)).lines) ∧
      ((Forwarders.remove current (ownLines a)).changed = false →
        k.disk.tree.get? (base ++ [Name.text i.network, .text localServersName]) =
          o.disk.tree.get? (base ++ [Name.text i.network, .text localServersName])) := by
  obtain ⟨id, x, t, hfile, hcanonical, hnone, hsame | ⟨-, hmerged⟩⟩ := hk.local_cases ho hne hnet
  · -- the sibling was not told, so there is nothing to be removed
    have hcurrent := hk.readLines_local hi hne hnet hsame hread
    have hunchanged : (Forwarders.remove current (ownLines a)).changed = false := by
      rw [← Bool.not_eq_true, Forwarders.changed_remove_iff, hcurrent]
      rintro ⟨line, hl, hmem⟩
      exact hnone line hl hmem
    refine ⟨?_, fun _ => hsame.trans hfile.symm⟩
    rw [Forwarders.lines_remove_of_unchanged hunchanged, hcurrent, hcanonical.toText_ofText.1,
      fileText, hfile]
    rfl
  · have hcurrent := hk.readLines_local hi hne hnet hmerged hread
    have htext : Forwarders.toText (Forwarders.remove current (ownLines a)).lines = t := by
      rw [hcurrent]
      exact Forwarders.toText_remove_merge hcanonical (isClean_ownLines hd) hnone
    refine ⟨by rw [htext, fileText, hfile]; rfl, fun hunchanged => ?_⟩
    -- nothing is to be removed, so the text is the one that is left
    have hclean := Forwarders.isClean_merge hcanonical.toText_ofText.2 (isClean_ownLines hd)
    have hsame : Forwarders.toText
        (Forwarders.merge (Forwarders.ofText t) (ownLines a)).lines = t := by
      rw [← (Forwarders.isCanonical_toText hclean).toText_ofText.1, ← hcurrent]
      rwa [Forwarders.lines_remove_of_unchanged hunchanged] at htext
    rw [hmerged, hfile, hsame]

/-- **The lines withdrawn from one sibling**, whose daemon is restarted if it runs: the sibling has
the forwarders that it had before. -/
theorem of_apply (hk : m.Underway base a touched o k) (ho : m.Ready base a o)
    (hi : i.IsBelow m.settings.rootDir) (hne : i.network ≠ a.network)
    (hnet : o.disk.HasNetwork base i.network) {lines : List Text}
    (htext : o.disk.fileText base i.network localServersName = some (Forwarders.toText lines))
    (ht : Host.Tame base k l) (hr : SiblingUpdate.apply ⟨i, lines⟩ k = (.ok (), l)) :
    m.Underway base a (fun q => touched q ∧ q ≠ i.network) o l := by
  unfold SiblingUpdate.apply Forwarders.writeLines at hr
  obtain ⟨_, k₁, hwrite, hrestart, -, ht₁⟩ := of_bind_ok_of_tame
    (records_onDisk _ _) (fun _ => Supervisor.records_restartIfRunning _) ht hr
  have hk₁ : m.Underway base a (fun q => touched q ∧ q ≠ i.network) o k₁ :=
    hk.write_local ho hi hne hnet htext (.inl rfl) (fun _ hp hq => ⟨hp, hq⟩) hwrite
  exact hk₁.of_run (preserves_restartIfRunning _) hrestart ht₁

/-- **Lines withdrawn from siblings**, one after the other: those have the forwarders that they had
before.

**Proof sketch.** Induction on the names. The sibling at the head is read and written, which gives
it the forwarders of before; or it needs no writing, and then it has them already. -/
theorem of_withdrawFrom (ho : m.Ready base a o) (hd : '\n' ∉ a.domain) {names : List Text}
    (hnames : ∀ p ∈ names, p ≠ a.network ∧ o.disk.HasNetwork base p)
    (hk : m.Underway base a touched o k) (ht : Host.Tame base k l)
    (hr : Propagation.withdrawFrom m.settings (ownLines a) names k = (.ok (), l)) :
    m.Underway base a (fun p => touched p ∧ p ∉ names) o l := by
  induction names generalizing touched k with
  | nil =>
    cases hr
    exact hk.mono fun p hp => ⟨hp, by simp⟩
  | cons name names ih =>
    obtain ⟨hne, hnet⟩ := hnames name (by simp)
    have hrest : ∀ {k'}, m.Underway base a (fun q => touched q ∧ q ≠ name) o k' →
        Host.Tame base k' l →
        Propagation.withdrawFrom m.settings (ownLines a) names k' = (.ok (), l) →
          m.Underway base a (fun p => touched p ∧ p ∉ name :: names) o l := by
      intro k' hk' ht' hr'
      refine (ih (fun p hp => hnames p (by simp [hp])) hk' ht' hr').mono fun p hp => ?_
      exact ⟨hp.1.1, by simp [hp.1.2, hp.2]⟩
    unfold Propagation.withdrawFrom at hr
    obtain ⟨i, k', hresolve, hr⟩ := of_bind_ok hr
    obtain ⟨hresolve, rfl⟩ := Prod.ext_iff.mp hresolve
    obtain ⟨hb, rfl, -⟩ := Settings.of_resolve_ok hresolve
    obtain ⟨current, k', hread, hr⟩ := of_bind_ok hr
    obtain ⟨hread, rfl⟩ := Prod.ext_iff.mp hread
    obtain ⟨htext, hunchanged⟩ := hk.removed_local ho hd hb hne hnet hread
    by_cases hchanged : (Forwarders.remove current (ownLines a)).changed = true
    · rw [if_pos hchanged] at hr
      obtain ⟨_, k₁, happly, hr, ht₁, ht₂⟩ := of_bind_ok_of_tame
        (SiblingUpdate.records_apply _) (fun _ => Propagation.records_withdrawFrom _ _ _) ht hr
      exact hrest (hk.of_apply ho hb hne hnet htext ht₁ happly) ht₂ hr
    · rw [if_neg hchanged] at hr
      exact hrest (hk.settle (hunchanged (by simpa using hchanged))) ht hr

/-- **The network's forwarders withdrawn**: all siblings have those that they had before.

**Proof sketch.** The names are all siblings, so no sibling is still told of the attachment once
the lines are withdrawn from each. -/
theorem of_withdraw (ho : m.Ready base a o) (hi : m.IsFor i a) (hd : '\n' ∉ a.domain)
    (hk : m.Underway base a touched o k) (ht : Host.Tame base k l)
    (hr : Propagation.withdraw m.settings i a.servers k = (.ok (), l)) :
    m.Underway base a (fun _ => False) o l := by
  unfold Propagation.withdraw at hr
  rw [hi.domain] at hr
  obtain ⟨names, k', hnames, hr⟩ := of_bind_ok hr
  obtain ⟨hnames, rfl⟩ := Prod.ext_iff.mp hnames
  have hmem : ∀ p, p ∈ names ↔ p ≠ a.network ∧ o.disk.HasNetwork base p :=
    fun p => hk.mem_siblings_iff hi hnames
  obtain ⟨_, k₁, hwith, hlog, ht₁, ht₂⟩ := of_bind_ok_of_tame
    (Propagation.records_withdrawFrom _ _ _) (fun _ => records_log _) ht hr
  have hk₁ := hk.of_withdrawFrom ho hd (fun p hp => (hmem p).mp hp) ht₁ hwith
  refine (hk₁.settled fun p hp hnet htold => ?_).of_run (preserves_log _) hlog ht₂
  exact htold.2 ((hmem p).mpr ⟨hp, hnet⟩)

end Underway

/-! ## The network taken down -/

/-- The chain may be dropped, where a failure is only logged. -/
lemma preserves_dropChain : Preserves base (m.Underway base a touched o) (m.dropChain a) := by
  refine .bind (preserves_call _).attempt fun r => ?_
  cases r with
  | ok _ => exact preserves_pure _
  | error fault => exact preserves_log _

/-- **The pod taken out** of the hosts file: no pod is left.

**Proof sketch.** The hosts file holds lines of the pod only, as long as the attachment is under
way. So nothing is left when they are taken out, and what is written is empty. -/
theorem Underway.of_takeOut (hi : m.IsFor i a) (hk : m.Underway base a touched o k)
    (ht : Host.Tame base k l) {left : Bool} (hr : m.takeOut i a k = (.ok left, l)) :
    left = false ∧ m.Underway base a touched o l := by
  unfold takeOut at hr
  obtain ⟨_, k₁, hdrop, hr, ht₁, ht₂⟩ := of_bind_ok_of_tame (m.records_dropChain a)
    (fun _ => HostsFile.records_removePod _ _) ht hr
  have hk₁ := hk.of_run preserves_dropChain hdrop ht₁
  unfold HostsFile.removePod at hr
  rw [hi.below.hostsFile] at hr
  obtain ⟨r, k', hread, hr⟩ := of_bind_ok hr
  obtain ⟨hread, rfl⟩ := Prod.ext_iff.mp hread
  cases r with
  | none =>
    cases hr
    exact ⟨rfl, hk₁⟩
  | some t =>
    have honly : HostsFile.IsOnlyOf a.podName t := by
      rcases hk₁.linkless.readIfThere_ok hi.below.name isFileName_hostsName hread with
        ⟨-, htext⟩ | ⟨-, hnone⟩
      · obtain ⟨e, he, htext⟩ := Option.bind_eq_some_iff.mp htext.symm
        obtain ⟨id, x, s, rfl⟩ := Entry.exists_of_text?_isSome (by rw [htext]; rfl)
        rw [hi.network] at he
        obtain ⟨t', ht', honly⟩ := hk₁.hosts id x _ he
        cases ht'
        cases htext
        exact honly
      · cases hnone
    dsimp only at hr
    rw [honly.without_eq_nil] at hr
    obtain ⟨_, k₂, hwrite, hret⟩ := of_bind_ok hr
    cases hret
    refine ⟨rfl, hk₁.of_run (preserves_onFile hi isFileName_hostsName ?_) hwrite ht₂⟩
    exact fun _ _ _ _ _ _ => ⟨_, rfl, fun _ => HostsFile.isOnlyOf_nil _⟩

/-- Where no sibling is told any more, the directory of the network is all that is left.

**Proof sketch.** Below the directory nothing is left. Elsewhere, a place is as it was or holds
what a daemon wrote, as no sibling is told. -/
lemma Underway.of_removed (hk : m.Underway base a (fun _ => False) o k)
    (hr : k.Removed l (base ++ [Name.text a.network])) : o.Reverted base a.network l := by
  cases hr
  refine ⟨hk.journal.trans (List.prefix_append _ _), fun rest => ?_, fun loc hloc => ?_⟩
  · dsimp only [Host.record]
    rw [FileTree.get?_removeAt, if_pos (by simp)]
  · dsimp only [Host.record]
    rw [FileTree.get?_removeAt, if_neg hloc]
    rcases hk.elsewhere loc hloc with hsame | hpid | ⟨p, -, hno, -⟩
    · exact .inl hsame
    · refine .inr (hpid.mono
        (fun _ => Host.mem_since_mono hk.journal (List.prefix_append _ _)) ?_)
      dsimp only [Host.record]
      rw [FileTree.get?_removeAt, if_neg hloc]
    · exact hno.elim

/-- **The network taken down** after it was only attached to.

**Proof sketch.** A network that was announced is withdrawn, after which no sibling is told any
more; one that keeps to itself told none. Then its daemon is stopped and its directory removed,
which leaves the rest of the disk as it is. -/
theorem Underway.of_tearDown (ho : m.Ready base a o) (hi : m.IsFor i a) (hd : '\n' ∉ a.domain)
    (hk : m.Underway base a (fun _ => i.multiDomain = true) o k) (ht : Host.Tame base k l)
    (hr : m.tearDown i a k = (.ok (), l)) : o.Reverted base a.network l := by
  have hwithdrawn : ∃ k₁, m.Underway base a (fun _ => False) o k₁ ∧ Host.Tame base k₁ l ∧
      i.demolish k₁ = (.ok (), l) := by
    rw [tearDown_eq_demolish] at hr
    by_cases hmulti : i.multiDomain = true
    · rw [if_pos hmulti] at hr
      obtain ⟨_, k₁, hwith, hr, ht₁, ht₂⟩ := of_bind_ok_of_tame
        (Propagation.records_withdraw _ _ _) (fun _ => i.records_demolish) ht hr
      exact ⟨k₁, hk.of_withdraw ho hi hd ht₁ hwith, ht₂, hr⟩
    · rw [if_neg hmulti] at hr
      exact ⟨k, hk.mono fun _ hp => hmulti hp, ht, hr⟩
  obtain ⟨k₁, hk₁, ht, hr⟩ := hwithdrawn
  obtain ⟨_, k₂, hstop, hr, ht₁, -⟩ := of_bind_ok_of_tame i.supervisor.records_stop
    (fun _ => .bind (Files.records_removeIfThere _) fun _ => records_log _) ht hr
  have hk₂ := hk₁.of_run (preserves_stop _) hstop ht₁
  obtain ⟨_, k₃, hremove, hlog⟩ := of_bind_ok hr
  cases hlog
  rw [hi.below.dir] at hremove
  have hcases := hk₂.linkless.removeIfThere_network hi.below.name
  rw [hremove, hi.network] at hcases
  rcases hcases with ⟨-, hremoved⟩ | ⟨-, hadmits, hnone⟩ | ⟨e, he⟩
  · have hreverted := hk₂.of_removed hremoved
    have hlogged := List.prefix_append k₃.journal [.logged (.removedInstance i.network)]
    exact hreverted.congr (hreverted.journal.trans hlogged)
      (fun _ => Host.mem_since_mono hreverted.journal hlogged) (fun _ _ => rfl) rfl
  · -- the directory was there, and nothing of it was gone
    obtain ⟨e, he⟩ := ho.seated hadmits
    obtain ⟨e', he', -⟩ := hk₂.grows _ _ he
    rw [hnone] at he'
    cases he'
  · cases he

/-- **The pod taken out again** after its network was only attached to.

**Proof sketch.** Taking the pod out leaves no line, since only this pod was listed. So the network
is taken down, by `of_tearDown`. -/
theorem Underway.of_cleanUp (ho : m.Ready base a o) (hi : m.IsFor i a) (hd : '\n' ∉ a.domain)
    (hk : m.Underway base a (fun _ => i.multiDomain = true) o k) (ht : Host.Tame base k l)
    (hr : m.cleanUp i a k = (.ok (), l)) : o.Reverted base a.network l := by
  rw [cleanUp_eq] at hr
  have hrec : ∀ left, Records (if left = true then i.supervisor.hup else m.tearDown i a) := by
    intro left
    split
    · exact i.supervisor.records_hup
    · exact m.records_tearDown i a
  obtain ⟨left, k₁, htake, hr, ht₁, ht₂⟩ := of_bind_ok_of_tame
    ((m.records_dropChain a).bind fun _ => HostsFile.records_removePod _ _) hrec ht hr
  obtain ⟨rfl, hk₁⟩ := hk.of_takeOut hi ht₁ htake
  rw [if_neg (by simp)] at hr
  exact hk₁.of_tearDown ho hi hd ht₂ hr

/-! ## An attachment that fails -/

/-- **The network's directory made**, or not: no pod was entered into it yet, and nothing else was
changed.

**Proof sketch.** There was nothing in the directory's place, so it was made or that has failed. In
both cases all other places are as before, and the directory is empty. -/
theorem Unaware.ready (hh : m.Unaware base a h) (hi : m.IsFor i a)
    (hfree : ∀ rest, h.disk.tree.get? (base ++ .text a.network :: rest) = none)
    {r : Except Fault Unit} (hr : Files.makeDirectories instanceMode i.dir h = (r, o)) :
    m.Ready base a o ∧ h.Edits base a.network o := by
  have hcases := hh.linkless.makeDirectories_network hi.below.name instanceMode
  rw [← hi.below.dir, hr, hi.network] at hcases
  rcases hcases with ⟨-, hnet⟩ | ⟨-, hopened⟩ | ⟨hseated, e, he⟩
  · exact absurd hnet (not_hasNetwork_of_get?_eq_none (hfree []))
  · change h.Opened o _ at hopened
    have hedits := hopened.edits
    obtain ⟨-, id, mode, next, heq⟩ := hopened
    have htree : o.disk.tree =
        h.disk.tree.put (base ++ [Name.text a.network]) (.directory id mode) := by
      rw [heq]
      rfl
    refine ⟨⟨⟨hh.linkless.of_put htree hedits.workDir hedits.grows rfl, fun p hp hnet => ?_⟩,
      fun id' x c => ?_, fun _ => ?_⟩, hedits⟩
    · have hsame : ∀ rest, o.disk.tree.get? (base ++ .text p :: rest) =
          h.disk.tree.get? (base ++ .text p :: rest) :=
        fun rest => hedits.elsewhere _ (by simpa using Ne.symm hp)
      unfold HasNetwork at hnet
      unfold fileText
      rw [hsame] at hnet ⊢
      exact hh.siblings p hp hnet
    · rw [htree, FileTree.get?_put, if_neg (by simp), hfree]
      simp
    · exact ⟨_, by rw [htree, FileTree.get?_put, if_pos rfl]⟩
  · cases he
    refine ⟨⟨hh, fun id x c => ?_, fun hadmits => hseated ?_⟩, .refl _ _ _⟩
    · rw [hfree]
      simp
    · rw [hi.below.dir, hi.network]
      exact hadmits

/-- **A first attachment that is undone** leaves nothing of the network, and elsewhere only what
daemons have written.

**Proof sketch.** Since nothing of a failed cleanup was logged, the cleanup has succeeded. The
attachment made the directory and was under way from there until it failed, and the cleanup took
the pod out and the network down. -/
theorem Unaware.provisionOrUndo_reverted (hh : m.Unaware base a h) (hi : m.IsFor i a)
    (hfree : ∀ rest, h.disk.tree.get? (base ++ .text a.network :: rest) = none)
    (ha : a.IsListable) (hd : '\n' ∉ a.domain) (ht : Host.Tame base h k)
    (hclean : ∀ n second, .logged (.notCleanedUp n second) ∉ h.since k) {fault : Fault}
    (hr : m.provisionOrUndo i a h = (.error fault, k)) : h.Reverted base a.network k := by
  have hrec := m.records_provision i a h
  rcases hp : m.provision i a h with ⟨first | u, k₁⟩
  swap
  · unfold provisionOrUndo at hr
    rw [run_bind, run_attempt, hp] at hr
    cases hr
  rw [hp] at hrec
  have hrec' := m.records_cleanUp i a k₁
  have hundone : m.cleanUp i a k₁ = (.ok (), k) := by
    unfold provisionOrUndo at hr
    rw [run_bind, run_attempt, hp] at hr
    dsimp only at hr
    rw [run_bind, run_attempt] at hr
    rcases hc : m.cleanUp i a k₁ with ⟨second | u, k₂⟩
    · rw [hc] at hr hrec'
      cases hr
      refine absurd ?_ (hclean i.network second)
      exact Host.mem_since_of_suffix (hrec.trans hrec') (List.prefix_append _ _)
        (by rw [Host.since_of_journal rfl]; simp)
    · rw [hc] at hr
      cases hr
      rfl
  rw [hundone] at hrec'
  obtain ⟨ht₁, ht₂⟩ := (Host.Tame.split hrec hrec').mp ht
  rcases ho : Files.makeDirectories instanceMode i.dir h with ⟨r, o⟩
  obtain ⟨hready, hedits⟩ := hh.ready hi hfree ho
  have hfirst := hedits.journal_prefix
  have hrest : Preserves base (m.Underway base a (fun _ => i.multiDomain = true) o) (do
      m.outfit i a
      m.announce i a
      i.supervisor.hup) :=
    .bind (preserves_outfit hi ha) fun _ =>
      .bind (preserves_announce hready hi hd fun hmulti _ => hmulti) fun _ => preserves_hup _
  have hk₁ : m.Underway base a (fun _ => i.multiDomain = true) o k₁ := by
    rw [provision_eq_outfit, run_bind, ho] at hp
    cases r with
    | error fault' =>
      cases hp
      exact hready.underway
    | ok u =>
      dsimp only at hp
      have hlater := hrest.records o
      rw [hp] at hlater
      have ht' := ((Host.Tame.split hfirst hlater).mp ht₁).2
      exact hready.underway.of_run hrest hp ht'
  have hreverted := hk₁.of_cleanUp hready hi hd ht₂ hundone
  exact hreverted.congr (hfirst.trans hreverted.journal)
    (fun _ => Host.mem_since_of_suffix hfirst hreverted.journal)
    hedits.elsewhere rfl

end Mesh

/-- From one host to a later one, daemons wrote nothing but the pid files of the networks that they
were run for. -/
def Host.Confined (root : Path) (base : Location) (h k : Host) : Prop :=
  ∀ loc, .pidWritten loc ∈ h.since k → ∃ p command, loc = base ++ [Name.text p, .text pidName] ∧
    .launched command ∈ h.since k ∧ Launch.IsFor root p command

namespace Mesh

/-- The host once the root has been made, as far as it can be. -/
def withRoot (m : Mesh) (h : Host) : Host :=
  (Files.makeDirectories LockGuard.rootMode m.settings.rootDir h).2

/-- A root awaits the first pod of a network: the place of the network is free, and no sibling
knows of it. This is said of the root once it has been made, if it is missing. -/
structure AwaitsFirst (m : Mesh) (base : Location) (a : Attachment) (h : Host) : Prop where
  /-- Nothing is at the place of the network, or below it. -/
  vacant : ∀ rest, (m.withRoot h).disk.tree.get? (base ++ .text a.network :: rest) = none
  /-- If there is a root, no sibling knows of the network. -/
  unaware : (Files.makeDirectories LockGuard.rootMode m.settings.rootDir h).1 = .ok () →
    m.Unaware base a (m.withRoot h)

namespace AwaitsFirst

variable {m : Mesh} {base : Location} {a : Attachment} {h : Host}

/-- A root that is there. -/
theorem of_unaware (hh : m.Unaware base a h)
    (hfree : ∀ rest, h.disk.tree.get? (base ++ .text a.network :: rest) = none) :
    m.AwaitsFirst base a h := by
  obtain ⟨id, mode, hfind⟩ := hh.linkless.leads
  have hroot : m.withRoot h = h :=
    congrArg Prod.snd (Files.makeDirectories_of_find hfind LockGuard.rootMode)
  exact ⟨by rw [hroot]; exact hfree, fun _ => by rw [hroot]; exact hh⟩

/-- A root that has no networks once it has been made.

**Proof sketch.** Below the root there is nothing, so neither links nor networks. -/
theorem of_empty (hleads : (m.withRoot h).disk.Leads m.settings.rootDir base)
    (hempty : ∀ rest ≠ [], (m.withRoot h).disk.tree.get? (base ++ rest) = none) :
    m.AwaitsFirst base a h := by
  refine ⟨fun rest => hempty _ (by simp), fun _ => ⟨⟨hleads, fun rest e he => ?_⟩,
    fun p _ hp => ?_⟩⟩
  · by_cases hrest : rest = []
    · obtain ⟨id, mode, hbase⟩ := hleads.get?_base
      rw [hrest, List.append_nil, hbase] at he
      cases he
      rfl
    · rw [hempty rest hrest] at he
      cases he
  · exact absurd hp (not_hasNetwork_of_get?_eq_none (hempty _ (by simp)))

/-- **A root that is missing**, in a directory that is there: it is made at a free place.

**Proof sketch.** The root is put where nothing was, so `of_empty` applies: what is below it was
not there before. -/
theorem of_missing {c : Change}
    (hm : h.disk.makeDirectory LockGuard.rootMode m.settings.rootDir = .ok c)
    (hempty : ∀ rest ≠ [], h.disk.tree.get? (c.loc ++ rest) = none) :
    m.AwaitsFirst c.loc a h := by
  have hleads := leads_of_makeDirectory_ok hm
  have hroot : (m.withRoot h).disk = c.disk := by
    unfold withRoot
    rw [Files.makeDirectories_of_ok (text_ne_nil_of_refusal? hleads.refusal?_eq_none) hm]
    rfl
  refine of_empty (by rw [hroot]; exact hleads) fun rest hrest => ?_
  rw [hroot, (makeDirectory_ok hm).2.2, FileTree.get?_put, if_neg (by simpa using hrest),
    hempty rest hrest]

end AwaitsFirst

/-- From a host `h` to a later one, an attachment has left no trace: what is on the disk is what
was there, but for the root and for the pid files of siblings. -/
structure LeftNoTrace (m : Mesh) (base : Location) (a : Attachment) (h k : Host) : Prop where
  /-- Every place is as it was, or it was free and a directory was made there with the root, or it
  is the pid file of a sibling whose daemon was started. -/
  tree : ∀ loc, k.disk.tree.get? loc = h.disk.tree.get? loc ∨
    (h.disk.tree.get? loc = none ∧ (∃ id mode, k.disk.tree.get? loc = some (.directory id mode)) ∧
      k.disk.tree.get? loc = (m.withRoot h).disk.tree.get? loc) ∨
    ∃ p command, p ≠ a.network ∧ loc = base ++ [Name.text p, .text pidName] ∧
      .launched command ∈ h.since k ∧ Launch.IsFor m.settings.rootDir p command
  /-- The network is not there. -/
  gone : ∀ rest, k.disk.tree.get? (base ++ .text a.network :: rest) = none

end Mesh

section NoTrace

variable {m : Mesh} {base : Location} {a : Attachment} {h k : Host}

/-- Confined daemons are tame. -/
lemma Host.Confined.tame {root : Path} (hc : Host.Confined root base h k) :
    Host.Tame base h k := by
  rintro (_ | _ | _ | _ | _ | _ | _ | loc | _ | _) he <;> try trivial
  rintro n f rfl
  obtain ⟨p, command, hloc, -⟩ := hc _ he
  have hnames := List.append_cancel_left hloc
  simp only [List.cons.injEq, Name.text.injEq, and_true] at hnames
  exact hnames.2

namespace Mesh.LeftNoTrace

/-- Only the root was made, as far as it could be. -/
lemma withRoot (hh : m.AwaitsFirst base a h) : m.LeftNoTrace base a h (m.withRoot h) := by
  refine ⟨fun loc => ?_, hh.vacant⟩
  rcases (Files.prepared_makeDirectories LockGuard.rootMode m.settings.rootDir h).tree loc with
    hsame | ⟨hnone, id, mode, hd⟩
  · exact .inl hsame
  · exact .inr (.inl ⟨hnone, ⟨id, mode, hd⟩, rfl⟩)

/-- Before the root was made, the place of the network was free, too. -/
lemma refl (hh : m.AwaitsFirst base a h) : m.LeftNoTrace base a h h := by
  refine ⟨fun _ => .inl rfl, fun rest => ?_⟩
  rcases (Files.prepared_makeDirectories LockGuard.rootMode m.settings.rootDir h).tree
    (base ++ .text a.network :: rest) with hsame | ⟨hnone, -⟩
  · rw [← hsame]
    exact hh.vacant rest
  · exact hnone

/-- The root was made, and the network was there for a while.

**Proof sketch.** A place is below the network's directory, where there is nothing; or it is as it
was when the root had been made, which adds directories only; or a daemon has written its pid file
there, and it is confined to that of its network. -/
lemma of_reverted (hh : m.AwaitsFirst base a h)
    (hc : Host.Confined m.settings.rootDir base h k)
    (hk : (m.withRoot h).Reverted base a.network k) : m.LeftNoTrace base a h k := by
  have hprep := Files.prepared_makeDirectories LockGuard.rootMode m.settings.rootDir h
  refine ⟨fun loc => ?_, hk.gone⟩
  by_cases hloc : base ++ [Name.text a.network] <+: loc
  · obtain ⟨rest, rfl⟩ := hloc
    rw [List.append_assoc, List.singleton_append, hk.gone, (refl hh).gone]
    exact .inl rfl
  · rcases hk.elsewhere loc hloc with hsame | ⟨hmem, -, -⟩
    · rcases hprep.tree loc with hsame' | ⟨hnone, id, mode, hd⟩
      · exact .inl (hsame.trans hsame')
      · exact .inr (.inl ⟨hnone, ⟨id, mode, hsame.trans hd⟩, hsame⟩)
    · obtain ⟨p, command, rfl, hlaunched, hfor⟩ :=
        hc loc (Host.mem_since_of_suffix hprep.records hk.journal hmem)
      refine .inr (.inr ⟨p, command, fun hp => hloc ?_, rfl, hlaunched, hfor⟩)
      rw [hp]
      simp

end Mesh.LeftNoTrace

/-- How an action under the lock fails: the root cannot be made or locked, or the action fails on
the host with the root made and the lock held.

**Proof sketch.** The root is made and the lock is taken, before the action runs; what remains is
what the action has left, with the lock given back. -/
lemma Mesh.of_locked_error {α : Type} {body : Action α} {fault : Fault}
    (hr : m.locked body h = (.error fault, k)) : k = m.withRoot h ∨
      (Files.makeDirectories LockGuard.rootMode m.settings.rootDir h).1 = .ok () ∧
        ∃ ids ids' l, body { m.withRoot h with held := ids } = (.error fault, l) ∧
          k = { l with held := ids' } := by
  unfold withRoot
  rcases hopen : Files.makeDirectories LockGuard.rootMode m.settings.rootDir h with
    ⟨fault' | u, h₁⟩
  · unfold locked LockGuard.hold LockGuard.acquire at hr
    rw [run_bind, hopen] at hr
    cases hr
    exact .inl rfl
  · rcases m.locked_eq body hopen with ⟨fault', hrun, -⟩ | ⟨ids, ids', hrun⟩
    · rw [hr] at hrun
      cases hrun
      exact .inl rfl
    · rw [hr] at hrun
      obtain ⟨hfault, hhost⟩ := Prod.ext_iff.mp hrun
      exact .inr ⟨rfl, ids, ids', (body { h₁ with held := ids }).2, Prod.ext hfault.symm rfl, hhost⟩

/-- **How adding a pod fails**: nothing was done, or no more than to make the root, or the
attachment under the lock has failed.

**Proof sketch.** The request is resolved first, which may fail. Then the attachment runs under the
lock, and it fails as `Mesh.of_locked_error` tells. -/
lemma Mesh.of_add_error {fault : Fault} (hr : m.add a h = (.error fault, k)) :
    k = h ∨ k = m.withRoot h ∨
      (Files.makeDirectories LockGuard.rootMode m.settings.rootDir h).1 = .ok () ∧
        ∃ i ids ids' l, m.IsFor i a ∧
          m.provisionOrUndo i a { m.withRoot h with held := ids } = (.error fault, l) ∧
          k = { l with held := ids' } := by
  unfold add at hr
  rw [run_bind, run_lift] at hr
  rcases m.resolve_eq a h with ⟨binary, hi, hb, -⟩ | ⟨fault', hf, -⟩
  swap
  · rw [hf] at hr
    cases hr
    exact .inl rfl
  rw [hi] at hr
  dsimp only at hr
  rw [run_bind] at hr
  rcases hl : m.locked (m.provisionOrUndo (m.settings.instanceOf binary a) a) h with
    ⟨fault' | u, k'⟩
  swap
  · rw [hl] at hr
    cases hr
  rw [hl] at hr
  cases hr
  rcases of_locked_error hl with hroot | ⟨hopen, ids, ids', l, hrun, hheld⟩
  · exact .inr (.inl hroot)
  · exact .inr (.inr ⟨hopen, _, ids, ids', l, ⟨hb, rfl, rfl⟩, hrun, hheld⟩)

end NoTrace

namespace Sample

/-- A pod of a network with a server of its own. -/
def settledPod : Attachment :=
  { pod "b" "y" "q" (octets 10 2 0 1) with defaultServers := ["10.9.9.9".toList] }

/-- A host with that network, whose daemon runs. The second of the next three runs of the daemon's
program fails. -/
def settled : Host := (mesh.add settledPod (host [daemon, daemon, failure, daemon])).2

/-- A pod of another network. -/
def failingPod : Attachment := pod "a" "x" "p" (octets 10 1 0 1)

/-- The host after that pod could not be attached. -/
def undone : Host := (mesh.add failingPod settled).2

/-- A host without a root, on which the daemon's program fails. -/
def rootless : Host :=
  { host [failure] with disk := { disk with tree := disk.tree.removeAt base } }

/-- The name of the failing pod is one word, and it has no alias. -/
lemma isListable_failingPod : failingPod.IsListable := by
  have hword : failingPod.podName.all (fun c => !Text.isBlank c) = true := by decide
  refine ⟨by decide, fun c hc => ?_, fun x hx => ?_⟩
  · simpa using List.all_eq_true.mp hword c hc
  · cases hx

/-- The settled host has no links below its root.

**Proof sketch.** An attachment that returns leaves the root in order, so all that is computed is
that this one does and that its daemons are tame. -/
lemma linkless_settled : settled.disk.Linkless mesh.settings.rootDir base := by
  have hread : Host.Tame base (host [daemon, daemon, failure, daemon]) settled ∧
      (mesh.add settledPod (host [daemon, daemon, failure, daemon])).1 =
        .ok ["10.2.0.1".toList] := by decide +kernel
  obtain ⟨ht, hok⟩ := hread
  have hhost : (mesh.add settledPod (host [daemon, daemon, failure, daemon])).2 = settled := rfl
  generalize settled = k at *
  rw [← hhost] at ht ⊢
  obtain ⟨-, -, v, -, hholds, -⟩ := Mesh.Stores.add_ok (.inr ⟨rfl, startsEmpty _⟩) ht hok
  exact hholds.inOrder.linkless

/-- There is one network.

**Proof sketch.** That every entry below the root stands in the directory of that one network is
computed, and the first names of the places are compared. -/
lemma eq_of_get?_settled {n : Text} {rest : Location} {e : Entry}
    (he : settled.disk.tree.get? (base ++ .text n :: rest) = some e) : n = "b".toList := by
  have honly : ∀ e ∈ settled.disk.tree.entries, base <+: e.1.loc →
      e.1.loc = base ∨ base ++ [Name.text "b".toList] <+: e.1.loc := by decide +kernel
  generalize settled = h at *
  obtain ⟨x, hx, hloc⟩ := FileTree.exists_of_get? he
  have hplace := honly x hx (by rw [hloc]; exact List.prefix_append _ _)
  rw [hloc, List.prefix_append_right_inj, List.append_right_eq_self] at hplace
  rcases hplace with hnil | ⟨_, hcons⟩
  · cases hnil
  · exact (Name.text.inj (List.cons.inj hcons).1).symm

/-- The other network does not know of the pod's.

**Proof sketch.** The only other network is the one that the settled pod is in. Its forwarders hold
one line, which is canonical and none of the failing pod's. -/
lemma awaitsFirst_settled : mesh.AwaitsFirst base failingPod settled := by
  have htext : settled.disk.fileText base "b".toList localServersName =
      some "server=10.9.9.9\n".toList := by decide +kernel
  have hlinkless := linkless_settled
  have hb := @eq_of_get?_settled
  generalize settled = h at *
  refine .of_unaware ⟨hlinkless, fun p _ hp => ?_⟩ fun rest => ?_
  · obtain ⟨id, mode, hd⟩ := hp
    have hname : p = "b".toList := hb hd
    rw [hname]
    refine ⟨_, htext, ⟨["server=10.9.9.9".toList], by decide, by decide, ?_⟩, by decide⟩
    rintro l (_ | ⟨_, ⟨⟩⟩)
    exact ⟨by decide, by decide, by decide⟩
  · cases he : h.disk.tree.get? (base ++ .text failingPod.network :: rest) with
    | none => rfl
    | some e =>
      have hname : "a".toList = "b".toList := hb he
      exact absurd hname (by decide)

/-- The root is made where nothing is.

**Proof sketch.** Making the root puts a directory where nothing is, and nothing is below that
place. -/
lemma awaitsFirst_rootless : mesh.AwaitsFirst base failingPod rootless := by
  have hread : (rootless.disk.makeDirectory LockGuard.rootMode mesh.settings.rootDir).toOption.map
      Change.loc = some base := by decide +kernel
  cases hm : rootless.disk.makeDirectory LockGuard.rootMode mesh.settings.rootDir with
  | error e =>
    rw [hm] at hread
    cases hread
  | ok c =>
    rw [hm] at hread
    have hloc : c.loc = base := Option.some.inj hread
    rw [← hloc]
    refine .of_missing hm fun rest _ => ?_
    rw [hloc]
    change (disk.tree.removeAt base).get? _ = none
    rw [FileTree.get?_removeAt, if_pos (List.prefix_append _ _)]

/-- The command that starts the daemon of a network. -/
def startOf (network : String) : List Text :=
  ["/bin/d".toList, "-u".toList, "root".toList,
    ("--conf-file=/root/" ++ network ++ "/dnsmasq.conf").toList]

/-- No other pid file than that of a network is written, and all is cleaned up. -/
def isOrderly (network : String) : Event → Bool
  | .pidWritten loc => loc = base ++ [Name.text network.toList, .text pidName]
  | .logged (.notCleanedUp _ _) => false
  | _ => true

/-- Effects that are orderly are those of confined daemons, and of a cleanup that has not failed.
-/
lemma confined_of_isOrderly {h k : Host} {network : String}
    (hfor : Launch.IsFor mesh.settings.rootDir network.toList (startOf network))
    (hl : .launched (startOf network) ∈ h.since k)
    (ho : ∀ e ∈ h.since k, isOrderly network e = true) :
    Host.Confined mesh.settings.rootDir base h k ∧
      ∀ n second, .logged (.notCleanedUp n second) ∉ h.since k := by
  refine ⟨fun loc hmem => ?_, fun n second hmem => ?_⟩
  · exact ⟨network.toList, startOf network, of_decide_eq_true (ho _ hmem), hl, hfor⟩
  · cases ho _ hmem

end Sample

section NoTrace

variable {m : Mesh} {base : Location} {a : Attachment} {h k : Host}

/-- **A first attachment that fails leaves no trace**, wherever it fails, if it could be undone.
What is on the disk afterwards is what was there, but for a root that was missing and for the pid
files of siblings whose daemons were restarted.

**Proof sketch.** Up to its failure the attachment has filled the network's directory and merged
its lines into the forwarders of some siblings. To undo it, the pod is taken out of the hosts file,
which holds no other one, so the network is taken down: the lines are removed from each sibling
that holds them, which gives it the text that it had, and the directory is removed. -/
theorem failed_attachment_leaves_no_trace (hh : m.AwaitsFirst base a h) (ha : a.IsListable)
    (hd : '\n' ∉ a.domain) (hc : Host.Confined m.settings.rootDir base h k)
    (hclean : ∀ n second, .logged (.notCleanedUp n second) ∉ h.since k) {fault : Fault}
    (hr : m.add a h = (.error fault, k)) : m.LeftNoTrace base a h k := by
  rcases Mesh.of_add_error hr with rfl | rfl | ⟨hopen, i, ids, ids', l, hi, hrun, rfl⟩
  · exact .refl hh
  · exact .withRoot hh
  · have hroot : h.journal <+: (m.withRoot h).journal :=
      (Files.prepared_makeDirectories LockGuard.rootMode m.settings.rootDir h).records
    generalize hheld : ({ m.withRoot h with held := ids } : Host) = h₁ at hrun
    have hdisk : h₁.disk = (m.withRoot h).disk := by rw [← hheld]
    have hjournal : h₁.journal = (m.withRoot h).journal := by rw [← hheld]
    rw [← hjournal] at hroot
    have hlater := m.records_provisionOrUndo i a h₁
    rw [hrun] at hlater
    have ht : Host.Tame base h₁ l := ((Host.Tame.split hroot hlater).mp hc.tame).2
    have hundone : ∀ n second, .logged (.notCleanedUp n second) ∉ h₁.since l :=
      fun n second hmem => hclean n second (Host.mem_since_of_suffix hroot hlater hmem)
    have hunaware := (hh.unaware hopen).of_disk hdisk
    have hreverted := hunaware.provisionOrUndo_reverted hi (by rw [hdisk]; exact hh.vacant) ha hd
      ht hundone hrun
    refine .of_reverted hh hc (hreverted.congr ?_ (fun e he => ?_) (fun _ _ => by rw [hdisk]) rfl)
    · rw [← hjournal]
      exact hreverted.journal
    · unfold Host.since at he ⊢
      rw [← hjournal]
      exact he

/-- The daemon of a sibling was restarted before the network's own could not be started, and again
when that was undone; and a root that was missing is all that is new.

**Proof sketch.** What is read off the two concrete runs is computed at once. The effects are
orderly, so the daemons are confined, and the theorem is applied to each run. -/
theorem failed_attachment_leaves_no_trace_of_startFailure :
    (Sample.mesh.add Sample.failingPod Sample.settled).1 = .error (.startFailure []) ∧
      Sample.mesh.LeftNoTrace Sample.base Sample.failingPod Sample.settled Sample.undone ∧
      Sample.mesh.LeftNoTrace Sample.base Sample.failingPod Sample.rootless
        (Sample.mesh.add Sample.failingPod Sample.rootless).2 := by
  -- all that is read off the runs, so that they are made once
  have hread : (Sample.mesh.add Sample.failingPod Sample.settled).1 = .error (.startFailure []) ∧
      .launched (Sample.startOf "b") ∈ Sample.settled.since Sample.undone ∧
      (∀ e ∈ Sample.settled.since Sample.undone, Sample.isOrderly "b" e = true) ∧
      (Sample.mesh.add Sample.failingPod Sample.rootless).1 = .error (.startFailure []) ∧
      .launched (Sample.startOf "a") ∈
        Sample.rootless.since (Sample.mesh.add Sample.failingPod Sample.rootless).2 ∧
      ∀ e ∈ Sample.rootless.since (Sample.mesh.add Sample.failingPod Sample.rootless).2,
        Sample.isOrderly "a" e = true := by
    decide +kernel
  obtain ⟨herr, hl, ho, herr', hl', ho'⟩ := hread
  have hfor : Launch.IsFor Sample.mesh.settings.rootDir "b".toList (Sample.startOf "b") ∧
      Launch.IsFor Sample.mesh.settings.rootDir "a".toList (Sample.startOf "a") := by
    unfold Launch.IsFor
    decide +kernel
  have hlater : (Sample.mesh.add Sample.failingPod Sample.settled).2 = Sample.undone := rfl
  have hawaits := Sample.awaitsFirst_settled
  have hawaits' := Sample.awaitsFirst_rootless
  generalize Sample.undone = k at *
  generalize Sample.settled = h at *
  generalize Sample.rootless = h' at *
  have hrun : Sample.mesh.add Sample.failingPod h = (.error (.startFailure []), k) :=
    Prod.ext herr hlater
  rcases hrun' : Sample.mesh.add Sample.failingPod h' with ⟨r, k'⟩
  rw [hrun'] at herr' hl' ho'
  cases herr'
  obtain ⟨hc, hclean⟩ := Sample.confined_of_isOrderly hfor.1 hl ho
  obtain ⟨hc', hclean'⟩ := Sample.confined_of_isOrderly hfor.2 hl' ho'
  refine ⟨herr, ?_, ?_⟩
  · exact failed_attachment_leaves_no_trace hawaits Sample.isListable_failingPod (by decide) hc
      hclean hrun
  · exact failed_attachment_leaves_no_trace hawaits' Sample.isListable_failingPod (by decide) hc'
      hclean' hrun'

end NoTrace

end ResolverMesh
