import ResolverMesh.Host.Setup
import ResolverMesh.Proofs.LifecycleEffects

set_option autoImplicit false
set_option relaxedAutoImplicit false

/-!
# What a whole operation does to the root

Adding and deleting under the lock on the root, which is made first if it is missing. An
attachment that fails is undone by a detachment, whose own failure is only logged.

## Main definitions

* `ResolverMesh.Mesh.Undone` — what is left of a failed attachment.
* `ResolverMesh.AddFailed` — what holds after an attachment has failed and was undone.

## Main results

* `ResolverMesh.Mesh.locked_eq` — an action under the lock.
* `ResolverMesh.Mesh.add_meets`, `ResolverMesh.Mesh.del_meets` — the two operations.
-/

namespace ResolverMesh

open ResolverMesh.Action Disk Propagation

/-- The instance that an attachment is for. -/
def Settings.instanceOf (s : Settings) (binary : Path) (a : Attachment) : Instance :=
  ⟨a.network, a.domain, a.multiDomain, s.rootDir.join a.network, binary, s.user⟩

namespace Mesh

variable (m : Mesh) (a : Attachment)

/-- The instance of an attachment is found, or the operation ends for another reason than a
domain claimed twice.

**Proof sketch.** The instance that is found is the one of the attachment, as its parts are those
of the request. -/
lemma resolve_eq (h : Host) :
    (∃ binary, m.resolve a h = .ok (m.settings.instanceOf binary a) ∧
        (m.settings.instanceOf binary a).IsBelow m.settings.rootDir ∧
        Settings.locate? h m.settings.binary = some binary) ∨
      ∃ fault, m.resolve a h = .error fault ∧ fault.isDomainCollision = false := by
  rcases m.settings.resolve_eq a.network a.domain a.multiDomain h with
    ⟨i, hi, hb, hn, hd, hm, hl, hu⟩ | ⟨fault, hf, hc, -⟩
  · have hinst : i = m.settings.instanceOf i.binary a := by
      have hdir := hb.dir
      unfold Settings.instanceOf
      cases i
      simp_all
    refine .inl ⟨i.binary, ?_, ?_, hl⟩
    · rw [← hinst]
      exact hi
    · rw [← hinst]
      exact hb
  · exact .inr ⟨fault, hf, hc⟩

/-- **An action under the lock** runs once the root is there, on a host that differs in its locks
only, unless the lock cannot be had.

**Proof sketch.** Taking the lock opens the root and looks whether it is held. Both failures leave
the host as it is, and are no collision. -/
theorem locked_eq {α : Type} (body : Action α) {h h₁ : Host}
    (hopen : Files.makeDirectories LockGuard.rootMode m.settings.rootDir h = (.ok (), h₁)) :
    (∃ fault, m.locked body h = (.error fault, h₁) ∧ fault.isDomainCollision = false) ∨
      ∃ ids ids', m.locked body h = ((body { h₁ with held := ids }).1,
        { (body { h₁ with held := ids }).2 with held := ids' }) := by
  unfold locked LockGuard.hold LockGuard.acquire
  rw [run_bind, hopen]
  dsimp only
  unfold LockGuard.acquireExisting
  cases hf : h₁.disk.find m.settings.rootDir with
  | error e => exact .inl ⟨_, rfl, rfl⟩
  | ok found =>
    dsimp only
    by_cases hheld : h₁.held.contains (found.entry.id?.getD 0) = true
    · rw [if_pos hheld]
      exact .inl ⟨_, rfl, rfl⟩
    · rw [if_neg hheld]
      exact .inr ⟨_, _, rfl⟩

/-- What is left of a failed attachment once it is undone from a host `k₁`, as far as the disk and
the effects go. That it could not be undone is only logged. -/
def Undone (i : Instance) (k₁ k : Host) : Prop :=
  k.disk = (m.cleanUp i a k₁).2.disk ∧ ∃ es, k.journal = (m.cleanUp i a k₁).2.journal ++ es ∧
    ∀ e ∈ es, e.isQuiet = true

end Mesh

/-- What holds after an attachment has failed and was undone. -/
structure AddFailed (m : Mesh) (base : Location) (v : Shelf) (i : Instance) (a : Attachment)
    (h : Host) (fault : Fault) (k : Host) : Prop where
  /-- Other networks' own forwarders are left alone. -/
  holds : ∃ v', v.Evolves v' i.network (· = a.ownText i.domain) ∧
    k.Holds m.settings.rootDir base v'
  /-- A domain claimed twice has stopped it before any sibling was touched. -/
  collision : m.chain.KnowsNoDomains → fault.isDomainCollision = true →
    ∃ k₁, Collided m.settings.rootDir base v i a h k₁ ∧ m.Undone a i k₁ k

section Operations

variable {m : Mesh} {base : Location} {h h₁ : Host} {v : Shelf}

/-- A failed attachment was undone with tame daemons. -/
lemma Mesh.Undone.tame {i : Instance} {a : Attachment} {k₁ k : Host} (hu : m.Undone a i k₁ k)
    (hk₁ : h.journal <+: k₁.journal) (ht : Host.Tame base h k) :
    Host.Tame base k₁ (m.cleanUp i a k₁).2 := by
  obtain ⟨-, es, hes, -⟩ := hu
  have hclean := m.records_cleanUp i a k₁
  have hlast : (m.cleanUp i a k₁).2.journal <+: k.journal := ⟨es, hes.symm⟩
  exact ((Host.Tame.split hclean hlast).mp ((Host.Tame.split hk₁ (hclean.trans hlast)).mp ht).2).1

/-- A failed attachment is undone, and its fault is that of the operation.

**Proof sketch.** The cleanup may fail as well. Its fault is logged, and that of the attachment is
returned. -/
lemma Mesh.provisionOrUndo_of_error {i : Instance} {a : Attachment} {fault : Fault}
    (hr : m.provision i a h = (.error fault, h₁)) :
    ∃ k, m.provisionOrUndo i a h = (.error fault, k) ∧ m.Undone a i h₁ k := by
  unfold provisionOrUndo
  rw [run_bind, run_attempt, hr]
  dsimp only
  rw [run_bind, run_attempt]
  dsimp only
  cases hc : (m.cleanUp i a h₁).1 with
  | ok u => exact ⟨_, rfl, rfl, [], by simp, by simp⟩
  | error second =>
    refine ⟨_, rfl, rfl, [.logged (.notCleanedUp i.network second)], rfl, ?_⟩
    simp [Event.isQuiet]

/-- **A pod attached**, or that undone.

**Proof sketch.** If attaching succeeds, that is what it guarantees. If not, it has left what
`provision_meets` says, and the undoing starts from there; the daemons were tame in both parts. -/
theorem Mesh.provisionOrUndo_meets {i : Instance} (hi : i.IsBelow m.settings.rootDir)
    (a : Attachment) (hh : h.Holds m.settings.rootDir base v) :
    (m.provisionOrUndo i a).Meets base (· = h)
      (fun _ k => ∃ v', v.Attached m.settings.rootDir i a (i.supervisor.stateOn h) v' ∧
        k.Holds m.settings.rootDir base v')
      (AddFailed m base v i a h) := by
  refine ⟨m.records_provisionOrUndo i a, ?_⟩
  rintro h rfl ht
  have hrec := m.records_provision i a h
  have hspec := (m.provision_meets rfl hi a hh).holds h rfl
  cases hr : m.provision i a h with
  | mk r k₁ =>
    rw [hr] at hrec hspec
    dsimp only at hrec hspec
    cases r with
    | ok u =>
      have hrun : m.provisionOrUndo i a h = (.ok (), k₁) := by
        unfold provisionOrUndo
        rw [run_bind, run_attempt, hr]
        rfl
      rw [hrun] at ht ⊢
      obtain ⟨hok, -⟩ := hspec ht
      refine ⟨fun _ _ => hok u rfl, fun _ hf => ?_⟩
      cases hf
    | error fault =>
      obtain ⟨k, hrun, hundone⟩ := provisionOrUndo_of_error hr
      obtain ⟨hdisk, es, hes, -⟩ := id hundone
      rw [hrun] at ht ⊢
      -- the failed attachment and its undoing had tame daemons both
      have hrec' : (m.cleanUp i a k₁).2.journal <+: k.journal := ⟨es, hes.symm⟩
      have ht₁ := ((Host.Tame.split hrec ((m.records_cleanUp i a k₁).trans hrec')).mp ht).1
      have ht₂ := hundone.tame hrec ht
      have hfailed := (hspec ht₁).2 fault rfl
      refine of_error ?_
      refine ⟨?_, fun hc hcol => ⟨k₁, hfailed.collision hc hcol, hundone⟩⟩
      obtain ⟨v₁, hev, hk₁⟩ := hfailed.holds
      have hclean := (m.cleanUp_meets rfl hi a).holds k₁ hk₁ ht₂
      have hleft : ∃ v', v₁.Evolves v' i.network (· = a.ownText i.domain) ∧
          (m.cleanUp i a k₁).2.Holds m.settings.rootDir base v' := by
        cases hr' : (m.cleanUp i a k₁).1 with
        | ok u =>
          obtain ⟨v', hdet, hk⟩ := hclean.1 u hr'
          exact ⟨v', hdet.evolves _, hk⟩
        | error second =>
          obtain ⟨v', hev', hk⟩ := hclean.2 second hr'
          exact ⟨v', hev'.evolves _ _, hk⟩
      obtain ⟨v', hev', hk⟩ := hleft
      exact ⟨v', hev.trans hev', hk.of_disk hdisk⟩

/-- An action under the lock guarantees what it guarantees without, if that has nothing to do with
the locks.

**Proof sketch.** By `locked_eq`, the lock is refused or the action runs on a host that differs in
its locks only. -/
lemma Mesh.locked_meets {α : Type} {body : Action α} {Q : α → Host → Prop}
    {E : Fault → Host → Prop}
    (hopen : Files.makeDirectories LockGuard.rootMode m.settings.rootDir h = (.ok (), h₁))
    (hbody : ∀ ids, body.Meets base (· = { h₁ with held := ids }) Q E)
    (hQ : ∀ u k ids, Q u k → Q u { k with held := ids })
    (hE : ∀ fault k ids, E fault k → E fault { k with held := ids })
    (hlock : ∀ fault, fault.isDomainCollision = false → E fault h₁) :
    (m.locked body).Meets base (· = h) Q E := by
  refine ⟨LockGuard.records_hold (LockGuard.records_acquire _ _) (hbody []).records, ?_⟩
  rintro h rfl ht
  have hrec := Files.records_makeDirectories LockGuard.rootMode m.settings.rootDir h
  rw [hopen] at hrec
  rcases m.locked_eq body hopen with ⟨fault, hrun, hc⟩ | ⟨ids, ids', hrun⟩
  · rw [hrun]
    exact of_error (hlock _ hc)
  · rw [hrun] at ht ⊢
    obtain ⟨hok, herr⟩ := (hbody ids).after rfl hrec ht
    exact ⟨fun u hu => hQ _ _ _ (hok u hu), fun fault hf => hE _ _ _ (herr fault hf)⟩

/-- An attachment that fails under the lock, seen from the host before the lock was taken. -/
lemma AddFailed.of_held {i : Instance} {a : Attachment} {fault : Fault} {k : Host} {ids : List Nat}
    (hf : AddFailed m base v i a { h with held := ids } fault k) :
    AddFailed m base v i a h fault k := by
  refine ⟨hf.holds, fun hc hcol => ?_⟩
  obtain ⟨k₁, hcollided, hundone⟩ := hf.collision hc hcol
  obtain ⟨helse, hpid, hgrows, hdir, hpath, hproc, hjournal⟩ := hcollided.edits
  exact ⟨k₁, ⟨hcollided.multiDomain, hcollided.state, hcollided.claimed,
    ⟨helse, hpid, hgrows, hdir, hpath, hproc, hjournal⟩, hcollided.admits_hosts,
    hcollided.holds⟩, hundone⟩

/-- **A pod added**: its network holds what an attachment leaves. Otherwise the attachment has
failed and was undone, or nothing was changed at all.

**Proof sketch.** A request that does not resolve has changed nothing. Otherwise the attachment
runs under the lock, and `locked_meets` carries over what it guarantees. -/
theorem Mesh.add_meets (a : Attachment)
    (hopen : Files.makeDirectories LockGuard.rootMode m.settings.rootDir h = (.ok (), h₁))
    (hh : h₁.Holds m.settings.rootDir base v) :
    (m.add a).Meets base (· = h)
      (fun _ k => ∃ binary v', m.resolve a h = .ok (m.settings.instanceOf binary a) ∧
        v.Attached m.settings.rootDir (m.settings.instanceOf binary a) a
          ((m.settings.instanceOf binary a).supervisor.stateOn h₁) v' ∧
        k.Holds m.settings.rootDir base v')
      (fun fault k => (k = h ∧ fault.isDomainCollision = false) ∨
        ∃ binary, Settings.locate? h m.settings.binary = some binary ∧
          (m.settings.instanceOf binary a).IsBelow m.settings.rootDir ∧
          AddFailed m base v (m.settings.instanceOf binary a) a h₁ fault k) := by
  refine ⟨m.records_add a, ?_⟩
  rintro h rfl ht
  unfold add at ht ⊢
  rw [run_bind, run_lift] at ht ⊢
  rcases m.resolve_eq a h with ⟨binary, hi, hb, hl⟩ | ⟨fault, hf, hc⟩
  · rw [hi] at ht ⊢
    dsimp only at ht ⊢
    have hbody : ∀ ids, (m.provisionOrUndo (m.settings.instanceOf binary a) a).Meets base
        (· = { h₁ with held := ids })
        (fun _ k => ∃ v', v.Attached m.settings.rootDir (m.settings.instanceOf binary a) a
          ((m.settings.instanceOf binary a).supervisor.stateOn h₁) v' ∧
            k.Holds m.settings.rootDir base v')
        (AddFailed m base v (m.settings.instanceOf binary a) a h₁) := by
      intro ids
      have hh' : Host.Holds m.settings.rootDir base v { h₁ with held := ids } := hh.of_disk rfl
      exact (provisionOrUndo_meets hb a hh').mono (fun _ hq => hq) (fun _ _ hq => hq)
        fun _ _ he => he.of_held
    have hlocked := locked_meets hopen hbody (fun _ k ids ⟨v', hatt, hk⟩ =>
      ⟨v', hatt, hk.of_disk rfl⟩) (fun fault k ids ⟨⟨v', hev, hk⟩, hcol⟩ =>
        ⟨⟨v', hev, hk.of_disk rfl⟩, hcol⟩) fun fault hc => ⟨⟨v, .refl v _ _, hh⟩, fun _ hcol => by
          rw [hc] at hcol
          cases hcol⟩
    have hadd : Meets base (· = h) (do
        m.locked (m.provisionOrUndo (m.settings.instanceOf binary a) a)
        return a.servers ++ a.prevNameservers)
        (fun _ k => ∃ v', v.Attached m.settings.rootDir (m.settings.instanceOf binary a) a
          ((m.settings.instanceOf binary a).supervisor.stateOn h₁) v' ∧
            k.Holds m.settings.rootDir base v')
        (AddFailed m base v (m.settings.instanceOf binary a) a h₁) :=
      hlocked.bind fun _ => .pure fun _ hq => hq
    obtain ⟨hok, herr⟩ := hadd.holds h rfl ht
    refine ⟨fun u hu => ?_, fun fault hf => .inr ⟨binary, hl, hb, herr fault hf⟩⟩
    obtain ⟨v', hatt, hk⟩ := hok u hu
    exact ⟨binary, v', rfl, hatt, hk⟩
  · rw [hf]
    exact of_error (.inl ⟨rfl, hc⟩)

/-- **A pod deleted**: its network holds what a detachment leaves. If that fails, all networks are
still there and publish what they did.

**Proof sketch.** As for an attachment, with what the clean-up guarantees. -/
theorem Mesh.del_meets (a : Attachment)
    (hopen : Files.makeDirectories LockGuard.rootMode m.settings.rootDir h = (.ok (), h₁))
    (hh : h₁.Holds m.settings.rootDir base v) :
    (m.del a).Meets base (· = h)
      (fun _ k => ∃ binary v', v.Detached (m.settings.instanceOf binary a) a v' ∧
        k.Holds m.settings.rootDir base v')
      (fun _ k => k = h ∨ ∃ v', v.KeepsOwn v' ∧ k.Holds m.settings.rootDir base v') := by
  refine ⟨m.records_del a, ?_⟩
  rintro h rfl ht
  unfold del at ht ⊢
  rw [run_bind, run_lift] at ht ⊢
  rcases m.resolve_eq a h with ⟨binary, hi, hb, -⟩ | ⟨fault, hf, -⟩
  · rw [hi] at ht ⊢
    dsimp only at ht ⊢
    have hbody : ∀ ids, (m.cleanUp (m.settings.instanceOf binary a) a).Meets base
        (· = { h₁ with held := ids })
        (fun _ k => ∃ v', v.Detached (m.settings.instanceOf binary a) a v' ∧
          k.Holds m.settings.rootDir base v')
        (fun _ k => ∃ v', v.KeepsOwn v' ∧ k.Holds m.settings.rootDir base v') := by
      intro ids
      refine (m.cleanUp_meets rfl hb a).mono ?_ (fun _ _ hq => hq) fun _ _ he => he
      rintro k rfl
      exact hh.of_disk rfl
    have hlocked := locked_meets hopen hbody (fun _ k ids ⟨v', hdet, hk⟩ =>
      ⟨v', hdet, hk.of_disk rfl⟩) (fun _ k ids ⟨v', hev, hk⟩ => ⟨v', hev, hk.of_disk rfl⟩)
      fun _ _ => ⟨v, .refl v, hh⟩
    obtain ⟨hok, herr⟩ := hlocked.holds h rfl ht
    refine ⟨fun u hu => ?_, fun fault hf => .inr (herr fault hf)⟩
    obtain ⟨v', hdet, hk⟩ := hok u hu
    exact ⟨binary, v', hdet, hk⟩
  · rw [hf]
    exact of_error (.inl rfl)

end Operations

end ResolverMesh
