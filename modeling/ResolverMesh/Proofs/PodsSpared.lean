import ResolverMesh.Proofs.RequestFrame
import ResolverMesh.Proofs.Supervision

set_option autoImplicit false
set_option relaxedAutoImplicit false

/-!
# A failed attachment spares the other pods

An attachment that fails is undone by a whole detachment, which takes the network down if no pod is
left in its hosts file. As long as another pod is listed that does not happen: the lines of the
others are kept in their order, the network and its configuration stay, and its daemon is not
killed. This holds wherever the attachment fails, and whatever becomes of its undoing.

## Main definitions

* `ResolverMesh.HostsFile.IsCanonical` — a hosts file of whole lines that are not blank.
* `ResolverMesh.Shelf.SameListings` — the hosts files and configurations stay.
* `ResolverMesh.Shelf.Releases` — a pod is taken out of a network.
* `ResolverMesh.Shelf.Configured` — each network with a hosts file has a configuration.
* `ResolverMesh.Host.OthersKilled` — the daemon of a network was not killed.
* `ResolverMesh.Mesh.PodsSpared` — what a failed attachment leaves alone.

## Main results

* `ResolverMesh.HostsFile.without_append_of_isOnlyOf` — a pod entered and taken out again.
* `ResolverMesh.Mesh.provision_registers`, `ResolverMesh.Mesh.cleanUp_releases` — the hosts files in
  the two parts of an operation.
* `ResolverMesh.Mesh.Along.configured` — configurations after any run.
* `ResolverMesh.Host.OthersKilled.provisionOrUndo` — whom a failed attachment kills.
* `ResolverMesh.failed_attachment_spares_pods` — the other pods after a failed attachment.
-/

namespace ResolverMesh

open ResolverMesh.Action Disk

/-! ## The lines of the others -/

namespace HostsFile

variable {pod s t : Text}

/-- A hosts file is made of whole lines. None of them is blank, and none ends with a carriage
return. -/
def IsCanonical (t : Text) : Prop :=
  ∃ ls, t = Text.unlines ls ∧
    ∀ l ∈ ls, '\n' ∉ l ∧ l.getLast? ≠ some '\r' ∧ isBlankLine l = false

/-- The lines of such a file are those that it is made of. -/
lemma IsCanonical.unlines_lines (ht : IsCanonical t) : Text.unlines (Text.lines t) = t := by
  obtain ⟨ls, rfl, hls⟩ := ht
  rw [Text.lines_unlines fun l hl => ⟨(hls l hl).1, (hls l hl).2.1⟩]

/-- No line of such a file is blank. -/
lemma IsCanonical.not_blank (ht : IsCanonical t) {l : Text} (hl : l ∈ Text.lines t) :
    isBlankLine l = false := by
  obtain ⟨ls, rfl, hls⟩ := ht
  rw [Text.lines_unlines fun l hl => ⟨(hls l hl).1, (hls l hl).2.1⟩] at hl
  exact (hls l hl).2.2

/-- What is left of such a file without a pod are its lines for others. -/
lemma IsCanonical.without_eq (ht : IsCanonical t) (pod : Text) :
    without pod t = (Text.lines t).filter (!isOf pod ·) := by
  refine List.filter_congr fun l hl => ?_
  rw [ht.not_blank hl, Bool.not_false, Bool.true_and]

/-- The lines for others are read back as they were written. -/
lemma IsCanonical.lines_unlines_without (ht : IsCanonical t) (pod : Text) :
    Text.lines (Text.unlines (without pod t)) = without pod t := by
  obtain ⟨ls, rfl, hls⟩ := ht
  refine HostsFile.lines_unlines_without ?_ pod
  rw [Text.lines_unlines fun l hl => ⟨(hls l hl).1, (hls l hl).2.1⟩]
  exact fun l hl => (hls l hl).2.1

/-- **A pod entered and taken out again** leaves what is left if it had not been entered. -/
theorem without_append_of_isOnlyOf (ht : IsCanonical t) (hs : IsOnlyOf pod s) :
    without pod (t ++ s) = without pod t := by
  obtain ⟨ls, rfl, -⟩ := ht
  rw [without_append (endsLine_unlines ls), hs.without_eq_nil, List.append_nil]

end HostsFile

/-! ## The hosts files of an operation -/

/-- From one state to a later one, the hosts files and the configurations stay. -/
def Shelf.SameListings (v v' : Shelf) : Prop :=
  ∀ p, v'.text? p hostsName = v.text? p hostsName ∧ v'.text? p configName = v.text? p configName

/-- From one state to a later one, a pod may have been taken out of the hosts file of a network.
The network stays if another line is left. -/
structure Shelf.Releases (root : Path) (v : Shelf) (n pod : Text) (v' : Shelf) : Prop where
  /-- The hosts files and configurations of other networks stay. -/
  others : ∀ p ≠ n, v'.text? p hostsName = v.text? p hostsName ∧
    v'.text? p configName = v.text? p configName
  /-- A hosts file that is there was there, with the configuration. -/
  there : ∀ s, v'.text? n hostsName = some s →
    v'.text? n configName = v.text? n configName ∧ ∃ t, v.text? n hostsName = some t
  /-- If another line is left, the pod was taken out, or the system does not take the path of the
  file. -/
  left : ∀ t, v.text? n hostsName = some t → HostsFile.without pod t ≠ [] →
    v'.text? n hostsName = some (Text.unlines (HostsFile.without pod t)) ∨
      v'.text? n hostsName = some t ∧ ¬ Admits (root.fileOf n hostsName) n

/-- A network with a hosts file has a configuration. -/
def Shelf.Configured (v : Shelf) : Prop :=
  ∀ n t, v.text? n hostsName = some t → ∃ c, v.text? n configName = some c

section Listings

variable {root : Path} {n pod s : Text} {v v₁ v' : Shelf}

namespace Shelf.SameListings

/-- A shelf lists the pods that it lists. -/
lemma refl (v : Shelf) : v.SameListings v :=
  fun _ => ⟨rfl, rfl⟩

/-- Two shelves that list the same as a third. -/
lemma trans (h₁ : v.SameListings v₁) (h₂ : v₁.SameListings v') : v.SameListings v' :=
  fun p => ⟨(h₂ p).1.trans (h₁ p).1, (h₂ p).2.trans (h₁ p).2⟩

/-- Another file written. -/
lemma write {f : Text} (hhosts : f ≠ hostsName) (hconfig : f ≠ configName) (v : Shelf)
    (p t : Text) : v.SameListings (v.write p f t) :=
  fun _ => ⟨Shelf.text?_write_of_ne v fun h => hhosts h.2.symm,
    Shelf.text?_write_of_ne v fun h => hconfig h.2.symm⟩

/-- Forwarders revised. -/
lemma revise (v : Shelf) (names : List Text) (revision : Text → Forwarders.Revision) :
    v.SameListings (v.revise names revision) :=
  fun p => ⟨Shelf.text?_revise_of_ne (by decide) p, Shelf.text?_revise_of_ne (by decide) p⟩

/-- A network published. -/
lemma published (v : Shelf) (p : Text) (own names known : List Text) :
    v.SameListings (Propagation.published v p own names known) :=
  ((write (by decide) (by decide) v p _).trans (revise _ names _)).trans
    (write (by decide) (by decide) _ p _)

end Shelf.SameListings

/-- A pod has been entered also if only other files were changed after that. -/
lemma Shelf.Registers.trans_same (h : v.Registers root n s v₁) (hs : v₁.SameListings v') :
    v.Registers root n s v' := by
  refine ⟨fun p hp => ⟨(hs p).1.trans (h.others p hp).1, (hs p).2.trans (h.others p hp).2⟩,
    fun c hc => (hs n).2.trans (h.config c hc), ?_⟩
  rw [(hs n).1, (hs n).2]
  exact h.hosts

/-- So has one been taken out. -/
lemma Shelf.Releases.trans_same (h : v.Releases root n pod v₁) (hs : v₁.SameListings v') :
    v.Releases root n pod v' := by
  refine ⟨fun p hp => ⟨(hs p).1.trans (h.others p hp).1, (hs p).2.trans (h.others p hp).2⟩, ?_, ?_⟩
  · rw [(hs n).1, (hs n).2]
    exact h.there
  · rw [(hs n).1]
    exact h.left

/-- A pod taken out of the hosts file, and the daemon not told yet.

**Proof sketch.** Either the network had no hosts file and nothing was written, or its hosts file
is the only file that was written. -/
lemma Shelf.TakenOut.releases {left : Bool} (h : v.TakenOut n pod left v') :
    v.Releases root n pod v' := by
  rcases h with ⟨hnone, -, rfl⟩ | ⟨t, ht, -, rfl⟩
  · refine ⟨fun _ _ => ⟨rfl, rfl⟩, fun s hs => ?_, fun t ht => ?_⟩
    · exact ⟨rfl, s, hs⟩
    · rw [hnone] at ht
      cases ht
  · refine ⟨fun p hp => ⟨Shelf.text?_write_of_ne v fun h => hp h.1,
      Shelf.text?_write_of_ne v fun h => hp h.1⟩, fun s _ => ⟨?_, t, ht⟩, fun t' ht' _ => .inl ?_⟩
    · exact Shelf.text?_write_of_ne v fun h => absurd h.2 (by decide)
    · rw [ht] at ht'
      rw [← Option.some.inj ht']
      exact Shelf.text?_write_self v _ _ _

/-- A network taken down because nothing was left.

**Proof sketch.** The siblings are as they were before the removal. The network has no file, and
nothing was left in its hosts file, so no other pod has lost a line. -/
lemma Shelf.TakenOut.releases_of_removed (h : v.TakenOut n pod false v₁)
    (hs : v₁.SameListings v') : v.Releases root n pod (v'.removeNetwork n) := by
  have hreleases : v.Releases root n pod v' := h.releases.trans_same hs
  have hgone : ∀ f, (v'.removeNetwork n).text? n f = none := fun f => if_pos rfl
  refine ⟨fun p hp => ?_, fun s hs => ?_, fun t ht hleft => ?_⟩
  · rw [Shelf.text?_removeNetwork_of_ne hp, Shelf.text?_removeNetwork_of_ne hp]
    exact hreleases.others p hp
  · rw [hgone] at hs
    cases hs
  · rcases h with ⟨hnone, -, -⟩ | ⟨t', ht', hempty, -⟩
    · rw [ht] at hnone
      cases hnone
    · rw [ht] at ht'
      cases ht'
      exact absurd (by simpa using hempty.symm) hleft

/-- Networks with a hosts file have a configuration, also once a pod is entered.

**Proof sketch.** The network's configuration is kept or written, and those of its siblings are as
they were. -/
lemma Shelf.Registers.configured (h : v.Registers root n s v') (hv : v.Configured) :
    v'.Configured := by
  intro p t ht
  by_cases hp : p = n
  · subst hp
    rcases h.hosts with hsame | ⟨-, hconfig, -⟩
    · rw [hsame] at ht
      obtain ⟨c, hc⟩ := hv p t ht
      exact ⟨c, h.config c hc⟩
    · exact hconfig
  · rw [(h.others p hp).1] at ht
    rw [(h.others p hp).2]
    exact hv p t ht

/-- So they have once a pod is taken out.

**Proof sketch.** The network's own files are there as they were, and those of the others were not
touched. -/
lemma Shelf.Releases.configured (h : v.Releases root n pod v') (hv : v.Configured) :
    v'.Configured := by
  intro p t ht
  by_cases hp : p = n
  · subst hp
    obtain ⟨hconfig, t', ht'⟩ := h.there t ht
    rw [hconfig]
    exact hv p t' ht'
  · rw [(h.others p hp).1] at ht
    rw [(h.others p hp).2]
    exact hv p t ht

/-- **A pod entered and taken out again** where another one is listed: the lines for the others are
left, or the hosts file is as it was.

**Proof sketch.** If the pod was not entered, the hosts file is as it was. If it was, its own lines
go again, and the path of the file is admitted, so the file was written. -/
theorem Shelf.Releases.hosts_of_registers {t : Text} (hrel : v₁.Releases root n pod v')
    (hreg : v.Registers root n s v₁) (ht : v.text? n hostsName = some t)
    (hcan : HostsFile.IsCanonical t) (hs : HostsFile.IsOnlyOf pod s)
    (hne : HostsFile.without pod t ≠ []) :
    v'.text? n hostsName = some (Text.unlines (HostsFile.without pod t)) ∨
      v'.text? n hostsName = some t := by
  rcases hreg.hosts with hsame | ⟨hadmits, -, happended⟩
  · exact (hrel.left t (hsame.trans ht) hne).imp_right And.left
  · -- where the pod could be entered it can be taken out
    rw [ht, Option.getD_some] at happended
    have hwithout := HostsFile.without_append_of_isOnlyOf hcan hs
    rw [← hwithout] at hne ⊢
    exact .inl ((hrel.left _ happended hne).resolve_right fun hno => hno.2 hadmits)

end Listings

/-- The networks hold something of which a property is true. -/
def Host.HoldsSome (root : Path) (base : Location) (R : Shelf → Prop) (k : Host) : Prop :=
  ∃ v, R v ∧ k.Holds root base v

section Operations

variable {m : Mesh} {base : Location} {i : Instance} {a : Attachment} {h k : Host} {v : Shelf}

/-- What holds of the networks outlasts that a daemon reads its files. -/
lemma Supervisor.serves_hup_some (s : Supervisor) (root : Path) (base : Location)
    (R : Shelf → Prop) : s.hup.Meets base (Host.HoldsSome root base R)
      (fun _ => Host.HoldsSome root base R) (fun _ => Host.HoldsSome root base R) := by
  refine ⟨s.records_hup, ?_⟩
  rintro h ⟨v, hv, hh⟩ ht
  obtain ⟨hok, herr⟩ := (s.serves_hup v).holds h hh ht
  exact ⟨fun u hu => ⟨v, hv, hok u hu⟩, fun fault hf => ⟨v, hv, (herr fault hf).1⟩⟩

namespace Mesh

/-- Announcing a network only adds to the journal, whether it is called for or not. -/
lemma records_announce (m : Mesh) (i : Instance) (a : Attachment) : Records (m.announce i a) := by
  intro h
  unfold announce
  split
  · exact Propagation.records_publish _ _ _ h
  · exact List.prefix_refl _

/-- A network announced.

**Proof sketch.** A publication writes what networks publish and their forwarders, and neither is a
hosts file or a configuration. This is so where it succeeds and where it fails on the way. -/
lemma announce_sameListings (hi : i.IsBelow m.settings.rootDir) (a : Attachment)
    (hh : h.Holds m.settings.rootDir base v) : (m.announce i a).Meets base (· = h)
      (fun _ => Host.HoldsSome m.settings.rootDir base v.SameListings)
      (fun _ => Host.HoldsSome m.settings.rootDir base v.SameListings) := by
  refine ⟨m.records_announce i a, ?_⟩
  rintro h rfl ht
  unfold announce at ht ⊢
  split
  · next hskip =>
    rw [if_pos hskip] at ht
    obtain ⟨hok, herr⟩ := (Propagation.publish_meets rfl hi hh a.servers).holds h rfl ht
    refine ⟨fun u hu => ?_, fun fault hf => ?_⟩
    · obtain ⟨names, known, -, hk⟩ := hok u hu
      exact ⟨_, .published v _ _ names known, hk⟩
    · rcases (herr fault hf).holds with hk | ⟨names, -, hk⟩
      · exact ⟨v, .refl v, hk⟩
      · exact ⟨_, (Shelf.SameListings.write (by decide) (by decide) v _ _).trans
          (.revise _ names _), hk⟩
  · exact of_ok ⟨v, .refl v, hh⟩

/-- **The hosts files once a pod was attached**, or once that has failed.

**Proof sketch.** Entering the pod tells what becomes of the listings. The announcement and the
daemon's reading leave them as they are then, also when they fail. -/
theorem provision_registers (hi : i.IsBelow m.settings.rootDir) (a : Attachment) :
    (m.provision i a).Meets base (Host.Holds m.settings.rootDir base v)
      (fun _ => Host.HoldsSome m.settings.rootDir base (v.Registers m.settings.rootDir i.network
        (HostsFile.entry a.podName a.aliases a.containerIps)))
      (fun _ => Host.HoldsSome m.settings.rootDir base (v.Registers m.settings.rootDir i.network
        (HostsFile.entry a.podName a.aliases a.containerIps))) := by
  refine ⟨m.records_provision i a, fun h hh ht => ?_⟩
  rw [provision_eq, run_bind] at ht ⊢
  rcases (m.enter_ends a hh hi).cases with
    ⟨_, k₁, hr, -, v₁, -, hed, hreg⟩ | ⟨fault, k₁, hr, ⟨v', hed, hreg⟩, -⟩
  · rw [hr] at ht ⊢
    have hrest := (announce_sameListings hi a hed.holds).bind
      fun _ => i.supervisor.serves_hup_some m.settings.rootDir base v₁.SameListings
    obtain ⟨hok, herr⟩ := hrest.after rfl hed.edits.journal_prefix ht
    refine ⟨fun u hu => ?_, fun fault hf => ?_⟩
    · obtain ⟨v₂, hsame, hk⟩ := hok u hu
      exact ⟨v₂, hreg.trans_same hsame, hk⟩
    · obtain ⟨v₂, hsame, hk⟩ := herr fault hf
      exact ⟨v₂, hreg.trans_same hsame, hk⟩
  · rw [hr]
    exact of_error ⟨v', hreg, hed.holds⟩

/-- **The hosts files once a pod was detached**, or once that has failed.

**Proof sketch.** The pod is taken out, which releases it. The daemon's reading leaves the listings
so. A network that is taken down loses them, and a failure on the way has only revised siblings. -/
theorem cleanUp_releases (hi : i.IsBelow m.settings.rootDir) (a : Attachment) :
    (m.cleanUp i a).Meets base (Host.Holds m.settings.rootDir base v)
      (fun _ => Host.HoldsSome m.settings.rootDir base
        (v.Releases m.settings.rootDir i.network a.podName))
      (fun _ => Host.HoldsSome m.settings.rootDir base
        (v.Releases m.settings.rootDir i.network a.podName)) := by
  refine ⟨m.records_cleanUp i a, fun h hh ht => ?_⟩
  rw [cleanUp_eq, run_bind] at ht ⊢
  rcases (m.takeOut_ends hi a hh).cases with
    ⟨left, k, hr, v₁, hout, hed⟩ | ⟨fault, k, hr, hed, hno⟩
  · rw [hr] at ht ⊢
    dsimp only at ht ⊢
    cases left with
    | true =>
      rw [if_pos rfl] at ht ⊢
      exact (i.supervisor.serves_hup_some m.settings.rootDir base
        (v.Releases m.settings.rootDir i.network a.podName)).after ⟨v₁, hout.releases, hed.holds⟩
        hed.edits.journal_prefix ht
    | false =>
      rw [if_neg (by simp)] at ht ⊢
      obtain ⟨hok, herr⟩ :=
        (m.tearDown_meets rfl hi a).after hed.holds hed.edits.journal_prefix ht
      refine ⟨fun u hu => ?_, fun fault hf => ?_⟩
      · obtain ⟨names, -, hk⟩ := hok u hu
        refine ⟨_, hout.releases_of_removed ?_, hk⟩
        split
        · exact .revise v₁ names _
        · exact .refl v₁
      · obtain ⟨names, hk⟩ := herr fault hf
        exact ⟨_, hout.releases.trans_same (.revise v₁ names _), hk⟩
  · rw [hr]
    refine of_error ⟨v, ⟨fun _ _ => ⟨rfl, rfl⟩, fun s hs => ⟨rfl, s, hs⟩, fun t ht _ => .inr ⟨ht,
      fun ha => hno ⟨ha, ?_⟩⟩⟩, hed.holds⟩
    -- a network with a hosts file is there
    by_contra hnet
    rw [Bool.not_eq_true] at hnet
    rw [← hh.shelf_eq] at hnet ht
    rw [hh.inOrder.tidy.text?_eq_none hnet] at ht
    cases ht

/-- **A pod attached, or that undone.**

**Proof sketch.** An attachment that fails has entered the pod or not, and the cleanup takes it out
of what it finds. The cleanup's own failure is only logged. -/
theorem provisionOrUndo_registers (hi : i.IsBelow m.settings.rootDir) (a : Attachment) :
    (m.provisionOrUndo i a).Meets base (Host.Holds m.settings.rootDir base v)
      (fun _ => Host.HoldsSome m.settings.rootDir base (v.Registers m.settings.rootDir i.network
        (HostsFile.entry a.podName a.aliases a.containerIps)))
      (fun _ => Host.HoldsSome m.settings.rootDir base fun v' =>
        ∃ v₁, v.Registers m.settings.rootDir i.network
            (HostsFile.entry a.podName a.aliases a.containerIps) v₁ ∧
          v₁.Releases m.settings.rootDir i.network a.podName v') := by
  refine ⟨m.records_provisionOrUndo i a, fun h hh ht => ?_⟩
  have hrec := m.records_provision i a h
  have hspec := (provision_registers hi a).holds h hh
  rcases hr : m.provision i a h with ⟨fault | u, k₁⟩ <;> rw [hr] at hrec hspec
  · obtain ⟨k, hrun, hundone⟩ := provisionOrUndo_of_error hr
    obtain ⟨hdisk, es, hes, -⟩ := id hundone
    rw [hrun] at ht ⊢
    have hlater : k₁.journal <+: k.journal := (m.records_cleanUp i a k₁).trans ⟨es, hes.symm⟩
    obtain ⟨v₁, hreg, hk₁⟩ := (hspec ((Host.Tame.split hrec hlater).mp ht).1).2 fault rfl
    have hclean := (cleanUp_releases hi a).holds k₁ hk₁ (hundone.tame hrec ht)
    have hleft : (m.cleanUp i a k₁).2.HoldsSome m.settings.rootDir base
        (v₁.Releases m.settings.rootDir i.network a.podName) := by
      cases hres : (m.cleanUp i a k₁).1 with
      | ok u => exact hclean.1 u hres
      | error second => exact hclean.2 second hres
    obtain ⟨v', hrel, hk⟩ := hleft
    exact of_error ⟨v', ⟨v₁, hreg, hrel⟩, hk.of_disk hdisk⟩
  · have hrun : m.provisionOrUndo i a h = (.ok (), k₁) := by
      unfold provisionOrUndo
      rw [run_bind, run_attempt, hr]
      rfl
    rw [hrun] at ht ⊢
    exact of_ok ((hspec ht).1 u rfl)

/-! ## Runs -/

/-- A network with a hosts file is there. -/
lemma Stores.listed (hs : m.Stores base v h) {n t : Text}
    (ht : h.disk.fileText base n hostsName = some t) :
    v.isNetwork n = true ∧ v.text? n hostsName = some t := by
  have htext : v.text? n hostsName = some t := by
    rw [← hs.shelf_eq, text?_shelf_eq (by decide)]
    exact ht
  refine ⟨?_, htext⟩
  by_contra hno
  rw [Bool.not_eq_true] at hno
  rw [hs.text?_eq_none hno] at htext
  cases htext

/-- What an action on an instance makes of the networks, under the lock or not begun.

**Proof sketch.** The action is not begun, and at most the root was made; or it runs with the lock
held, on the shelf as it was, and giving the lock back changes no file. -/
lemma Stores.attended {body : Instance → Action Unit} {R : Shelf → Prop}
    (hs : m.Stores base v h) (ht : Host.Tame base h (m.attended a body h).2) (hv : R v)
    (hbody : ∀ i, m.IsFor i a → (body i).Meets base (Host.Holds m.settings.rootDir base v)
      (fun _ => Host.HoldsSome m.settings.rootDir base R)
      (fun _ => Host.HoldsSome m.settings.rootDir base R)) :
    ∃ v', R v' ∧ m.Stores base v' (m.attended a body h).2 := by
  rcases m.attended_cases a h with ⟨fault, k, hk, hrun⟩ | ⟨-, binary, ids, hb, hrun⟩
  · rw [hrun]
    rcases hk with rfl | rfl
    · exact ⟨v, hv, hs⟩
    · exact ⟨v, hv, .inl hs.holds_withRoot⟩
  · obtain ⟨ids', hrun⟩ := hrun body
    have hmeets := hbody _ ⟨hb, rfl, rfl⟩
    have hroot : h.journal <+: (m.withRoot h).journal :=
      (Files.prepared_makeDirectories LockGuard.rootMode m.settings.rootDir h).records
    have hholds : Host.Holds m.settings.rootDir base v { m.withRoot h with held := ids } :=
      hs.holds_withRoot.of_disk rfl
    rw [hrun] at ht ⊢
    obtain ⟨hok, herr⟩ := hmeets.after hholds hroot ht
    have hleft : (body (m.settings.instanceOf binary a)
        { m.withRoot h with held := ids }).2.HoldsSome m.settings.rootDir base R := by
      cases hr : (body (m.settings.instanceOf binary a) { m.withRoot h with held := ids }).1 with
      | ok u => exact hok u hr
      | error fault => exact herr fault hr
    obtain ⟨v', hv', hk⟩ := hleft
    exact ⟨v', hv', .inl (hk.of_disk rfl)⟩

/-- **Any move** keeps what is kept where a pod is entered and where one is taken out.

**Proof sketch.** An attachment enters a pod, and if it fails takes it out again; a detachment
takes one out; a killed process changes no file. -/
theorem Stores.listings {J : Shelf → Prop}
    (hreg : ∀ v n s v', v.Registers m.settings.rootDir n s v' → J v → J v')
    (hrel : ∀ v n pod v', v.Releases m.settings.rootDir n pod v' → J v → J v')
    (hs : m.Stores base v h) (hv : J v) (move : Move) (ht : Host.Tame base h (m.step h move)) :
    ∃ v', m.Stores base v' (m.step h move) ∧ J v' := by
  cases move with
  | add a =>
    rw [step_add, snd_add] at ht ⊢
    obtain ⟨v', hv', hs'⟩ := hs.attended ht hv fun i hi =>
      (provisionOrUndo_registers hi.below a).mono (fun _ hh => hh)
        (fun _ _ ⟨v', hreg', hk⟩ => ⟨v', hreg _ _ _ _ hreg' hv, hk⟩)
        fun _ _ ⟨v', ⟨v₁, hreg', hrel'⟩, hk⟩ =>
          ⟨v', hrel _ _ _ _ hrel' (hreg _ _ _ _ hreg' hv), hk⟩
    exact ⟨v', hs', hv'⟩
  | del a =>
    rw [step_del, del_eq] at ht ⊢
    obtain ⟨v', hv', hs'⟩ := hs.attended ht hv fun i hi =>
      (cleanUp_releases hi.below a).mono (fun _ hh => hh)
        (fun _ _ ⟨v', hrel', hk⟩ => ⟨v', hrel _ _ _ _ hrel' hv, hk⟩)
        fun _ _ ⟨v', hrel', hk⟩ => ⟨v', hrel _ _ _ _ hrel' hv, hk⟩
    exact ⟨v', hs', hv'⟩
  | kill pid => exact ⟨v, hs.kill pid, hv⟩

/-- **Configurations after any run** from an empty root: each network with a hosts file has one. -/
theorem Along.configured {moves : List Move} (h₀ : m.StartsEmpty base h)
    (hrun : m.Along (fun k move => Host.Tame base k (m.step k move)) h moves) :
    ∃ v, m.Stores base v (m.play h moves) ∧ v.Configured :=
  hrun.stores h₀ (fun _ _ ht => by cases ht) fun _ _ move hs hv ht => hs.listings
    (fun _ _ _ _ hreg => hreg.configured) (fun _ _ _ _ hrel => hrel.configured) hv move ht

end Mesh

end Operations

/-! ## The daemon of the network -/

/-- From one host to a later one, an operation on a network has kept to its frame, and no daemon was
killed but those of other networks and those that were started since. -/
structure Host.OthersKilled (root : Path) (base : Location) (n : Text) (h k : Host) : Prop where
  /-- The operation has kept to its frame. -/
  framed : Framed root base n h k
  /-- Whom it has killed. -/
  killed : ∀ pid, .signalled pid Signal.terminate ∈ h.since k →
    h.nextPid ≤ pid ∨ ∃ p ≠ n, h.disk.NamesPid base p pid

namespace Host.OthersKilled

variable {m : Mesh} {root : Path} {base : Location} {n : Text} {i : Instance} {a : Attachment}
  {h k l : Host} {v : Shelf}

/-- Nobody has been killed yet. -/
lemma refl (root : Path) (base : Location) (n : Text) (h : Host) : OthersKilled root base n h h :=
  ⟨.refl root base n h, fun pid hs => by simp [since] at hs⟩

/-- Something more was done within the frame, and the daemon of the network was not killed. -/
lemma extend (hk : OthersKilled root base n h k) (hf : Framed root base n h l)
    (hrec : k.journal <+: l.journal) (hno : ∀ pid, .signalled pid Signal.terminate ∈ k.since l →
      h.nextPid ≤ pid ∨ ∃ p ≠ n, h.disk.NamesPid base p pid) : OthersKilled root base n h l := by
  refine ⟨hf, fun pid hs => ?_⟩
  rw [since_append hk.framed.journal hrec, List.mem_append] at hs
  exact hs.elim (hk.killed pid) (hno pid)

/-- Something that has nothing to do with a daemon. -/
lemma extend_quiet (hk : OthersKilled root base n h k) (hf : Framed root base n h l)
    {es : List Event} (hj : l.journal = k.journal ++ es) (hq : ∀ e ∈ es, e.isQuiet = true) :
    OthersKilled root base n h l := by
  refine hk.extend hf ⟨es, hj.symm⟩ fun pid hs => ?_
  rw [since_of_journal hj] at hs
  cases hq _ hs

/-- **A sibling told**, and its daemon restarted.

**Proof sketch.** Writing the sibling's forwarders kills nobody. The restart kills whom the
sibling's pid file names, and that file is either as it was on the host at first, or names a daemon
that was started since. -/
theorem apply (hk : OthersKilled root base n h k) {u : SiblingUpdate}
    (hu : u.sibling.IsBelow root) (hl : k.disk.Linkless root base) (hne : u.sibling.network ≠ n) :
    OthersKilled root base n h (u.apply k).2 := by
  have hf := hk.framed.apply hu hl hne
  rcases hl.apply_cases hu with ⟨w, hr, hnet, hw⟩ | ⟨fault, hr⟩ <;> rw [hr] at hf ⊢
  · have hframed := hk.framed.filed (by decide)
      (.inr ⟨_, hne, (hk.framed.networks _ hne).mp hnet, rfl⟩) hw
    have hwritten := hk.extend_quiet hframed (Host.Filed.journal hw) (by simp [Event.isQuiet])
    have ht := u.sibling.supervisor.tended_restartIfRunning w
    refine hwritten.extend hf ht.records fun pid hs => ?_
    -- the pid file of the sibling names whom is killed
    have hnames := (ht.signalled pid _ hs).1
    have hlw : w.disk.Linkless root base := Filed.linkless hw hl
    rw [hu.pidFile, hlw.read_pidFile_iff hu.name] at hnames
    obtain ⟨-, -, t, htext, hpid⟩ := hnames
    rcases hframed.pidFile _ t htext with hsame | ⟨q, hq, rfl⟩
    · exact .inr ⟨u.sibling.network, hne, t, hsame, hpid⟩
    · exact .inl (PidFile.eq_of_ofText_pidLine hpid ▸ hq)
  · exact hk

/-- **The daemon of the network reads its files**, which does not kill it.

**Proof sketch.** If it does not run, a start signals nobody. If it runs, the signal is the one to
read again. -/
theorem hup (hk : OthersKilled root base i.network h k) (hi : i.IsBelow root)
    (hl : k.disk.Linkless root base) :
    OthersKilled root base i.network h (i.supervisor.hup k).2 := by
  have hf := hk.framed.tended hi hl (i.supervisor.tended_hup k) (.inl rfl)
  cases hs : i.supervisor.stateOn k with
  | notRunning =>
    rw [Supervisor.hup_of_notRunning hs] at hf ⊢
    have ht := i.supervisor.tended_start (fun _ => False) k
    exact hk.extend hf ht.records fun pid hs => (ht.signalled pid _ hs).elim
  | running p =>
    rw [Supervisor.hup_of_running hs] at hf ⊢
    refine hk.extend hf (List.prefix_append _ _) fun pid hs => ?_
    rw [since_of_journal rfl, List.mem_singleton] at hs
    cases hs

/-- **The requests of an attachment** do not kill the daemon of the network. -/
theorem attachingKeeps (m : Mesh) (base : Location) {i : Instance} (a : Attachment) (h : Host)
    (hi : i.IsBelow m.settings.rootDir) :
    m.AttachingKeeps base i a (OthersKilled m.settings.rootDir base i.network h) :=
  have hframe := Framed.attachingKeeps m base a h hi
  { call := fun hk => hk.extend_quiet (hframe.call hk.framed) rfl (by simp [Event.isQuiet])
    opened := fun hk hl hp =>
      hk.extend_quiet (hframe.opened hk.framed hl hp) hp.journal (by simp [Event.isQuiet])
    filed := fun hk hl hnet hputs hw => hk.extend_quiet (hframe.filed hk.framed hl hnet hputs hw)
      hw.journal (by simp [Event.isQuiet])
    told := fun _ _ hls hfound hu _ hk hl =>
      hk.apply (hfound.noted hls hi hu).1 hl (hfound.noted hls hi hu).2.1
    learnt := fun hs hls hfound hrec hk hl hnet hw =>
      hk.extend_quiet (hframe.learnt hs.framed hls hfound hrec hk.framed hl hnet hw)
        (by rw [Host.record, Host.Filed.journal hw, List.append_assoc]) (by simp [Event.isQuiet])
    hup := fun hk hl => hk.hup hi hl }

/-- **A pod detached while others are left** does not kill the daemon of the network.

**Proof sketch.** Taking the pod out is quiet. The hosts file is not empty afterwards, so the
daemon is told to read its files and the network is not taken down. -/
theorem cleanUp (hk : OthersKilled m.settings.rootDir base i.network h k)
    (hi : i.IsBelow m.settings.rootDir) (hh : k.Holds m.settings.rootDir base v)
    (hleft : ∃ t, v.text? i.network hostsName = some t ∧ HostsFile.without a.podName t ≠ []) :
    OthersKilled m.settings.rootDir base i.network h (m.cleanUp i a k).2 := by
  obtain ⟨t, ht, hne⟩ := hleft
  have hl := hh.inOrder.linkless
  have htaken := (Framed.detachingKeeps m base a h hi).keeps_takeOut hi k ⟨hl, hk.framed⟩
  rw [Mesh.cleanUp_eq, run_bind]
  rcases (m.takeOut_ends hi a hh).cases with
    ⟨left, w, hr, v₁, hout, hed⟩ | ⟨fault, w, hr, hed, -⟩ <;> rw [hr] at htaken ⊢
  · obtain ⟨es, hes, hq⟩ := hed.edits.journal
    obtain rfl : left = true := by
      rcases hout with ⟨hnone, -⟩ | ⟨t', ht', hleft, -⟩
      · rw [ht] at hnone
        cases hnone
      · rw [ht] at ht'
        cases ht'
        rw [hleft, List.isEmpty_eq_false_iff.mpr hne, Bool.not_false]
    exact (hk.extend_quiet htaken.2 hes hq).hup hi htaken.1
  · obtain ⟨es, hes, hq⟩ := hed.edits.journal
    exact hk.extend_quiet htaken.2 hes hq

/-- **A failed attachment while others are listed** does not kill the daemon of the network.

**Proof sketch.** The failed attachment has entered the pod at most, so the lines of others are
still in the hosts file when the cleanup reads it. Then the cleanup does not take the network down.
-/
theorem provisionOrUndo {t : Text} {fault : Fault} (hi : i.IsBelow m.settings.rootDir)
    (hh : h.Holds m.settings.rootDir base v) (htame : Tame base h k) (ha : a.IsListable)
    (ht : v.text? i.network hostsName = some t) (hcan : HostsFile.IsCanonical t)
    (hne : HostsFile.without a.podName t ≠ [])
    (hr : m.provisionOrUndo i a h = (.error fault, k)) :
    OthersKilled m.settings.rootDir base i.network h k := by
  have hattached := (attachingKeeps m base a h hi).keeps_provision hi h
    ⟨hh.inOrder.linkless, .refl _ _ _ h⟩
  have hframed := (Framed.detachingKeeps m base a h hi).keeps_provisionOrUndo hi
    ⟨hattached.1, hattached.2.framed⟩
  have hrec := m.records_provision i a h
  have hspec := (Mesh.provision_registers hi a).holds h hh
  rcases hp : m.provision i a h with ⟨first | u, k₁⟩ <;> rw [hp] at hattached hrec hspec
  swap
  · unfold Mesh.provisionOrUndo at hr
    rw [run_bind, run_attempt, hp] at hr
    cases hr
  obtain ⟨k', hrun, -, es, hes, hq⟩ := Mesh.provisionOrUndo_of_error hp
  rw [hr] at hrun hframed
  obtain rfl : k' = k := (congrArg Prod.snd hrun).symm
  have hlater : k₁.journal <+: k'.journal := (m.records_cleanUp i a k₁).trans ⟨es, hes.symm⟩
  obtain ⟨v₁, hreg, hk₁⟩ := (hspec ((Tame.split hrec hlater).mp htame).1).2 first rfl
  have hleft : ∃ t', v₁.text? i.network hostsName = some t' ∧
      HostsFile.without a.podName t' ≠ [] := by
    rcases hreg.hosts with hsame | ⟨-, -, happended⟩
    · exact ⟨t, hsame.trans ht, hne⟩
    · refine ⟨_, happended, ?_⟩
      rw [ht, Option.getD_some, HostsFile.without_append_of_isOnlyOf hcan
        (HostsFile.isOnlyOf_entry ha.ne_nil ha.word ha.aliases _)]
      exact hne
  exact (hattached.2.cleanUp hi hk₁ hleft).extend_quiet hframed hes hq

end Host.OthersKilled

/-! ## The other pods -/

/-- What an attachment that has failed has left alone of its network, whose hosts file held a text
`t`. -/
structure Mesh.PodsSpared (base : Location) (a : Attachment) (t : Text) (h k : Host) : Prop where
  /-- The network is there. -/
  network : k.disk.HasNetwork base a.network
  /-- Its configuration is what it was. -/
  config : ∃ c, h.disk.fileText base a.network configName = some c ∧
    k.disk.fileText base a.network configName = some c
  /-- The lines of other pods are listed in their order. -/
  others : ∃ t', k.disk.fileText base a.network hostsName = some t' ∧
    (Text.lines t').filter (!HostsFile.isOf a.podName ·) =
      (Text.lines t).filter (!HostsFile.isOf a.podName ·)
  /-- If the pod was not listed, the hosts file is what it was. -/
  unlisted : (∀ l ∈ Text.lines t, HostsFile.isOf a.podName l = false) →
    k.disk.fileText base a.network hostsName = some t
  /-- The daemon of the network was not killed. -/
  daemon : ∀ pid : Nat, h.isAlive pid = true → h.disk.NamesPid base a.network pid →
    .signalled pid Signal.terminate ∉ h.since k

section Spared

variable {m : Mesh} {base : Location} {o h k : Host} {a : Attachment} {v v' : Shelf} {t : Text}

/-- What is told by the networks before and after.

**Proof sketch.** The shelves of both hosts tell what the files hold. The lines of the hosts file
are read off the text with and without the pod's; a text without lines of the pod is the same in
both cases. -/
lemma Mesh.PodsSpared.of_holds (hh : h.Holds m.settings.rootDir base v)
    (hk : k.Holds m.settings.rootDir base v') (hcan : HostsFile.IsCanonical t)
    (hconfig : ∃ c, v.text? a.network configName = some c ∧ v'.text? a.network configName = some c)
    (hhosts : v'.text? a.network hostsName =
        some (Text.unlines (HostsFile.without a.podName t)) ∨
      v'.text? a.network hostsName = some t)
    (hdaemon : ∀ pid : Nat, h.isAlive pid = true → h.disk.NamesPid base a.network pid →
      .signalled pid Signal.terminate ∉ h.since k) : PodsSpared base a t h k := by
  have htext : ∀ f ≠ pidName, h.disk.fileText base a.network f = v.text? a.network f ∧
      k.disk.fileText base a.network f = v'.text? a.network f := by
    intro f hf
    rw [← hh.shelf_eq, ← hk.shelf_eq, text?_shelf_eq hf, text?_shelf_eq hf]
    exact ⟨rfl, rfl⟩
  rw [← (htext hostsName (by decide)).2] at hhosts
  refine ⟨?_, ?_, ?_, fun hnone => ?_, hdaemon⟩
  · rcases hhosts with hhosts | hhosts <;> exact hk.inOrder.tidy.hasNetwork_of_fileText hhosts
  · rw [(htext configName (by decide)).1, (htext configName (by decide)).2]
    exact hconfig
  · rcases hhosts with hhosts | hhosts
    · refine ⟨_, hhosts, ?_⟩
      rw [hcan.lines_unlines_without, hcan.without_eq, List.filter_filter]
      simp
    · exact ⟨t, hhosts, rfl⟩
  · rcases hhosts with hhosts | hhosts
    · rw [hhosts, hcan.without_eq, List.filter_eq_self.mpr fun l hl => by rw [hnone l hl]; rfl,
        hcan.unlines_lines]
    · exact hhosts

/-- **A failed attachment spares the other pods.** In a run from an empty root with tame daemons,
let the hosts file of a network be canonical and list another pod. Wherever adding a pod to the
network fails, and whatever becomes of its undoing, the network and its configuration are still
there, the lines of the other pods are kept in their order, and the daemon of the network was not
killed, if no live process is named by two pid files. If the pod was not listed, the hosts file is
what it was.

**Proof sketch.** Until its failure the attachment has put the pod's lines at the end of the hosts
file, or nothing. Taking the pod out leaves the other lines, of which there is one, so the network
is not taken down; and that can fail only where the lines could not have been put there. -/
theorem failed_attachment_spares_pods (h₀ : m.StartsEmpty base o) (hpids : o.GivesFreshPids)
    {moves : List Move}
    (hrun : m.Along (fun k move => Host.Tame base k (m.step k move)) o moves)
    (hh : m.play o moves = h)
    (hunshared : ∀ n p (pid : Nat), h.isAlive pid = true → h.disk.NamesPid base n pid →
      h.disk.NamesPid base p pid → n = p)
    (ha : a.IsListable) (ht : h.disk.fileText base a.network hostsName = some t)
    (hcan : HostsFile.IsCanonical t)
    (hother : ∃ l ∈ Text.lines t, HostsFile.isOf a.podName l = false) {fault : Fault}
    (hr : m.add a h = (.error fault, k)) (htame : Host.Tame base h k) :
    Mesh.PodsSpared base a t h k := by
  obtain ⟨v, hs, hv⟩ := hrun.configured h₀
  have hfresh := hpids.play (m := m) moves
  rw [hh] at hs hfresh
  obtain ⟨hnet, htext⟩ := hs.listed ht
  have hholds := hs.holds hnet
  obtain ⟨c, hc⟩ := hv _ t htext
  have hroot : m.withRoot h = h := congrArg Prod.snd (hholds.opens LockGuard.rootMode)
  have hidle : Mesh.PodsSpared base a t h h :=
    .of_holds hholds hholds hcan ⟨c, hc, hc⟩ (.inr htext) fun pid _ _ hmem => by
      simp [Host.since] at hmem
  have hne : HostsFile.without a.podName t ≠ [] := by
    obtain ⟨l, hl, hof⟩ := hother
    rw [hcan.without_eq]
    exact List.ne_nil_of_mem (List.mem_filter.mpr ⟨hl, by rw [hof]; rfl⟩)
  rcases Mesh.of_add_error hr with rfl | rfl | ⟨-, i, ids, ids', l, hi, hrun', rfl⟩
  · exact hidle
  · rw [hroot]
    exact hidle
  rw [hroot] at hrun'
  have hheld : Host.Holds m.settings.rootDir base v { h with held := ids } := hholds.of_disk rfl
  have htame' : Host.Tame base { h with held := ids } l := htame
  have hspec := (Mesh.provisionOrUndo_registers hi.below a).holds _ hheld
  rw [hrun'] at hspec
  obtain ⟨v', ⟨v₁, hreg, hrel⟩, hl⟩ := (hspec htame').2 fault rfl
  rw [hi.network] at hreg hrel
  have hentry := HostsFile.isOnlyOf_entry ha.ne_nil ha.word ha.aliases a.containerIps
  have hhosts := hrel.hosts_of_registers hreg htext hcan hentry hne
  have hkilled := Host.OthersKilled.provisionOrUndo hi.below hheld htame' ha
    (by rw [hi.network]; exact htext) hcan hne hrun'
  have hkept : v'.text? a.network configName = v₁.text? a.network configName := by
    rcases hhosts with hhosts | hhosts <;> exact (hrel.there _ hhosts).1
  refine .of_holds hholds (hl.of_disk rfl) hcan ⟨c, hc, hkept.trans (hreg.config c hc)⟩
    hhosts fun pid hlive hnames hmem => ?_
  rcases hkilled.killed pid hmem with hlater | ⟨p, hp, hnames'⟩
  · have hgiven := hfresh.lt_of_isAlive hlive
    exact absurd hgiven (not_lt.mpr hlater)
  · exact hp (hi.network ▸ hunshared p a.network pid hlive hnames' hnames)

end Spared

namespace Sample

/-- The mesh with a hook that refuses the chain of one interface. -/
def choosyMesh : Mesh :=
  { mesh with
    chain := ⟨fun _ call => if call = .ensure "eth1".toList then
      some (.invalidConfig "no chain".toList) else none⟩ }

/-- Two pods are added to a network. -/
def crowdedMoves : List Move :=
  [.add (pod "b" "y" "q" (octets 10 2 0 1)), .add (pod "b" "y" "p" (octets 10 2 0 1))]

/-- The second of them, by the interface that is refused. -/
def refusedPod : Attachment :=
  { pod "b" "y" "p" (octets 10 2 0 1) with interface := "eth1".toList }

/-- The host after that. -/
def crowded : Host := choosyMesh.play (host [daemon]) crowdedMoves

/-- What the hosts file holds. -/
def crowdedHosts : Text := "10.9.0.5\tq\n10.9.0.5\tp\n".toList

/-- The crowded hosts file has two lines, each ended by a line feed. -/
lemma isCanonical_crowdedHosts : HostsFile.IsCanonical crowdedHosts :=
  ⟨["10.9.0.5\tq".toList, "10.9.0.5\tp".toList], by decide, by decide⟩

/-- The name of the refused pod is one word, and it has no alias. -/
lemma isListable_refusedPod : refusedPod.IsListable := by
  have hword : refusedPod.podName.all (fun c => !Text.isBlank c) = true := by decide
  refine ⟨by decide, fun c hc => ?_, fun x hx => ?_⟩
  · simpa using List.all_eq_true.mp hword c hc
  · cases hx

end Sample

/-- Two pods share a network when the second is added again and its chain is refused. It loses its
lines, and the first keeps the network, whose daemon lives on.

**Proof sketch.** What is read off the concrete run is computed at once, and so are the conditions
on its moves. The theorem is then applied to the crowded host. -/
theorem failed_attachment_spares_pods_of_refusal :
    (Sample.crowded.disk.fileText Sample.base "b".toList pidName = some "100\n".toList ∧
      Sample.crowded.isAlive 100 = true ∧
      (Sample.choosyMesh.add Sample.refusedPod Sample.crowded).1 =
        .error (.invalidConfig "no chain".toList) ∧
      (Sample.choosyMesh.add Sample.refusedPod Sample.crowded).2.disk.fileText Sample.base
        "b".toList hostsName = some "10.9.0.5\tq\n".toList) ∧
      Mesh.PodsSpared Sample.base Sample.refusedPod Sample.crowdedHosts Sample.crowded
        (Sample.choosyMesh.add Sample.refusedPod Sample.crowded).2 := by
  -- all that is read off the run, so that it is made once
  have hread : (Sample.crowded.disk.fileText Sample.base "b".toList pidName =
          some "100\n".toList ∧ Sample.crowded.isAlive 100 = true ∧
        (Sample.choosyMesh.add Sample.refusedPod Sample.crowded).1 =
          .error (.invalidConfig "no chain".toList) ∧
        (Sample.choosyMesh.add Sample.refusedPod Sample.crowded).2.disk.fileText Sample.base
          "b".toList hostsName = some "10.9.0.5\tq\n".toList) ∧
      Sample.crowded.disk.fileText Sample.base "b".toList hostsName = some Sample.crowdedHosts ∧
      (∀ e ∈ Sample.crowded.disk.tree.entries, Sample.base <+: e.1.loc →
        e.1.loc = Sample.base ∨ Sample.base ++ [Name.text "b".toList] <+: e.1.loc) ∧
      Host.Tame Sample.base Sample.crowded
        (Sample.choosyMesh.add Sample.refusedPod Sample.crowded).2 := by decide +kernel
  have hrun : Sample.choosyMesh.Along
      (fun k move => Host.Tame Sample.base k (Sample.choosyMesh.step k move))
      (Sample.host [Sample.daemon]) Sample.crowdedMoves := by decide +kernel
  have hplay : Sample.choosyMesh.play (Sample.host [Sample.daemon]) Sample.crowdedMoves =
      Sample.crowded := rfl
  generalize Sample.crowded = h at *
  obtain ⟨⟨hpid, hlive, herr, hleft⟩, ht, honly, htame⟩ := hread
  have hb : ∀ n pid, h.disk.NamesPid Sample.base n pid → n = "b".toList := by
    rintro n pid ⟨s, hs, -⟩
    unfold fileText at hs
    cases he : h.disk.tree.get? (Sample.base ++ [Name.text n, .text pidName]) with
    | none => simp [he] at hs
    | some e =>
      obtain ⟨x, hx, hloc⟩ := FileTree.exists_of_get? he
      have hplace := honly x hx (by rw [hloc]; exact List.prefix_append _ _)
      rw [hloc, List.prefix_append_right_inj, List.append_right_eq_self] at hplace
      rcases hplace with hnil | ⟨_, hcons⟩
      · cases hnil
      · exact (Name.text.inj (List.cons.inj hcons).1).symm
  have hempty : Sample.choosyMesh.StartsEmpty Sample.base (Sample.host [Sample.daemon]) :=
    ⟨(Sample.startsEmpty _).shelf_eq, (Sample.startsEmpty _).opens⟩
  have hpids : (Sample.host [Sample.daemon]).GivesFreshPids :=
    ⟨by decide, fun p hp => by cases hp⟩
  refine ⟨⟨hpid, hlive, herr, hleft⟩, ?_⟩
  exact failed_attachment_spares_pods hempty hpids hrun hplay
    (fun n p pid _ hn hp => (hb n pid hn).trans (hb p pid hp).symm) Sample.isListable_refusedPod ht
    Sample.isCanonical_crowdedHosts ⟨"10.9.0.5\tq".toList, by decide, by decide⟩
    (Prod.ext herr rfl) htame

end ResolverMesh
