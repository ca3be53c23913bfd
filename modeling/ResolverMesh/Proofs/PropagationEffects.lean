import ResolverMesh.Proofs.DaemonEffects
import ResolverMesh.Proofs.ForwarderLines

set_option autoImplicit false
set_option relaxedAutoImplicit false

/-!
# What propagation does to the root

Publishing and withdrawing, seen from what the networks hold. Each sibling's forwarders are
revised in turn, and a failure on the way leaves the revisions of the siblings before it. A look
at the siblings that ends at a claimed domain has changed nothing but the network's own file.

## Main definitions

* `ResolverMesh.Instance.IsBelow` — the instance of a network below a root.
* `ResolverMesh.Shelf.published`, `ResolverMesh.Shelf.forwarders` — the forwarders to a network
  and those that its daemon uses.
* `ResolverMesh.Shelf.revise` — the networks with the forwarders of some of them revised.

## Main results

* `ResolverMesh.Propagation.survey_spec` — what a look at the siblings finds.
* `ResolverMesh.Propagation.applyAll_meets` — updates applied.
* `ResolverMesh.Propagation.publish_meets` — an instance's forwarders made known.
* `ResolverMesh.Propagation.withdraw_meets` — an instance's forwarders taken back.
-/

namespace ResolverMesh

open ResolverMesh.Action Disk

/-! ## Instances and their files -/

/-- The instance of a network below a root. -/
structure Instance.IsBelow (i : Instance) (root : Path) : Prop where
  /-- Its directory is that of the network. -/
  dir : i.dir = root.join i.network
  /-- The network has a proper name. -/
  name : Settings.isNetworkName i.network = true

namespace Instance.IsBelow

variable {i : Instance} {root : Path}

/-- The configuration of a network below the root. -/
lemma configFile (h : i.IsBelow root) : i.configFile = root.fileOf i.network configName := by
  rw [Instance.configFile, h.dir]
  rfl

/-- Its pid file. -/
lemma pidFile (h : i.IsBelow root) : i.supervisor.pidFile = root.fileOf i.network pidName := by
  change i.pidFile = _
  rw [Instance.pidFile, h.dir]
  rfl

/-- Its hosts file. -/
lemma hostsFile (h : i.IsBelow root) : i.hostsFile = root.fileOf i.network hostsName := by
  rw [Instance.hostsFile, h.dir]
  rfl

/-- Its file of forwarders. -/
lemma localServersFile (h : i.IsBelow root) :
    i.localServersFile = root.fileOf i.network localServersName := by
  rw [Instance.localServersFile, h.dir]
  rfl

/-- The file of what it publishes. -/
lemma ownServersFile (h : i.IsBelow root) :
    i.ownServersFile = root.fileOf i.network ownServersName := by
  rw [Instance.ownServersFile, h.dir]
  rfl

end Instance.IsBelow

/-- **The instance of a network** is found if the network has a proper name and the daemon's
program is installed. -/
theorem Settings.resolve_eq (s : Settings) (n domain : Text) (multi : Bool) (h : Host) :
    (∃ i, s.resolve n domain multi h = .ok i ∧ i.IsBelow s.rootDir ∧ i.network = n ∧
        i.domain = domain ∧ i.multiDomain = multi ∧ locate? h s.binary = some i.binary ∧
        i.user = s.user) ∨
      ∃ fault, s.resolve n domain multi h = .error fault ∧ fault.isDomainCollision = false ∧
        (isNetworkName n = false ∨ locate? h s.binary = none) := by
  unfold resolve
  split
  · next hn =>
    cases hl : locate? h s.binary with
    | none => exact .inr ⟨_, rfl, rfl, .inr rfl⟩
    | some binary => exact .inl ⟨_, rfl, ⟨rfl, hn⟩, rfl, rfl, rfl, rfl, rfl⟩
  · next hn => exact .inr ⟨_, rfl, rfl, .inl (by simpa using hn)⟩

/-! ## What the networks forward -/

/-- An instance that is found is that of the network. -/
lemma Settings.of_resolve_ok {s : Settings} {n domain : Text} {multi : Bool} {h : Host}
    {i : Instance} (hi : s.resolve n domain multi h = .ok i) :
    i.IsBelow s.rootDir ∧ i.network = n ∧ locate? h s.binary = some i.binary := by
  rcases s.resolve_eq n domain multi h with ⟨j, hj, hb, hn, -, -, hl, -⟩ | ⟨fault, hf, -⟩
  · rw [hj] at hi
    cases hi
    exact ⟨hb, hn, hl⟩
  · rw [hf] at hi
    cases hi

/-- An instance is found where the daemon's program is. -/
lemma Settings.exists_resolve {s : Settings} {h : Host} {n : Text}
    (hfound : (locate? h s.binary).isSome = true) (hn : isNetworkName n = true) (domain : Text)
    (multi : Bool) :
    ∃ i, s.resolve n domain multi h = .ok i ∧ i.IsBelow s.rootDir ∧ i.network = n := by
  rcases s.resolve_eq n domain multi h with ⟨i, hi, hb, hin, -⟩ | ⟨fault, -, -, hno | hno⟩
  · exact ⟨i, hi, hb, hin⟩
  · rw [hn] at hno
    cases hno
  · rw [hno] at hfound
    cases hfound

namespace Shelf

/-- The forwarders to a network, for the others. -/
def published (v : Shelf) (n : Text) : List Text :=
  Forwarders.ofText ((v.text? n ownServersName).getD [])

/-- The forwarders that a network's daemon uses. -/
def forwarders (v : Shelf) (n : Text) : List Text :=
  Forwarders.ofText ((v.text? n localServersName).getD [])

/-- The networks with the forwarders of those in a list written anew, where `revision` of a
network changes any. -/
def revise (v : Shelf) (names : List Text) (revision : Text → Forwarders.Revision) : Shelf where
  isNetwork := v.isNetwork
  text? n f :=
    if f = localServersName ∧ n ∈ names ∧ (revision n).changed = true then
      some (Forwarders.toText (revision n).lines)
    else v.text? n f

variable {v : Shelf} {names : List Text} {revision : Text → Forwarders.Revision}

/-- A revision adds no network and removes none. -/
@[simp]
lemma isNetwork_revise (n : Text) : (v.revise names revision).isNetwork n = v.isNetwork n := rfl

/-- Revising no network changes nothing. -/
@[simp]
lemma revise_nil : v.revise [] revision = v := by
  ext n f <;> simp [revise]

/-- One network revised, then the others. -/
lemma revise_cons (n : Text) :
    v.revise (n :: names) revision = (v.revise [n] revision).revise names revision := by
  ext m f x
  · rfl
  · simp only [revise, List.mem_cons, List.not_mem_nil, or_false]
    by_cases hn : m = n
    · subst hn
      by_cases hf : f = localServersName <;> by_cases hc : (revision m).changed = true <;>
        simp [hf, hc]
    · simp [hn]

/-- One network revised is its file written, if anything changes.

**Proof sketch.** Compared file by file: only the forwarder file of that network may be another
one. -/
lemma revise_singleton (n : Text) : v.revise [n] revision =
    if (revision n).changed = true then
      v.write n localServersName (Forwarders.toText (revision n).lines) else v := by
  ext m f x
  · split <;> rfl
  · split
    · next hc =>
      simp only [revise, text?_write, List.mem_singleton]
      by_cases hm : m = n <;> by_cases hf : f = localServersName <;> simp_all
    · next hc =>
      simp only [revise, List.mem_singleton]
      by_cases hm : m = n
      · simp [hm, hc]
      · simp [hm]

/-- Only files of forwarders are revised. -/
lemma text?_revise_of_ne {f : Text} (hf : f ≠ localServersName) (n : Text) :
    (v.revise names revision).text? n f = v.text? n f := by
  simp [revise, hf]

/-- The forwarders of a network in the list are written anew, if they change. -/
lemma text?_revise_of_mem {n : Text} (hn : n ∈ names) :
    (v.revise names revision).text? n localServersName =
      if (revision n).changed = true then some (Forwarders.toText (revision n).lines)
      else v.text? n localServersName := by
  simp only [revise, hn, true_and]

/-- A network that is not in the list is not revised. -/
lemma text?_revise_of_not_mem {n : Text} (hn : n ∉ names) (f : Text) :
    (v.revise names revision).text? n f = v.text? n f := by
  simp [revise, hn]

/-- Only the revisions of networks in the list count. -/
lemma revise_congr {r₁ r₂ : Text → Forwarders.Revision} (h : ∀ n ∈ names, r₁ n = r₂ n) :
    v.revise names r₁ = v.revise names r₂ := by
  ext n f x
  · rfl
  · by_cases hn : n ∈ names
    · simp [revise, h n hn]
    · rw [text?_revise_of_not_mem hn, text?_revise_of_not_mem hn]

end Shelf

/-- What a network publishes are the lines of its file on the disk. -/
lemma published_shelf (d : Disk) (base : Location) (n : Text) : (d.shelf base).published n =
    Forwarders.ofText ((d.fileText base n ownServersName).getD []) := by
  rw [Shelf.published, text?_shelf_eq (by decide)]

/-- So are its forwarders. -/
lemma forwarders_shelf (d : Disk) (base : Location) (n : Text) : (d.shelf base).forwarders n =
    Forwarders.ofText ((d.fileText base n localServersName).getD []) := by
  rw [Shelf.forwarders, text?_shelf_eq (by decide)]

section Requests

variable {h : Host} {root : Path} {base : Location} {v : Shelf} {n f : Text}

/-- **The lines of a file of a network** that is there are read, unless the file cannot be. -/
theorem Forwarders.readLines_eq (hl : h.disk.Linkless root base)
    (hn : Settings.isNetworkName n = true) (hf : IsFileName f) (hnet : h.disk.HasNetwork base n) :
    readLines (root.fileOf n f) h = match h.disk.unreadable? root base n f with
      | some e => .error (.io e)
      | none => .ok (ofText ((h.disk.fileText base n f).getD [])) := by
  have hread := hl.readText_eq hn hf hnet
  unfold readLines Files.readIfThere
  rw [Query.run_bind, hread]
  cases hu : h.disk.unreadable? root base n f with
  | some e => simp [ne_notFound_of_unreadable? hl hn hf hu]
  | none => cases h.disk.fileText base n f <;> rfl

/-- The lines of a text that a file of a network holds. -/
lemma Forwarders.readLines_of_fileText (hl : h.disk.Linkless root base)
    (hn : Settings.isNetworkName n = true) (hf : IsFileName f) (hnet : h.disk.HasNetwork base n)
    (ha : Admits (root.fileOf n f) n) {t : Text} (ht : h.disk.fileText base n f = some t) :
    readLines (root.fileOf n f) h = .ok (ofText t) := by
  rw [readLines_eq hl hn hf hnet, unreadable?_eq_none ha ht, ht]
  rfl

/-- The lines of a network's file of forwarders are read just if the system takes the path.

**Proof sketch.** In a root in order, reading a network's file gives its text or nothing, and fails
only where the path is not taken. -/
lemma Forwarders.readLines_file (hh : h.Holds root base v) (hn : v.isNetwork n = true)
    (hf : IsFileName f) (hpid : f ≠ pidName) :
    (Admits (root.fileOf n f) n ∧
        readLines (root.fileOf n f) h = .ok (ofText ((v.text? n f).getD []))) ∨
      (¬ Admits (root.fileOf n f) n ∧ ∃ e, readLines (root.fileOf n f) h = .error (.io e)) := by
  have hnet : h.disk.HasNetwork base n := by
    rw [← isNetwork_shelf_iff, hh.shelf_eq]
    exact hn
  have htext : v.text? n f = h.disk.fileText base n f := by
    rw [← hh.shelf_eq]
    exact text?_shelf_eq hpid n
  unfold readLines
  rw [Query.run_bind]
  rcases hh.inOrder.readIfThere_file (hh.inOrder.tidy.isNetworkName hnet) hf with
    ⟨ha, hr⟩ | ⟨hno, e, hr⟩
  · refine .inl ⟨ha.resolve_right fun hno => hno hnet, ?_⟩
    rw [hr, htext]
    cases h.disk.fileText base n f <;> rfl
  · rw [hr]
    exact .inr ⟨fun ha => hno ⟨ha, hnet⟩, e, rfl⟩

/-- The forwarders of a network are read. -/
lemma Host.Holds.readLines_local (hh : h.Holds root base v) (hn : v.isNetwork n = true) :
    (Admits (root.fileOf n localServersName) n ∧
        Forwarders.readLines (root.fileOf n localServersName) h = .ok (v.forwarders n)) ∨
      ∃ e, Forwarders.readLines (root.fileOf n localServersName) h = .error (.io e) :=
  (Forwarders.readLines_file hh hn isFileName_localServersName (by decide)).imp_right And.right

/-- What a network publishes is read if the system takes the path. -/
lemma Host.Holds.readLines_own_of_admits (hh : h.Holds root base v) (hn : v.isNetwork n = true)
    (ha : Admits (root.fileOf n ownServersName) n) :
    Forwarders.readLines (root.fileOf n ownServersName) h = .ok (v.published n) :=
  ((Forwarders.readLines_file hh hn isFileName_ownServersName (by decide)).resolve_right
    fun hno => hno.1 ha).2

/-- The forwarders of a network are read if the system takes the path. -/
lemma Host.Holds.readLines_local_of_admits (hh : h.Holds root base v) (hn : v.isNetwork n = true)
    (ha : Admits (root.fileOf n localServersName) n) :
    Forwarders.readLines (root.fileOf n localServersName) h = .ok (v.forwarders n) :=
  ((Forwarders.readLines_file hh hn isFileName_localServersName (by decide)).resolve_right
    fun hno => hno.1 ha).2

/-- A text written to a file of a network. -/
lemma Host.Holds.write (hh : h.Holds root base v) (hn : Settings.isNetworkName n = true)
    (hf : IsFileName f) (hpid : f ≠ pidName) (s : Text) :
    (∃ k, Files.write (root.fileOf n f) s h = (.ok (), k) ∧ k.Holds root base (v.write n f s) ∧
        h.Edits base n k ∧ v.isNetwork n = true ∧ Admits (root.fileOf n f) n) ∨
      (¬ (Admits (root.fileOf n f) n ∧ v.isNetwork n = true) ∧
        ∃ e, Files.write (root.fileOf n f) s h = (.error (.io e), h)) := by
  rcases hh.inOrder.files_write hn hf s with ⟨ha, hnet, hok, hw⟩ | ⟨hno, e, hw⟩
  · refine .inl ⟨_, Prod.ext hok rfl, ⟨hw.inOrder hh.inOrder hnet, ?_⟩, hw.edits hpid, ?_, ha⟩
    · rw [hw.shelf hpid, hh.shelf_eq]
    · rw [← hh.shelf_eq]
      exact isNetwork_shelf_iff.mpr hnet
  · rw [← hh.shelf_eq, isNetwork_shelf_iff]
    exact .inr ⟨hno, e, hw⟩

/-- The names of the networks are proper. -/
lemma Host.Holds.isNetworkName (hh : h.Holds root base v) (hn : v.isNetwork n = true) :
    Settings.isNetworkName n = true := by
  rw [← hh.shelf_eq] at hn
  exact hh.inOrder.tidy.isNetworkName (isNetwork_shelf_iff.mp hn)

end Requests

/-! ## Siblings updated -/

namespace Propagation

variable {root : Path} {base : Location} {v : Shelf} {h : Host}

/-- The updates of those siblings whose forwarders a revision changes. -/
def plan (instanceOf : Text → Instance) (revision : Text → Forwarders.Revision)
    (names : List Text) : List SiblingUpdate :=
  names.filterMap fun n =>
    if (revision n).changed then some ⟨instanceOf n, (revision n).lines⟩ else none

section Plan

variable {instanceOf : Text → Instance} {revision : Text → Forwarders.Revision} {n : Text}
  {names : List Text}

/-- A sibling whose forwarders are changed comes first. -/
lemma plan_cons_of_changed (hc : (revision n).changed = true) :
    plan instanceOf revision (n :: names) =
      ⟨instanceOf n, (revision n).lines⟩ :: plan instanceOf revision names := by
  simp [plan, hc]

/-- A sibling whose forwarders are not changed is passed over. -/
lemma plan_cons_of_unchanged (hc : ¬ (revision n).changed = true) :
    plan instanceOf revision (n :: names) = plan instanceOf revision names := by
  simp [plan, hc]

/-- Nothing is planned where no revision changes anything. -/
lemma plan_eq_nil (hnone : ∀ n ∈ names, (revision n).changed = false) :
    plan instanceOf revision names = [] := by
  refine List.filterMap_eq_nil_iff.mpr fun n hn => ?_
  rw [hnone n hn]
  rfl

end Plan

/-- The forwarders of a network are written. -/
lemma write_local_meets {n : Text} (hn : Settings.isNetworkName n = true) (t : Text) :
    (Files.write (root.fileOf n localServersName) t).Meets base (Host.Holds root base v)
      (fun _ k => k.Holds root base (v.write n localServersName t))
      (fun fault k => k.Holds root base v ∧ fault.isDomainCollision = false) := by
  refine ⟨records_onDisk _ _, fun h hh _ => ?_⟩
  rcases hh.write hn isFileName_localServersName (by decide) t with ⟨k, hw, hk, -⟩ | ⟨-, e, hw⟩
  · rw [hw]
    exact of_ok hk
  · rw [hw]
    exact of_error ⟨hh, rfl⟩

/-- A sibling's forwarders are written, and what its daemon then does leaves them alone. -/
lemma apply_meets {u : SiblingUpdate} (hu : u.sibling.IsBelow root) :
    u.apply.Meets base (Host.Holds root base v)
      (fun _ k => k.Holds root base
        (v.write u.sibling.network localServersName (Forwarders.toText u.lines)))
      (fun fault k => (k.Holds root base v ∨ k.Holds root base
        (v.write u.sibling.network localServersName (Forwarders.toText u.lines))) ∧
        fault.isDomainCollision = false) := by
  unfold SiblingUpdate.apply Forwarders.writeLines
  rw [hu.localServersFile]
  have hwrite := @write_local_meets root base v u.sibling.network hu.name
    (Forwarders.toText u.lines)
  refine .bind (hwrite.mono (fun _ hh => hh) (fun _ _ hq => hq) fun _ _ he => ?_) fun _ => ?_
  · exact ⟨.inl he.1, he.2⟩
  · exact (u.sibling.supervisor.serves_restartIfRunning _).mono (fun _ hh => hh)
      (fun _ _ hq => hq) fun _ _ he => ⟨.inr he.1, he.2⟩

/-- A failure after a first part of a list of networks has been revised, and for another reason
than a claimed domain. -/
def RevisedInPart (root : Path) (base : Location) (v : Shelf) (names : List Text)
    (revision : Text → Forwarders.Revision) (fault : Fault) (k : Host) : Prop :=
  (∃ done, done <+: names ∧ k.Holds root base (v.revise done revision)) ∧
    fault.isDomainCollision = false

/-- A failure before any network has been revised. -/
lemma RevisedInPart.of_holds {names : List Text} {revision : Text → Forwarders.Revision}
    {fault : Fault} {k : Host} (hk : k.Holds root base v)
    (hf : fault.isDomainCollision = false) :
    RevisedInPart root base v names revision fault k :=
  ⟨⟨[], List.nil_prefix, by rw [Shelf.revise_nil]; exact hk⟩, hf⟩

/-- **Updates applied**: all siblings are revised, or those of a first part of the list.

**Proof sketch.** Induction on the networks. One whose revision changes nothing has no update.
Another is updated, and the rest goes on from the revised shelf; where the update fails, the
sibling may or may not have been written. -/
theorem applyAll_meets {instanceOf : Text → Instance} {revision : Text → Forwarders.Revision}
    (names : List Text)
    (hi : ∀ n ∈ names, (instanceOf n).IsBelow root ∧ (instanceOf n).network = n) :
    (applyAll (plan instanceOf revision names)).Meets base (Host.Holds root base v)
      (fun _ k => k.Holds root base (v.revise names revision))
      (RevisedInPart root base v names revision) := by
  induction names generalizing v with
  | nil =>
    rw [Shelf.revise_nil]
    exact .pure fun _ hh => hh
  | cons n names ih =>
    have hrest : ∀ m ∈ names, (instanceOf m).IsBelow root ∧ (instanceOf m).network = m :=
      fun m hm => hi m (by simp [hm])
    obtain ⟨hbelow, hname⟩ := hi n (by simp)
    have hsingle := @Shelf.revise_singleton v revision n
    by_cases hc : (revision n).changed = true
    · rw [if_pos hc] at hsingle
      rw [plan_cons_of_changed hc, applyAll]
      refine .bind ((apply_meets hbelow).mono (fun _ hh => hh) (fun _ _ hq => hq) ?_) fun _ => ?_
      · rintro fault k ⟨hk | hk, hf⟩
        · exact .of_holds hk hf
        · exact ⟨⟨[n], by simp, by rw [hsingle]; simpa [hname] using hk⟩, hf⟩
      · dsimp only
        rw [hname, ← hsingle]
        refine (ih hrest).mono (fun _ hh => hh) (fun _ _ hq => ?_) ?_
        · rw [Shelf.revise_cons]
          exact hq
        · rintro fault k ⟨⟨done, hdone, hk⟩, hf⟩
          exact ⟨⟨n :: done, by simpa using hdone, by rw [Shelf.revise_cons]; exact hk⟩, hf⟩
    · rw [if_neg hc] at hsingle
      rw [plan_cons_of_unchanged hc]
      refine (ih hrest).mono (fun _ hh => hh) (fun _ _ hq => ?_) ?_
      · rw [Shelf.revise_cons, hsingle]
        exact hq
      · rintro fault k ⟨⟨done, hdone, hk⟩, hf⟩
        exact ⟨⟨n :: done, by simpa using hdone, by rw [Shelf.revise_cons, hsingle]; exact hk⟩, hf⟩

/-! ## A look at the siblings -/

/-- The instance that a sibling is taken for. -/
def siblingInstance (s : Settings) (h : Host) (n : Text) : Instance :=
  ⟨n, [], true, s.rootDir.join n, (Settings.locate? h s.binary).getD ⟨[]⟩, s.user⟩

/-- What a look at siblings finds, beyond what was found before. -/
structure Sighting (root : Path) (v : Shelf) (domain : Text) (names known known' : List Text) :
    Prop where
  /-- No sibling claims the domain. -/
  unclaimed : ∀ n ∈ names, Forwarders.claims (v.published n) domain = false
  /-- The files of the siblings can be read. -/
  admits : ∀ n ∈ names, Admits (root.fileOf n ownServersName) n ∧
    Admits (root.fileOf n localServersName) n
  /-- What the siblings publish and know is learnt. -/
  mem_known : ∀ l, l ∈ known' ↔
    l ∈ known ∨ ∃ n ∈ names, l ∈ v.published n ∨ l ∈ v.forwarders n
  /-- No line is learnt twice. -/
  count_le : ∀ l, known'.count l ≤ max (known.count l) 1

/-- No line is learnt that is known already. -/
lemma Sighting.nodup {domain : Text} {names known known' : List Text}
    (hs : Sighting root v domain names known known') (h : known.Nodup) : known'.Nodup := by
  rw [List.nodup_iff_count_le_one] at h ⊢
  exact fun l => Nat.le_trans (hs.count_le l) (Nat.max_le.mpr ⟨h l, Nat.le_refl 1⟩)

/-- What is found at one sibling and then at the others.

**Proof sketch.** What is known in the end was known at first or is found at the first sibling or
at another. The counts add up through the two merges of the first. -/
lemma Sighting.cons {domain n : Text} {names known known' : List Text}
    (hs : Sighting root v domain names (Forwarders.merge
      (Forwarders.merge known (v.published n)).lines (v.forwarders n)).lines known')
    (hc : Forwarders.claims (v.published n) domain = false)
    (hao : Admits (root.fileOf n ownServersName) n)
    (hal : Admits (root.fileOf n localServersName) n) :
    Sighting root v domain (n :: names) known known' := by
  refine ⟨fun m hm => ?_, fun m hm => ?_, fun l => ?_, fun l => ?_⟩
  · rcases List.mem_cons.mp hm with rfl | hm
    · exact hc
    · exact hs.unclaimed m hm
  · rcases List.mem_cons.mp hm with rfl | hm
    · exact ⟨hao, hal⟩
    · exact hs.admits m hm
  · rw [hs.mem_known, Forwarders.mem_merge, Forwarders.mem_merge]
    simp only [List.mem_cons, or_and_right, exists_or, exists_eq_left, or_assoc]
  · have hinner := Forwarders.count_merge_le known (v.published n) l
    have houter := Forwarders.count_merge_le (Forwarders.merge known (v.published n)).lines
      (v.forwarders n) l
    have hrest := hs.count_le l
    omega

/-- What is in the way of a look at a network for a domain: what it publishes cannot be read, or
claims the domain, or its forwarders cannot be read. -/
def obstacle? (d : Disk) (root : Path) (base : Location) (domain n : Text) : Option Fault :=
  match d.unreadable? root base n ownServersName with
  | some e => some (.io e)
  | none =>
    if Forwarders.claims ((d.shelf base).published n) domain then some (.domainCollision domain n)
    else (d.unreadable? root base n localServersName).map Fault.io

/-- **A look at the siblings** changes nothing. It finds that nothing is in its way, what they
publish and know, and who lacks a line; or it ends with the first obstacle, or at a sibling that
has no instance.

**Proof sketch.** Induction on the names. The name at the head is no network's, or its own lines
cannot be read or claim the domain, or its forwarders cannot be read: then the look ends there with
the fault that `obstacle?` tells. Otherwise what it publishes and knows is merged in, an update is
noted if it lacks a line, and the rest is the induction hypothesis. -/
theorem survey_outcome {s : Settings} (hs : s.rootDir = root) (hl : h.disk.Linkless root base)
    (domain : Text) (own : List Text) {names : List Text}
    (hnames : ∀ n ∈ names, h.disk.HasNetwork base n) (found : Survey) :
    (∃ res, survey s domain own names found h = .ok res ∧
        (∀ n ∈ names, Settings.isNetworkName n = true) ∧
        names.findSome? (obstacle? h.disk root base domain) = none ∧
        Sighting root (h.disk.shelf base) domain names found.known res.known ∧
        res.updates = found.updates ++ plan (siblingInstance s h)
          (fun n => Forwarders.merge ((h.disk.shelf base).forwarders n) own) names) ∨
      ∃ fault, survey s domain own names found h = .error fault ∧
        (names.findSome? (obstacle? h.disk root base domain) = some fault ∨
          fault.isDomainCollision = false ∧ ∃ n ∈ names,
            Settings.isNetworkName n = false ∨ Settings.locate? h s.binary = none) := by
  induction names generalizing found with
  | nil =>
    refine .inl ⟨found, rfl, by simp, rfl, ⟨by simp, by simp, by simp,
      fun _ => Nat.le_max_left _ _⟩, ?_⟩
    simp [plan]
  | cons n names ih =>
    have hrest : ∀ m ∈ names, h.disk.HasNetwork base m := fun m hm => hnames m (by simp [hm])
    have hn : h.disk.HasNetwork base n := hnames n (by simp)
    unfold survey
    rw [Query.run_bind, List.findSome?_cons]
    rcases s.resolve_eq n [] true h with
      ⟨i, hi, hb, hin, hdomain, hmulti, hloc, huser⟩ | ⟨fault, hf, hc, hcause⟩
    swap
    · rw [hf]
      exact .inr ⟨fault, rfl, .inr ⟨hc, n, by simp, hcause⟩⟩
    have hname : Settings.isNetworkName n = true := hin ▸ hb.name
    have hinst : i = siblingInstance s h n := by
      have hdir := hb.dir
      unfold siblingInstance
      cases i
      simp_all
    have hown := Forwarders.readLines_eq hl hname isFileName_ownServersName hn
    have hlocal := Forwarders.readLines_eq hl hname isFileName_localServersName hn
    rw [← published_shelf] at hown
    rw [← forwarders_shelf] at hlocal
    rw [hs] at hb
    rw [hi]
    dsimp only
    rw [Query.run_bind, hb.ownServersFile, hb.localServersFile, hin, hown]
    unfold obstacle?
    cases hro : h.disk.unreadable? root base n ownServersName with
    | some e => exact .inr ⟨_, rfl, .inl rfl⟩
    | none =>
      dsimp only
      by_cases hclaims : Forwarders.claims ((h.disk.shelf base).published n) domain = true
      · rw [if_pos hclaims, if_pos hclaims]
        exact .inr ⟨_, rfl, .inl rfl⟩
      rw [if_neg hclaims, if_neg hclaims, Query.run_bind, hlocal]
      cases hrl : h.disk.unreadable? root base n localServersName with
      | some e => exact .inr ⟨_, rfl, .inl rfl⟩
      | none =>
        dsimp only
        rcases ih hrest ⟨_, _⟩ with ⟨res, hres, hproper, hfirst, hsight, hups⟩ | ⟨fault, hf, hcause⟩
        · refine .inl ⟨res, hres, by simpa [hname] using hproper, hfirst, ?_, ?_⟩
          · exact hsight.cons (by simpa using hclaims) (admits_of_unreadable? hro)
              (admits_of_unreadable? hrl)
          · rw [hups, plan, plan, List.filterMap_cons, hinst]
            dsimp only
            by_cases hc : (Forwarders.merge ((h.disk.shelf base).forwarders n) own).changed = true
            · rw [if_pos hc, if_pos hc, List.append_assoc]
              rfl
            · rw [if_neg hc, if_neg hc]
        · refine .inr ⟨fault, hf, hcause.imp_right fun ⟨hc, m, hm, hno⟩ => ⟨hc, m, ?_, hno⟩⟩
          exact List.mem_cons_of_mem n hm

/-- An obstacle that is a claimed domain is a network that claims it. -/
lemma claims_of_obstacle? {d : Disk} {domain n : Text} {fault : Fault}
    (h : obstacle? d root base domain n = some fault) (hc : fault.isDomainCollision = true) :
    Forwarders.claims ((d.shelf base).published n) domain = true := by
  unfold obstacle? at h
  split at h
  · cases h
    cases hc
  · split at h
    · assumption
    · obtain ⟨e, -, rfl⟩ := Option.map_eq_some_iff.mp h
      cases hc

/-- **A look at the siblings** in a root in order: it ends at a sibling that claims the domain, or
fails otherwise, or nothing is in its way.

**Proof sketch.** In a root in order the shelf is what the disk holds, so `survey_outcome` applies.
A fault that is a collision is an obstacle, and that obstacle is a claim of the domain. -/
theorem survey_spec {s : Settings} (hs : s.rootDir = root) (hh : h.Holds root base v)
    (domain : Text) (own : List Text) {names : List Text}
    (hnames : ∀ n ∈ names, v.isNetwork n = true) (found : Survey) :
    (∃ res, survey s domain own names found h = .ok res ∧
        Sighting root v domain names found.known res.known ∧
        res.updates = found.updates ++ plan (siblingInstance s h)
          (fun n => Forwarders.merge (v.forwarders n) own) names) ∨
      ∃ fault, survey s domain own names found h = .error fault ∧
        (fault.isDomainCollision = true →
          ∃ n ∈ names, Forwarders.claims (v.published n) domain = true) := by
  have hthere : ∀ n ∈ names, h.disk.HasNetwork base n := by
    intro n hn
    rw [← isNetwork_shelf_iff, hh.shelf_eq]
    exact hnames n hn
  rw [← hh.shelf_eq]
  rcases survey_outcome hs hh.inOrder.linkless domain own hthere found with
    ⟨res, hres, -, -, hsight, hups⟩ | ⟨fault, hf, hcause⟩
  · exact .inl ⟨res, hres, hsight, hups⟩
  · refine .inr ⟨fault, hf, fun hc => ?_⟩
    rcases hcause with hfirst | ⟨hno, -⟩
    · obtain ⟨n, hn, hobstacle⟩ := List.exists_of_findSome?_eq_some hfirst
      exact ⟨n, hn, claims_of_obstacle? hobstacle hc⟩
    · rw [hno] at hc
      cases hc

/-! ## Publishing -/

/-- The networks once one of them has published its forwarders: those that lacked one have it,
and the network has what it has learnt. -/
def published (v : Shelf) (n : Text) (own names known : List Text) : Shelf :=
  ((v.write n ownServersName (Forwarders.toText own)).revise names
    (fun m => Forwarders.merge (v.forwarders m) own)).write n localServersName
      (Forwarders.toText (Forwarders.remove known own).lines)

/-- Publishing adds no network and removes none. -/
@[simp]
lemma isNetwork_published (n : Text) (own names known : List Text) :
    (published v n own names known).isNetwork = v.isNetwork := rfl

/-- The network's own forwarders are written. -/
lemma text?_published_own (n : Text) (own names known : List Text) :
    (published v n own names known).text? n ownServersName = some (Forwarders.toText own) := by
  have hne : ownServersName ≠ localServersName := by decide
  unfold published
  rw [Shelf.text?_write_of_ne _ fun h => hne h.2, Shelf.text?_revise_of_ne hne,
    Shelf.text?_write_self]

/-- So is what it has learnt. -/
lemma text?_published_local (n : Text) (own names known : List Text) :
    (published v n own names known).text? n localServersName =
      some (Forwarders.toText (Forwarders.remove known own).lines) :=
  Shelf.text?_write_self _ n localServersName _

/-- The other networks are revised. -/
lemma text?_published_of_ne {n p : Text} (hp : p ≠ n) (own names known : List Text) (f : Text) :
    (published v n own names known).text? p f =
      (v.revise names fun m => Forwarders.merge (v.forwarders m) own).text? p f := by
  unfold published
  rw [Shelf.text?_write_of_ne _ fun h => hp h.1]
  unfold Shelf.revise
  dsimp only
  rw [Shelf.text?_write_of_ne v fun h => hp h.1]

/-- The siblings of a network. -/
structure Siblings (v : Shelf) (n : Text) (names : List Text) : Prop where
  /-- Each is listed once. -/
  nodup : names.Nodup
  /-- They are the other networks. -/
  mem_iff : ∀ m, m ∈ names ↔ v.isNetwork m = true ∧ m ≠ n
  /-- They are listed in dictionary order. -/
  ordered : names.Pairwise fun m p => Text.le m p = true

/-- A network is not its own sibling. -/
lemma Siblings.not_mem {n : Text} {names : List Text} (hs : Siblings v n names) : n ∉ names :=
  fun hm => ((hs.mem_iff n).mp hm).2 rfl

/-- The siblings are found. -/
lemma exists_siblings {s : Settings} (hs : s.rootDir = root) (hh : h.Holds root base v) {n : Text}
    (hn : Settings.isNetworkName n = true) :
    ∃ names, s.siblings (root.join n) h = .ok names ∧ Siblings v n names := by
  obtain ⟨names, hok, hnd, hmem, hord⟩ := hh.inOrder.rooted.find.siblings hn hs
  refine ⟨names, hok, hnd, fun m => ?_, hord⟩
  rw [hmem, ← isNetwork_shelf_iff, hh.shelf_eq]

section Publish

variable {s : Settings} {i : Instance}

/-- What publishing relies on and finds if it succeeds. -/
structure Announced (root : Path) (v : Shelf) (i : Instance) (names known : List Text) :
    Prop where
  /-- The siblings. -/
  siblings : Siblings v i.network names
  /-- What a look at them finds. -/
  sighting : Sighting root v i.domain names (v.forwarders i.network) known
  /-- The network is there. -/
  isNetwork : v.isNetwork i.network = true
  /-- The system takes the path of its own file. -/
  admits_own : Admits (root.fileOf i.network ownServersName) i.network
  /-- The system takes the path of its forwarders. -/
  admits_local : Admits (root.fileOf i.network localServersName) i.network

/-- What holds after publishing has succeeded. -/
def PublishDone (root : Path) (base : Location) (v : Shelf) (i : Instance) (own : List Text)
    (k : Host) : Prop :=
  ∃ names known, Announced root v i names known ∧
    k.Holds root base (published v i.network own names known)

/-- What holds after publishing has failed, from a host `h`. A claimed domain has stopped it before
any sibling was touched. -/
structure PublishFailed (root : Path) (base : Location) (v : Shelf) (i : Instance)
    (own : List Text) (h : Host) (fault : Fault) (k : Host) : Prop where
  /-- The network's own file may be written, and some siblings may be revised. -/
  holds : k.Holds root base v ∨ ∃ names, i.network ∉ names ∧
    k.Holds root base ((v.write i.network ownServersName (Forwarders.toText own)).revise names
      (fun m => Forwarders.merge (v.forwarders m) own))
  /-- A domain is claimed by another network, and only the network's own file is written. -/
  collision : fault.isDomainCollision = true →
    k.Holds root base (v.write i.network ownServersName (Forwarders.toText own)) ∧
      h.Edits base i.network k ∧ ∃ m, v.isNetwork m = true ∧ m ≠ i.network ∧
        Forwarders.claims (v.published m) i.domain = true

/-- A failure for another reason than a claimed domain. -/
lemma PublishFailed.of_holds {own : List Text} {fault : Fault} {h k : Host} (names : List Text)
    (hn : i.network ∉ names)
    (hk : k.Holds root base ((v.write i.network ownServersName (Forwarders.toText own)).revise
      names (fun m => Forwarders.merge (v.forwarders m) own)))
    (hf : fault.isDomainCollision = false) : PublishFailed root base v i own h fault k :=
  ⟨.inr ⟨names, hn, hk⟩, fun hc => by rw [hf] at hc; cases hc⟩

/-- The forwarders of a network are what they were before it published its own. -/
lemma forwarders_write_own (n s m : Text) :
    (v.write n ownServersName s).forwarders m = v.forwarders m := by
  have hne : localServersName ≠ ownServersName := by decide
  unfold Shelf.forwarders
  rw [Shelf.text?_write_of_ne v fun h => hne h.2]

/-- What another network publishes is not changed. -/
lemma published_write_own {n m : Text} (hm : m ≠ n) (s : Text) :
    (v.write n ownServersName s).published m = v.published m := by
  unfold Shelf.published
  rw [Shelf.text?_write_of_ne v fun h => hm h.1]

/-- The siblings of a network do not depend on what it publishes. -/
lemma Siblings.of_write {n : Text} {names : List Text} {t : Text}
    (h : Siblings (v.write n ownServersName t) n names) : Siblings v n names :=
  ⟨h.nodup, h.mem_iff, h.ordered⟩

/-- Nor does what a look at its siblings finds.

**Proof sketch.** The file written is the network's own, and the network is not among the names. -/
lemma Sighting.of_write {n domain t : Text} {names known known' : List Text} (hn : n ∉ names)
    (h : Sighting root (v.write n ownServersName t) domain names known known') :
    Sighting root v domain names known known' := by
  have hpub : ∀ m ∈ names, (v.write n ownServersName t).published m = v.published m := by
    intro m hm
    refine published_write_own ?_ t
    rintro rfl
    exact hn hm
  refine ⟨fun m hm => ?_, h.admits, fun l => ?_, h.count_le⟩
  · rw [← hpub m hm]
    exact h.unclaimed m hm
  · rw [h.mem_known]
    simp only [forwarders_write_own]
    constructor
    · rintro (hl | ⟨m, hm, hl⟩)
      · exact .inl hl
      · exact .inr ⟨m, hm, by rwa [hpub m hm] at hl⟩
    · rintro (hl | ⟨m, hm, hl⟩)
      · exact .inl hl
      · exact .inr ⟨m, hm, by rwa [hpub m hm]⟩

/-- Siblings revised, and then a network's own forwarders written. -/
lemma spread_meets {instanceOf : Text → Instance} {revision : Text → Forwarders.Revision}
    {names : List Text} (hi : ∀ n ∈ names, (instanceOf n).IsBelow root ∧ (instanceOf n).network = n)
    {n : Text} (hn : Settings.isNetworkName n = true) (t : Text) (entry : LogEntry) :
    Meets base (Host.Holds root base v) (do
        applyAll (plan instanceOf revision names)
        Files.write (root.fileOf n localServersName) t
        log entry)
      (fun _ k => k.Holds root base ((v.revise names revision).write n localServersName t))
      (RevisedInPart root base v names revision) := by
  refine .bind (applyAll_meets names hi) fun _ => .bind ((write_local_meets hn t).mono
    (fun _ hh => hh) (fun _ _ hq => hq) fun fault k he => ?_) fun _ => .log fun k hk => ?_
  · exact ⟨⟨names, List.prefix_refl _, he.1⟩, he.2⟩
  · exact hk.of_disk rfl

/-- **Publishing** revises all siblings that lack a line and leaves the network with what it has
learnt from them, less its own lines; or it fails on the way.

**Proof sketch.** The network's own file is written first. The look at the siblings reads the
shelf as it was, since neither its file of forwarders nor any file of another network has
changed. The updates it plans are applied in order, and a failure leaves a first part of them. -/
theorem publish_meets (hs : s.rootDir = root) (hi : i.IsBelow root)
    (hh : h.Holds root base v) (servers : List Text) :
    (publish s i servers).Meets base (· = h)
      (fun _ => PublishDone root base v i (Forwarders.scopedLines i.domain servers))
      (PublishFailed root base v i (Forwarders.scopedLines i.domain servers) h) := by
  refine ⟨records_publish s i servers, ?_⟩
  rintro h rfl ht
  unfold publish Forwarders.writeLines at ht ⊢
  generalize Forwarders.scopedLines i.domain servers = own at ht ⊢
  rw [hi.ownServersFile, hi.localServersFile, hi.dir] at ht ⊢
  rw [run_bind] at ht ⊢
  rcases hh.write hi.name isFileName_ownServersName (by decide) (Forwarders.toText own) with
    ⟨k₁, hw, hk₁, he₁, hnet, hao⟩ | ⟨-, e, hw⟩
  · rw [hw] at ht ⊢
    dsimp only at ht ⊢
    generalize hv₁ : v.write i.network ownServersName (Forwarders.toText own) = v₁ at hk₁
    have hnet₁ : v₁.isNetwork i.network = true := by rw [← hv₁]; exact hnet
    rw [run_bind, run_lift] at ht ⊢
    rcases hk₁.readLines_local hnet₁ with ⟨hal, hr⟩ | ⟨e, hr⟩
    · rw [hr] at ht ⊢
      dsimp only at ht ⊢
      rw [run_bind, run_lift] at ht ⊢
      obtain ⟨names, hnames, hsib⟩ := exists_siblings hs hk₁ hi.name
      rw [hnames] at ht ⊢
      dsimp only at ht ⊢
      rw [run_bind, run_lift] at ht ⊢
      rcases survey_spec hs hk₁ i.domain own (fun n hn => ((hsib.mem_iff n).mp hn).1)
          ⟨v₁.forwarders i.network, []⟩ with ⟨res, hres, hsight, hups⟩ | ⟨fault, hf, hcol⟩
      · rw [hres] at ht ⊢
        dsimp only at ht ⊢
        have hforwarders : ∀ n, v₁.forwarders n = v.forwarders n := by
          intro n
          rw [← hv₁, forwarders_write_own]
        simp only [List.nil_append, hforwarders] at hups hsight
        rw [hups] at ht ⊢
        have hbelow : ∀ n ∈ names, (siblingInstance s k₁ n).IsBelow root ∧
            (siblingInstance s k₁ n).network = n := by
          intro n hn
          have hname := hk₁.isNetworkName ((hsib.mem_iff n).mp hn).1
          exact ⟨⟨by rw [siblingInstance, hs], hname⟩, rfl⟩
        have hspread := @spread_meets root base v₁ _
          (fun n => Forwarders.merge (v.forwarders n) own) names hbelow _ hi.name
          (Forwarders.toText (Forwarders.remove res.known own).lines)
          (.propagated i.network i.domain res.updates.length)
        rw [hups] at hspread
        obtain ⟨hok, herr⟩ := hspread.after hk₁ he₁.journal_prefix ht
        rw [← hv₁] at hok herr hsib hsight
        refine ⟨fun _ hq => ?_, fun fault hf => ?_⟩
        · exact ⟨names, res.known, ⟨hsib.of_write, hsight.of_write hsib.not_mem, hnet, hao, hal⟩,
            hok _ hq⟩
        · obtain ⟨⟨done, hdone, hk⟩, hc⟩ := herr fault hf
          exact .of_holds done (fun hm => hsib.not_mem (hdone.subset hm)) hk hc
      · rw [hf]
        refine of_error ?_
        refine ⟨.inr ⟨[], by simp, by rw [Shelf.revise_nil, hv₁]; exact hk₁⟩, fun hc => ?_⟩
        obtain ⟨m, hm, hmc⟩ := hcol hc
        obtain ⟨hmnet, hmn⟩ := (hsib.mem_iff m).mp hm
        rw [← hv₁] at hmnet hmc hk₁
        rw [published_write_own hmn] at hmc
        exact ⟨hk₁, he₁, m, hmnet, hmn, hmc⟩
    · rw [hr]
      exact of_error (.of_holds [] (by simp) (by rw [Shelf.revise_nil, hv₁]; exact hk₁) rfl)
  · rw [hw]
    exact of_error ⟨.inl hh, fun hc => by cases hc⟩

end Publish

/-! ## Withdrawing -/

section Withdraw

variable {s : Settings} {i : Instance}

/-- A network that is not revised has the forwarders it had. -/
lemma forwarders_revise_of_not_mem {revision : Text → Forwarders.Revision} {names : List Text}
    {n : Text} (hn : n ∉ names) : (v.revise names revision).forwarders n = v.forwarders n := by
  unfold Shelf.forwarders
  rw [Shelf.text?_revise_of_not_mem hn]

/-- A network that is revised has what has been written to its file, if anything was changed. -/
lemma forwarders_revise_of_mem {revision : Text → Forwarders.Revision} {names : List Text}
    {n : Text} (hn : n ∈ names) : (v.revise names revision).forwarders n =
      if (revision n).changed then Forwarders.ofText (Forwarders.toText (revision n).lines)
      else v.forwarders n := by
  unfold Shelf.forwarders Shelf.revise
  by_cases hc : (revision n).changed = true <;> simp [hn, hc]

/-- Siblings that are yet to be revised are revised from what they had at first. -/
lemma revise_cons_remove {own names : List Text} {n : Text} (hn : n ∉ names) :
    v.revise (n :: names) (fun m => Forwarders.remove (v.forwarders m) own) =
      (v.revise [n] fun m => Forwarders.remove (v.forwarders m) own).revise names
        (fun m => Forwarders.remove
          ((v.revise [n] fun m => Forwarders.remove (v.forwarders m) own).forwarders m) own) := by
  rw [Shelf.revise_cons]
  refine Shelf.revise_congr fun m hm => ?_
  rw [forwarders_revise_of_not_mem]
  rintro hmn
  exact hn (List.mem_singleton.mp hmn ▸ hm)

/-! ### One sibling of a withdrawal -/

section Step

variable {n : Text} {own current names : List Text} {fault : Fault}

/-- A sibling that has no instance. -/
lemma withdrawFrom_cons_of_not_resolved (hi : s.resolve n [] true h = .error fault) :
    withdrawFrom s own (n :: names) h = (.error fault, h) := by
  unfold withdrawFrom
  rw [run_bind, run_lift, hi]

variable (hi : s.resolve n [] true h = .ok i)
include hi

/-- A sibling whose forwarders cannot be read. -/
lemma withdrawFrom_cons_of_not_read
    (hr : Forwarders.readLines i.localServersFile h = .error fault) :
    withdrawFrom s own (n :: names) h = (.error fault, h) := by
  unfold withdrawFrom
  rw [run_bind, run_lift, hi]
  dsimp only
  rw [run_bind, run_lift, hr]

variable (hr : Forwarders.readLines i.localServersFile h = .ok current)
include hr

/-- A sibling that uses one of the lines. -/
lemma withdrawFrom_cons_of_changed (hc : (Forwarders.remove current own).changed = true) :
    withdrawFrom s own (n :: names) h = (do
      SiblingUpdate.apply ⟨i, (Forwarders.remove current own).lines⟩
      withdrawFrom s own names : Action Unit) h := by
  conv => lhs; unfold withdrawFrom
  rw [run_bind, run_lift, hi]
  dsimp only
  rw [run_bind, run_lift, hr]
  dsimp only
  rw [if_pos hc]

/-- A sibling that uses none of them. -/
lemma withdrawFrom_cons_of_unchanged (hc : (Forwarders.remove current own).changed ≠ true) :
    withdrawFrom s own (n :: names) h = withdrawFrom s own names h := by
  conv => lhs; unfold withdrawFrom
  rw [run_bind, run_lift, hi]
  dsimp only
  rw [run_bind, run_lift, hr]
  dsimp only
  rw [if_neg hc]

end Step

/-! ### The whole of it -/

/-- **Lines withdrawn** from siblings in turn: all are revised, or those of a first part of the
list.

**Proof sketch.** Induction on the names. The sibling at the head is read before any update of the
rest, and since no name is listed twice, the rest reads its files as they were. A sibling without a
line is passed over; another is updated, and where that fails the revision has reached it or not. -/
theorem withdrawFrom_meets (hs : s.rootDir = root) (own : List Text) {names : List Text}
    (hnames : ∀ n ∈ names, v.isNetwork n = true) (hnd : names.Nodup) :
    (withdrawFrom s own names).Meets base (Host.Holds root base v)
      (fun _ k => k.Holds root base
        (v.revise names fun m => Forwarders.remove (v.forwarders m) own))
      (RevisedInPart root base v names fun m => Forwarders.remove (v.forwarders m) own) := by
  induction names generalizing v with
  | nil =>
    rw [Shelf.revise_nil]
    exact .pure fun _ hh => hh
  | cons n names ih =>
    obtain ⟨hn, hnd'⟩ := List.nodup_cons.mp hnd
    have hrest : ∀ m ∈ names, v.isNetwork m = true := fun m hm => hnames m (by simp [hm])
    have hsingle := @Shelf.revise_singleton v (fun m => Forwarders.remove (v.forwarders m) own) n
    -- the rest of the list goes on from the revision of its first network
    have hgo : (withdrawFrom s own names).Meets base
        (Host.Holds root base (v.revise [n] fun m => Forwarders.remove (v.forwarders m) own))
        (fun _ k => k.Holds root base
          (v.revise (n :: names) fun m => Forwarders.remove (v.forwarders m) own))
        (RevisedInPart root base v (n :: names)
          fun m => Forwarders.remove (v.forwarders m) own) := by
      have hrevised := @ih (v.revise [n] fun m => Forwarders.remove (v.forwarders m) own) hrest hnd'
      refine hrevised.mono (fun _ hh => hh) (fun _ k hq => ?_) ?_
      · rw [revise_cons_remove hn]
        exact hq
      · rintro fault k ⟨⟨done, hdone, hk⟩, hf⟩
        refine ⟨⟨n :: done, by simpa using hdone, ?_⟩, hf⟩
        rw [revise_cons_remove fun hm => hn (hdone.subset hm)]
        exact hk
    refine ⟨records_withdrawFrom s own (n :: names), fun h hh ht => ?_⟩
    rcases s.resolve_eq n [] true h with ⟨i, hi, hb, hin, -⟩ | ⟨fault, hf, hc, -⟩
    · rw [hs] at hb
      have hread := hh.readLines_local (hnames n (by simp))
      rw [← hin, ← hb.localServersFile, hin] at hread
      rcases hread with ⟨-, hr⟩ | ⟨e, hr⟩
      · by_cases hchange : (Forwarders.remove (v.forwarders n) own).changed = true
        · rw [withdrawFrom_cons_of_changed hi hr hchange] at ht ⊢
          rw [if_pos hchange] at hsingle
          have happly : Meets base (Host.Holds root base v) (do
              SiblingUpdate.apply ⟨i, (Forwarders.remove (v.forwarders n) own).lines⟩
              withdrawFrom s own names)
              (fun _ k => k.Holds root base
                (v.revise (n :: names) fun m => Forwarders.remove (v.forwarders m) own))
              (RevisedInPart root base v (n :: names)
                fun m => Forwarders.remove (v.forwarders m) own) := by
            refine .bind ((apply_meets hb).mono (fun _ hh => hh) (fun _ _ hq => hq) ?_) fun _ => ?_
            · rintro fault k ⟨hk | hk, hf⟩
              · exact .of_holds hk hf
              · exact ⟨⟨[n], by simp, by rw [hsingle]; simpa [hin] using hk⟩, hf⟩
            · dsimp only
              rw [hin, ← hsingle]
              exact hgo
          exact happly.holds h hh ht
        · rw [withdrawFrom_cons_of_unchanged hi hr hchange] at ht ⊢
          rw [if_neg hchange] at hsingle
          rw [hsingle] at hgo
          exact hgo.holds h hh ht
      · rw [withdrawFrom_cons_of_not_read hi hr]
        exact of_error (.of_holds hh rfl)
    · rw [withdrawFrom_cons_of_not_resolved hf]
      exact of_error (.of_holds hh hc)

/-- **Withdrawing** takes a network's lines from all its siblings, or fails after some of them.

**Proof sketch.** The siblings are listed, which never fails in a root in order, and the lines are
withdrawn from them in turn. A failure has revised a first part of the list, in which the network
is not. -/
theorem withdraw_meets (hs : s.rootDir = root) (hi : i.IsBelow root) (servers : List Text) :
    (withdraw s i servers).Meets base (Host.Holds root base v)
      (fun _ k => ∃ names, Siblings v i.network names ∧ k.Holds root base (v.revise names
        fun m => Forwarders.remove (v.forwarders m) (Forwarders.scopedLines i.domain servers)))
      (fun fault k => (∃ names, i.network ∉ names ∧ k.Holds root base (v.revise names
        fun m => Forwarders.remove (v.forwarders m) (Forwarders.scopedLines i.domain servers))) ∧
        fault.isDomainCollision = false) := by
  refine ⟨records_withdraw s i servers, fun h hh ht => ?_⟩
  unfold withdraw at ht ⊢
  rw [hi.dir] at ht ⊢
  rw [run_bind, run_lift] at ht ⊢
  obtain ⟨names, hnames, hsib⟩ := exists_siblings hs hh hi.name
  rw [hnames] at ht ⊢
  dsimp only at ht ⊢
  generalize Forwarders.scopedLines i.domain servers = own at ht ⊢
  have hfrom : Meets base (Host.Holds root base v) (do
      withdrawFrom s own names
      log (.withdrew i.network i.domain))
      (fun _ k => k.Holds root base
        (v.revise names fun m => Forwarders.remove (v.forwarders m) own))
      (RevisedInPart root base v names fun m => Forwarders.remove (v.forwarders m) own) :=
    .bind (withdrawFrom_meets hs own (fun n hn => ((hsib.mem_iff n).mp hn).1) hsib.nodup)
      fun _ => .log fun k hk => hk.of_disk rfl
  obtain ⟨hok, herr⟩ := hfrom.holds h hh ht
  refine ⟨fun _ hq => ⟨names, hsib, hok _ hq⟩, fun fault hf => ?_⟩
  obtain ⟨⟨done, hdone, hk⟩, hc⟩ := herr fault hf
  exact ⟨⟨done, fun hm => hsib.not_mem (hdone.subset hm), hk⟩, hc⟩

end Withdraw

end Propagation

end ResolverMesh
