import ResolverMesh.Proofs.AnnouncementPlan

set_option autoImplicit false
set_option relaxedAutoImplicit false

/-!
# Siblings briefed one after the other

Announcements and withdrawals give siblings new forwarders: a sibling's file is written and its
daemon is restarted if it runs. Here is what that does to the files below a root that may hold
anything but links, also where it breaks off on the way. Nothing is said of what a file holds that
is not written, so a file that is no text stays as it is.

## Main definitions

* `ResolverMesh.Host.Briefed` — some networks were given the forwarders of a revision.
* `ResolverMesh.Propagation.Carried` — an announcement that has succeeded, in its stages.

## Main results

* `ResolverMesh.Propagation.briefed_applyAll` — updates applied, or a first part of them.
* `ResolverMesh.Propagation.briefed_withdrawFrom` — lines withdrawn from siblings in turn.
* `ResolverMesh.Propagation.publish_stages`, `ResolverMesh.Propagation.shelf_publish` — an
  announcement in its stages, and what the networks hold after it.
* `ResolverMesh.Propagation.briefed_withdraw` — a withdrawal.
-/

namespace ResolverMesh

open ResolverMesh.Action Disk

namespace Host

/-- From one host to a later one, the forwarders of some networks were written anew, where a
revision changes any. No other file of a network has changed, pid files left out. -/
structure Briefed (root : Path) (base : Location) (names : List Text)
    (revision : Text → Forwarders.Revision) (h k : Host) : Prop where
  /-- The journal was only added to. -/
  journal : h.journal <+: k.journal
  /-- There are no links. -/
  linkless : k.disk.Linkless root base
  /-- The networks are those that there were. -/
  networks : ∀ p, k.disk.HasNetwork base p ↔ h.disk.HasNetwork base p
  /-- What was changed is written. -/
  written : ∀ p ∈ names, (revision p).changed = true →
    k.disk.fileText base p localServersName = some (Forwarders.toText (revision p).lines)
  /-- What was not changed is as it was. -/
  kept : ∀ p f, f ≠ pidName →
    (f = localServersName → p ∈ names → (revision p).changed = false) →
    k.disk.tree.get? (base ++ [Name.text p, .text f]) =
      h.disk.tree.get? (base ++ [Name.text p, .text f])

section Briefed

variable {root : Path} {base : Location} {names : List Text} {n : Text}
  {revision : Text → Forwarders.Revision} {h k l : Host}

/-- The files of networks are as they were where tame daemons have written their pids. -/
lemma Tended.get?_of_tame {command : List Text} {targets : Nat → Prop}
    (ht : Tended command targets h k) (htame : Tame base h k) {p f : Text} (hf : f ≠ pidName) :
    k.disk.tree.get? (base ++ [Name.text p, .text f]) =
      h.disk.tree.get? (base ++ [Name.text p, .text f]) :=
  ht.get?_of_not_mem fun hw => hf (htame _ hw p f rfl)

namespace Briefed

/-- No sibling was briefed yet. -/
lemma refl (hl : h.disk.Linkless root base) (revision : Text → Forwarders.Revision) :
    Briefed root base [] revision h h :=
  ⟨List.prefix_refl _, hl, fun _ => .rfl, by simp, fun _ _ _ _ => rfl⟩

/-- A network that the revision does not change. -/
lemma skip (hb : Briefed root base names revision h k) (hn : (revision n).changed = false) :
    Briefed root base (n :: names) revision h k := by
  refine ⟨hb.journal, hb.linkless, hb.networks, fun p hp hc => ?_, fun p f hf hkeep => ?_⟩
  · rcases List.mem_cons.mp hp with rfl | hp
    · rw [hn] at hc
      cases hc
    · exact hb.written p hp hc
  · exact hb.kept p f hf fun hloc hp => hkeep hloc (List.mem_cons_of_mem n hp)

/-- One network and then others.

**Proof sketch.** The first network is not among the others, so what was written for it stays, and
what was to be written for them had not been touched before. -/
lemma cons (h₁ : Briefed root base [n] revision h k) (h₂ : Briefed root base names revision k l)
    (hn : n ∉ names) : Briefed root base (n :: names) revision h l := by
  refine ⟨h₁.journal.trans h₂.journal, h₂.linkless,
    fun p => (h₂.networks p).trans (h₁.networks p), fun p hp hc => ?_, fun p f hf hkeep => ?_⟩
  · rcases List.mem_cons.mp hp with rfl | hp
    · have hsame := h₂.kept p localServersName (by decide) fun _ hp => absurd hp hn
      rw [fileText, hsame]
      exact h₁.written p (by simp) hc
    · exact h₂.written p hp hc
  · rw [h₂.kept p f hf fun hloc hp => hkeep hloc (by simp [hp])]
    exact h₁.kept p f hf fun hloc hp => hkeep hloc (by simpa using .inl (List.mem_singleton.mp hp))

/-- What the networks hold.

**Proof sketch.** File by file: forwarders that the revision changes were written, pid files are
not on a shelf, and all others were kept. -/
lemma shelf_eq (hb : Briefed root base names revision h k) :
    k.disk.shelf base = (h.disk.shelf base).revise names revision := by
  ext p f : 3
  · rw [Shelf.isNetwork_revise, Bool.eq_iff_iff, isNetwork_shelf_iff, isNetwork_shelf_iff]
    exact hb.networks p
  · by_cases hchanged : f = localServersName ∧ p ∈ names ∧ (revision p).changed = true
    · obtain ⟨rfl, hp, hc⟩ := hchanged
      rw [text?_shelf_eq (by decide), hb.written p hp hc]
      simp [Shelf.revise, hp, hc]
    · simp only [Shelf.revise]
      rw [if_neg hchanged]
      by_cases hpid : f = pidName
      · simp only [Disk.shelf, if_pos hpid]
      · rw [text?_shelf_eq hpid, text?_shelf_eq hpid, fileText, fileText, hb.kept p f hpid]
        exact fun hloc hp => by simpa [hloc, hp] using hchanged

/-- **A sibling briefed**: its forwarders are written, and its daemon is restarted if it runs; or
nothing is done.

**Proof sketch.** An update that writes has put the lines into the sibling's file, and the restart
after it writes no other file than a pid file, as the daemons are tame. -/
theorem of_apply (hl : h.disk.Linkless root base) {u : SiblingUpdate}
    (hu : u.sibling.IsBelow root) (hc : (revision u.sibling.network).changed = true)
    (hlines : u.lines = (revision u.sibling.network).lines)
    (ht : Tame base h (u.apply h).2) :
    (∃ fault, u.apply h = (.error fault, h)) ∨
      Briefed root base [u.sibling.network] revision h (u.apply h).2 := by
  rcases hl.apply_cases hu with ⟨w, hr, hnet, hw⟩ | hr
  swap
  · exact .inl hr
  right
  rw [hr] at ht ⊢
  have htended := u.sibling.supervisor.tended_restartIfRunning w
  have hj := Host.Filed.journal hw
  obtain ⟨id, x, hput, hget⟩ := Host.Filed.get? hw
  generalize (u.sibling.supervisor.restartIfRunning w).2 = k at ht htended ⊢
  have htame := ((Tame.split ⟨_, hj.symm⟩ htended.records).mp ht).2
  refine ⟨.trans ⟨_, hj.symm⟩ htended.records, htended.linkless (Host.Filed.linkless hw hl),
    fun p => htended.hasNetwork_iff.trans (Host.Filed.hasNetwork_iff hw), fun p hp _ => ?_,
    fun p f hf hkeep => ?_⟩
  · rw [List.mem_singleton.mp hp, fileText, htended.get?_of_tame htame (by decide), hput, ← hlines]
    rfl
  · rw [htended.get?_of_tame htame hf, hget]
    simp only [ne_eq, List.append_cancel_left_eq, List.cons.injEq, Name.text.injEq, and_true]
    rintro ⟨rfl, rfl⟩
    rw [hkeep rfl (by simp)] at hc
    cases hc

end Briefed

end Briefed

end Host

namespace Propagation

section Outcomes

variable {s : Settings} {root : Path} {base : Location} {i : Instance} {names own : List Text}
  {revision : Text → Forwarders.Revision} {h k : Host}

/-- **Updates applied**: all siblings are briefed, or a first part of them.

**Proof sketch.** By the list of siblings. An update that changes nothing is not in the plan. One
that fails leaves the siblings before it briefed, and with or without itself. After one that
succeeds, the rest starts from its host. -/
theorem briefed_applyAll {instanceOf : Text → Instance} (hl : h.disk.Linkless root base)
    (hi : ∀ n ∈ names, (instanceOf n).IsBelow root ∧ (instanceOf n).network = n)
    (hnd : names.Nodup)
    (ht : Host.Tame base h (applyAll (plan instanceOf revision names) h).2) :
    ∃ done, done <+: names ∧
      h.Briefed root base done revision (applyAll (plan instanceOf revision names) h).2 ∧
      ((applyAll (plan instanceOf revision names) h).1 = .ok () → done = names) := by
  induction names generalizing h with
  | nil => exact ⟨[], List.prefix_refl _, .refl hl revision, fun _ => rfl⟩
  | cons n names ih =>
    obtain ⟨hn, hnd'⟩ := List.nodup_cons.mp hnd
    have hrest : ∀ m ∈ names, (instanceOf m).IsBelow root ∧ (instanceOf m).network = m :=
      fun m hm => hi m (by simp [hm])
    obtain ⟨hbelow, hname⟩ := hi n (by simp)
    by_cases hc : (revision n).changed = true
    · rw [plan_cons_of_changed hc, applyAll] at ht ⊢
      rw [run_bind] at ht ⊢
      generalize hu : (⟨instanceOf n, (revision n).lines⟩ : SiblingUpdate) = u at ht ⊢
      have hun : u.sibling.network = n := by rw [← hu, hname]
      have hone := @Host.Briefed.of_apply root base revision h hl u (by rw [← hu]; exact hbelow)
        (by rw [hun]; exact hc) (by rw [hun, ← hu])
      rw [hun] at hone
      have hrec := u.records_apply h
      rcases hr : u.apply h with ⟨fault | r, l⟩ <;> rw [hr] at ht hone hrec
      · rcases hone ht with ⟨fault', hf⟩ | hb
        · obtain ⟨-, rfl⟩ := Prod.ext_iff.mp hf
          exact ⟨[], List.nil_prefix, .refl hl revision, fun hok => by cases hok⟩
        · exact ⟨[n], by simp, hb, fun hok => by cases hok⟩
      · have htame := (Host.Tame.split hrec (records_applyAll _ l)).mp ht
        rcases hone htame.1 with ⟨fault', hf⟩ | hb
        · cases hf
        · obtain ⟨done, hdone, hbrief, hall⟩ := ih hb.linkless hrest hnd' htame.2
          exact ⟨n :: done, by simpa using hdone, hb.cons hbrief fun hm => hn (hdone.subset hm),
            fun hok => by rw [hall hok]⟩
    · rw [plan_cons_of_unchanged hc] at ht ⊢
      obtain ⟨done, hdone, hbrief, hall⟩ := ih hl hrest hnd' ht
      exact ⟨n :: done, by simpa using hdone, hbrief.skip (by simpa using hc),
        fun hok => by rw [hall hok]⟩

/-- **Lines withdrawn** from siblings in turn: all are briefed if that succeeds.

**Proof sketch.** The forwarders of a sibling are read when its turn comes. By then none of its
files has been written, since each sibling is listed once. -/
theorem briefed_withdrawFrom (hs : s.rootDir = root) (hl : h.disk.Linkless root base)
    (hnames : ∀ n ∈ names, h.disk.HasNetwork base n) (hnd : names.Nodup)
    (hrevision : ∀ n ∈ names,
      revision n = Forwarders.remove ((h.disk.shelf base).forwarders n) own)
    (hr : withdrawFrom s own names h = (.ok (), k)) (ht : Host.Tame base h k) :
    h.Briefed root base names revision k := by
  induction names generalizing h with
  | nil =>
    cases hr
    exact .refl hl revision
  | cons n names ih =>
    obtain ⟨hn, hnd'⟩ := List.nodup_cons.mp hnd
    have hnet := hnames n (by simp)
    rcases s.resolve_eq n [] true h with ⟨i, hi, hb, hin, -⟩ | ⟨fault, hfault, -⟩
    swap
    · rw [withdrawFrom_cons_of_not_resolved hfault] at hr
      cases hr
    rw [hs] at hb
    have hread := Forwarders.readLines_eq hl (hin ▸ hb.name) isFileName_localServersName hnet
    rw [← hin, ← hb.localServersFile, hin, ← forwarders_shelf] at hread
    cases hu : h.disk.unreadable? root base n localServersName with
    | some e =>
      rw [hu] at hread
      rw [withdrawFrom_cons_of_not_read hi hread] at hr
      cases hr
    | none =>
      rw [hu] at hread
      by_cases hc : (revision n).changed = true
      · rw [withdrawFrom_cons_of_changed hi hread (hrevision n (by simp) ▸ hc),
          ← hrevision n (by simp)] at hr
        obtain ⟨_, l, happly, hrest⟩ := of_bind_ok hr
        generalize hun : (⟨i, (revision n).lines⟩ : SiblingUpdate) = u at happly
        have hsib : u.sibling = i := by rw [← hun]
        have hrec := u.records_apply h
        have hrec' := records_withdrawFrom s own names l
        have hone := @Host.Briefed.of_apply root base revision h hl u (by rw [hsib]; exact hb)
          (by rw [hsib, hin]; exact hc) (by rw [hsib, hin, ← hun])
        rw [happly] at hone hrec
        rw [hrest] at hrec'
        obtain ⟨htame, htame'⟩ := (Host.Tame.split hrec hrec').mp ht
        rcases hone htame with ⟨fault, hf⟩ | hbrief
        · cases hf
        rw [hsib, hin] at hbrief
        refine hbrief.cons (ih hbrief.linkless (fun m hm => ?_) hnd' (fun m hm => ?_) hrest htame')
          hn
        · exact (hbrief.networks m).mpr (hnames m (by simp [hm]))
        · have hne : m ∉ [n] := by
            rintro hmn
            exact hn (List.mem_singleton.mp hmn ▸ hm)
          rw [hrevision m (by simp [hm]), hbrief.shelf_eq, forwarders_revise_of_not_mem hne]
      · rw [withdrawFrom_cons_of_unchanged hi hread (hrevision n (by simp) ▸ hc)] at hr
        exact (ih hl (fun m hm => hnames m (by simp [hm])) hnd'
          (fun m hm => hrevision m (by simp [hm])) hr ht).skip (by simpa using hc)

/-! ## Announcements -/

/-- An announcement that has succeeded, in its stages: the network's own file is written, the
siblings are briefed, and what the network has learnt is written. -/
structure Carried (s : Settings) (base : Location) (i : Instance) (own : List Text) (h : Host)
    (names known : List Text) (w x y : Host) : Prop where
  /-- What a look at the siblings finds. -/
  announced : Announced s.rootDir (h.disk.shelf base) i names known
  /-- The siblings have proper names. -/
  proper : ∀ n ∈ names, Settings.isNetworkName n = true
  /-- The network's own file is written. -/
  proclaimed : h.Wrote w (base ++ [Name.text i.network, .text ownServersName])
    (Forwarders.toText own)
  /-- The siblings are told. -/
  applied : applyAll (briefings s w (h.disk.shelf base) own names) w = (.ok (), x)
  /-- Each has the lines that it lacked. -/
  briefed : w.Briefed s.rootDir base names
    (fun n => Forwarders.merge ((h.disk.shelf base).forwarders n) own) x
  /-- What the network has learnt is written. -/
  learnt : x.Wrote y (base ++ [Name.text i.network, .text localServersName])
    (Forwarders.toText (Forwarders.remove known own).lines)

/-- What the networks hold after an announcement. -/
lemma Carried.shelf_eq {known : List Text} {w x y : Host}
    (hc : Carried s base i own h names known w x y) :
    y.disk.shelf base = published (h.disk.shelf base) i.network own names known := by
  rw [hc.learnt.shelf (by decide), hc.briefed.shelf_eq, hc.proclaimed.shelf (by decide)]
  rfl

/-- The instances that siblings are taken for. -/
lemma siblingInstance_isBelow {w : Host} {n : Text} (hn : Settings.isNetworkName n = true) :
    (siblingInstance s w n).IsBelow s.rootDir ∧ (siblingInstance s w n).network = n :=
  ⟨⟨rfl, hn⟩, rfl⟩

/-- An announcement that has ended early, after the network's own file was written: some siblings
are briefed, from the first on. -/
def BrokenOff (root : Path) (base : Location) (i : Instance) (own : List Text) (h k : Host) :
    Prop :=
  ∃ names done w, Siblings (h.disk.shelf base) i.network names ∧ done <+: names ∧
    h.Wrote w (base ++ [Name.text i.network, .text ownServersName]) (Forwarders.toText own) ∧
    w.Briefed root base done
      (fun n => Forwarders.merge ((h.disk.shelf base).forwarders n) own) k

/-- **An announcement carried out**: it has succeeded, or has ended early.

**Proof sketch.** If the updates fail, a first part of the siblings is briefed and nothing more is
done. If they succeed, so are all of them, and the write of the network's own forwarders is the
last stage. -/
lemma carryOut_stages {known : List Text} {w : Host} {r : Except Fault Unit}
    (hl : h.disk.Linkless s.rootDir base) (hi : i.IsBelow s.rootDir)
    (ha : Announced s.rootDir (h.disk.shelf base) i names known)
    (hproper : ∀ n ∈ names, Settings.isNetworkName n = true)
    (hw : h.Wrote w (base ++ [Name.text i.network, .text ownServersName]) (Forwarders.toText own))
    (hr : carryOut i own ⟨known, briefings s w (h.disk.shelf base) own names⟩ w = (r, k))
    (ht : Host.Tame base h k) :
    (∃ x y, Carried s base i own h names known w x y ∧ r = .ok () ∧
        k = y.record (.logged (.propagated i.network i.domain
          (briefings s w (h.disk.shelf base) own names).length))) ∨
      ∃ fault, r = .error fault ∧ BrokenOff s.rootDir base i own h k := by
  have hj := Host.Filed.journal hw
  have hbrief := @briefed_applyAll s.rootDir base names
    (fun n => Forwarders.merge ((h.disk.shelf base).forwarders n) own) w (siblingInstance s w)
    (Host.Filed.linkless hw hl) (fun n hn => siblingInstance_isBelow (hproper n hn))
    ha.siblings.nodup
  generalize hups : briefings s w (h.disk.shelf base) own names = updates at hr ⊢
  rw [briefings] at hups
  rw [hups] at hbrief
  have hrec := records_applyAll updates w
  unfold carryOut Forwarders.writeLines at hr
  rw [run_bind, hi.localServersFile] at hr
  rcases hx : applyAll updates w with ⟨fault | u, x⟩ <;> rw [hx] at hr hrec hbrief
  · cases hr
    obtain ⟨done, hdone, hb, -⟩ := hbrief ((Host.Tame.split ⟨_, hj.symm⟩ hrec).mp ht).2
    exact .inr ⟨fault, rfl, names, done, w, ha.siblings, hdone, hw, hb⟩
  · have hfinal : Records (do
        Files.write (s.rootDir.fileOf i.network localServersName)
          (Forwarders.toText (Forwarders.remove known own).lines)
        log (.propagated i.network i.domain updates.length)) :=
      (records_onDisk _ _).bind fun _ => records_log _
    have hrec' := hfinal x
    dsimp only at hr
    rw [hr] at hrec'
    have htame := ((Host.Tame.split (.trans ⟨_, hj.symm⟩ hrec) hrec').mp ht).1
    obtain ⟨done, hdone, hb, hall⟩ := hbrief ((Host.Tame.split ⟨_, hj.symm⟩ hrec).mp htame).2
    rw [run_bind] at hr
    rcases hb.linkless.write_cases hi.name isFileName_localServersName
      (Forwarders.toText (Forwarders.remove known own).lines) with
      ⟨y, hr', -, hy⟩ | ⟨fault, hr'⟩ <;> rw [hr'] at hr <;> cases hr
    · obtain rfl := hall rfl
      exact .inl ⟨x, y, ⟨ha, hproper, hw, by rw [briefings, hups, hx], hb, hy⟩, rfl, rfl⟩
    · exact .inr ⟨fault, rfl, names, done, w, ha.siblings, hdone, hw, hb⟩

/-- **An announcement in its stages**: it has succeeded, or has not begun, or has ended early.

**Proof sketch.** If it fails before its own file is written, nothing has begun. If it fails while
the siblings are surveyed, none of them is briefed. Otherwise the plan is carried out. -/
theorem publish_stages {servers : List Text} {r : Except Fault Unit}
    (hl : h.disk.Linkless s.rootDir base) (hi : i.IsBelow s.rootDir)
    (hown : Forwarders.scopedLines i.domain servers = own)
    (hr : publish s i servers h = (r, k)) (ht : Host.Tame base h k) :
    (∃ names known w x y, Carried s base i own h names known w x y ∧ r = .ok () ∧
        k = y.record (.logged (.propagated i.network i.domain
          (briefings s w (h.disk.shelf base) own names).length))) ∨
      ∃ fault, r = .error fault ∧ (k = h ∨ BrokenOff s.rootDir base i own h k) := by
  rcases publish_outcome hl hi hown with ⟨fault, -, hp⟩ |
    ⟨w, names, hw, hsib, ⟨fault, hp, -⟩ | ⟨known, hp, hproper, -, ha⟩⟩ <;> rw [hp] at hr
  · cases hr
    exact .inr ⟨fault, rfl, .inl rfl⟩
  · obtain ⟨rfl, rfl⟩ := Prod.mk.inj hr
    exact .inr ⟨fault, rfl, .inr ⟨names, [], w, hsib, List.nil_prefix, hw,
      .refl (Host.Filed.linkless hw hl) _⟩⟩
  · rcases carryOut_stages hl hi ha hproper hw hr ht with
      ⟨x, y, hc, hok⟩ | ⟨fault, hf, hb⟩
    · exact .inl ⟨names, known, w, x, y, hc, hok⟩
    · exact .inr ⟨fault, hf, .inr hb⟩

/-- **An announcement that has succeeded.** -/
theorem carried_publish (hl : h.disk.Linkless s.rootDir base) (hi : i.IsBelow s.rootDir)
    {servers : List Text} (hr : publish s i servers h = (.ok (), k)) (ht : Host.Tame base h k) :
    ∃ names known w x y,
      Carried s base i (Forwarders.scopedLines i.domain servers) h names known w x y ∧
      k = y.record (.logged (.propagated i.network i.domain (briefings s w (h.disk.shelf base)
        (Forwarders.scopedLines i.domain servers) names).length)) := by
  rcases publish_stages hl hi rfl hr ht with
    ⟨names, known, w, x, y, hc, -, hk⟩ | ⟨fault, hf, -⟩
  · exact ⟨names, known, w, x, y, hc, hk⟩
  · cases hf

/-- What the networks hold after an announcement that has succeeded. -/
theorem shelf_publish (hl : h.disk.Linkless s.rootDir base) (hi : i.IsBelow s.rootDir)
    {servers : List Text} (hr : publish s i servers h = (.ok (), k)) (ht : Host.Tame base h k) :
    k.disk.Linkless s.rootDir base ∧ ∃ names known,
      Announced s.rootDir (h.disk.shelf base) i names known ∧ k.disk.shelf base = published
        (h.disk.shelf base) i.network (Forwarders.scopedLines i.domain servers) names known := by
  obtain ⟨names, known, w, x, y, hc, rfl⟩ := carried_publish hl hi hr ht
  have hl' : y.disk.Linkless s.rootDir base := Host.Filed.linkless hc.learnt hc.briefed.linkless
  exact ⟨hl', names, known, hc.announced, hc.shelf_eq⟩

/-- **A withdrawal that has succeeded**: all siblings are briefed.

**Proof sketch.** The siblings are listed in order and once each, so `briefed_withdrawFrom` speaks
of all of them. -/
theorem briefed_withdraw (hl : h.disk.Linkless s.rootDir base) (hi : i.IsBelow s.rootDir)
    {servers : List Text} (hr : withdraw s i servers h = (.ok (), k)) (ht : Host.Tame base h k) :
    ∃ names l, Siblings (h.disk.shelf base) i.network names ∧
      h.Briefed s.rootDir base names (fun n => Forwarders.remove
        ((h.disk.shelf base).forwarders n) (Forwarders.scopedLines i.domain servers)) l ∧
      k = l.record (.logged (.withdrew i.network i.domain)) := by
  unfold withdraw at hr
  obtain ⟨names, hnames, hnd, hmem, hord⟩ := hl.leads.siblings hi.name rfl
  rw [run_bind, run_lift, hi.dir, hnames] at hr
  obtain ⟨_, l, hfrom, hlog⟩ := of_bind_ok hr
  obtain rfl : l.record (.logged (.withdrew i.network i.domain)) = k := (Prod.mk.inj hlog).2
  have hrec := records_withdrawFrom s (Forwarders.scopedLines i.domain servers) names h
  rw [hfrom] at hrec
  have htame := ((Host.Tame.split hrec (List.prefix_append _ _)).mp ht).1
  refine ⟨names, l, ⟨hnd, fun p => ?_, hord⟩, ?_, rfl⟩
  · rw [hmem, isNetwork_shelf_iff]
  · exact briefed_withdrawFrom rfl hl (fun p hp => ((hmem p).mp hp).1) hnd (fun _ _ => rfl) hfrom
      htame

end Outcomes

end Propagation

end ResolverMesh
