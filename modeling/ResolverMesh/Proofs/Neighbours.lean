import ResolverMesh.Proofs.AnnouncementPlan
import ResolverMesh.Proofs.ByteOrder

set_option autoImplicit false
set_option relaxedAutoImplicit false

/-!
# The networks beside a network

A network finds its siblings by listing the root, and takes each name in the list for that of a
network. The root may hold anything: files, links, directories whose names are no text. What is
listed are the directories that stand in the root themselves, so that a link to one is passed over,
and each of them is taken for a network without fail: whatever a disk holds has a name between two
slashes, and so has a network.

A network may itself be a link. Then it is not in its own list, but the directory behind it is if
it stands in the root, since the list is made of names and no name is followed.

## Main definitions

* `ResolverMesh.Disk.WellNamed` — what a disk holds has names that can stand in a path.
* `ResolverMesh.Settings.Neighbours` — what a network finds beside it.

## Main results

* `ResolverMesh.Disk.WellNamed.of_write`, `ResolverMesh.Disk.WellNamed.of_makeDirectory`,
  `ResolverMesh.Disk.WellNamed.of_removeAll` — the requests to a disk keep its names.
* `ResolverMesh.Propagation.publish_fault`, `ResolverMesh.Propagation.withdraw_fault` — an
  announcement and a withdrawal do not fail for the name of a sibling.
* `ResolverMesh.Settings.neighbours_of_resolved` — the siblings of any network.
-/

namespace ResolverMesh

open ResolverMesh.Action

/-- Different texts in dictionary order are strictly in the order of their bytes. -/
lemma Text.Utf8.encode_lt_of_le_of_ne {as bs : Text} (h : Text.le as bs = true) (hne : as ≠ bs) :
    encode as < encode bs := by
  rw [← List.not_le, encode_le_iff]
  exact fun hge => hne (Text.le_antisymm h hge)

/-! ## Names on a disk -/

/-- A step of a path can stand between two slashes. -/
lemma Path.isPlain_of_mem_steps {p : Path} {w : Text} (h : w ∈ p.steps) : IsPlain w := by
  obtain ⟨hpiece, hne⟩ := List.mem_filter.mp h
  exact ⟨by simpa using hne, Text.not_mem_of_mem_pieces hpiece⟩

/-- The steps of a path can stand in one. -/
lemma Path.isPlain_of_mem_lookupSteps {p : Path} {w : Text} (h : w ∈ p.lookupSteps) :
    IsPlain w := by
  unfold lookupSteps at h
  split at h
  · rcases List.mem_append.mp h with h | h
    · exact isPlain_of_mem_steps h
    · rw [List.mem_singleton.mp h]
      decide
  · exact isPlain_of_mem_steps h

/-- The name of a file can be that of a network. -/
lemma IsFileName.isNetworkName {n : Text} (h : IsFileName n) : Settings.isNetworkName n = true :=
  Settings.isNetworkName_iff.mpr ⟨h.1, h.2.1, h.2.2.1⟩

/-- A first stretch along some steps ends at a free name that is one of them, or before a link and
some of them, if it does not end otherwise. -/
def Stretch.Among (steps : List Text) : Stretch → Prop
  | .vacant _ name => name ∈ steps ∧ FileTree.IsStep name
  | .link _ _ rest => rest ⊆ steps
  | .arrived _ => True
  | .failed _ => True

/-- A stretch among some steps is among more of them. -/
lemma Stretch.Among.cons {steps : List Text} {stretch : Stretch} (h : stretch.Among steps)
    (s : Text) : stretch.Among (s :: steps) := by
  cases stretch with
  | vacant parent name => exact ⟨List.mem_cons_of_mem s h.1, h.2⟩
  | link base target rest => exact List.subset_cons_of_subset s h
  | arrived loc => trivial
  | failed e => trivial

namespace FileTree

variable {t : FileTree} {here parent : Location} {steps : List Text} {name : Text}

/-- A stretch of a walk is among the steps that it is told to go.

**Proof sketch.** Induction on the steps. The names that a stretch ends with are what is left of
them, and a free name is one of them that leads neither nowhere nor up. -/
lemma advance_among (t : FileTree) (follow : Bool) (here : Location) (steps : List Text) :
    (t.advance follow here steps).Among steps := by
  induction steps generalizing here with
  | nil => trivial
  | cons s ss ih =>
    rw [advance]
    split
    · exact (ih _).cons s
    · next hdot =>
      split
      · exact (ih _).cons s
      · next hup =>
        split
        · trivial
        · next hlen =>
          cases t.get? (here ++ [Name.text s]) with
          | none =>
            dsimp only
            split
            · exact ⟨by simp, hdot, hup, Nat.le_of_not_lt hlen⟩
            · trivial
          | some e =>
            cases e with
            | directory id mode => exact (ih _).cons s
            | file id x c =>
              dsimp only
              split <;> trivial
            | link target =>
              dsimp only
              split
              · trivial
              · exact List.subset_cons_self s ss

/-- **A walk along plain steps** that ends at a free name ends at one that a file can have: it is a
step of the path or of a link on the way.

**Proof sketch.** Induction on the links that may be followed. A stretch ends at a free name among
its steps, which are plain; where it ends at a link, the walk goes on along the steps of the link's
target and those that are left, and all of them are plain. -/
theorem isFileName_of_walk {aim : Aim} {links : Nat} (hs : ∀ s ∈ steps, Path.IsPlain s)
    (hw : t.walk aim links here steps = .ok (.vacant parent name)) : IsFileName name := by
  induction links using Nat.strongRecOn generalizing here steps with
  | ind links ih =>
    have hamong := t.advance_among aim.follows here steps
    rw [walk.eq_def] at hw
    cases ha : t.advance aim.follows here steps with
    | arrived l =>
      rw [ha] at hw
      dsimp only at hw
      split at hw <;> cases hw
    | vacant p n =>
      rw [ha] at hw hamong
      cases hw
      exact ⟨hs _ hamong.1, hamong.2⟩
    | failed e => simp [ha] at hw
    | link base target rest =>
      rw [ha] at hw hamong
      cases links with
      | zero => cases hw
      | succ links =>
        dsimp only at hw
        split at hw
        · split at hw <;> cases hw
        · refine ih links (Nat.lt_succ_self links) (fun s hm => ?_) hw
          rcases List.mem_append.mp hm with hm | hm
          · exact Path.isPlain_of_mem_lookupSteps hm
          · exact hs s (hamong hm)

end FileTree

namespace Disk

variable {d : Disk} {p : Path}

/-- What a disk holds has names that can stand in a path, as far as they are texts: not empty,
without a slash, neither the place itself nor the one above, and not too long. -/
def WellNamed (d : Disk) : Prop :=
  ∀ loc n e, d.tree.get? (loc ++ [Name.text n]) = some e → IsFileName n

namespace WellNamed

/-- The names on a disk, as its entries show. -/
lemma of_entries (h : ∀ x ∈ d.tree.entries, ∀ n ∈ x.1.loc.getLast?.bind Name.text?,
    IsFileName n) : d.WellNamed := by
  intro loc n e he
  exact h _ (FileTree.get?_eq_some_iff.mp he) n (by simp [Site.ofLocation, Name.text?])

/-- An entry is put at a free name, or in the place of another one. -/
lemma of_put (h : d.WellNamed) {d' : Disk} {loc : Location} {e : Entry}
    (ht : d'.tree = d.tree.put loc e)
    (hloc : ∀ parent n, loc = parent ++ [Name.text n] → IsFileName n) : d'.WellNamed := by
  intro l n e' he
  rw [ht, FileTree.get?_put] at he
  split at he
  · next heq => exact hloc l n heq.symm
  · exact h l n e' he

/-- A walk ends at a free name that can stand in a path. -/
lemma of_vacant {d' : Disk} {aim : Aim} {parent : Location} {name : Text} {e : Entry}
    (h : d.WellNamed) (hw : d.walk aim p p.steps = .ok (.vacant parent name))
    (ht : d'.tree = d.tree.put (parent ++ [Name.text name]) e) : d'.WellNamed := by
  obtain ⟨-, hwalk⟩ := walk_eq_tree_walk hw
  have hname := FileTree.isFileName_of_walk (fun s hs => Path.isPlain_of_mem_steps hs) hwalk
  refine h.of_put ht fun l n heq => ?_
  have hlast := List.append_inj_right' heq rfl
  simp only [List.cons.injEq, Name.text.injEq, and_true] at hlast
  exact hlast ▸ hname

/-- **A file written** has a name that can stand in a path.

**Proof sketch.** The file is put in the place of another one, whose name is a proper one already,
or at a free name that the walk has ended at. -/
theorem of_write (h : d.WellNamed) {update : Option Content → Content} {c : Change}
    (hw : d.write p update = .ok c) : c.disk.WellNamed := by
  unfold write at hw
  cases hopen : d.openSpot p with
  | error e => simp [hopen] at hw
  | ok spot =>
    rw [hopen] at hw
    have hwalk := walk_of_openSpot hopen
    cases spot with
    | vacant parent name =>
      cases hw
      exact h.of_vacant hwalk rfl
    | entry loc e =>
      obtain ⟨-, htree⟩ := walk_eq_tree_walk hwalk
      have he := FileTree.get?_of_walk.2 htree
      cases e with
      | file id x content =>
        cases hw
        exact h.of_put rfl fun parent n heq => h parent n _ (heq ▸ he)
      | directory id mode => cases hw
      | link target => cases hw

/-- **A directory made** has a name that can stand in a path.

**Proof sketch.** It is put where a walk ended at a free name, and names on a walk can stand in a
path. -/
theorem of_makeDirectory (h : d.WellNamed) {mode : Nat} {c : Change}
    (hm : d.makeDirectory mode p = .ok c) : c.disk.WellNamed := by
  unfold makeDirectory at hm
  split at hm
  · cases hm
  · cases hm
  · next hwalk =>
    cases hm
    exact h.of_vacant hwalk rfl

/-- **A removal** leaves no new name.

**Proof sketch.** What is left after a removal was there before. -/
theorem of_removeAll (h : d.WellNamed) {c : Change} (hr : d.removeAll p = .ok c) :
    c.disk.WellNamed := by
  have hkeep : ∀ loc, WellNamed { d with tree := d.tree.removeAt loc } := by
    intro loc l n e he
    rw [FileTree.get?_removeAt] at he
    split at he
    · cases he
    · exact h l n e he
  unfold removeAll at hr
  split at hr
  · cases hr
  · cases hr
  · cases hr
    exact hkeep _

end WellNamed

end Disk

/-- The networks that are listed have proper names.

**Proof sketch.** A sibling is an entry of the root, which is well named, and its name is a text. -/
lemma Settings.isNetworkName_of_mem_siblings {s : Settings} {current : Path} {h : Host}
    {names : List Text} (hnamed : h.disk.WellNamed) (hr : s.siblings current h = .ok names) :
    ∀ p ∈ names, isNetworkName p = true := by
  intro p hp
  unfold siblings Disk.listDirectory at hr
  cases hf : h.disk.find s.rootDir with
  | error e =>
    rw [hf] at hr
    dsimp only at hr
    split at hr <;> cases hr
    cases hp
  | ok found =>
    obtain ⟨loc, e⟩ := found
    rw [hf] at hr
    cases e with
    | file id x c => cases hr
    | link target => cases hr
    | directory id mode =>
      cases hr
      obtain ⟨⟨name, e⟩, hmem, hname⟩ := List.mem_filterMap.mp (Text.mem_sorted.mp hp)
      cases name with
      | raw bytes => cases hname
      | text t =>
        simp only [Name.text?, Option.ite_none_right_eq_some, Option.some.injEq] at hname
        obtain ⟨-, rfl⟩ := hname
        exact (hnamed _ _ _ (FileTree.mem_children.mp hmem)).isNetworkName

/-- A text written to any path leaves names that can stand in a path. -/
lemma Files.wellNamed_write {h : Host} (hnamed : h.disk.WellNamed) (p : Path) (t : Text) :
    (Files.write p t h).2.disk.WellNamed := by
  unfold Files.write onDisk
  split
  · exact hnamed
  · next hw => exact hnamed.of_write hw

/-! ## Faults for a name -/

/-- The fault says that a request makes no sense. -/
def Fault.isInvalidConfig : Fault → Bool
  | .invalidConfig _ => true
  | _ => false

/-- A reason of the system is no fault of a name. -/
lemma Fault.isInvalidConfig_eq_false {fault : Fault} (h : fault.isOfSystem = true) :
    fault.isInvalidConfig = false := by
  cases fault <;> first | rfl | cases h

/-- A proper name is refused for want of the daemon's program only. -/
lemma Settings.resolve_fault {s : Settings} {n domain : Text} {multi : Bool} {h : Host}
    {fault : Fault} (hn : isNetworkName n = true)
    (hr : s.resolve n domain multi h = .error fault) : fault = .binaryNotFound s.binary := by
  unfold resolve at hr
  rw [if_pos hn] at hr
  split at hr <;> cases hr
  rfl

/-- Forwarders that are not read are not read for a reason of the system.

**Proof sketch.** Reading a file fails for an I/O error only, and what is read is always lines. -/
lemma Forwarders.readLines_fault {p : Path} {h : Host} {fault : Fault}
    (hr : readLines p h = .error fault) : ∃ e, fault = .io e := by
  unfold readLines at hr
  rw [Query.run_bind] at hr
  cases hread : Files.readIfThere p h with
  | ok content =>
    rw [hread] at hr
    cases content <;> cases hr
  | error e =>
    rw [hread] at hr
    cases hr
    unfold Files.readIfThere at hread
    split at hread
    · cases hread
    · split at hread <;> cases hread
      exact ⟨_, rfl⟩

/-- Siblings that are not listed are not listed for a reason of the system. -/
lemma Settings.siblings_fault {s : Settings} {current : Path} {h : Host} {fault : Fault}
    (hr : s.siblings current h = .error fault) : ∃ e, fault = .io e := by
  unfold siblings at hr
  split at hr
  · cases hr
  · split at hr <;> cases hr
    exact ⟨_, rfl⟩

namespace Propagation

variable {s : Settings} {names own : List Text} {domain : Text} {k : Host} {fault : Fault}

/-- **A look at networks with proper names** does not fail for a name.

**Proof sketch.** Induction on the names. Each is that of a network, so its instance is resolved or
the program is missing; its files are not read for an I/O error, and a claim is a collision. None
of these is a fault of a name. -/
theorem survey_fault (hnames : ∀ p ∈ names, Settings.isNetworkName p = true) {found : Survey}
    (hr : survey s domain own names found k = .error fault) : fault.isInvalidConfig = false := by
  induction names generalizing found with
  | nil => cases hr
  | cons p names ih =>
    rw [survey, Query.run_bind] at hr
    cases hsibling : s.resolve p [] true k with
    | error e =>
      rw [hsibling] at hr
      cases hr
      rw [Settings.resolve_fault (hnames p (by simp)) hsibling]
      rfl
    | ok sibling =>
      rw [hsibling] at hr
      dsimp only at hr
      rw [Query.run_bind] at hr
      cases hown : Forwarders.readLines sibling.ownServersFile k with
      | error e =>
        rw [hown] at hr
        cases hr
        obtain ⟨e, rfl⟩ := Forwarders.readLines_fault hown
        rfl
      | ok published =>
        rw [hown] at hr
        dsimp only at hr
        by_cases hclaims : Forwarders.claims published domain = true
        · rw [if_pos hclaims, Query.run_bind] at hr
          cases hr
          rfl
        · rw [if_neg hclaims, Query.run_bind] at hr
          cases hlocal : Forwarders.readLines sibling.localServersFile k with
          | error e =>
            rw [hlocal] at hr
            cases hr
            obtain ⟨e, rfl⟩ := Forwarders.readLines_fault hlocal
            rfl
          | ok theirs =>
            rw [hlocal] at hr
            exact ih (fun q hq => hnames q (List.mem_cons_of_mem p hq)) hr

/-- **A withdrawal from networks with proper names** does not fail for a name.

**Proof sketch.** Induction on the names. What fails at one of them is the resolution, the reading,
or the update, and none of these fails for the name. -/
theorem failsOnly_withdrawFrom (hnames : ∀ p ∈ names, Settings.isNetworkName p = true) :
    (withdrawFrom s own names).FailsOnly (·.isInvalidConfig = false) := by
  induction names with
  | nil => exact failsOnly_of_ok fun _ => ⟨(), rfl⟩
  | cons p names ih =>
    have hrest := ih fun q hq => hnames q (List.mem_cons_of_mem p hq)
    refine .bind (failsOnly_ask fun h fault hr => ?_) fun sibling =>
      .bind (failsOnly_ask fun h fault hr => ?_) fun current => ?_
    · rw [Settings.resolve_fault (hnames p (by simp)) hr]
      rfl
    · obtain ⟨e, rfl⟩ := Forwarders.readLines_fault hr
      rfl
    · dsimp only
      split
      · refine .bind ?_ fun _ => hrest
        exact (SiblingUpdate.failsOnly_apply _).mono fun _ => Fault.isInvalidConfig_eq_false
      · exact hrest

/-- A look at the siblings does not fail for a name.

**Proof sketch.** What is known is not read for an I/O error, and the siblings are not listed for
one. Those that are listed have proper names, so the survey does not fail for a name. -/
lemma look_fault (hnamed : k.disk.WellNamed) (i : Instance)
    (hr : (look s i own k).1 = .error fault) : fault.isInvalidConfig = false := by
  unfold look at hr
  rw [run_bind, run_lift] at hr
  cases hread : Forwarders.readLines i.localServersFile k with
  | error e =>
    rw [hread] at hr
    cases hr
    obtain ⟨e, rfl⟩ := Forwarders.readLines_fault hread
    rfl
  | ok current =>
    rw [hread] at hr
    dsimp only at hr
    rw [run_bind, run_lift] at hr
    cases hnames : s.siblings i.dir k with
    | error e =>
      rw [hnames] at hr
      cases hr
      obtain ⟨e, rfl⟩ := Settings.siblings_fault hnames
      rfl
    | ok names =>
      rw [hnames] at hr
      exact survey_fault (Settings.isNetworkName_of_mem_siblings hnamed hnames) hr

/-- **An announcement does not fail for the name of a sibling.**

**Proof sketch.** The siblings are listed once the network's own file is written, on a disk whose
names can stand in paths as before. So each of them has a proper name, and the look at them does not
fail for one. What comes after it is planned, and resolves no name. -/
theorem publish_fault (hnamed : k.disk.WellNamed) (i : Instance) (servers : List Text)
    (hr : (publish s i servers k).1 = .error fault) : fault.isInvalidConfig = false := by
  rw [publish_eq, run_bind] at hr
  have hwrite : (Files.write i.ownServersFile (Forwarders.toText
      (Forwarders.scopedLines i.domain servers))).FailsOnly (·.isInvalidConfig = false) :=
    failsOnly_onDisk (fun _ => rfl) _ _
  have hnamed' := Files.wellNamed_write hnamed i.ownServersFile (Forwarders.toText
    (Forwarders.scopedLines i.domain servers))
  unfold Forwarders.writeLines at hr
  rcases hw : Files.write i.ownServersFile (Forwarders.toText
      (Forwarders.scopedLines i.domain servers)) k with ⟨fault' | _, w⟩
  · rw [hw] at hr
    cases hr
    exact hwrite k _ (congrArg Prod.fst hw)
  · rw [hw] at hr hnamed'
    dsimp only at hr
    rw [run_bind] at hr
    rcases hfound : look s i (Forwarders.scopedLines i.domain servers) w with ⟨fault' | found, x⟩
    · rw [hfound] at hr
      cases hr
      exact look_fault hnamed' i (congrArg Prod.fst hfound)
    · rw [hfound] at hr
      exact Fault.isInvalidConfig_eq_false (failsOnly_carryOut i _ found x fault hr)

/-- **A withdrawal does not fail for the name of a sibling.**

**Proof sketch.** Listing the siblings fails for an error of the system only. The siblings listed
have proper names, so none of the updates fails for a name. -/
theorem withdraw_fault (hnamed : k.disk.WellNamed) (i : Instance) (servers : List Text)
    (hr : (withdraw s i servers k).1 = .error fault) : fault.isInvalidConfig = false := by
  unfold withdraw at hr
  rw [run_bind, run_lift] at hr
  cases hnames : s.siblings i.dir k with
  | error e =>
    rw [hnames] at hr
    cases hr
    obtain ⟨e, rfl⟩ := Settings.siblings_fault hnames
    rfl
  | ok names =>
    rw [hnames] at hr
    have hproper := Settings.isNetworkName_of_mem_siblings hnamed hnames
    exact (FailsOnly.bind (failsOnly_withdrawFrom hproper) fun _ => failsOnly_log _) k fault hr

end Propagation

/-! ## Siblings -/

namespace Disk

variable {d : Disk} {root : Path} {base : Location} {n p : Text}

/-- The path of a network leads to its directory, if the system takes the path. -/
lemma Leads.leads_network (hl : d.Leads root base) (hp : IsFileName p) (hnet : d.HasNetwork base p)
    (hr : refusal? (root.join p) = none) : d.Leads (root.join p) (base ++ [Name.text p]) := by
  obtain ⟨hsteps, habs, -, hlook⟩ := hl.path_network hp.isNetworkName
  obtain ⟨left, hwalk⟩ := hl.walk_below hr hsteps habs (by simp) .target
  obtain ⟨id, mode, hd⟩ := hnet
  refine ⟨id, mode, lookUp_eq_ok_iff.mpr ?_⟩
  rw [hlook, hwalk]
  exact FileTree.walk_of_arrived (FileTree.advance_last hp.2 hd rfl) hd

/-- The path of a network leads elsewhere in the root only by a link.

**Proof sketch.** The walk to the network's path comes to the entry of its name. A directory would
be where the name says, and a file would end the walk, so the entry is a link. -/
lemma Leads.link_of_leads_network (hl : d.Leads root base)
    (hn : Settings.isNetworkName n = true) (hne : n ≠ p)
    (hother : d.Leads (root.join n) (base ++ [Name.text p])) :
    ∃ target, d.tree.get? (base ++ [Name.text n]) = some (.link target) := by
  obtain ⟨-, hdot, hup⟩ := Settings.isNetworkName_iff.mp hn
  obtain ⟨hsteps, habs, -, hlook⟩ := hl.path_network hn
  obtain ⟨id, mode, hfind⟩ := hother
  have hwalk := lookUp_eq_ok_iff.mp hfind
  have hr := (walk_eq_tree_walk hwalk).1
  obtain ⟨left, hbelow⟩ := hl.walk_below hr hsteps habs (by simp) .target
  rw [hlook, hbelow, FileTree.walk.eq_def, FileTree.advance, if_neg hdot, if_neg hup] at hwalk
  by_cases hlen : FileTree.longestName < Text.utf8Size n
  · simp [hlen] at hwalk
  · rw [if_neg hlen] at hwalk
    cases he : d.tree.get? (base ++ [Name.text n]) with
    | none => simp [he] at hwalk
    | some e =>
      cases e with
      | link target => exact ⟨target, rfl⟩
      | directory id' mode' => simp [he, FileTree.advance, hne] at hwalk
      | file id' x c => simp [he] at hwalk

end Disk

namespace Settings

/-- What a network finds beside it on a host. -/
structure Neighbours (s : Settings) (base : Location) (i : Instance) (h : Host)
    (names : List Text) : Prop where
  /-- The names are listed. -/
  listed : s.siblings i.dir h = .ok names
  /-- They come in the order of their bytes, each once. -/
  ordered : names.Pairwise fun p q => Text.Utf8.encode p < Text.Utf8.encode q
  /-- They are those of the directories that stand in the root, without the network's own. -/
  mem_iff : ∀ p, p ∈ names ↔ (∃ id mode,
    h.disk.tree.get? (base ++ [Name.text p]) = some (.directory id mode)) ∧ p ≠ i.network
  /-- Each is taken for a network, whose directory is that name joined to the root. -/
  resolved : ∀ p ∈ names, ∀ domain multi, ∃ j, s.resolve p domain multi h = .ok j ∧
    j.network = p ∧ j.dir = s.rootDir.join p
  /-- None is refused for its name, whatever becomes of the host. -/
  proper : ∀ p ∈ names, ∀ k domain multi reason,
    s.resolve p domain multi k ≠ .error (.invalidConfig reason)
  /-- The directory is one step below the root, and that step is its file name. -/
  child : ∀ p ∈ names, (s.rootDir.join p).steps = s.rootDir.steps ++ [p] ∧
    (s.rootDir.join p).fileName? = some p
  /-- Its path leads to the directory that was listed, if the system takes the path. -/
  leads : ∀ p ∈ names, Disk.refusal? (s.rootDir.join p) = none →
    h.disk.Leads (s.rootDir.join p) (base ++ [Name.text p])
  /-- Networks with different names have different directories. -/
  apart : ∀ {p q domain domain' multi multi' j j'}, s.resolve p domain multi h = .ok j →
    s.resolve q domain' multi' h = .ok j' → p ≠ q → j.dir ≠ j'.dir
  /-- None of them is the network's own. -/
  other : ∀ p ∈ names, s.rootDir.join p ≠ i.dir
  /-- The network's own path leads to none of them either, unless the network is a link. -/
  link : ∀ p ∈ names, h.disk.Leads i.dir (base ++ [Name.text p]) →
    ∃ target, h.disk.tree.get? (base ++ [Name.text i.network]) = some (.link target)

variable {s : Settings} {base : Location} {i : Instance} {h : Host} {n domain : Text} {multi : Bool}

/-- Proper names that are joined to one path make different paths. -/
lemma join_ne_join {p q : Text} (hp : isNetworkName p = true) (hq : isNetworkName q = true)
    (hne : p ≠ q) (root : Path) : root.join p ≠ root.join q := by
  obtain ⟨hplain, hdot, hup⟩ := isNetworkName_iff.mp hp
  obtain ⟨hplain', hdot', hup'⟩ := isNetworkName_iff.mp hq
  intro heq
  have hnames := congrArg Path.fileName? heq
  rw [Path.fileName?_join root hplain hdot hup, Path.fileName?_join root hplain' hdot' hup']
    at hnames
  exact hne (Option.some.inj hnames)

/-- **The siblings of any network**, in any root. They are listed in the order of their bytes, once
each: the directories that stand in the root under a name that is a text, without the network's own.
Each of them is taken for a network with a directory of its own, and no announcement and no
withdrawal fails for the name of one.

**Proof sketch.** What is listed comes from the entries of the root, whose names can stand in a
path. So they are proper names of networks, and joining one to the root, in whatever spelling the
root is given, adds it as the last step: the file name tells the paths apart. It is also what the
listing leaves out the network by. -/
theorem neighbours_of_resolved (hbase : h.disk.Leads s.rootDir base) (hnamed : h.disk.WellNamed)
    (hi : s.resolve n domain multi h = .ok i) :
    (∃ names, s.Neighbours base i h names) ∧ ∀ k : Host, k.disk.WellNamed → ∀ servers reason,
      (Propagation.publish s i servers k).1 ≠ .error (.invalidConfig reason) ∧
      (Propagation.withdraw s i servers k).1 ≠ .error (.invalidConfig reason) := by
  obtain ⟨hbelow, -, hlocate⟩ := of_resolve_ok hi
  have hfound : (locate? h s.binary).isSome = true := by rw [hlocate, Option.isSome_some]
  obtain ⟨names, hnames, hnd, hmem, hord⟩ := hbase.siblings hbelow.name rfl
  rw [← hbelow.dir] at hnames
  have hproper := isNetworkName_of_mem_siblings hnamed hnames
  refine ⟨⟨names, ?_⟩, fun k hk servers reason => ⟨fun hr => ?_, fun hr => ?_⟩⟩
  · exact {
      listed := hnames
      ordered := (hnd.and hord).imp fun {p q} hpq =>
        Text.Utf8.encode_lt_of_le_of_ne hpq.2 hpq.1
      mem_iff := hmem
      resolved := fun p hp domain multi => by
        obtain ⟨j, hj, hb, rfl⟩ := exists_resolve hfound (hproper p hp) domain multi
        exact ⟨j, hj, rfl, hb.dir⟩
      proper := fun p hp k domain multi reason hr => by
        cases resolve_fault (hproper p hp) hr
      child := fun p hp => by
        obtain ⟨hplain, hdot, hup⟩ := isNetworkName_iff.mp (hproper p hp)
        exact ⟨Path.steps_join _ hplain, Path.fileName?_join _ hplain hdot hup⟩
      leads := fun p hp hr => by
        obtain ⟨hnet, -⟩ := (hmem p).mp hp
        obtain ⟨id, mode, hd⟩ := hnet
        exact hbase.leads_network (hnamed _ _ _ hd) ⟨id, mode, hd⟩ hr
      apart := fun {p q _ _ _ _ j j'} hj hj' hne => by
        obtain ⟨hb, rfl, -⟩ := of_resolve_ok hj
        obtain ⟨hb', rfl, -⟩ := of_resolve_ok hj'
        rw [hb.dir, hb'.dir]
        exact join_ne_join hb.name hb'.name hne s.rootDir
      other := fun p hp => by
        rw [hbelow.dir]
        exact join_ne_join (hproper p hp) hbelow.name ((hmem p).mp hp).2 s.rootDir
      link := fun p hp hl => by
        rw [hbelow.dir] at hl
        exact hbase.link_of_leads_network hbelow.name (Ne.symm ((hmem p).mp hp).2) hl }
  · cases Propagation.publish_fault hk i servers hr
  · cases Propagation.withdraw_fault hk i servers hr

end Settings

namespace Sample

/-- The sample disk with a root that holds what may stand in one: the network "a", another one, a
directory whose name is no text, a link to a directory, and a file. -/
def mixedDisk : Disk :=
  { disk with
    tree := ((((disk.tree.put (base ++ [.text "b".toList]) (.directory 8 0o755)).put
      (base ++ [.text "a".toList]) (.directory 9 0o755)).put
      (base ++ [.raw [0xff]]) (.directory 10 0o755)).put
      (base ++ [.text "c".toList]) (.link ⟨"b".toList⟩)).put
      (base ++ [.text "d".toList]) (.file 11 false (.text []))
    nextId := 12 }

end Sample

namespace Settings

open Sample in
/-- A root that holds two networks, a file, a link, and a directory whose name is no text. The
second network is the only sibling of the first.

**Proof sketch.** All that the theorem asks of the sample disk is computed at once. -/
theorem neighbours_of_resolved_of_mixed :
    mesh.settings.siblings announcing.dir { host [] with disk := mixedDisk } = .ok ["b".toList] ∧
      (∃ names, mesh.settings.Neighbours base announcing { host [] with disk := mixedDisk } names) ∧
      ∀ servers reason, (Propagation.publish mesh.settings announcing servers
        { host [] with disk := mixedDisk }).1 ≠ .error (.invalidConfig reason) := by
  have hread : mixedDisk.find mesh.settings.rootDir = .ok ⟨base, .directory 5 0o755⟩ ∧
      (∀ x ∈ mixedDisk.tree.entries, ∀ n ∈ x.1.loc.getLast?.bind Name.text?, IsFileName n) ∧
      mesh.settings.resolve "a".toList "x".toList true { host [] with disk := mixedDisk } =
        .ok announcing ∧
      mesh.settings.siblings announcing.dir { host [] with disk := mixedDisk } =
        .ok ["b".toList] := by
    decide +kernel
  obtain ⟨hfind, hnames, hi, hlisted⟩ := hread
  have hnamed := Disk.WellNamed.of_entries hnames
  obtain ⟨hneighbours, hfault⟩ := neighbours_of_resolved ⟨5, 0o755, hfind⟩ hnamed hi
  exact ⟨hlisted, hneighbours, fun servers reason => (hfault _ hnamed servers reason).1⟩

end Settings

end ResolverMesh
