import ResolverMesh.Proofs.LastingProperties

set_option autoImplicit false
set_option relaxedAutoImplicit false

/-!
# Requests at any place

What a request to the disk changes at most, whatever the layout is: a text is written to a file or
to a free place, and a directory is made at a free place. So making a directory with those above it
leaves all that was there as it was. Below a directory without links, a file of a network is read
and written at the place that its names tell.

## Main definitions

* `ResolverMesh.Host.Prepared` — a host before and after directories are made.

## Main results

* `ResolverMesh.Disk.writeText_ok`, `ResolverMesh.Disk.makeDirectory_ok` — one request.
* `ResolverMesh.Disk.leads_of_makeDirectory_ok` — a directory made is what its path leads to.
* `ResolverMesh.Files.prepared_makeDirectories` — a directory made with those above it.
* `ResolverMesh.Disk.Linkless.write_ok`, `ResolverMesh.Disk.Linkless.readIfThere_ok` — a file of a
  network.
-/

namespace ResolverMesh

open ResolverMesh.Action

namespace FileTree

variable {t : FileTree} {here loc parent : Location} {steps : List Text} {name : Text}

/-- A first stretch that ends at a free name ends where nothing is.

**Proof sketch.** Induction on the steps: the stretch ends where the last name is looked up and not
found. -/
lemma get?_of_advance_vacant {follow : Bool}
    (h : t.advance follow here steps = .vacant parent name) :
    t.get? (parent ++ [Name.text name]) = none := by
  induction steps generalizing here with
  | nil => cases h
  | cons s ss ih =>
    rw [advance] at h
    split at h
    · exact ih h
    · split at h
      · exact ih h
      · split at h
        · cases h
        · cases he : t.get? (here ++ [Name.text s]) with
          | none =>
            rw [he] at h
            dsimp only at h
            split at h
            · cases h
              exact he
            · cases h
          | some e =>
            rw [he] at h
            cases e with
            | directory id mode => exact ih h
            | file id x c =>
              dsimp only at h
              split at h <;> cases h
            | link target =>
              dsimp only at h
              split at h <;> cases h

/-- A walk ends at a free name where nothing is, and at an entry where that entry is.

**Proof sketch.** Induction on the links that may be followed. A stretch that ends at a free name
is told by `get?_of_advance_vacant`, and one that has arrived looks at what is there. -/
lemma get?_of_walk {aim : Aim} {links : Nat} :
    (∀ {parent name}, t.walk aim links here steps = .ok (.vacant parent name) →
        t.get? (parent ++ [Name.text name]) = none) ∧
      ∀ {loc e}, t.walk aim links here steps = .ok (.entry loc e) → t.get? loc = some e := by
  induction links generalizing here steps with
  | zero =>
    unfold walk
    cases ha : t.advance aim.follows here steps with
    | arrived l =>
      dsimp only
      split
      · next e he => simp_all
      · simp
    | vacant p n => simpa using get?_of_advance_vacant ha
    | failed err => simp
    | link b g a => simp
  | succ links ih =>
    unfold walk
    cases ha : t.advance aim.follows here steps with
    | arrived l =>
      dsimp only
      split
      · next e he => simp_all
      · simp
    | vacant p n => simpa using get?_of_advance_vacant ha
    | failed err => simp
    | link b g a =>
      dsimp only
      split
      · split <;> simp
      · exact ih

/-- A first stretch to a free name arrives there once a directory is made at it, and one that ends
before a link still does.

**Proof sketch.** Induction on the steps. All entries on the way are there after growth, and at the
free name is the directory, where the stretch arrives. -/
lemma Grows.advance_made {u : FileTree} (h : t.Grows u) :
    (∀ {parent name id mode}, t.advance false here steps = .vacant parent name →
        u.get? (parent ++ [Name.text name]) = some (.directory id mode) →
          u.advance true here steps = .arrived (parent ++ [Name.text name])) ∧
      ∀ {base target rest}, t.advance false here steps = .link base target rest →
        u.advance true here steps = .link base target rest := by
  induction steps generalizing here with
  | nil => simp [advance]
  | cons s ss ih =>
    rw [advance, advance]
    split
    · exact ih
    · split
      · exact ih
      · split
        · simp
        · cases he : t.get? (here ++ [Name.text s]) with
          | none =>
            cases ss with
            | nil =>
              refine ⟨fun hv hd => ?_, fun hl => ?_⟩
              · cases hv
                rw [hd]
                rfl
              · cases hl
            | cons s' ss' => simp
          | some e =>
            obtain ⟨e', he', ha⟩ := h _ e he
            cases e with
            | directory id mode =>
              rw [he', ha.of_directory]
              exact ih
            | file id x content =>
              dsimp only
              split <;> simp
            | link target =>
              rw [he', ha.of_link]
              cases ss with
              | nil => simp
              | cons s' ss' => simp

/-- **A walk to a free name** ends at the directory that is made there.

**Proof sketch.** Induction on the links that may be followed, with `Grows.advance_made` for the
stretches between them. -/
theorem Grows.walk_made {u : FileTree} (h : t.Grows u) {links id mode : Nat}
    (hw : t.walk .place links here steps = .ok (.vacant parent name))
    (hd : u.get? (parent ++ [Name.text name]) = some (.directory id mode)) :
    u.walk .target links here steps =
      .ok (.entry (parent ++ [Name.text name]) (.directory id mode)) := by
  induction links generalizing here steps with
  | zero =>
    unfold walk at hw
    cases ha : t.advance Aim.place.follows here steps with
    | arrived l =>
      rw [ha] at hw
      dsimp only at hw
      split at hw <;> cases hw
    | vacant p n =>
      rw [ha] at hw
      cases hw
      exact walk_of_arrived (h.advance_made.1 ha hd) hd
    | failed err => simp [ha] at hw
    | link b g a => simp [ha] at hw
  | succ links ih =>
    unfold walk at hw
    cases ha : t.advance Aim.place.follows here steps with
    | arrived l =>
      rw [ha] at hw
      dsimp only at hw
      split at hw <;> cases hw
    | vacant p n =>
      rw [ha] at hw
      cases hw
      exact walk_of_arrived (h.advance_made.1 ha hd) hd
    | failed err => simp [ha] at hw
    | link b g a =>
      rw [ha] at hw
      dsimp only at hw
      rw [if_neg (by simp)] at hw
      have hlink : u.advance Aim.target.follows here steps = .link b g a := h.advance_made.2 ha
      unfold walk
      rw [hlink]
      dsimp only
      rw [if_neg (by simp)]
      exact ih hw

end FileTree

namespace Disk

variable {d : Disk} {p : Path} {c : Change}

/-- **A text written** to any path puts a file in the place of a file, or of nothing.

**Proof sketch.** Opening the file has walked to a free name or to an entry. A free name gets a new
file, and the only entry that can be written is a file. -/
theorem writeText_ok {s : Text} (h : d.writeText p s = .ok c) :
    c.disk.workDir = d.workDir ∧ ∃ id x, c.disk.tree = d.tree.put c.loc (.file id x (.text s)) ∧
      ∀ old, d.tree.get? c.loc = some old → Entry.Alike old (.file id x (.text s)) := by
  unfold writeText write at h
  cases hopen : d.openSpot p with
  | error e => simp [hopen] at h
  | ok spot =>
    rw [hopen] at h
    obtain ⟨-, hwalk⟩ := walk_eq_tree_walk (walk_of_openSpot hopen)
    cases spot with
    | vacant parent name =>
      have hfree := FileTree.get?_of_walk.1 hwalk
      cases h
      refine ⟨rfl, _, _, rfl, fun old hold => ?_⟩
      rw [hfree] at hold
      cases hold
    | entry loc e =>
      have he := FileTree.get?_of_walk.2 hwalk
      cases e with
      | file id x content =>
        cases h
        refine ⟨rfl, _, _, rfl, fun old hold => ?_⟩
        rw [he] at hold
        cases hold
        rfl
      | directory id mode => cases h
      | link target => cases h

/-- The directory that a path leads to is there. -/
lemma Leads.get?_base {base : Location} (h : d.Leads p base) :
    ∃ id mode, d.tree.get? base = some (.directory id mode) := by
  obtain ⟨id, mode, hfind⟩ := h
  obtain ⟨-, hwalk⟩ := walk_eq_tree_walk (lookUp_eq_ok_iff.mp hfind)
  exact ⟨id, mode, FileTree.get?_of_walk.2 hwalk⟩

/-- **A directory made** at any path is put where nothing was. -/
theorem makeDirectory_ok {mode : Nat} (h : d.makeDirectory mode p = .ok c) :
    c.disk.workDir = d.workDir ∧ d.tree.get? c.loc = none ∧
      c.disk.tree = d.tree.put c.loc (.directory d.nextId mode) := by
  unfold makeDirectory at h
  split at h
  · cases h
  · cases h
  · next parent name hwalk =>
    obtain ⟨-, htree⟩ := walk_eq_tree_walk hwalk
    cases h
    exact ⟨rfl, FileTree.get?_of_walk.1 htree, rfl⟩

/-- **A directory made** is what its path leads to.

**Proof sketch.** The directory was made at a free name that a walk to the place had ended at.
Growing the tree by it lets the walk to the target arrive there; a slash at the end of the path is
one more step that stays in place. -/
theorem leads_of_makeDirectory_ok {mode : Nat} (h : d.makeDirectory mode p = .ok c) :
    c.disk.Leads p c.loc := by
  unfold makeDirectory at h
  split at h
  · cases h
  · cases h
  · next parent name hwalk =>
    obtain ⟨hr, htree⟩ := walk_eq_tree_walk hwalk
    have hfree := FileTree.get?_of_walk.1 htree
    cases h
    have hgrows : d.tree.Grows
        (d.tree.put (parent ++ [Name.text name]) (.directory d.nextId mode)) := by
      refine .put fun old hold => ?_
      rw [hfree] at hold
      cases hold
    have hself : (d.tree.put (parent ++ [Name.text name]) (.directory d.nextId mode)).get?
        (parent ++ [Name.text name]) = some (.directory d.nextId mode) := by
      rw [FileTree.get?_put, if_pos rfl]
    have hmade := hgrows.walk_made htree hself
    refine ⟨d.nextId, mode, lookUp_eq_ok_iff.mpr ?_⟩
    unfold walk
    rw [hr]
    dsimp only
    by_cases hslash : p.endsInSlash = true
    · -- the last step, to the place itself, ends there too
      rw [Path.lookupSteps, if_pos hslash]
      obtain ⟨left, -, hdot⟩ :=
        @FileTree.walk_append _ .target _ _ _ _ [Path.dot] _ _ (by simp) hmade
      rw [hdot]
      exact FileTree.walk_of_arrived (by simp [FileTree.advance]) hself
    · rw [Path.lookupSteps, if_neg hslash]
      exact hmade

end Disk

/-- Directories were made at places where nothing was, and nothing else was done. -/
structure Host.Prepared (h k : Host) : Prop where
  /-- Nothing is changed but the disk. -/
  rest : k = { h with disk := k.disk, journal := k.journal }
  /-- The effects have nothing to do with a daemon. -/
  journal : ∃ es, k.journal = h.journal ++ es ∧ ∀ e ∈ es, e.isQuiet = true
  /-- The current directory is the same. -/
  workDir : k.disk.workDir = h.disk.workDir
  /-- What was there is as it was, and what is new is a directory. -/
  tree : ∀ loc, k.disk.tree.get? loc = h.disk.tree.get? loc ∨
    h.disk.tree.get? loc = none ∧ ∃ id mode, k.disk.tree.get? loc = some (.directory id mode)

namespace Host.Prepared

variable {h k l : Host}

/-- Nothing is prepared. -/
lemma refl (h : Host) : Prepared h h :=
  ⟨rfl, ⟨[], by simp, by simp⟩, rfl, fun _ => .inl rfl⟩

/-- Two preparations, one after the other.

**Proof sketch.** A place that the first stretch made a directory is not free in the second, so it
is not made twice. -/
lemma trans (h₁ : Prepared h k) (h₂ : Prepared k l) : Prepared h l := by
  obtain ⟨es, hes, hq⟩ := h₁.journal
  obtain ⟨fs, hfs, hr⟩ := h₂.journal
  refine ⟨?_, ⟨es ++ fs, by rw [hfs, hes, List.append_assoc], fun e he => ?_⟩,
    h₂.workDir.trans h₁.workDir, fun loc => ?_⟩
  · rw [h₂.rest, h₁.rest]
  · exact (List.mem_append.mp he).elim (hq e) (hr e)
  · rcases h₁.tree loc with hsame | ⟨hnone, id, mode, hd⟩
    · rw [← hsame]
      exact h₂.tree loc
    · rcases h₂.tree loc with hsame' | ⟨hnone', -⟩
      · exact .inr ⟨hnone, id, mode, hsame'.trans hd⟩
      · rw [hnone'] at hd
        cases hd

/-- The journal is only added to. -/
lemma records (hp : Prepared h k) : h.journal <+: k.journal := by
  obtain ⟨es, hes, -⟩ := hp.journal
  exact ⟨es, hes.symm⟩

/-- Nothing is gone. -/
lemma grows (hp : Prepared h k) : h.disk.tree.Grows k.disk.tree := by
  intro loc e he
  rcases hp.tree loc with hsame | ⟨hnone, -⟩
  · exact ⟨e, hsame.trans he, .refl e⟩
  · rw [hnone] at he
    cases he

end Host.Prepared

namespace Files

variable {h : Host} {mode : Nat}

/-- Making a directory is a preparation, whether it succeeds or not.

**Proof sketch.** A directory is made where nothing was, and it is the only new entry. -/
lemma keeps_makeDirectory (h : Host) (mode : Nat) (p : Path) :
    Keeps h.Prepared (makeDirectory mode p) := by
  intro k hk
  refine hk.trans ?_
  unfold makeDirectory Action.onDisk
  dsimp only
  cases hm : k.disk.makeDirectory mode p with
  | error e => exact .refl k
  | ok c =>
    obtain ⟨hdir, hfree, htree⟩ := Disk.makeDirectory_ok hm
    refine ⟨rfl, ⟨[.madeDirectory c.loc], rfl, by simp [Event.isQuiet]⟩, hdir, fun loc => ?_⟩
    dsimp only [Host.record]
    rw [htree, FileTree.get?_put]
    by_cases hloc : loc = c.loc
    · rw [if_pos hloc, hloc]
      exact .inr ⟨hfree, _, _, rfl⟩
    · rw [if_neg hloc]
      exact .inl rfl

section Above

variable {P : Host → Prop}

/-- A directory, or the fault of making it. -/
lemma keeps_orThrow (p : Path) (fault : Fault) : Keeps P (do
    unless ← isDirectory p do
      throw fault) := by
  refine .bind (keeps_lift _) fun b => ?_
  split
  · exact keeps_pure _
  · exact keeps_throw _

/-- What the making of each directory of a list keeps.

**Proof sketch.** Induction on the paths. Where making the first one fails for a missing directory
above, that one is made and the first is tried again. -/
lemma keeps_makeFromAbove {paths : List Path} (hP : ∀ p ∈ paths, Keeps P (makeDirectory mode p)) :
    Keeps P (makeFromAbove mode paths) := by
  induction paths with
  | nil => exact keeps_throw _
  | cons p above ih =>
    have hmake := (hP p (by simp)).attempt
    unfold makeFromAbove
    split
    · exact keeps_pure _
    · refine hmake.bind fun r => ?_
      cases r with
      | ok _ => exact keeps_pure _
      | error fault =>
        dsimp only
        split
        · refine (ih fun q hq => hP q (by simp [hq])).bind fun _ => hmake.bind fun r => ?_
          cases r with
          | ok _ => exact keeps_pure _
          | error fault => exact keeps_orThrow p fault
        · exact keeps_orThrow p fault

end Above

/-- **A directory made with those above it**: directories were made where nothing was. -/
theorem prepared_makeDirectories (mode : Nat) (p : Path) (h : Host) :
    h.Prepared (makeDirectories mode p h).2 :=
  keeps_makeFromAbove (fun p _ => keeps_makeDirectory h mode p) h (.refl h)

end Files

/-! ## Files below a directory without links -/

namespace Disk

variable {d : Disk} {root : Path} {base : Location} {n f : Text}

/-- Two names below a directory without links lead by way of a directory, to an entry of it or to
a free place in it.

**Proof sketch.** The first name must be that of a directory for the second to be looked up. There
may be nothing at the second, or an entry. -/
lemma of_landing_file {spot : Spot} (h : d.tree.landing base [n, f] = .ok spot) :
    d.HasNetwork base n ∧
      (spot = .vacant (base ++ [Name.text n]) f ∧
          d.tree.get? (base ++ [Name.text n, .text f]) = none ∨
        ∃ e, spot = .entry (base ++ [Name.text n, .text f]) e ∧
          d.tree.get? (base ++ [Name.text n, .text f]) = some e) := by
  have hassoc : base ++ [Name.text n] ++ [Name.text f] = base ++ [Name.text n, .text f] := by simp
  rw [FileTree.landing] at h
  · cases he : d.tree.get? (base ++ [Name.text n]) with
    | none => simp [he] at h
    | some e =>
      cases e with
      | directory id mode =>
        refine ⟨⟨id, mode, he⟩, ?_⟩
        rw [he] at h
        dsimp only at h
        rw [FileTree.landing, hassoc] at h
        cases hf : d.tree.get? (base ++ [Name.text n, .text f]) with
        | none =>
          rw [hf] at h
          cases h
          exact .inl ⟨rfl, rfl⟩
        | some e =>
          rw [hf] at h
          cases h
          exact .inr ⟨e, rfl, rfl⟩
      | file id x c => simp [he] at h
      | link target => simp [he] at h
  · simp

/-- A walk to a file of a network ends where its names lead. -/
lemma Linkless.landing_of_walk (h : d.Linkless root base) (hn : Settings.isNetworkName n = true)
    (hf : IsFileName f) {aim : Aim} {spot : Spot}
    (hw : d.walk aim (root.fileOf n f) (root.fileOf n f).steps = .ok spot) :
    d.tree.landing base [n, f] = .ok spot := by
  obtain ⟨hsteps, habs, htext, -⟩ := h.leads.path_file hn hf
  have hrest := hf.isStep_of_mem
  rcases h.walk_names [f] hsteps habs htext hn hrest with ⟨-, hwalk⟩ | ⟨-, e, -, hwalk⟩
  · rw [← hwalk aim, hw]
  · rw [hwalk] at hw
    cases hw

/-- **A file of a network written**: it was there and holds what the update makes of its content,
or nothing was there and it is new.

**Proof sketch.** The walk lands at the file's place by `of_landing_file`. Only a file can be
written there if something is there. -/
theorem Linkless.write_ok (h : d.Linkless root base) (hn : Settings.isNetworkName n = true)
    (hf : IsFileName f) {update : Option Content → Content} {c : Change}
    (hw : d.write (root.fileOf n f) update = .ok c) :
    c.loc = base ++ [Name.text n, .text f] ∧ c.disk.workDir = d.workDir ∧ ∃ id x old,
      c.disk.tree = d.tree.put (base ++ [Name.text n, .text f]) (.file id x (update old)) ∧
        d.tree.get? (base ++ [Name.text n, .text f]) = old.map (.file id x ·) := by
  obtain ⟨-, -, -, hslash, -⟩ := h.leads.path_file hn hf
  have hassoc : base ++ [Name.text n] ++ [Name.text f] = base ++ [Name.text n, .text f] := by simp
  unfold write openSpot at hw
  rw [hslash] at hw
  dsimp only at hw
  cases hwalk : d.walk .file (root.fileOf n f) (root.fileOf n f).steps with
  | error e => simp [hwalk] at hw
  | ok spot =>
    simp only [hwalk, Bool.false_eq_true, if_false] at hw
    rcases (of_landing_file (h.landing_of_walk hn hf hwalk)).2 with ⟨rfl, hfree⟩ | ⟨e, rfl, he⟩
    · cases hw
      exact ⟨hassoc, rfl, d.nextId, false, none, by rw [hassoc], hfree⟩
    · cases e with
      | file id x content =>
        cases hw
        exact ⟨rfl, rfl, id, x, some content, rfl, he⟩
      | directory id mode => cases hw
      | link target => cases hw

/-- Reading a file that may be missing finds what a file of the network holds, or that there is no
such network.

**Proof sketch.** The walk is told by the landing of the two names. It fails as missing if there is
nothing in the way of the name, or no such network; a file is read, and it must hold a text. -/
lemma Linkless.readIfThere_ok {h : Host} (hl : h.disk.Linkless root base)
    (hn : Settings.isNetworkName n = true) (hf : IsFileName f) {r : Option Text}
    (hr : Files.readIfThere (root.fileOf n f) h = .ok r) :
    h.disk.HasNetwork base n ∧ r = h.disk.fileText base n f ∨
      ¬ h.disk.HasNetwork base n ∧ r = none := by
  obtain ⟨hsteps, habs, htext, -, hlook⟩ := hl.leads.path_file hn hf
  have hrest := hf.isStep_of_mem
  unfold Files.readIfThere readText find lookUp at hr
  rw [hlook] at hr
  rcases hl.walk_names [f] hsteps habs htext hn hrest with ⟨-, hwalk⟩ | ⟨-, e, he, hwalk⟩
  · rw [hwalk] at hr
    cases hland : h.disk.tree.landing base [n, f] with
    | error e =>
      rw [hland] at hr
      dsimp only at hr
      split at hr
      · cases hr
        refine .inr ⟨?_, rfl⟩
        rintro ⟨id, mode, hd⟩
        rw [FileTree.landing, hd] at hland
        · dsimp only at hland
          rw [FileTree.landing] at hland
          split at hland <;> cases hland
        · simp
      · cases hr
    | ok spot =>
      obtain ⟨hnet, ⟨rfl, hfree⟩ | ⟨e, rfl, he⟩⟩ := of_landing_file hland
      · rw [hland] at hr
        cases hr
        exact .inl ⟨hnet, by rw [fileText, hfree]; rfl⟩
      · rw [hland] at hr
        rw [fileText, he]
        cases e with
        | file id x content =>
          cases content with
          | text t =>
            cases hr
            exact .inl ⟨hnet, rfl⟩
          | binary bytes => cases hr
          | program => cases hr
        | directory id mode => cases hr
        | link target => cases hr
  · rw [hwalk] at hr
    simp [he] at hr

end Disk

end ResolverMesh
