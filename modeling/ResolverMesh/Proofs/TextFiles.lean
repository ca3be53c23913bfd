import ResolverMesh.Proofs.RequestsAnywhere

set_option autoImplicit false
set_option relaxedAutoImplicit false

/-!
# Text files at any path

What is written to a path is what is read from it, whatever stands on the disk: links are followed
on the way, a file that is missing is made at the name where the walk ends, and one that is there is
written in its place. A path takes a text or refuses it, and which of the two does not depend on the
text; a path that takes one text takes another one after it.

## Main definitions

* `ResolverMesh.Spot.takesFile` — a file can be put where a walk ends.
* `ResolverMesh.Disk.IsWritable` — a path takes a text.

## Main results

* `ResolverMesh.FileTree.Grows.walk_filed` — a walk ends at the file that was put at its end.
* `ResolverMesh.Disk.isWritable_iff` — such a path takes any text.
* `ResolverMesh.Files.write_of_isWritable`, `ResolverMesh.Files.append_of_isWritable` — a text
  written to a path, or added there, is read from it.
* `ResolverMesh.Files.write_of_not_isWritable`, `ResolverMesh.Files.append_of_not_isWritable` — a
  path that takes no text is left as it is.
-/

namespace ResolverMesh

namespace Spot

/-- The place where a walk ends. -/
def loc : Spot → Location
  | .entry loc _ => loc
  | .vacant parent name => parent ++ [Name.text name]

/-- A file can be put where a walk ends: there is one, or nothing. -/
def takesFile : Spot → Bool
  | .entry _ e => e.isFile
  | .vacant _ _ => true

/-- What the file holds at which a walk ends. -/
def content? : Spot → Option Content
  | .entry _ (.file _ _ content) => some content
  | _ => none

end Spot

/-! ## Walks to a file -/

namespace FileTree

variable {t u : FileTree} {here loc parent : Location} {steps : List Text} {links : Nat}

/-- A walk to a file that may be made ends where a walk to what is there does.

**Proof sketch.** By the number of links left. Both walks follow links, so they take the same
stretches; a link behind which a file may be made is followed by both. -/
lemma walk_target_of_file {spot : Spot} (hw : t.walk .file links here steps = .ok spot) :
    t.walk .target links here steps = .ok spot := by
  induction links using Nat.strongRecOn generalizing here steps with
  | ind links ih =>
    have hfollows : Aim.target.follows = Aim.file.follows := rfl
    rw [walk.eq_def] at hw ⊢
    rw [hfollows]
    cases ha : t.advance Aim.file.follows here steps with
    | arrived l => simpa [ha] using hw
    | vacant p n => simpa [ha] using hw
    | failed err => simp [ha] at hw
    | link b g a =>
      rw [ha] at hw
      cases links with
      | zero => cases hw
      | succ links =>
        dsimp only at hw ⊢
        rw [if_neg (by simp)]
        split at hw
        · split at hw <;> cases hw
        · exact ih links (Nat.lt_succ_self links) hw

namespace Grows

/-- A first stretch to a free name arrives there once there is a file.

**Proof sketch.** By the steps that are left. What the earlier steps pass through is there already,
and a tree that grows keeps it. -/
lemma advance_filed (h : t.Grows u) {name : Text} {id : Nat} {x : Bool} {content : Content}
    (ha : t.advance true here steps = .vacant parent name)
    (hf : u.get? (parent ++ [Name.text name]) = some (.file id x content)) :
    u.advance true here steps = .arrived (parent ++ [Name.text name]) := by
  induction steps generalizing here with
  | nil => cases ha
  | cons s ss ih =>
    rw [advance] at ha ⊢
    split
    · next hs => exact ih (by simpa [hs] using ha)
    · next hs =>
      rw [if_neg hs] at ha
      split
      · next hup => exact ih (by simpa [hup] using ha)
      · next hup =>
        rw [if_neg hup] at ha
        split at ha
        · cases ha
        · next hlong =>
          rw [if_neg hlong]
          cases he : t.get? (here ++ [Name.text s]) with
          | none =>
            rw [he] at ha
            cases ss with
            | nil =>
              cases ha
              rw [hf]
              rfl
            | cons s' ss' => cases ha
          | some e =>
            obtain ⟨e', he', hlike⟩ := h _ e he
            rw [he] at ha
            cases e with
            | directory id mode =>
              rw [he', hlike.of_directory]
              exact ih ha
            | file id x content =>
              dsimp only at ha
              split at ha <;> cases ha
            | link target => simp at ha

/-- **A walk to a file** that may be made ends at the file that was put where it ended before.

**Proof sketch.** If the walk ended at an entry, that place holds the file now. If it ended at a
free name, induction on the number of links left: the stretches before the last are the same on the
larger tree, and the last one arrives by `advance_filed`. -/
theorem walk_filed (h : t.Grows u) {spot : Spot} {id : Nat} {x : Bool} {content : Content}
    (hw : t.walk .file links here steps = .ok spot)
    (hf : u.get? spot.loc = some (.file id x content)) :
    u.walk .file links here steps = .ok (.entry spot.loc (.file id x content)) := by
  cases spot with
  | entry loc e =>
    obtain ⟨e', he', -, hwalk⟩ := h.walk_entry hw
    have hsame : e' = .file id x content := Option.some.inj (he'.symm.trans hf)
    rw [hwalk, hsame]
    rfl
  | vacant parent name =>
    induction links using Nat.strongRecOn generalizing here steps with
    | ind links ih =>
      rw [walk.eq_def] at hw
      cases ha : t.advance Aim.file.follows here steps with
      | arrived l =>
        rw [ha] at hw
        dsimp only at hw
        split at hw <;> cases hw
      | vacant p n =>
        rw [ha] at hw
        cases hw
        exact walk_of_arrived (h.advance_filed ha hf) hf
      | failed err => simp [ha] at hw
      | link b g a =>
        rw [walk.eq_def, h.advance_eq (.inr ⟨b, g, a, ha⟩), ha]
        rw [ha] at hw
        cases links with
        | zero => cases hw
        | succ links =>
          dsimp only at hw ⊢
          split at hw
          · split at hw <;> cases hw
          · next hslash =>
            rw [if_neg hslash]
            exact ih links (Nat.lt_succ_self links) hw

end Grows

end FileTree

/-! ## Requests to the disk -/

namespace Disk

variable {d : Disk} {p : Path} {spot : Spot}

/-- A path takes a text: a walk along it ends at a file, or at a free name in a directory. -/
def IsWritable (d : Disk) (p : Path) : Prop :=
  ∃ spot, d.openSpot p = .ok spot ∧ spot.takesFile = true

/-- That a path takes a text can be computed. -/
lemma isWritable_of_takesFile (h : (d.openSpot p).toOption.map Spot.takesFile = some true) :
    d.IsWritable p := by
  cases hspot : d.openSpot p with
  | error e => simp [hspot, Except.toOption] at h
  | ok spot => exact ⟨spot, hspot, by simpa [hspot, Except.toOption] using h⟩

/-- A path that is opened for writing does not end in a slash. -/
lemma endsInSlash_of_openSpot (h : d.openSpot p = .ok spot) : p.endsInSlash = false := by
  rw [← Bool.not_eq_true]
  intro hslash
  rw [openSpot, if_pos hslash] at h
  split at h <;> cases h

/-- What a path opens for writing is what it leads to. -/
lemma walk_lookupSteps_of_openSpot (h : d.openSpot p = .ok spot) :
    d.walk .target p p.lookupSteps = .ok spot := by
  obtain ⟨hr, hwalk⟩ := walk_eq_tree_walk (walk_of_openSpot h)
  rw [Path.lookupSteps, endsInSlash_of_openSpot h, walk, hr]
  exact FileTree.walk_target_of_file hwalk

/-- What is read from a path that takes a text: what the file holds, if there is one.

**Proof sketch.** Reading walks to the place that opening does, and a place that takes a file is
free or a file. -/
lemma readText_of_openSpot (h : d.openSpot p = .ok spot) (htakes : spot.takesFile = true) :
    d.readText p = match spot.content? with
      | none => .error .notFound
      | some (.text s) => .ok s
      | some _ => .error .notText := by
  have hwalk := walk_lookupSteps_of_openSpot h
  unfold readText find lookUp
  rw [hwalk]
  cases spot with
  | vacant parent name => rfl
  | entry loc e =>
    cases e with
    | file id x content => cases content <;> rfl
    | directory id mode => cases htakes
    | link target => cases htakes

/-- **A file written** at a path that takes a text: the path leads to the file from then on.

**Proof sketch.** What is put at the place has the identity of the entry before, so the tree has
only grown, and `walk_filed` says where the path leads now. -/
theorem write_of_openSpot (h : d.openSpot p = .ok spot) (htakes : spot.takesFile = true)
    (update : Option Content → Content) : ∃ c id x, d.write p update = .ok c ∧
      c.disk.openSpot p = .ok (.entry c.loc (.file id x (update spot.content?))) := by
  obtain ⟨hr, hwalk⟩ := walk_eq_tree_walk (walk_of_openSpot h)
  -- the file has the identity of the one before, if there was one
  have hwrite : ∃ c id x, d.write p update = .ok c ∧ c.loc = spot.loc ∧
      c.disk.workDir = d.workDir ∧
      c.disk.tree = d.tree.put spot.loc (.file id x (update spot.content?)) ∧
      ∀ old, d.tree.get? spot.loc = some old →
        Entry.Alike old (.file id x (update spot.content?)) := by
    unfold write
    rw [h]
    cases spot with
    | vacant parent name =>
      have hfree := FileTree.get?_of_walk.1 hwalk
      refine ⟨_, _, _, rfl, rfl, rfl, rfl, fun old hold => ?_⟩
      rw [Spot.loc, hfree] at hold
      cases hold
    | entry loc e =>
      have he := FileTree.get?_of_walk.2 hwalk
      cases e with
      | file id x content =>
        refine ⟨_, _, _, rfl, rfl, rfl, rfl, fun old hold => ?_⟩
        rw [Spot.loc, he] at hold
        cases hold
        rfl
      | directory id mode => cases htakes
      | link target => cases htakes
  obtain ⟨c, id, x, hok, hloc, hdir, htree, halike⟩ := hwrite
  have hfile : c.disk.tree.get? spot.loc = some (.file id x (update spot.content?)) := by
    rw [htree, FileTree.get?_put, if_pos rfl]
  have hgrows : d.tree.Grows c.disk.tree := by
    rw [htree]
    exact .put halike
  refine ⟨c, id, x, hok, ?_⟩
  rw [openSpot, endsInSlash_of_openSpot h, hloc, if_neg Bool.false_ne_true, walk, hr, hdir]
  exact hgrows.walk_filed hwalk hfile

/-- A path that takes no text refuses any change of a file.

**Proof sketch.** A path that opens at a free name or at a file takes a text. So it does not open,
or opens at a directory or a link. -/
lemma write_of_not_isWritable (h : ¬ d.IsWritable p) :
    ∃ e, ∀ update, d.write p update = .error e := by
  unfold write
  cases hopen : d.openSpot p with
  | error e => exact ⟨e, fun _ => rfl⟩
  | ok spot =>
    cases spot with
    | vacant parent name => exact absurd ⟨_, hopen, rfl⟩ h
    | entry loc e =>
      cases e with
      | file id x content => exact absurd ⟨_, hopen, rfl⟩ h
      | directory id mode => exact ⟨_, fun _ => rfl⟩
      | link target => exact ⟨_, fun _ => rfl⟩

/-- **A path that takes a text** takes any text.

**Proof sketch.** From left to right by `write_of_openSpot`. From right to left, a path that takes
no text would refuse the empty one. -/
theorem isWritable_iff : d.IsWritable p ↔ ∀ s, ∃ c, d.writeText p s = .ok c := by
  constructor
  · rintro ⟨spot, hopen, htakes⟩ s
    obtain ⟨c, -, -, hok, -⟩ := write_of_openSpot hopen htakes fun _ => .text s
    exact ⟨c, hok⟩
  · intro h
    by_contra hno
    obtain ⟨e, he⟩ := write_of_not_isWritable hno
    obtain ⟨c, hc⟩ := h []
    rw [writeText, he] at hc
    cases hc

end Disk

/-! ## Actions -/

namespace Files

variable {h : Host} {p : Path}

/-- A text that is read from a path is read as a text that is there. -/
lemma readIfThere_of_readText {s : Text} (hs : h.disk.readText p = .ok s) :
    readIfThere p h = .ok (some s) := by
  rw [readIfThere, hs]

/-- What is read from a path that takes a text tells what a file there holds.

**Proof sketch.** By what the place holds: a text is read as it is, and no other content can be
read. -/
lemma content?_of_readIfThere {spot : Spot} {content : Option Text}
    (hopen : h.disk.openSpot p = .ok spot) (htakes : spot.takesFile = true)
    (hread : readIfThere p h = .ok content) : spot.content? = content.map .text := by
  rw [readIfThere, Disk.readText_of_openSpot hopen htakes] at hread
  cases hc : spot.content? with
  | none =>
    rw [hc] at hread
    cases hread
    rfl
  | some c =>
    rw [hc] at hread
    cases c with
    | text s =>
      cases hread
      rfl
    | binary bytes => cases hread
    | program => cases hread

/-- A change of a file at a path that takes a text succeeds, and the path takes a text again. -/
lemma onDisk_write_of_openSpot {spot : Spot} (hopen : h.disk.openSpot p = .ok spot)
    (htakes : spot.takesFile = true) (update : Option Content → Content) {s : Text}
    (hs : update spot.content? = .text s) :
    ∃ k, Action.onDisk (·.write p update) .wroteFile h = (.ok (), k) ∧
      readIfThere p k = .ok (some s) ∧ k.disk.IsWritable p := by
  obtain ⟨c, id, x, hok, hthen⟩ := Disk.write_of_openSpot hopen htakes update
  refine ⟨({ h with disk := c.disk } : Host).record (.wroteFile c.loc), ?_, ?_, _, hthen, rfl⟩
  · rw [Action.onDisk, hok]
  · have hread := Disk.readText_of_openSpot hthen rfl
    rw [hs] at hread
    exact readIfThere_of_readText hread

/-- **A text written** to a path that takes one is what is read from it. -/
theorem write_of_isWritable (hw : h.disk.IsWritable p) (s : Text) :
    ∃ k, write p s h = (.ok (), k) ∧ readIfThere p k = .ok (some s) ∧ k.disk.IsWritable p := by
  obtain ⟨spot, hopen, htakes⟩ := hw
  exact onDisk_write_of_openSpot hopen htakes _ rfl

/-- **A text added** at a path that takes one is read behind what was read before, or alone if
nothing was there. -/
theorem append_of_isWritable (hw : h.disk.IsWritable p) {content : Option Text}
    (hread : readIfThere p h = .ok content) (s : Text) :
    ∃ k, append p s h = (.ok (), k) ∧ readIfThere p k = .ok (some (content.getD [] ++ s)) ∧
      k.disk.IsWritable p := by
  obtain ⟨spot, hopen, htakes⟩ := hw
  refine onDisk_write_of_openSpot hopen htakes (fun c => (c.getD (.text [])).append s) ?_
  rw [content?_of_readIfThere hopen htakes hread]
  cases content <;> rfl

/-- **A text written** to a path that takes none is refused, and nothing is changed. -/
theorem write_of_not_isWritable (hw : ¬ h.disk.IsWritable p) :
    ∃ e, ∀ s, write p s h = (.error (.io e), h) := by
  obtain ⟨e, he⟩ := Disk.write_of_not_isWritable hw
  refine ⟨e, fun s => ?_⟩
  rw [write, Action.onDisk, Disk.writeText, he]

/-- **A text added** at a path that takes none is refused, and nothing is changed. -/
theorem append_of_not_isWritable (hw : ¬ h.disk.IsWritable p) :
    ∃ e, ∀ s, append p s h = (.error (.io e), h) := by
  obtain ⟨e, he⟩ := Disk.write_of_not_isWritable hw
  refine ⟨e, fun s => ?_⟩
  rw [append, Action.onDisk, Disk.appendText, he]

end Files

end ResolverMesh
