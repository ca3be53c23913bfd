import Mathlib.Data.List.Infix
import Mathlib.Tactic.Lemma
import ResolverMesh.Instance.Registry
import ResolverMesh.Proofs.WalkGrowth

set_option autoImplicit false
set_option relaxedAutoImplicit false

/-!
# The layout below the root

The root holds one directory per network, and each of these holds files only. This module says
so of a disk, and reads off it what the mesh works with: which networks there are and what their
files hold. Pid files are left out of that reading, since daemons write them and nothing that is
published depends on them.

## Main definitions

* `ResolverMesh.Disk.Leads` — a path leads to a directory.
* `ResolverMesh.Disk.Linkless` — there are no links below that directory either.
* `ResolverMesh.Disk.Rooted` — a path leads to a directory, whatever lies below that directory.
* `ResolverMesh.Disk.Tidy` — below a place there are networks and files of text, and no more.
* `ResolverMesh.Disk.InOrder` — a rooted path, and tidy below.
* `ResolverMesh.Shelf`, `ResolverMesh.Disk.shelf` — the networks and what their files hold.

## Main results

* `ResolverMesh.Disk.InOrder.put_below`, `ResolverMesh.Disk.InOrder.remove_network` — the changes
  that keep the layout.
* `ResolverMesh.Disk.shelf_put_text`, `ResolverMesh.Disk.shelf_put_network`,
  `ResolverMesh.Disk.shelf_remove_network` — what they do to the networks and their files.

## Design

A root that is named by a path with steps up may lead through its own networks, and removing one
would then remove the way to the root. So a path is rooted in a directory only if it leads there
in the tree *without* what lies below the directory (`ResolverMesh.FileTree.above`); no change
below the root can touch that.
-/

namespace ResolverMesh

/-! ## Trees without what lies below a place -/

namespace FileTree

/-- The tree without what lies below a place. -/
def above (t : FileTree) (base : Location) : FileTree :=
  t.keep (fun s => !(base.isPrefixOf s.loc && decide (s.loc ≠ base)))

/-- The tree above a place has no entry below that place, and every other entry.

**Proof sketch.** Case by case on whether the location is the place, is below it, or is neither. -/
lemma get?_above (t : FileTree) (base loc : Location) :
    (t.above base).get? loc = if base <+: loc ∧ loc ≠ base then none else t.get? loc := by
  rw [above, get?_keep]
  by_cases h : base <+: loc ∧ loc ≠ base
  · have hp : base.isPrefixOf loc = true := List.isPrefixOf_iff_prefix.mpr h.1
    rw [if_pos h, if_neg]
    simp [Site.ofLocation, hp, h.2]
  · rw [if_neg h, if_pos]
    by_cases hp : base <+: loc
    · have hl : loc = base := by
        by_contra hne
        exact h ⟨hp, hne⟩
      simp [Site.ofLocation, hl]
    · have : base.isPrefixOf loc = false := by
        rw [← Bool.not_eq_true, List.isPrefixOf_iff_prefix]
        exact hp
      simp [Site.ofLocation, this]

/-- Trees with the same entries everywhere grow into each other. -/
lemma grows_of_get?_eq {t u : FileTree} (h : ∀ loc, u.get? loc = t.get? loc) : t.Grows u :=
  fun loc e he => ⟨e, by rw [h, he], .refl e⟩

/-- The whole tree has what the tree above a place has. -/
lemma above_grows (t : FileTree) (base : Location) : (t.above base).Grows t := by
  intro loc e he
  rw [get?_above] at he
  split at he
  · cases he
  · exact ⟨e, he, .refl e⟩

/-- Growth carries over to what lies above a place. -/
lemma Grows.above {t u : FileTree} (h : t.Grows u) (base : Location) :
    (t.above base).Grows (u.above base) := by
  intro loc e he
  rw [get?_above] at he ⊢
  split at he
  · cases he
  · next hloc =>
    rw [if_neg hloc]
    exact h loc e he

/-- A change below a place leaves what lies above it as it was. -/
lemma above_grows_of_below {t u : FileTree} {base : Location}
    (h : ∀ loc, ¬ (base <+: loc ∧ loc ≠ base) → u.get? loc = t.get? loc) :
    (t.above base).Grows (u.above base) := by
  refine grows_of_get?_eq fun loc => ?_
  rw [get?_above, get?_above]
  split
  · rfl
  · next hloc => exact h loc hloc

/-- What is at a place is one of the entries. -/
lemma exists_of_get? {t : FileTree} {loc : Location} {e : Entry} (h : t.get? loc = some e) :
    ∃ x ∈ t.entries, x.1.loc = loc := by
  obtain ⟨x, hx, -⟩ := Option.map_eq_some_iff.mp h
  refine ⟨x, List.mem_of_find?_eq_some hx, ?_⟩
  have hsite := List.find?_some hx
  exact Site.eq_ofLocation_iff.mp (of_decide_eq_true hsite)

end FileTree

/-! ## Requests that find something -/

/-- The text that an entry holds, if it is a file of text. -/
def Entry.text? : Entry → Option Text
  | .file _ _ c => c.text?
  | _ => none

/-- An entry with a text is a file that holds it. -/
lemma Entry.exists_of_text?_isSome {e : Entry} (h : e.text?.isSome = true) :
    ∃ id x s, e = .file id x (.text s) := by
  cases e with
  | file id x c =>
    cases c with
    | text s => exact ⟨id, x, s, rfl⟩
    | binary _ => simp [Entry.text?, Content.text?] at h
    | program => simp [Entry.text?, Content.text?] at h
  | directory _ _ => simp [Entry.text?] at h
  | link _ => simp [Entry.text?] at h

namespace Disk

/-- A look-up finds an entry just if the walk ends there. -/
lemma lookUp_eq_ok_iff {d : Disk} {aim : Aim} {p : Path} {loc : Location} {e : Entry} :
    d.lookUp aim p = .ok ⟨loc, e⟩ ↔ d.walk aim p p.lookupSteps = .ok (.entry loc e) := by
  unfold lookUp
  rcases d.walk aim p p.lookupSteps with err | (⟨l, e'⟩ | ⟨l, n⟩) <;> simp

/-- A path that leads somewhere is one that the system takes. -/
lemma walk_eq_tree_walk {d : Disk} {aim : Aim} {p : Path} {steps : List Text} {spot : Spot}
    (h : d.walk aim p steps = .ok spot) : refusal? p = none ∧
      d.tree.walk aim FileTree.mostLinks (if p.isAbsolute then [] else d.workDir) steps =
        .ok spot := by
  unfold walk at h
  split at h
  · cases h
  · next hr => exact ⟨hr, h⟩

/-- What a path leads to is still found after growth. -/
lemma find_of_grows (d d' : Disk) (hg : d.tree.Grows d'.tree) (hw : d'.workDir = d.workDir)
    {p : Path} {loc : Location} {e : Entry} (h : d.find p = .ok ⟨loc, e⟩) :
    ∃ e', Entry.Alike e e' ∧ d'.find p = .ok ⟨loc, e'⟩ := by
  obtain ⟨hr, hwalk⟩ := walk_eq_tree_walk (lookUp_eq_ok_iff.mp h)
  obtain ⟨e', -, halike, hwalk'⟩ := hg.walk_entry hwalk
  refine ⟨e', halike, lookUp_eq_ok_iff.mpr ?_⟩
  unfold walk
  rw [hr, hw]
  exact hwalk'

/-! ## Paths that lead to a directory -/

/-- A path leads to the directory `base`. -/
def Leads (d : Disk) (root : Path) (base : Location) : Prop :=
  ∃ id mode, d.find root = .ok ⟨base, .directory id mode⟩

/-- A text that the system takes as a path is not empty. -/
lemma text_ne_nil_of_refusal? {p : Path} (h : refusal? p = none) : p.text ≠ [] := by
  intro hp
  simp [refusal?, hp, Path.hasNul] at h

/-- The system takes a path that leads to a directory. -/
lemma Leads.refusal?_eq_none {d : Disk} {root : Path} {base : Location} (h : d.Leads root base) :
    refusal? root = none := by
  obtain ⟨id, mode, hf⟩ := h
  exact (walk_eq_tree_walk (lookUp_eq_ok_iff.mp hf)).1

/-- A path still leads to a directory after growth. -/
lemma Leads.of_grows {d d' : Disk} {root : Path} {base : Location} (h : d.Leads root base)
    (hg : d.tree.Grows d'.tree) (hw : d'.workDir = d.workDir) : d'.Leads root base := by
  obtain ⟨id, mode, hf⟩ := h
  obtain ⟨e, ha, he⟩ := find_of_grows d d' hg hw hf
  exact ⟨id, mode, by rw [he, ha.of_directory]⟩

/-- **A walk below a directory starts there**, with the links that are left.

**Proof sketch.** The steps of the longer path are those of the root and more. If the root's path
ends in a slash, the step to the place itself that a look-up adds can be left out
(`ResolverMesh.FileTree.walk_through_dot`); the walk then goes on from the directory. -/
theorem Leads.walk_below {d : Disk} {root p : Path} {base : Location} (h : d.Leads root base)
    {rest : List Text} (hp : refusal? p = none) (hsteps : p.steps = root.steps ++ rest)
    (habs : p.isAbsolute = root.isAbsolute) (hrest : rest ≠ []) (aim : Aim) :
    ∃ left, d.walk aim p p.steps = d.tree.walk aim left base rest := by
  obtain ⟨id, mode, hf⟩ := h
  obtain ⟨-, hwalk⟩ := walk_eq_tree_walk (lookUp_eq_ok_iff.mp hf)
  obtain ⟨left, -, hleft⟩ := @FileTree.walk_append d.tree aim _ _ _ _ _ _ _ hrest hwalk
  refine ⟨left, ?_⟩
  unfold walk
  rw [hp, habs, hsteps, ← hleft]
  dsimp only
  by_cases hslash : root.endsInSlash = true
  · rw [Path.lookupSteps, if_pos hslash, List.append_assoc, List.singleton_append,
      FileTree.walk_through_dot _ _ _ _ _ hrest]
  · rw [Path.lookupSteps, if_neg hslash]

/-- A path leads to a directory, and there are no links below. -/
structure Linkless (d : Disk) (root : Path) (base : Location) : Prop where
  /-- The path leads there. -/
  leads : d.Leads root base
  /-- There are no links. -/
  isLink_eq_false : ∀ rest e, d.tree.get? (base ++ rest) = some e → e.isLink = false

/-- No link is put below the directory, and nothing is gone. -/
lemma Linkless.of_put {d d' : Disk} {root : Path} {base loc : Location} {e : Entry}
    (h : d.Linkless root base) (ht : d'.tree = d.tree.put loc e) (hw : d'.workDir = d.workDir)
    (hg : d.tree.Grows d'.tree) (he : e.isLink = false) : d'.Linkless root base := by
  refine ⟨h.leads.of_grows hg hw, fun rest old hold => ?_⟩
  rw [ht, FileTree.get?_put] at hold
  split at hold
  · cases hold
    exact he
  · exact h.isLink_eq_false rest old hold

/-! ## Rooted disks -/

/-- The disk without what lies below a place. -/
def above (d : Disk) (base : Location) : Disk :=
  { d with tree := d.tree.above base }

/-- A path leads to the directory `base`, whatever lies below `base`, and the current directory
does not lie there. -/
structure Rooted (d : Disk) (root : Path) (base : Location) : Prop where
  /-- The path leads to the directory in the tree without what lies below. -/
  found : ∃ id mode, (d.above base).find root = .ok ⟨base, .directory id mode⟩
  /-- The current directory does not lie below. -/
  outside : ¬ (base <+: d.workDir ∧ d.workDir ≠ base)

/-- A rooted path leads to its directory. -/
lemma Rooted.find {d : Disk} {root : Path} {base : Location} (h : d.Rooted root base) :
    d.Leads root base := by
  obtain ⟨id, mode, hf⟩ := h.found
  obtain ⟨e, ha, he⟩ := find_of_grows (d.above base) d (d.tree.above_grows base) rfl hf
  exact ⟨id, mode, by rw [he, ha.of_directory]⟩

/-- The directory that a rooted path leads to is there. -/
lemma Rooted.get?_base {d : Disk} {root : Path} {base : Location} (h : d.Rooted root base) :
    ∃ id mode, d.tree.get? base = some (.directory id mode) := by
  obtain ⟨id, mode, hf⟩ := h.found
  obtain ⟨-, hwalk⟩ := walk_eq_tree_walk (lookUp_eq_ok_iff.mp hf)
  obtain ⟨e, he, ha, -⟩ := (d.tree.above_grows base).walk_entry hwalk
  exact ⟨id, mode, by rw [he, ha.of_directory]⟩

/-- A path stays rooted if what lies above its directory grows. -/
lemma Rooted.of_grows {d d' : Disk} {root : Path} {base : Location} (h : d.Rooted root base)
    (hg : (d.tree.above base).Grows (d'.tree.above base)) (hw : d'.workDir = d.workDir) :
    d'.Rooted root base := by
  obtain ⟨id, mode, hf⟩ := h.found
  obtain ⟨e, ha, he⟩ := find_of_grows (d.above base) (d'.above base) hg hw hf
  exact ⟨⟨id, mode, by rw [he, ha.of_directory]⟩, by rw [hw]; exact h.outside⟩

/-! ## Tidy disks -/

/-- A network has its directory. -/
def HasNetwork (d : Disk) (base : Location) (network : Text) : Prop :=
  ∃ id mode, d.tree.get? (base ++ [Name.text network]) = some (.directory id mode)

instance (d : Disk) (base : Location) (network : Text) : Decidable (d.HasNetwork base network) :=
  match h : d.tree.get? (base ++ [Name.text network]) with
  | some (.directory id mode) => isTrue ⟨id, mode, h⟩
  | none => isFalse fun ⟨_, _, hd⟩ => by simp [h] at hd
  | some (.file _ _ _) => isFalse fun ⟨_, _, hd⟩ => by simp [h] at hd
  | some (.link _) => isFalse fun ⟨_, _, hd⟩ => by simp [h] at hd

/-- Where nothing is there is no network. -/
lemma not_hasNetwork_of_get?_eq_none {d : Disk} {base : Location} {n : Text}
    (h : d.tree.get? (base ++ [Name.text n]) = none) : ¬ d.HasNetwork base n := by
  rintro ⟨id, mode, hd⟩
  rw [h] at hd
  cases hd

/-- Below a place there are the directories of networks, files of text beside them and files of
text in them, and no more. -/
def Tidy (d : Disk) (base : Location) : Prop :=
  ∀ rest e, d.tree.get? (base ++ rest) = some e → rest ≠ [] →
    (∃ n, rest = [.text n] ∧
      (e.isDirectory = true ∧ Settings.isNetworkName n = true ∨ e.text?.isSome = true)) ∨
    ∃ n f, rest = [.text n, .text f] ∧ e.text?.isSome = true ∧ d.HasNetwork base n

/-- The path of the root leads to a directory below which everything is tidy. -/
structure InOrder (d : Disk) (root : Path) (base : Location) : Prop where
  /-- The path leads there. -/
  rooted : d.Rooted root base
  /-- Everything below is tidy. -/
  tidy : d.Tidy base

section InOrder

variable {d : Disk} {root : Path} {base : Location}

/-- The directories below the root are those of networks. -/
lemma Tidy.isNetworkName (h : d.Tidy base) {n : Text} (hn : d.HasNetwork base n) :
    Settings.isNetworkName n = true := by
  obtain ⟨id, mode, he⟩ := hn
  rcases h [.text n] _ he (by simp) with ⟨m, hm, hd | ht⟩ | ⟨m, f, hm, -, -⟩
  · cases hm
    exact hd.2
  · simp [Entry.text?] at ht
  · simp at hm

/-- A file two names below the root is in the directory of a network. -/
lemma Tidy.hasNetwork (h : d.Tidy base) {n f : Text} {e : Entry}
    (he : d.tree.get? (base ++ [Name.text n, .text f]) = some e) :
    e.text?.isSome = true ∧ d.HasNetwork base n := by
  rcases h _ _ he (by simp) with ⟨m, hm, -⟩ | ⟨m, g, hm, ht, hn⟩
  · simp at hm
  · cases hm
    exact ⟨ht, hn⟩

/-- There are no links below the root.

**Proof sketch.** What is below the root is the directory of a network or a file with a text, by
the layout, and neither is a link. -/
lemma InOrder.linkless (h : d.InOrder root base) : d.Linkless root base := by
  refine ⟨h.rooted.find, fun loc e he => ?_⟩
  have htext : e.text?.isSome = true → e.isLink = false := by
    intro ht
    obtain ⟨id, x, s, rfl⟩ := Entry.exists_of_text?_isSome ht
    rfl
  by_cases hloc : loc = []
  · obtain ⟨id, mode, hb⟩ := h.rooted.get?_base
    rw [hloc, List.append_nil, hb] at he
    cases he
    rfl
  · rcases h.tidy loc e he hloc with ⟨n, -, ⟨hd, -⟩ | ht⟩ | ⟨n, f, -, ht, -⟩
    · cases e <;> simp_all [Entry.isDirectory, Entry.isLink]
    · exact htext ht
    · exact htext ht

end InOrder

end Disk

/-! ## Networks and their files -/

/-- The name of a daemon's configuration file. -/
def configName : Text := "dnsmasq.conf".toList

/-- The name of a daemon's pid file. -/
def pidName : Text := "pidfile".toList

/-- The name of a network's hosts file. -/
def hostsName : Text := "addnhosts".toList

/-- The name of the file with the forwarders that a daemon uses. -/
def localServersName : Text := "local-servers.conf".toList

/-- The name of the file with the forwarders to a network itself. -/
def ownServersName : Text := "own-servers.conf".toList

/-- The networks of a root and what their files hold, pid files left out. -/
@[ext]
structure Shelf where
  /-- There is a directory for the network. -/
  isNetwork : Text → Bool
  /-- What a file of a network holds, by the network and the name of the file. -/
  text? : Text → Text → Option Text

namespace Shelf

/-- No networks. -/
def empty : Shelf where
  isNetwork _ := false
  text? _ _ := none

/-- The networks with a new text in one file. -/
def write (v : Shelf) (network file : Text) (s : Text) : Shelf where
  isNetwork := v.isNetwork
  text? n f := if n = network ∧ f = file then some s else v.text? n f

/-- The networks with one more. -/
def addNetwork (v : Shelf) (network : Text) : Shelf where
  isNetwork n := decide (n = network) || v.isNetwork n
  text? := v.text?

/-- The networks with one less. -/
def removeNetwork (v : Shelf) (network : Text) : Shelf where
  isNetwork n := decide (n ≠ network) && v.isNetwork n
  text? n f := if n = network then none else v.text? n f

/-- Writing a file adds no network and removes none. -/
@[simp]
lemma isNetwork_write (v : Shelf) (network file s n : Text) :
    (v.write network file s).isNetwork n = v.isNetwork n := rfl

/-- What the files hold after one was written. -/
lemma text?_write (v : Shelf) (network file s n f : Text) :
    (v.write network file s).text? n f =
      if n = network ∧ f = file then some s else v.text? n f := rfl

/-- The file that was written holds what was written. -/
@[simp]
lemma text?_write_self (v : Shelf) (network file s : Text) :
    (v.write network file s).text? network file = some s := by
  simp [text?_write]

/-- Every other file holds what it held. -/
lemma text?_write_of_ne (v : Shelf) {network file s n f : Text} (h : ¬ (n = network ∧ f = file)) :
    (v.write network file s).text? n f = v.text? n f := by
  rw [text?_write, if_neg h]

/-- When a network is removed, the files of others stay. -/
lemma text?_removeNetwork_of_ne {v : Shelf} {network n : Text} (h : n ≠ network) (f : Text) :
    (v.removeNetwork network).text? n f = v.text? n f :=
  if_neg h

end Shelf

namespace Disk

/-- The networks below a place and what their files hold. -/
def shelf (d : Disk) (base : Location) : Shelf where
  isNetwork n := (d.tree.get? (base ++ [Name.text n])).any Entry.isDirectory
  text? n f :=
    if f = pidName then none
    else (d.tree.get? (base ++ [Name.text n, .text f])).bind Entry.text?

/-- A network of the shelf is one that has a directory on the disk. -/
lemma isNetwork_shelf_iff {d : Disk} {base : Location} {n : Text} :
    (d.shelf base).isNetwork n = true ↔ d.HasNetwork base n := by
  unfold shelf HasNetwork
  dsimp only
  cases h : d.tree.get? (base ++ [Name.text n]) with
  | none => simp
  | some e => cases e <;> simp [Entry.isDirectory]

/-- A file of the shelf is the file on the disk, pid files apart. -/
lemma text?_shelf {d : Disk} {base : Location} {n f : Text} (hf : f ≠ pidName) :
    (d.shelf base).text? n f =
      (d.tree.get? (base ++ [Name.text n, .text f])).bind Entry.text? := by
  simp [shelf, hf]

/-- Only networks have files.

**Proof sketch.** A file of a network stands in a directory, and that makes it a network. -/
lemma Tidy.text?_eq_none {d : Disk} {base : Location} (h : d.Tidy base) {n : Text}
    (hn : (d.shelf base).isNetwork n = false) (f : Text) : (d.shelf base).text? n f = none := by
  unfold shelf
  dsimp only
  split
  · rfl
  · cases he : d.tree.get? (base ++ [Name.text n, .text f]) with
    | none => rfl
    | some e =>
      have hnet := isNetwork_shelf_iff.mpr (h.hasNetwork he).2
      rw [hnet] at hn
      cases hn

/-! ## Changes that keep the layout -/

section Changes

variable {d d' : Disk} {root : Path} {base : Location}

/-- A change at a place below the directory of the root leaves the root where it is. -/
lemma Rooted.of_below (h : d.Rooted root base) (rest : Location) (hrest : rest ≠ [])
    (hsame : ∀ loc, ¬ (base ++ rest <+: loc) → d'.tree.get? loc = d.tree.get? loc)
    (hw : d'.workDir = d.workDir) : d'.Rooted root base := by
  refine h.of_grows (FileTree.above_grows_of_below fun loc hloc => hsame loc fun hp => ?_) hw
  refine hloc ⟨(List.prefix_append base rest).trans hp, ?_⟩
  rintro rfl
  have hlen := hp.length_le
  rw [List.length_append] at hlen
  exact hrest (List.length_eq_zero_iff.mp (by omega))

/-- A network stays where something is put in another place. -/
lemma HasNetwork.put {n : Text} {loc : Location} {e : Entry} (h : d.HasNetwork base n)
    (ht : d'.tree = d.tree.put loc e) (hloc : base ++ [Name.text n] ≠ loc) :
    d'.HasNetwork base n := by
  obtain ⟨id, mode, hd⟩ := h
  exact ⟨id, mode, by rw [ht, FileTree.get?_put, if_neg hloc, hd]⟩

/-- **An entry put below the root**, where the layout has a place for it that is not a network's:
the layout stays.

**Proof sketch.** The networks of before are still there, since the entry is put in none of their
places. An entry below the root is the new one, which has its place in the layout, or an old one
that keeps its own. -/
theorem InOrder.put_below (h : d.InOrder root base) {rest : Location} {e : Entry}
    (hplace : (∃ n, rest = [.text n] ∧ ¬ d.HasNetwork base n ∧
        (e.isDirectory = true ∧ Settings.isNetworkName n = true ∨ e.text?.isSome = true)) ∨
      ∃ n f, rest = [.text n, .text f] ∧ e.text?.isSome = true ∧ d.HasNetwork base n)
    (ht : d'.tree = d.tree.put (base ++ rest) e) (hw : d'.workDir = d.workDir) :
    d'.InOrder root base := by
  have hrest : rest ≠ [] := by
    rcases hplace with ⟨n, rfl, -⟩ | ⟨n, f, rfl, -⟩ <;> simp
  have hnet : ∀ m, d.HasNetwork base m → d'.HasNetwork base m := by
    intro m hm
    refine hm.put ht fun hloc => ?_
    rcases hplace with ⟨n, rfl, hfree, -⟩ | ⟨n, f, rfl, -⟩
    · have hmn : m = n := by simpa using hloc
      exact hfree (hmn ▸ hm)
    · simp at hloc
  constructor
  · refine h.rooted.of_below rest hrest (fun loc hloc => ?_) hw
    rw [ht, FileTree.get?_put, if_neg (by rintro rfl; exact hloc (List.prefix_refl _))]
  · intro rest' e' he hrest'
    rw [ht, FileTree.get?_put] at he
    split at he
    · next hloc =>
      obtain rfl := List.append_cancel_left hloc
      cases he
      rcases hplace with ⟨n, hn, -, hentry⟩ | ⟨n, f, hn, htext, hold⟩
      · exact .inl ⟨n, hn, hentry⟩
      · exact .inr ⟨n, f, hn, htext, hnet n hold⟩
    · rcases h.tidy rest' e' he hrest' with hone | ⟨n, f, hn, htext, hold⟩
      · exact .inl hone
      · exact .inr ⟨n, f, hn, htext, hnet n hold⟩

/-- A file of a network written: the layout stays. -/
lemma InOrder.put_text (h : d.InOrder root base) {n f s : Text} {id : Nat} {x : Bool}
    (hn : d.HasNetwork base n)
    (ht : d'.tree = d.tree.put (base ++ [Name.text n, .text f]) (.file id x (.text s)))
    (hw : d'.workDir = d.workDir) : d'.InOrder root base :=
  h.put_below (.inr ⟨n, f, rfl, rfl, hn⟩) ht hw

/-- A file of a network written, as far as what the networks hold.

**Proof sketch.** Compared file by file. The pid file is not part of the shelf, and the file
written is none. -/
lemma shelf_put_text {n f s : Text} {id : Nat} {x : Bool}
    (ht : d'.tree = d.tree.put (base ++ [Name.text n, .text f]) (.file id x (.text s)))
    (hf : f ≠ pidName) : d'.shelf base = (d.shelf base).write n f s := by
  ext m g
  · simp [shelf, ht, FileTree.get?_put]
  · by_cases hg : g = pidName
    · subst hg
      simp [shelf, Shelf.text?_write, Ne.symm hf]
    · rw [text?_shelf hg, ht, FileTree.get?_put, Shelf.text?_write]
      by_cases hmg : m = n ∧ g = f
      · obtain ⟨rfl, rfl⟩ := hmg
        simp [Entry.text?, Content.text?]
      · rw [if_neg (by simpa using hmg), if_neg hmg, text?_shelf hg]

/-- A pid file written does not show in what the networks hold. -/
lemma shelf_put_pid {n s : Text} {id : Nat} {x : Bool}
    (ht : d'.tree = d.tree.put (base ++ [Name.text n, .text pidName]) (.file id x (.text s))) :
    d'.shelf base = d.shelf base := by
  ext m g
  · simp [shelf, ht, FileTree.get?_put]
  · by_cases hg : g = pidName
    · simp [shelf, hg]
    · rw [text?_shelf hg, text?_shelf hg, ht, FileTree.get?_put, if_neg (by simp [hg])]

/-- The directory of a new network: the layout stays. -/
lemma InOrder.put_network (h : d.InOrder root base) {n : Text} {id mode : Nat}
    (hname : Settings.isNetworkName n = true) (hfree : d.tree.get? (base ++ [Name.text n]) = none)
    (ht : d'.tree = d.tree.put (base ++ [Name.text n]) (.directory id mode))
    (hw : d'.workDir = d.workDir) : d'.InOrder root base :=
  h.put_below (.inl ⟨n, rfl, not_hasNetwork_of_get?_eq_none hfree, .inl ⟨rfl, hname⟩⟩) ht hw

/-- A new network holds nothing yet. -/
lemma shelf_put_network {n : Text} {id mode : Nat}
    (ht : d'.tree = d.tree.put (base ++ [Name.text n]) (.directory id mode)) :
    d'.shelf base = (d.shelf base).addNetwork n := by
  ext m g
  · by_cases hm : m = n
    · simp [shelf, Shelf.addNetwork, ht, FileTree.get?_put, hm, Entry.isDirectory]
    · simp [shelf, Shelf.addNetwork, ht, FileTree.get?_put, hm]
  · simp [shelf, Shelf.addNetwork, ht, FileTree.get?_put]

/-- The directory of a network removed with all it holds: the layout stays.

**Proof sketch.** What is left below the root was there before. A file of a network that is left is
not below the removed one, so its network is another one and still there. -/
lemma InOrder.remove_network (h : d.InOrder root base) {n : Text}
    (ht : d'.tree = d.tree.removeAt (base ++ [Name.text n])) (hw : d'.workDir = d.workDir) :
    d'.InOrder root base := by
  have hget : ∀ loc, d'.tree.get? loc =
      if base ++ [Name.text n] <+: loc then none else d.tree.get? loc := by
    intro loc
    rw [ht, FileTree.get?_removeAt]
  constructor
  · refine h.rooted.of_below [.text n] (by simp) (fun loc hloc => ?_) hw
    rw [hget, if_neg hloc]
  · intro rest e he hrest
    rw [hget] at he
    split at he
    · cases he
    · next hloc =>
      rcases h.tidy rest e he hrest with hone | ⟨m, g, rfl, ht, i, md, hm⟩
      · exact .inl hone
      · refine .inr ⟨m, g, rfl, ht, i, md, ?_⟩
        rw [hget, if_neg, hm]
        intro hp
        exact hloc (hp.trans (by simp))

/-- A removed network is gone with all its files.

**Proof sketch.** A place below the root is gone just if its first name is that of the network. So
networks and files of the shelf are gone in the same way. -/
lemma shelf_remove_network {n : Text} (ht : d'.tree = d.tree.removeAt (base ++ [Name.text n])) :
    d'.shelf base = (d.shelf base).removeNetwork n := by
  have hget : ∀ m rest, d'.tree.get? (base ++ .text m :: rest) =
      if m = n then none else d.tree.get? (base ++ .text m :: rest) := by
    intro m rest
    rw [ht, FileTree.get?_removeAt]
    by_cases hm : m = n
    · simp [hm]
    · simp [hm, Ne.symm hm]
  ext m g
  · by_cases hm : m = n
    · simp [shelf, Shelf.removeNetwork, hget, hm]
    · simp [shelf, Shelf.removeNetwork, hget, hm]
  · by_cases hm : m = n
    · simp [shelf, Shelf.removeNetwork, hget, hm]
    · simp [shelf, Shelf.removeNetwork, hget, hm]

/-- A file of text beside the networks: the layout stays. -/
lemma InOrder.put_beside (h : d.InOrder root base) {n s : Text} {id : Nat} {x : Bool}
    (hfree : ¬ d.HasNetwork base n)
    (ht : d'.tree = d.tree.put (base ++ [Name.text n]) (.file id x (.text s)))
    (hw : d'.workDir = d.workDir) : d'.InOrder root base :=
  h.put_below (.inl ⟨n, rfl, hfree, .inr rfl⟩) ht hw

/-- A file beside the networks does not show in what the networks hold.

**Proof sketch.** The name was that of no network and is now that of a file, so it is that of no
network still. -/
lemma shelf_put_beside {n s : Text} {id : Nat} {x : Bool} (hfree : ¬ d.HasNetwork base n)
    (ht : d'.tree = d.tree.put (base ++ [Name.text n]) (.file id x (.text s))) :
    d'.shelf base = d.shelf base := by
  ext m g
  · by_cases hm : m = n
    · have hno : (d.shelf base).isNetwork m = false := by
        rw [← Bool.not_eq_true, isNetwork_shelf_iff, hm]
        exact hfree
      rw [hno]
      simp [shelf, ht, FileTree.get?_put, hm, Entry.isDirectory]
    · simp [shelf, ht, FileTree.get?_put, hm]
  · simp [shelf, ht, FileTree.get?_put]

/-- What is put outside the directory of the root does not change what is below. -/
lemma get?_put_elsewhere {loc : Location} {e : Entry} (hloc : ¬ base <+: loc)
    (ht : d'.tree = d.tree.put loc e) (rest : Location) :
    d'.tree.get? (base ++ rest) = d.tree.get? (base ++ rest) := by
  rw [ht, FileTree.get?_put, if_neg]
  rintro rfl
  exact hloc (List.prefix_append base rest)

/-- A file written elsewhere: the layout stays.

**Proof sketch.** The entries below the root are the same, and what is above it stays a directory,
as it is replaced by its like. -/
lemma InOrder.put_elsewhere (h : d.InOrder root base) {loc : Location} {e : Entry}
    (hloc : ¬ base <+: loc) (halike : ∀ old, d.tree.get? loc = some old → Entry.Alike old e)
    (ht : d'.tree = d.tree.put loc e) (hw : d'.workDir = d.workDir) : d'.InOrder root base := by
  have hget := get?_put_elsewhere hloc ht
  constructor
  · refine h.rooted.of_grows (FileTree.Grows.above ?_ base) hw
    rw [ht]
    exact .put halike
  · intro rest e he hrest
    rw [hget] at he
    rcases h.tidy rest e he hrest with hone | ⟨m, g, hm, ht, i, md, hmn⟩
    · exact .inl hone
    · exact .inr ⟨m, g, hm, ht, i, md, by rw [hget, hmn]⟩

/-- A file elsewhere does not show in what the networks hold. -/
lemma shelf_put_elsewhere {loc : Location} {e : Entry} (hloc : ¬ base <+: loc)
    (ht : d'.tree = d.tree.put loc e) : d'.shelf base = d.shelf base := by
  have hget := get?_put_elsewhere hloc ht
  ext m g <;> simp [shelf, hget]

end Changes

end Disk

end ResolverMesh
