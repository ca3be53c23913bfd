import ResolverMesh.Lifecycle
import ResolverMesh.Proofs.RootRequests

set_option autoImplicit false
set_option relaxedAutoImplicit false

/-!
# Changes of the host below the root

The actions on the files of one network, where the layout below the root is in order, and on its
directory, where there are no links. Each changes the host in one of three ways, and none of them
touches what the daemons go by: the pid files, the processes, and the places outside the network's
directory.

## Main definitions

* `ResolverMesh.Host.Wrote`, `ResolverMesh.Host.Opened`, `ResolverMesh.Host.Removed` — a host
  before and after a file is written, a network's directory made, and one removed.
* `ResolverMesh.Event.isQuiet` — an effect that has nothing to do with a daemon.
* `ResolverMesh.Host.Edits` — a host before and after any number of changes to one network, none
  of which a daemon takes part in.

## Main results

* `ResolverMesh.Disk.InOrder.files_write`, `ResolverMesh.Disk.InOrder.files_append` — a file of a
  network written.
* `ResolverMesh.Disk.Linkless.makeDirectories_network` — a network's directory made.
* `ResolverMesh.Disk.Linkless.removeIfThere_network` — a network's directory removed.
* `ResolverMesh.Disk.Leads.siblings` — the other networks.
* `ResolverMesh.Files.makeDirectories_of_find` — a directory that is there is left as it is.
-/

namespace ResolverMesh

/-! ## Hosts before and after -/

namespace Host

/-- A text was put at a place, in the place of a file or of nothing. -/
def Wrote (h k : Host) (loc : Location) (s : Text) : Prop :=
  ∃ id x next, (∀ old, h.disk.tree.get? loc = some old →
      Entry.Alike old (.file id x (.text s))) ∧
    k = ({ h with disk := ⟨h.disk.tree.put loc (.file id x (.text s)), h.disk.workDir, next⟩ } :
      Host).record (.wroteFile loc)

/-- A directory was made at a place where nothing was. -/
def Opened (h k : Host) (loc : Location) : Prop :=
  h.disk.tree.get? loc = none ∧ ∃ id mode next,
    k = ({ h with disk := ⟨h.disk.tree.put loc (.directory id mode), h.disk.workDir, next⟩ } :
      Host).record (.madeDirectory loc)

/-- What was at a place and below it was removed. -/
def Removed (h k : Host) (loc : Location) : Prop :=
  k = ({ h with disk := ⟨h.disk.tree.removeAt loc, h.disk.workDir, h.disk.nextId⟩ } :
    Host).record (.removed loc)

end Host

/-- An effect that has nothing to do with a daemon: no program is run for it and no signal is
sent. -/
def Event.isQuiet : Event → Bool
  | .madeDirectory _ => true
  | .wroteFile _ => true
  | .removed _ => true
  | .chain _ => true
  | .logged _ => true
  | _ => false

namespace Host

/-- The directory of a network and its files are changed, the pid file left out, and nothing
else. Nothing that was there is gone. -/
structure Edits (base : Location) (n : Text) (h k : Host) : Prop where
  /-- Outside the directory everything is as it was. -/
  elsewhere : ∀ loc, ¬ base ++ [Name.text n] <+: loc → k.disk.tree.get? loc = h.disk.tree.get? loc
  /-- So is the pid file. -/
  pid : k.disk.fileText base n pidName = h.disk.fileText base n pidName
  /-- Nothing is gone. -/
  grows : h.disk.tree.Grows k.disk.tree
  /-- The current directory is the same. -/
  workDir : k.disk.workDir = h.disk.workDir
  /-- Programs are searched for in the same directories. -/
  searchPath : k.searchPath = h.searchPath
  /-- The processes are the same. -/
  processes : k.processes = h.processes
  /-- The effects have nothing to do with a daemon. -/
  journal : ∃ es, k.journal = h.journal ++ es ∧ ∀ e ∈ es, e.isQuiet = true

namespace Edits

variable {base : Location} {n : Text} {h k l : Host}

/-- No edit at all. -/
lemma refl (base : Location) (n : Text) (h : Host) : Edits base n h h :=
  ⟨fun _ _ => rfl, rfl, .refl _, rfl, rfl, rfl, [], by simp, by simp⟩

/-- Edits of one network, one after the other. -/
lemma trans (h₁ : Edits base n h k) (h₂ : Edits base n k l) : Edits base n h l := by
  obtain ⟨es, hes, hq⟩ := h₁.journal
  obtain ⟨fs, hfs, hr⟩ := h₂.journal
  refine ⟨fun loc hloc => ?_, h₂.pid.trans h₁.pid, h₁.grows.trans h₂.grows,
    h₂.workDir.trans h₁.workDir, h₂.searchPath.trans h₁.searchPath,
    h₂.processes.trans h₁.processes, es ++ fs, by rw [hfs, hes, List.append_assoc], ?_⟩
  · rw [h₂.elsewhere loc hloc, h₁.elsewhere loc hloc]
  · intro e he
    rcases List.mem_append.mp he with he | he
    · exact hq e he
    · exact hr e he

/-- An effect that changes nothing. -/
lemma record {e : Event} (he : e.isQuiet = true) : Edits base n h (h.record e) :=
  ⟨fun _ _ => rfl, rfl, .refl _, rfl, rfl, rfl, [e], rfl, by simpa using he⟩

/-- The files of other networks are as they were. -/
lemma text?_of_ne (he : Edits base n h k) {m : Text} (hm : m ≠ n) (f : Text) :
    (k.disk.shelf base).text? m f = (h.disk.shelf base).text? m f := by
  have hloc : ¬ base ++ [Name.text n] <+: base ++ [Name.text m, .text f] := by
    simpa using Ne.symm hm
  simp only [Disk.shelf]
  rw [he.elsewhere _ hloc]

/-- The other networks are the same. -/
lemma isNetwork_of_ne (he : Edits base n h k) {m : Text} (hm : m ≠ n) :
    (k.disk.shelf base).isNetwork m = (h.disk.shelf base).isNetwork m := by
  have hloc : ¬ base ++ [Name.text n] <+: base ++ [Name.text m] := by
    simpa using Ne.symm hm
  simp only [Disk.shelf]
  rw [he.elsewhere _ hloc]

/-- The journal is only added to. -/
lemma journal_prefix (he : Edits base n h k) : h.journal <+: k.journal := by
  obtain ⟨es, hes, -⟩ := he.journal
  exact ⟨es, hes.symm⟩

/-- A network that was there is there. -/
lemma hasNetwork (he : Edits base n h k) {m : Text} (hm : h.disk.HasNetwork base m) :
    k.disk.HasNetwork base m := by
  obtain ⟨id, mode, hd⟩ := hm
  obtain ⟨e, hk, ha⟩ := he.grows _ _ hd
  exact ⟨id, mode, by rw [hk, ha.of_directory]⟩

end Edits

/-! ## What the changes do to the layout -/

section Changes

variable {root : Path} {base : Location} {n f s : Text} {h k : Host}

/-- A network's file that is written keeps the root in order. -/
lemma Wrote.inOrder (hw : h.Wrote k (base ++ [Name.text n, .text f]) s)
    (ho : h.disk.InOrder root base) (hn : h.disk.HasNetwork base n) :
    k.disk.InOrder root base := by
  obtain ⟨id, x, next, -, rfl⟩ := hw
  exact ho.put_text hn rfl rfl

/-- The shelf holds what was written, unless it was the pid file. -/
lemma Wrote.shelf (hw : h.Wrote k (base ++ [Name.text n, .text f]) s) (hf : f ≠ pidName) :
    k.disk.shelf base = (h.disk.shelf base).write n f s := by
  obtain ⟨id, x, next, -, rfl⟩ := hw
  exact Disk.shelf_put_text rfl hf

/-- A network's file that is written is an edit of the network. -/
lemma Wrote.edits (hw : h.Wrote k (base ++ [Name.text n, .text f]) s) (hf : f ≠ pidName) :
    Edits base n h k := by
  obtain ⟨id, x, next, halike, rfl⟩ := hw
  refine ⟨fun loc hloc => ?_, ?_, .put halike, rfl, rfl, rfl, [.wroteFile _], rfl,
    by simp [Event.isQuiet]⟩
  · dsimp only [Host.record]
    rw [FileTree.get?_put, if_neg]
    rintro rfl
    exact hloc (by simp)
  · dsimp only [Host.record, Disk.fileText]
    rw [FileTree.get?_put, if_neg (by simpa using Ne.symm hf)]

/-- A network's directory that is made keeps the root in order. -/
lemma Opened.inOrder (hp : h.Opened k (base ++ [Name.text n])) (ho : h.disk.InOrder root base)
    (hn : Settings.isNetworkName n = true) : k.disk.InOrder root base := by
  obtain ⟨hfree, id, mode, next, rfl⟩ := hp
  exact ho.put_network hn hfree rfl rfl

/-- The shelf has one more network. -/
lemma Opened.shelf (hp : h.Opened k (base ++ [Name.text n])) :
    k.disk.shelf base = (h.disk.shelf base).addNetwork n := by
  obtain ⟨-, id, mode, next, rfl⟩ := hp
  exact Disk.shelf_put_network rfl

/-- Making a network's directory is an edit of the network. -/
lemma Opened.edits (hp : h.Opened k (base ++ [Name.text n])) : Edits base n h k := by
  obtain ⟨hfree, id, mode, next, rfl⟩ := hp
  refine ⟨fun loc hloc => ?_, ?_, .put fun old hold => ?_, rfl, rfl, rfl, [.madeDirectory _],
    rfl, by simp [Event.isQuiet]⟩
  · dsimp only [Host.record]
    rw [FileTree.get?_put, if_neg]
    rintro rfl
    exact hloc (List.prefix_refl _)
  · dsimp only [Host.record, Disk.fileText]
    rw [FileTree.get?_put, if_neg (by simp)]
  · rw [hfree] at hold
    cases hold

/-- A network's directory that is removed keeps the root in order. -/
lemma Removed.inOrder (hr : h.Removed k (base ++ [Name.text n])) (ho : h.disk.InOrder root base) :
    k.disk.InOrder root base := by
  cases hr
  exact ho.remove_network rfl rfl

/-- The shelf has lost the network. -/
lemma Removed.shelf (hr : h.Removed k (base ++ [Name.text n])) :
    k.disk.shelf base = (h.disk.shelf base).removeNetwork n := by
  cases hr
  exact Disk.shelf_remove_network rfl

/-- The directory of a network is at a place that was free. -/
lemma Opened.hasNetwork (hp : h.Opened k (base ++ [Name.text n])) : k.disk.HasNetwork base n := by
  obtain ⟨-, id, mode, next, rfl⟩ := hp
  exact ⟨id, mode, by simp [Host.record, FileTree.get?_put]⟩

end Changes

end Host

section Requests

variable {h : Host} {root : Path} {base : Location}

open Disk

/-- Reading a file of a network that may be missing. -/
lemma Disk.InOrder.readIfThere_file (ho : h.disk.InOrder root base) {n f : Text}
    (hn : Settings.isNetworkName n = true) (hf : IsFileName f) :
    ((Admits (root.fileOf n f) n ∨ ¬ h.disk.HasNetwork base n) ∧
        Files.readIfThere (root.fileOf n f) h = .ok (h.disk.fileText base n f)) ∨
      (¬ (Admits (root.fileOf n f) n ∧ h.disk.HasNetwork base n) ∧
        ∃ e, Files.readIfThere (root.fileOf n f) h = .error (.io e)) := by
  unfold Files.readIfThere
  rcases ho.readText_file hn hf with ⟨ha, hr⟩ | ⟨hno, e, he, hr⟩
  · refine .inl ⟨ha, ?_⟩
    rw [hr]
    cases h.disk.fileText base n f <;> simp
  · right
    rw [hr]
    exact ⟨hno, e, by simp [he]⟩

/-- A text put in the place of what a file of a network held. -/
lemma Disk.InOrder.files_write (ho : h.disk.InOrder root base) {n f : Text}
    (hn : Settings.isNetworkName n = true) (hf : IsFileName f) (s : Text) :
    (Admits (root.fileOf n f) n ∧ h.disk.HasNetwork base n ∧
        (Files.write (root.fileOf n f) s h).1 = .ok () ∧
        h.Wrote (Files.write (root.fileOf n f) s h).2 (base ++ [Name.text n, .text f]) s) ∨
      (¬ (Admits (root.fileOf n f) n ∧ h.disk.HasNetwork base n) ∧
        ∃ e, Files.write (root.fileOf n f) s h = (.error (.io e), h)) := by
  unfold Files.write Action.onDisk writeText
  dsimp only
  rcases ho.write_file hn hf (fun _ => .text s) (fun _ => s) (fun _ => rfl) with
    ⟨ha, hnet, id, x, next, halike, hw⟩ | ⟨hno, e, hw⟩
  · rw [hw]
    exact .inl ⟨ha, hnet, rfl, id, x, next, halike, rfl⟩
  · rw [hw]
    exact .inr ⟨hno, e, rfl⟩

/-- A text put after what a file of a network held.

**Proof sketch.** A text put behind nothing is the text itself, so the case of a missing file is
that of an empty one, and the write decides. -/
lemma Disk.InOrder.files_append (ho : h.disk.InOrder root base) {n f : Text}
    (hn : Settings.isNetworkName n = true) (hf : IsFileName f) (s : Text) :
    (Admits (root.fileOf n f) n ∧ h.disk.HasNetwork base n ∧
        (Files.append (root.fileOf n f) s h).1 = .ok () ∧
        h.Wrote (Files.append (root.fileOf n f) s h).2 (base ++ [Name.text n, .text f])
          ((h.disk.fileText base n f).getD [] ++ s)) ∨
      (¬ (Admits (root.fileOf n f) n ∧ h.disk.HasNetwork base n) ∧
        ∃ e, Files.append (root.fileOf n f) s h = (.error (.io e), h)) := by
  have hu : ∀ old : Option Text,
      ((old.map Content.text).getD (.text [])).append s = .text (old.getD [] ++ s) := by
    intro old
    cases old <;> rfl
  unfold Files.append Action.onDisk appendText
  dsimp only
  rcases ho.write_file hn hf (fun c => (c.getD (.text [])).append s)
      (fun old => old.getD [] ++ s) hu with ⟨ha, hnet, id, x, next, halike, hw⟩ | ⟨hno, e, hw⟩
  · rw [hw]
    exact .inl ⟨ha, hnet, rfl, id, x, next, halike, rfl⟩
  · rw [hw]
    exact .inr ⟨hno, e, rfl⟩

/-- Whether a file of a network is there. -/
lemma Disk.InOrder.isThere_file (ho : h.disk.InOrder root base) {n f : Text}
    (hn : Settings.isNetworkName n = true) (hf : IsFileName f) :
    (h.disk.isThere (root.fileOf n f) = true ∧ ∃ s, h.disk.fileText base n f = some s) ∨
      (h.disk.isThere (root.fileOf n f) = false ∧
        (h.disk.fileText base n f = none ∨
          ¬ (Admits (root.fileOf n f) n ∧ h.disk.HasNetwork base n))) := by
  unfold Disk.isThere
  rcases ho.find_file hn hf with
    ⟨-, -, ⟨ht, hfind⟩ | ⟨id, x, s, ht, hfind⟩⟩ | ⟨-, ht, hfind⟩ | ⟨hno, e, -, hfind⟩ <;>
    rw [hfind]
  · exact .inr ⟨rfl, .inl ht⟩
  · exact .inl ⟨rfl, s, ht⟩
  · exact .inr ⟨rfl, .inl ht⟩
  · exact .inr ⟨rfl, .inr hno⟩

/-- A directory that cannot be made, for another reason than the want of one above it, may be
there already.

**Proof sketch.** The directories above are made only if the fault is that they are missing. For
any other fault it is asked whether the directory is there. -/
lemma Files.makeDirectories_of_error {p : Path} {mode : Nat} {e : IoError} (hp : p.text ≠ [])
    (hm : h.disk.makeDirectory mode p = .error e) (he : e ≠ .notFound) :
    Files.makeDirectories mode p h =
      (if h.disk.isDirectory p then .ok () else .error (.io e), h) := by
  have hfault : ¬ Fault.io e = .io .notFound := by simpa using he
  unfold Files.makeDirectories Files.makeFromAbove
  rw [if_neg hp, Action.run_bind, Action.run_attempt]
  unfold Files.makeDirectory Action.onDisk
  dsimp only
  rw [hm]
  dsimp only
  rw [if_neg hfault]
  cases hd : h.disk.isDirectory p <;> simp [Action.run_bind, Files.isDirectory, hd]

/-- A directory that can be made at once. -/
lemma Files.makeDirectories_of_ok {p : Path} {mode : Nat} {c : Change} (hp : p.text ≠ [])
    (hm : h.disk.makeDirectory mode p = .ok c) : Files.makeDirectories mode p h =
      (.ok (), ({ h with disk := c.disk } : Host).record (.madeDirectory c.loc)) := by
  unfold Files.makeDirectories Files.makeFromAbove
  rw [if_neg hp, Action.run_bind, Action.run_attempt]
  unfold Files.makeDirectory Action.onDisk
  dsimp only
  rw [hm]
  rfl

/-- **A directory that is there** is left as it is. -/
theorem Files.makeDirectories_of_find {p : Path} {loc : Location} {id m : Nat}
    (hf : h.disk.find p = .ok ⟨loc, .directory id m⟩) (mode : Nat) :
    Files.makeDirectories mode p h = (.ok (), h) := by
  have hp := text_ne_nil_of_refusal? (walk_eq_tree_walk (lookUp_eq_ok_iff.mp hf)).1
  have hd : h.disk.isDirectory p = true := by
    simp [Disk.isDirectory, Disk.leadsTo, hf, Entry.isDirectory]
  rw [Files.makeDirectories_of_error hp (makeDirectory_of_find hf mode) (by decide), if_pos hd]

/-- **The directory of a network** is there already, or is made, or the request fails and changes
nothing.

**Proof sketch.** By what making one directory gives: it is made, or the place is taken, or the
path is refused. In the last two, the request succeeds just if a directory is there. -/
theorem Disk.Linkless.makeDirectories_network (ho : h.disk.Linkless root base) {n : Text}
    (hn : Settings.isNetworkName n = true) (mode : Nat) :
    (Files.makeDirectories mode (root.join n) h = (.ok (), h) ∧ h.disk.HasNetwork base n) ∨
      ((Files.makeDirectories mode (root.join n) h).1 = .ok () ∧
        h.Opened (Files.makeDirectories mode (root.join n) h).2 (base ++ [Name.text n])) ∨
      (Admits (root.join n) n → ∃ e, h.disk.tree.get? (base ++ [Name.text n]) = some e) ∧
        ∃ e, Files.makeDirectories mode (root.join n) h = (.error (.io e), h) := by
  have htext := (ho.leads.path_network hn).2.2.1
  have hdir := ho.isDirectory_network hn
  rcases ho.makeDirectory_network hn mode with ⟨hfree, hm⟩ | ⟨-, e, hold, hm⟩ | ⟨hno, e, he, hm⟩
  · rw [Files.makeDirectories_of_ok htext hm]
    exact .inr (.inl ⟨rfl, hfree, h.disk.nextId, mode, h.disk.nextId + 1, rfl⟩)
  · rw [Files.makeDirectories_of_error htext hm (by decide)]
    split
    · next hd => exact .inl ⟨rfl, (hdir.mp hd).2⟩
    · exact .inr (.inr ⟨fun _ => ⟨e, hold⟩, _, rfl⟩)
  · rw [Files.makeDirectories_of_error htext hm he]
    split
    · next hd => exact .inl ⟨rfl, (hdir.mp hd).2⟩
    · exact .inr (.inr ⟨fun ha => absurd ha hno, _, rfl⟩)

/-- **The directory of a network removed**: it is gone with all it held, or was not there, or the
request fails and changes nothing.

**Proof sketch.** By what removing gives. Only the error that nothing is there is no failure. -/
theorem Disk.Linkless.removeIfThere_network (ho : h.disk.Linkless root base) {n : Text}
    (hn : Settings.isNetworkName n = true) :
    ((Files.removeIfThere (root.join n) h).1 = .ok () ∧
        h.Removed (Files.removeIfThere (root.join n) h).2 (base ++ [Name.text n])) ∨
      (Files.removeIfThere (root.join n) h = (.ok (), h) ∧ Admits (root.join n) n ∧
        h.disk.tree.get? (base ++ [Name.text n]) = none) ∨
      ∃ e, Files.removeIfThere (root.join n) h = (.error (.io e), h) := by
  unfold Files.removeIfThere
  rw [Action.run_bind, Action.run_attempt]
  unfold Files.removeAll Action.onDisk
  dsimp only
  rcases ho.removeAll_network hn with ⟨-, hr⟩ | ⟨ha, hno, hr⟩ | ⟨e, he, hr⟩ <;> rw [hr]
  · exact .inl ⟨rfl, rfl⟩
  · exact .inr (.inl ⟨by simp, ha, hno⟩)
  · exact .inr (.inr ⟨e, by simp [he]⟩)

/-- No name stands twice among the entries of a directory.

**Proof sketch.** Induction on the entries of the tree. Two entries with the same name in one
directory would be at the same site, and each site stands once in a tree. -/
lemma FileTree.nodup_children (t : FileTree) (loc : Location) :
    ((t.children loc).map Prod.fst).Nodup := by
  have key : ∀ es : List (Site × Entry), (es.map Prod.fst).Nodup →
      ((es.filterMap (fun e => (childName loc e.1.loc).map (fun n => (n, e.2)))).map
        Prod.fst).Nodup := by
    intro es
    induction es with
    | nil => simp
    | cons x xs ih =>
      intro hnd
      rw [List.map_cons, List.nodup_cons] at hnd
      cases hc : childName loc x.1.loc with
      | none => simpa [hc] using ih hnd.2
      | some m =>
        rw [List.filterMap_cons, hc]
        simp only [Option.map_some, List.map_cons, List.nodup_cons]
        refine ⟨fun hm => ?_, ih hnd.2⟩
        -- another entry of that name would be at the same site
        obtain ⟨⟨m', e'⟩, hmem, rfl⟩ := List.mem_map.mp hm
        obtain ⟨⟨site, e⟩, hin, heq⟩ := List.mem_filterMap.mp hmem
        obtain ⟨m'', hc', heq'⟩ := Option.map_eq_some_iff.mp heq
        cases heq'
        have hsite : site = x.1 := by
          rw [childName_eq_some_iff, ← Site.eq_ofLocation_iff] at hc hc'
          exact hc'.trans hc.symm
        exact hnd.1 (List.mem_map.mpr ⟨_, hin, hsite⟩)
  exact key t.entries t.nodup

/-- The listed networks are names of entries, in the same order.

**Proof sketch.** Induction on the entries: each is left out or keeps its place, with its name. -/
lemma Settings.map_networksIn_sublist (current : Path) (entries : List (Name × Entry)) :
    ((networksIn current entries).map Name.text).Sublist (entries.map Prod.fst) := by
  induction entries with
  | nil => exact .slnil
  | cons x xs ih =>
    unfold networksIn at ih ⊢
    rw [List.filterMap_cons]
    split
    · exact ih.cons _
    · next name hname =>
      cases hx : x.1 with
      | raw bytes => simp [hx, Name.text?] at hname
      | text t =>
        simp only [hx, Name.text?, Option.ite_none_right_eq_some, Option.some.injEq] at hname
        rw [← hname.2, List.map_cons, List.map_cons, hx]
        exact ih.cons_cons _

/-- **The other networks** are listed once each, in dictionary order, whatever else the root
holds.

**Proof sketch.** The names are those of the directory's entries, sorted. Each stands there once,
as a part of the names of the entries, and it is a sibling just if its entry is a directory and its
name another one than the network's. -/
theorem Disk.Leads.siblings (hl : h.disk.Leads root base) {n : Text}
    (hn : Settings.isNetworkName n = true) {s : Settings} (hs : s.rootDir = root) :
    ∃ names, s.siblings (root.join n) h = .ok names ∧ names.Nodup ∧
      (∀ m, m ∈ names ↔ h.disk.HasNetwork base m ∧ m ≠ n) ∧
      names.Pairwise fun m p => Text.le m p = true := by
  obtain ⟨hplain, hdot, hup⟩ := Settings.isNetworkName_iff.mp hn
  have hname : (root.join n).fileName? = some n := Path.fileName?_join root hplain hdot hup
  refine ⟨Text.sorted (Settings.networksIn (root.join n) (h.disk.tree.children base)), ?_, ?_, ?_,
    Text.pairwise_sorted _⟩
  · unfold Settings.siblings
    rw [hs, hl.listDirectory]
  · rw [(Text.sorted_perm _).nodup_iff]
    have hsub := Settings.map_networksIn_sublist (root.join n) (h.disk.tree.children base)
    exact .of_map _ (hsub.nodup (h.disk.tree.nodup_children base))
  · intro m
    rw [Text.mem_sorted]
    unfold Settings.networksIn
    rw [List.mem_filterMap, hname]
    constructor
    · rintro ⟨⟨name, e⟩, hmem, hm⟩
      cases name with
      | raw bytes => simp [Name.text?] at hm
      | text t =>
        simp only [Name.text?, Option.ite_none_right_eq_some, Option.some.injEq, ne_eq] at hm
        obtain ⟨⟨hd, hne⟩, rfl⟩ := hm
        refine ⟨isNetwork_shelf_iff.mp ?_, fun h => hne h.symm⟩
        simpa [Disk.shelf, FileTree.mem_children.mp hmem] using hd
    · rintro ⟨⟨id, mode, hd⟩, hne⟩
      exact ⟨(.text m, .directory id mode), FileTree.mem_children.mpr hd,
        by simp [Name.text?, Entry.isDirectory, Ne.symm hne]⟩

end Requests

end ResolverMesh
