import Mathlib.Data.List.Nodup
import ResolverMesh.Proofs.RootLayout

set_option autoImplicit false
set_option relaxedAutoImplicit false

/-!
# Requests below the root

What the requests to the disk do below the root: finding and writing a file of a network, where
the layout is in order, and making and removing its directory, where there are no links. Each is
stated with all its outcomes, and with the condition under which it cannot fail.

## Main definitions

* `ResolverMesh.Disk.Admits` — the system takes a path by way of a network.
* `ResolverMesh.Disk.fileText` — what a file of a network holds.
* `ResolverMesh.Disk.unreadable?` — why it cannot be read.

## Main results

* `ResolverMesh.Disk.Linkless.walk_eq` — a walk to a place below the root.
* `ResolverMesh.Disk.Linkless.readText_eq` — reading a file of a network.
* `ResolverMesh.Disk.InOrder.find_file` — finding one.
* `ResolverMesh.Disk.InOrder.write_file` — writing one.
* `ResolverMesh.Disk.Linkless.makeDirectory_network`,
  `ResolverMesh.Disk.Linkless.removeAll_network` — the directory of a network made and removed.
-/

namespace ResolverMesh

/-! ## Paths by way of the root -/

/-- A text can be the name of a file in a network's directory. -/
def IsFileName (f : Text) : Prop :=
  Path.IsPlain f ∧ FileTree.IsStep f

instance (f : Text) : Decidable (IsFileName f) :=
  inferInstanceAs (Decidable (_ ∧ _))

/-- The name of the configuration can be a file's. -/
lemma isFileName_configName : IsFileName configName := by decide +kernel

/-- So can that of the pid file. -/
lemma isFileName_pidName : IsFileName pidName := by decide +kernel

/-- So can that of the hosts file. -/
lemma isFileName_hostsName : IsFileName hostsName := by decide +kernel

/-- So can that of the file of forwarders. -/
lemma isFileName_localServersName : IsFileName localServersName := by decide +kernel

/-- So can that of the file of what a network publishes. -/
lemma isFileName_ownServersName : IsFileName ownServersName := by decide +kernel

/-- The name of a file is a step of a walk. -/
lemma IsFileName.isStep_of_mem {f : Text} (hf : IsFileName f) : ∀ s ∈ [f], FileTree.IsStep s := by
  intro s hs
  rw [List.mem_singleton.mp hs]
  exact hf.2

/-- The path of a file of a network. -/
def Path.fileOf (root : Path) (n f : Text) : Path :=
  (root.join n).join f

/-- A text that can name a network is plain, and neither the place itself nor the one above. -/
lemma Settings.isNetworkName_iff {n : Text} :
    Settings.isNetworkName n = true ↔ Path.IsPlain n ∧ n ≠ Path.dot ∧ n ≠ Path.dotDot := by
  simp [Settings.isNetworkName]

/-- Joining a plain name to a path that is not empty keeps where the path starts. -/
lemma Path.isAbsolute_join {p : Path} {name : Text} (hp : p.text ≠ []) (h : IsPlain name) :
    (p.join name).isAbsolute = p.isAbsolute := by
  obtain ⟨c, cs, hc⟩ := List.exists_cons_of_ne_nil hp
  unfold join isAbsolute
  rw [if_neg h.head?_ne]
  split
  · simp [hc]
  · simp [hc]

/-- Why an entry cannot be read as a text. -/
def Entry.unreadable? : Entry → Option IoError
  | .file _ _ (.text _) => none
  | .file _ _ _ => some .notText
  | _ => some .isADirectory

/-- An entry that cannot be read is there all the same. -/
lemma Entry.ne_notFound_of_unreadable? {entry : Entry} {e : IoError}
    (h : entry.unreadable? = some e) : e ≠ .notFound := by
  unfold unreadable? at h
  split at h <;> cases h <;> decide

namespace Disk

/-- The system takes a path that leads by way of a network: the path holds no NUL character and
is not too long, and neither is the name of the network. -/
def Admits (p : Path) (n : Text) : Prop :=
  refusal? p = none ∧ Text.utf8Size n ≤ FileTree.longestName

instance (p : Path) (n : Text) : Decidable (Admits p n) :=
  inferInstanceAs (Decidable (_ ∧ _))

/-- A path that is not empty is refused for what it holds or for its length. -/
lemma ne_notFound_of_refusal? {p : Path} {e : IoError} (hp : p.text ≠ [])
    (h : refusal? p = some e) : e ≠ .notFound := by
  unfold refusal? at h
  split at h
  · cases h
    decide
  · split at h
    · cases h
      decide
    · cases h

/-- Why the system does not take a path that leads by way of a network. -/
def refusalBy? (p : Path) (n : Text) : Option IoError :=
  match refusal? p with
  | some e => some e
  | none => if FileTree.longestName < Text.utf8Size n then some .nameTooLong else none

/-- A path that is not refused is one that the system takes. -/
lemma refusalBy?_eq_none_iff {p : Path} {n : Text} : refusalBy? p n = none ↔ Admits p n := by
  unfold refusalBy? Admits
  cases refusal? p <;> simp

/-- A path that is refused is not refused as missing, unless it is empty.

**Proof sketch.** A path is refused for what is in it, or for the length of a name. -/
lemma ne_notFound_of_refusalBy? {p : Path} {n : Text} {e : IoError} (hp : p.text ≠ [])
    (h : refusalBy? p n = some e) : e ≠ .notFound := by
  unfold refusalBy? at h
  cases hr : refusal? p with
  | some e' =>
    rw [hr] at h
    cases h
    exact ne_notFound_of_refusal? hp hr
  | none =>
    rw [hr] at h
    dsimp only at h
    split at h <;> cases h
    decide

section Walks

variable {d : Disk} {root : Path} {base : Location}

/-- **A walk to a place below the root** is decided by the entries that it names, unless the system
does not take the path.

**Proof sketch.** The root's own steps lead to its directory. Below that every entry is known not
to be a link, so the walk lands where the names point, if the network's name is not too long. -/
theorem Linkless.walk_eq (h : d.Linkless root base) {p : Path} {n : Text} (rest : List Text)
    (hsteps : p.steps = root.steps ++ n :: rest) (habs : p.isAbsolute = root.isAbsolute)
    (hn : Settings.isNetworkName n = true) (hrest : ∀ s ∈ rest, FileTree.IsStep s) (aim : Aim) :
    d.walk aim p p.steps = match refusalBy? p n with
      | some e => .error e
      | none => d.tree.landing base (n :: rest) := by
  obtain ⟨-, hdot, hup⟩ := Settings.isNetworkName_iff.mp hn
  unfold refusalBy?
  cases hr : refusal? p with
  | some e =>
    unfold walk
    rw [hr]
  | none =>
    obtain ⟨left, hw⟩ := h.leads.walk_below hr hsteps habs (by simp) aim
    rw [hw]
    by_cases hlen : FileTree.longestName < Text.utf8Size n
    · rw [FileTree.walk_nameTooLong hdot hup hlen]
      simp [hlen]
    · rw [FileTree.walk_eq_landing (by simp) (fun s hs => ?_) h.isLink_eq_false]
      · simp [hlen]
      · rcases List.mem_cons.mp hs with rfl | hs
        · exact ⟨hdot, hup, Nat.le_of_not_lt hlen⟩
        · exact hrest s hs

/-- A walk to a place below the root is decided by the entries that it names, or the system does not
take the path. -/
lemma Linkless.walk_names (h : d.Linkless root base) {p : Path} {n : Text} (rest : List Text)
    (hsteps : p.steps = root.steps ++ n :: rest) (habs : p.isAbsolute = root.isAbsolute)
    (hp : p.text ≠ []) (hn : Settings.isNetworkName n = true)
    (hrest : ∀ s ∈ rest, FileTree.IsStep s) :
    (Admits p n ∧ ∀ aim, d.walk aim p p.steps = d.tree.landing base (n :: rest)) ∨
      (¬ Admits p n ∧ ∃ e, e ≠ .notFound ∧ ∀ aim, d.walk aim p p.steps = .error e) := by
  have hwalk := h.walk_eq rest hsteps habs hn hrest
  rw [← refusalBy?_eq_none_iff]
  cases hr : refusalBy? p n with
  | none => exact .inl ⟨rfl, fun aim => by rw [hwalk, hr]⟩
  | some e => exact .inr ⟨by simp, e, ne_notFound_of_refusalBy? hp hr,
      fun aim => by rw [hwalk, hr]⟩

/-- The path of a network's directory takes one step from the root. -/
lemma Leads.path_network (h : d.Leads root base) {n : Text}
    (hn : Settings.isNetworkName n = true) :
    (root.join n).steps = root.steps ++ [n] ∧ (root.join n).isAbsolute = root.isAbsolute ∧
      (root.join n).text ≠ [] ∧ (root.join n).lookupSteps = (root.join n).steps := by
  have hplain := (Settings.isNetworkName_iff.mp hn).1
  have hroot := text_ne_nil_of_refusal? h.refusal?_eq_none
  exact ⟨Path.steps_join root hplain, Path.isAbsolute_join hroot hplain,
    Path.text_join_ne_nil root hplain,
    by rw [Path.lookupSteps, Path.endsInSlash_join root hplain]; simp⟩

/-- The path of a network's file takes two steps from the root. -/
lemma Leads.path_file (h : d.Leads root base) {n f : Text}
    (hn : Settings.isNetworkName n = true) (hf : IsFileName f) :
    (root.fileOf n f).steps = root.steps ++ [n, f] ∧
      (root.fileOf n f).isAbsolute = root.isAbsolute ∧ (root.fileOf n f).text ≠ [] ∧
      (root.fileOf n f).endsInSlash = false ∧
      (root.fileOf n f).lookupSteps = (root.fileOf n f).steps := by
  obtain ⟨hs, ha, ht, -⟩ := h.path_network hn
  unfold Path.fileOf
  exact ⟨by rw [Path.steps_join _ hf.1, hs, List.append_assoc]; rfl,
    by rw [Path.isAbsolute_join ht hf.1, ha], Path.text_join_ne_nil _ hf.1,
    Path.endsInSlash_join _ hf.1,
    by rw [Path.lookupSteps, Path.endsInSlash_join _ hf.1]; simp⟩

/-- What a file of a network holds. -/
def fileText (d : Disk) (base : Location) (n f : Text) : Option Text :=
  (d.tree.get? (base ++ [Name.text n, .text f])).bind Entry.text?

/-- A file of the shelf holds the text of the file on the disk, pid files apart. -/
lemma text?_shelf_eq {f : Text} (hf : f ≠ pidName) (n : Text) :
    (d.shelf base).text? n f = d.fileText base n f :=
  text?_shelf hf

/-- The names of a file of a network that is there lead to what is in its place. -/
lemma landing_of_hasNetwork {n : Text} (hn : d.HasNetwork base n) (f : Text) :
    d.tree.landing base [n, f] = .ok (match d.tree.get? (base ++ [Name.text n, .text f]) with
      | none => .vacant (base ++ [Name.text n]) f
      | some e => .entry (base ++ [Name.text n, .text f]) e) := by
  have hassoc : base ++ [Name.text n] ++ [Name.text f] = base ++ [Name.text n, .text f] := by simp
  obtain ⟨id, mode, hd⟩ := hn
  have hland : d.tree.landing base [n, f] = d.tree.landing (base ++ [Name.text n]) [f] := by
    conv => lhs; unfold FileTree.landing; rw [hd]
  rw [hland, FileTree.landing, hassoc]
  cases d.tree.get? (base ++ [Name.text n, .text f]) <;> rfl

/-- The entries on the way to a file of a network.

**Proof sketch.** If the network is there, the landing is decided by the entry of the file's name,
which is free or a file with a text. If it is not, there is nothing of its name, or a file. -/
lemma Tidy.landing_file (h : d.Tidy base) (n f : Text) :
    (d.HasNetwork base n ∧ ((d.fileText base n f = none ∧
        d.tree.get? (base ++ [Name.text n, .text f]) = none ∧
        d.tree.landing base [n, f] = .ok (.vacant (base ++ [Name.text n]) f)) ∨
      ∃ id x s, d.fileText base n f = some s ∧
        d.tree.get? (base ++ [Name.text n, .text f]) = some (.file id x (.text s)) ∧
        d.tree.landing base [n, f] =
          .ok (.entry (base ++ [Name.text n, .text f]) (.file id x (.text s))))) ∨
      (¬ d.HasNetwork base n ∧ d.fileText base n f = none ∧
        (d.tree.landing base [n, f] = .error .notFound ∨
          d.tree.landing base [n, f] = .error .notADirectory)) := by
  by_cases hn : d.HasNetwork base n
  · refine .inl ⟨hn, ?_⟩
    rw [landing_of_hasNetwork hn]
    cases he : d.tree.get? (base ++ [Name.text n, .text f]) with
    | none => exact .inl ⟨by rw [fileText, he]; rfl, rfl, rfl⟩
    | some e =>
      obtain ⟨id, x, s, rfl⟩ := Entry.exists_of_text?_isSome (h.hasNetwork he).1
      exact .inr ⟨id, x, s, by rw [fileText, he]; rfl, rfl, rfl⟩
  · have hnone : d.fileText base n f = none := by
      unfold fileText
      cases he : d.tree.get? (base ++ [Name.text n, .text f]) with
      | none => rfl
      | some e => exact absurd (h.hasNetwork he).2 hn
    refine .inr ⟨hn, hnone, ?_⟩
    rw [FileTree.landing]
    · cases he : d.tree.get? (base ++ [Name.text n]) with
      | none => exact .inl rfl
      | some e =>
        cases e with
        | directory i md => exact absurd ⟨i, md, he⟩ hn
        | file _ _ _ => exact .inr rfl
        | link _ => exact .inr rfl
    · simp

end Walks

/-! ## Files of networks -/

section Files

variable {d : Disk} {root : Path} {base : Location}

/-- Why a file of a network that is there cannot be read: the system does not take its path, or
what is in its place is no file of text. -/
def unreadable? (d : Disk) (root : Path) (base : Location) (n f : Text) : Option IoError :=
  match refusalBy? (root.fileOf n f) n with
  | some e => some e
  | none => (d.tree.get? (base ++ [Name.text n, .text f])).bind Entry.unreadable?

/-- The system takes the path of a file that can be read. -/
lemma admits_of_unreadable? {n f : Text} (h : d.unreadable? root base n f = none) :
    Admits (root.fileOf n f) n := by
  rw [← refusalBy?_eq_none_iff]
  unfold unreadable? at h
  cases hr : refusalBy? (root.fileOf n f) n with
  | none => rfl
  | some e =>
    rw [hr] at h
    cases h

/-- A file that holds a text can be read if the system takes its path. -/
lemma unreadable?_eq_none {n f s : Text} (ha : Admits (root.fileOf n f) n)
    (hs : d.fileText base n f = some s) : d.unreadable? root base n f = none := by
  unfold unreadable?
  rw [refusalBy?_eq_none_iff.mpr ha]
  unfold fileText at hs
  obtain ⟨e, he, htext⟩ := Option.bind_eq_some_iff.mp hs
  rw [he]
  match e, htext with
  | .file id x (.text s), _ => rfl

/-- That a file cannot be read is told otherwise than that it is missing.

**Proof sketch.** Either the path is refused, or there is something at it that is no text. -/
lemma ne_notFound_of_unreadable? (hl : d.Linkless root base) {n f : Text} {e : IoError}
    (hn : Settings.isNetworkName n = true) (hf : IsFileName f)
    (h : d.unreadable? root base n f = some e) : e ≠ .notFound := by
  obtain ⟨-, -, htext, -⟩ := hl.leads.path_file hn hf
  unfold unreadable? at h
  cases hr : refusalBy? (root.fileOf n f) n with
  | some e' =>
    rw [hr] at h
    cases h
    exact ne_notFound_of_refusalBy? htext hr
  | none =>
    rw [hr] at h
    obtain ⟨entry, -, he⟩ := Option.bind_eq_some_iff.mp h
    exact Entry.ne_notFound_of_unreadable? he

/-- **Reading a file of a network** that is there, where there are no links.

**Proof sketch.** The walk is told by `Linkless.walk_eq`, and it ends at what stands in the file's
place. -/
theorem Linkless.readText_eq (hl : d.Linkless root base) {n f : Text}
    (hn : Settings.isNetworkName n = true) (hf : IsFileName f) (hnet : d.HasNetwork base n) :
    d.readText (root.fileOf n f) = match d.unreadable? root base n f with
      | some e => .error e
      | none => (d.fileText base n f).elim (.error .notFound) .ok := by
  obtain ⟨hsteps, habs, -, -, hlook⟩ := hl.leads.path_file hn hf
  have hrest := hf.isStep_of_mem
  unfold readText find lookUp unreadable? fileText
  rw [hlook, hl.walk_eq [f] hsteps habs hn hrest]
  cases refusalBy? (root.fileOf n f) n with
  | some e => rfl
  | none =>
    rw [landing_of_hasNetwork hnet]
    cases d.tree.get? (base ++ [Name.text n, .text f]) with
    | none => rfl
    | some e =>
      cases e with
      | file id x c => cases c <;> rfl
      | directory id mode => rfl
      | link target => rfl

/-- **Finding a file of a network** finds what it holds, or that it is missing, or fails in
another way. The last needs a path that the system does not take, or no network of that name.

**Proof sketch.** The walk is refused, or it lands at the file's place. There, the landing is told
by `Tidy.landing_file`. -/
theorem InOrder.find_file (h : d.InOrder root base) {n f : Text}
    (hn : Settings.isNetworkName n = true) (hf : IsFileName f) :
    (Admits (root.fileOf n f) n ∧ d.HasNetwork base n ∧
      ((d.fileText base n f = none ∧ d.find (root.fileOf n f) = .error .notFound) ∨
        ∃ id x s, d.fileText base n f = some s ∧ d.find (root.fileOf n f) =
          .ok ⟨base ++ [Name.text n, .text f], .file id x (.text s)⟩)) ∨
      (¬ d.HasNetwork base n ∧ d.fileText base n f = none ∧
        d.find (root.fileOf n f) = .error .notFound) ∨
      (¬ (Admits (root.fileOf n f) n ∧ d.HasNetwork base n) ∧
        ∃ e, e ≠ .notFound ∧ d.find (root.fileOf n f) = .error e) := by
  obtain ⟨hsteps, habs, htext, -, hlook⟩ := h.rooted.find.path_file hn hf
  have hrest := hf.isStep_of_mem
  unfold find lookUp
  rw [hlook]
  rcases h.linkless.walk_names [f] hsteps habs htext hn hrest with ⟨ha, hw⟩ | ⟨hna, e, he, hw⟩
  · rw [hw]
    rcases h.tidy.landing_file n f with
      ⟨hnet, ⟨ht, -, hl⟩ | ⟨id, x, s, ht, -, hl⟩⟩ | ⟨hno, ht, hl | hl⟩ <;> rw [hl]
    · exact .inl ⟨ha, hnet, .inl ⟨ht, rfl⟩⟩
    · exact .inl ⟨ha, hnet, .inr ⟨id, x, s, ht, rfl⟩⟩
    · exact .inr (.inl ⟨hno, ht, rfl⟩)
    · exact .inr (.inr ⟨fun h => hno h.2, _, by decide, rfl⟩)
  · rw [hw]
    exact .inr (.inr ⟨fun h => hna h.1, e, he, rfl⟩)

/-- Reading a file of a network gives what it holds, or fails in another way than for want of
the file. -/
lemma InOrder.readText_file (h : d.InOrder root base) {n f : Text}
    (hn : Settings.isNetworkName n = true) (hf : IsFileName f) :
    ((Admits (root.fileOf n f) n ∨ ¬ d.HasNetwork base n) ∧
        d.readText (root.fileOf n f) = (d.fileText base n f).elim (.error .notFound) .ok) ∨
      (¬ (Admits (root.fileOf n f) n ∧ d.HasNetwork base n) ∧
        ∃ e, e ≠ .notFound ∧ d.readText (root.fileOf n f) = .error e) := by
  unfold readText
  rcases h.find_file hn hf with
    ⟨ha, -, ⟨ht, hfind⟩ | ⟨id, x, s, ht, hfind⟩⟩ | ⟨hno, ht, hfind⟩ | ⟨hno, e, he, hfind⟩ <;>
    rw [hfind]
  · exact .inl ⟨.inl ha, by rw [ht]; rfl⟩
  · exact .inl ⟨.inl ha, by rw [ht]; rfl⟩
  · exact .inl ⟨.inr hno, by rw [ht]; rfl⟩
  · exact .inr ⟨hno, e, he, rfl⟩

/-- **Writing a file of a network** succeeds just if the system takes the path and the network is
there, and then puts a text in its place.

**Proof sketch.** Opening the file walks to its place. A free name is taken by a new file, and a
file that is there keeps what it is and gets the text; in all other cases the opening fails. -/
theorem InOrder.write_file (h : d.InOrder root base) {n f : Text}
    (hn : Settings.isNetworkName n = true) (hf : IsFileName f)
    (update : Option Content → Content) (text : Option Text → Text)
    (hu : ∀ old : Option Text, update (old.map .text) = .text (text old)) :
    (Admits (root.fileOf n f) n ∧ d.HasNetwork base n ∧ ∃ id x next,
        (∀ old, d.tree.get? (base ++ [Name.text n, .text f]) = some old →
          Entry.Alike old (.file id x (.text (text (d.fileText base n f))))) ∧
        d.write (root.fileOf n f) update = .ok ⟨base ++ [Name.text n, .text f],
          ⟨d.tree.put (base ++ [Name.text n, .text f])
            (.file id x (.text (text (d.fileText base n f)))), d.workDir, next⟩⟩) ∨
      (¬ (Admits (root.fileOf n f) n ∧ d.HasNetwork base n) ∧
        ∃ e, d.write (root.fileOf n f) update = .error e) := by
  obtain ⟨hsteps, habs, htext, hslash, -⟩ := h.rooted.find.path_file hn hf
  have hrest := hf.isStep_of_mem
  have hassoc : base ++ [Name.text n] ++ [Name.text f] = base ++ [Name.text n, .text f] := by simp
  have hopen : d.openSpot (root.fileOf n f) =
      d.walk .file (root.fileOf n f) (root.fileOf n f).steps := by
    rw [openSpot, hslash]
    rfl
  unfold write
  rw [hopen]
  rcases h.linkless.walk_names [f] hsteps habs htext hn hrest with ⟨ha, hw⟩ | ⟨hna, e, he, hw⟩
  · rw [hw]
    rcases h.tidy.landing_file n f with
      ⟨hnet, ⟨ht, hfree, hl⟩ | ⟨id, x, s, ht, hold, hl⟩⟩ | ⟨hno, ht, hl | hl⟩ <;> rw [hl]
    · refine .inl ⟨ha, hnet, d.nextId, false, d.nextId + 1, ?_, ?_⟩
      · intro old hold
        rw [hfree] at hold
        cases hold
      · rw [ht, ← hassoc]
        have := hu none
        rw [Option.map_none] at this
        simp [this]
    · refine .inl ⟨ha, hnet, id, x, d.nextId, ?_, ?_⟩
      · intro old hold'
        rw [hold] at hold'
        cases hold'
        rfl
      · rw [ht]
        have := hu (some s)
        rw [Option.map_some] at this
        simp [this]
    · exact .inr ⟨fun h => hno h.2, _, rfl⟩
    · exact .inr ⟨fun h => hno h.2, _, rfl⟩
  · rw [hw]
    exact .inr ⟨fun h => hna h.1, e, rfl⟩

end Files

/-! ## Directories of networks -/

section Directories

variable {d : Disk} {root : Path} {base : Location}

/-- **Making the directory of a network** succeeds just if the system takes the path and nothing
is in its place. It never fails for want of a directory above.

**Proof sketch.** The walk to the place is refused, or ends there, and what is in the place
decides. -/
theorem Linkless.makeDirectory_network (h : d.Linkless root base) {n : Text}
    (hn : Settings.isNetworkName n = true) (mode : Nat) :
    (d.tree.get? (base ++ [Name.text n]) = none ∧
        d.makeDirectory mode (root.join n) = .ok ⟨base ++ [Name.text n],
          ⟨d.tree.put (base ++ [Name.text n]) (.directory d.nextId mode), d.workDir,
            d.nextId + 1⟩⟩) ∨
      (Admits (root.join n) n ∧ ∃ e, d.tree.get? (base ++ [Name.text n]) = some e ∧
        d.makeDirectory mode (root.join n) = .error .alreadyExists) ∨
      (¬ Admits (root.join n) n ∧
        ∃ e, e ≠ .notFound ∧ d.makeDirectory mode (root.join n) = .error e) := by
  obtain ⟨hsteps, habs, htext, -⟩ := h.leads.path_network hn
  unfold makeDirectory
  rcases h.walk_names [] hsteps habs htext hn (by simp) with
    ⟨ha, hw⟩ | ⟨hna, e, he, hw⟩
  · rw [hw, FileTree.landing]
    cases he : d.tree.get? (base ++ [Name.text n]) with
    | none => exact .inl ⟨rfl, rfl⟩
    | some e => exact .inr (.inl ⟨ha, e, rfl, rfl⟩)
  · rw [hw]
    exact .inr (.inr ⟨hna, e, he, rfl⟩)

/-- Whether a path leads to the directory of a network.

**Proof sketch.** The walk to the network is refused, or ends at its place. What lies there
decides. -/
lemma Linkless.isDirectory_network (h : d.Linkless root base) {n : Text}
    (hn : Settings.isNetworkName n = true) :
    d.isDirectory (root.join n) = true ↔ Admits (root.join n) n ∧ d.HasNetwork base n := by
  obtain ⟨hsteps, habs, htext, hlook⟩ := h.leads.path_network hn
  unfold isDirectory leadsTo find lookUp HasNetwork
  rw [hlook]
  rcases h.walk_names [] hsteps habs htext hn (by simp) with
    ⟨ha, hw⟩ | ⟨hna, e, he, hw⟩
  · rw [hw, FileTree.landing]
    cases he : d.tree.get? (base ++ [Name.text n]) with
    | none => simp
    | some e => cases e <;> simp [Entry.isDirectory, ha]
  · rw [hw]
    simp [hna]

/-- **Removing the directory of a network** succeeds just if the system takes the path and the
network is there.

**Proof sketch.** The walk ends where the network's directory would be. A directory is removed, a
free name is missing, a file is no directory, and a link is not there. -/
theorem Linkless.removeAll_network (h : d.Linkless root base) {n : Text}
    (hn : Settings.isNetworkName n = true) :
    (d.HasNetwork base n ∧ d.removeAll (root.join n) = .ok ⟨base ++ [Name.text n],
        ⟨d.tree.removeAt (base ++ [Name.text n]), d.workDir, d.nextId⟩⟩) ∨
      (Admits (root.join n) n ∧ d.tree.get? (base ++ [Name.text n]) = none ∧
        d.removeAll (root.join n) = .error .notFound) ∨
      ∃ e, e ≠ .notFound ∧ d.removeAll (root.join n) = .error e := by
  obtain ⟨hsteps, habs, htext, hlook⟩ := h.leads.path_network hn
  unfold removeAll lookUp
  rw [hlook]
  rcases h.walk_names [] hsteps habs htext hn (by simp) with
    ⟨ha, hw⟩ | ⟨-, e, he, hw⟩
  · rw [hw, FileTree.landing]
    cases he : d.tree.get? (base ++ [Name.text n]) with
    | none => exact .inr (.inl ⟨ha, rfl, rfl⟩)
    | some e =>
      cases e with
      | directory id mode => exact .inl ⟨⟨id, mode, he⟩, rfl⟩
      | file id x c => exact .inr (.inr ⟨.notADirectory, by decide, rfl⟩)
      | link target =>
        have hlink := h.isLink_eq_false [.text n] _ he
        cases hlink
  · rw [hw]
    exact .inr (.inr ⟨e, he, rfl⟩)

/-- **The entries of the root** are those one name below its directory. -/
theorem Leads.listDirectory (h : d.Leads root base) :
    d.listDirectory root = .ok (d.tree.children base) := by
  obtain ⟨id, mode, hf⟩ := h
  unfold Disk.listDirectory
  rw [hf]

end Directories

/-! ## The directory of the root -/

end Disk

namespace FileTree

/-- Where a walk to what is there arrives, a walk to the place itself arrives too, if only at a
link. The step `suffix` that stays in place may be left out.

**Proof sketch.** Induction on the steps. Both walks do the same until a link is met as the last
step: the one that follows it goes on, and the other one has arrived. The step that stays where it
is changes neither. -/
lemma advance_place_of_target {t : FileTree} {here : Location} {steps suffix : List Text}
    (hs : suffix = [] ∨ suffix = [Path.dot]) :
    (∀ loc, t.advance true here (steps ++ suffix) = .arrived loc →
        t.advance false here steps = .arrived loc) ∧
      ∀ base target rest, t.advance true here (steps ++ suffix) = .link base target rest →
        (∃ loc, t.advance false here steps = .arrived loc ∧ t.get? loc = some (.link target)) ∨
          ∃ rest', rest = rest' ++ suffix ∧
            t.advance false here steps = .link base target rest' := by
  induction steps generalizing here with
  | nil => rcases hs with rfl | rfl <;> simp [advance]
  | cons s ss ih =>
    rw [List.cons_append, advance, advance]
    split
    · exact ih
    · split
      · exact ih
      · split
        · simp
        · cases he : t.get? (here ++ [Name.text s]) with
          | none =>
            dsimp only
            split <;> simp
          | some e =>
            cases e with
            | directory id mode => exact ih
            | file id x c =>
              dsimp only
              rcases hs with rfl | rfl
              · rw [List.append_nil]
                split <;> simp
              · simp
            | link target =>
              simp only [Bool.not_true, Bool.and_false, Bool.false_eq_true, if_false]
              refine ⟨by simp, fun b g r h => ?_⟩
              cases h
              cases ss with
              | nil => exact .inl ⟨here ++ [Name.text s], by simp, he⟩
              | cons s' ss' => exact .inr ⟨s' :: ss', rfl, by simp⟩

/-- A walk to an entry that is there ends at an entry too if a link at its end is not followed.

**Proof sketch.** Induction on the links that may be followed. Between links both walks advance
alike, by `advance_place_of_target`; if the first stops at a link as its last step, the second has
arrived. -/
lemma walk_place_of_target {t : FileTree} {links : Nat} {here loc : Location}
    {steps suffix : List Text} {e : Entry} (hs : suffix = [] ∨ suffix = [Path.dot])
    (h : t.walk .target links here (steps ++ suffix) = .ok (.entry loc e)) :
    ∃ loc' e', t.walk .place links here steps = .ok (.entry loc' e') := by
  induction links generalizing here steps with
  | zero =>
    unfold walk at h ⊢
    obtain ⟨harr, -⟩ := @advance_place_of_target t here steps suffix hs
    cases ha : t.advance Aim.target.follows here (steps ++ suffix) with
    | arrived l =>
      have hp : t.advance Aim.place.follows here steps = .arrived l := harr l ha
      rw [ha] at h
      rw [hp]
      dsimp only at h ⊢
      split at h
      · next old hold => exact ⟨l, old, rfl⟩
      · cases h
    | vacant p n => simp [ha] at h
    | failed err => simp [ha] at h
    | link b g a => simp [ha] at h
  | succ links ih =>
    unfold walk at h
    obtain ⟨harr, hlink⟩ := @advance_place_of_target t here steps suffix hs
    cases ha : t.advance Aim.target.follows here (steps ++ suffix) with
    | arrived l =>
      have hp : t.advance Aim.place.follows here steps = .arrived l := harr l ha
      rw [ha] at h
      dsimp only at h
      split at h
      · next old hold =>
        refine ⟨l, old, ?_⟩
        unfold walk
        rw [hp]
        dsimp only
        rw [hold]
      · cases h
    | vacant p n => simp [ha] at h
    | failed err => simp [ha] at h
    | link b g a =>
      rw [ha] at h
      dsimp only at h
      rw [if_neg (by simp)] at h
      rcases hlink b g a ha with ⟨l, hp, hl⟩ | ⟨a', rfl, hp⟩
      · refine ⟨l, .link g, ?_⟩
        have hp' : t.advance Aim.place.follows here steps = .arrived l := hp
        unfold walk
        rw [hp']
        dsimp only
        rw [hl]
      · have hp' : t.advance Aim.place.follows here steps = .link b g a' := hp
        unfold walk
        rw [hp']
        dsimp only
        rw [if_neg (by simp)]
        rw [← List.append_assoc] at h
        exact ih h

end FileTree

namespace Disk

/-- A directory that is there is not made again, and the request does not fail for want of one
above it.

**Proof sketch.** A walk that finds an entry passes through the place where a directory would be
made, so this place is taken. It is found by the steps without the last slash. -/
lemma makeDirectory_of_find {d : Disk} {p : Path} {loc : Location} {e : Entry}
    (h : d.find p = .ok ⟨loc, e⟩) (mode : Nat) :
    d.makeDirectory mode p = .error .alreadyExists := by
  obtain ⟨hr, hw⟩ := walk_eq_tree_walk (lookUp_eq_ok_iff.mp h)
  have hplace : ∃ loc' e', d.walk .place p p.steps = .ok (.entry loc' e') := by
    unfold walk
    rw [hr]
    by_cases hslash : p.endsInSlash = true
    · rw [Path.lookupSteps, if_pos hslash] at hw
      exact FileTree.walk_place_of_target (.inr rfl) hw
    · rw [Path.lookupSteps, if_neg hslash, ← List.append_nil p.steps] at hw
      exact FileTree.walk_place_of_target (.inl rfl) hw
  obtain ⟨loc', e', hp⟩ := hplace
  unfold makeDirectory
  rw [hp]

end Disk

end ResolverMesh
