import ResolverMesh.Proofs.ActionRules
import ResolverMesh.Proofs.HostChanges

set_option autoImplicit false
set_option relaxedAutoImplicit false

/-!
# What daemons do to the root

A daemon that is started writes its pid to whatever path its configuration names, and that may
lead anywhere. Where it did not write another file of a network, the layout below the root is in
order still and what the networks hold has not changed. The pid file and the processes in turn
decide alone whether a network's daemon runs.

## Main definitions

* `ResolverMesh.Disk.Stands` — a walk that leads to a place has passed no file below the root.
* `ResolverMesh.Host.Holds` — the layout is in order, and what the networks hold.
* `ResolverMesh.Action.Serves` — an action leaves what the networks hold as it is.

## Main results

* `ResolverMesh.Disk.InOrder.write_anywhere` — a text written to any path.
* `ResolverMesh.Supervisor.serves_start`, `ResolverMesh.Supervisor.serves_stop`,
  `ResolverMesh.Supervisor.serves_hup`, `ResolverMesh.Supervisor.serves_restartIfRunning` — what
  the networks hold is not changed by their daemons.
* `ResolverMesh.Supervisor.stateOn_congr` — what decides whether a daemon runs.
-/

namespace ResolverMesh

/-! ## Writing to any path -/

namespace Disk

variable {d : Disk} {root : Path} {base : Location}

/-- A place is not below the directory `base`, or is the directory of a network in it. -/
def Stands (d : Disk) (base here : Location) : Prop :=
  ∀ rest, here = base ++ rest → rest ≠ [] → ∃ n, rest = [.text n] ∧ d.HasNetwork base n

/-- The top of the tree is not below the root's directory. -/
lemma stands_nil (d : Disk) (base : Location) : d.Stands base [] := by
  intro rest h hne
  simp only [List.nil_eq, List.append_eq_nil_iff] at h
  exact absurd h.2 hne

/-- One step up from such a place there is one.

**Proof sketch.** A stretch from one step up is a stretch from the place with its last name put
back, and at most one name long. -/
lemma Stands.dropLast {here : Location} (h : d.Stands base here) :
    d.Stands base here.dropLast := by
  intro rest hrest hne
  rcases List.eq_nil_or_concat here with rfl | ⟨init, x, rfl⟩
  · exact stands_nil d base rest hrest hne
  · rw [List.concat_eq_append, List.dropLast_concat] at hrest
    obtain ⟨n, hn, -⟩ := h (rest ++ [x]) (by rw [hrest]; simp) (by simp)
    -- the place itself is at most one name below the directory
    cases rest with
    | nil => exact absurd rfl hne
    | cons y ys => simp at hn

/-- A directory is such a place. -/
lemma Tidy.stands (h : d.Tidy base) {loc : Location} {id mode : Nat}
    (hd : d.tree.get? loc = some (.directory id mode)) : d.Stands base loc := by
  rintro rest rfl hne
  rcases h rest _ hd hne with ⟨n, rfl, -⟩ | ⟨n, f, rfl, ht, -⟩
  · exact ⟨n, rfl, id, mode, hd⟩
  · simp [Entry.text?] at ht

/-- A first stretch ends in a directory.

**Proof sketch.** Induction on the steps. A step down goes into a directory that is there, which in
a tidy root is a network's if it is below the root; a step up leaves fewer names below the root. A
vacant name and a link are met where the steps have led. -/
lemma Tidy.advance_stands (h : d.Tidy base) {follow : Bool} {here : Location} {steps : List Text}
    (hs : d.Stands base here) :
    (∀ parent name, d.tree.advance follow here steps = .vacant parent name →
        d.Stands base parent ∧ d.tree.get? (parent ++ [Name.text name]) = none) ∧
      ∀ b g r, d.tree.advance follow here steps = .link b g r → d.Stands base b := by
  induction steps generalizing here with
  | nil => simp [FileTree.advance]
  | cons s ss ih =>
    rw [FileTree.advance]
    split
    · exact ih hs
    · split
      · exact ih hs.dropLast
      · split
        · simp
        · cases he : d.tree.get? (here ++ [Name.text s]) with
          | none =>
            dsimp only
            split
            · refine ⟨fun parent name hv => ?_, by simp⟩
              cases hv
              exact ⟨hs, he⟩
            · simp
          | some e =>
            cases e with
            | directory id mode => exact ih (h.stands he)
            | file id x c =>
              dsimp only
              split <;> simp
            | link target =>
              dsimp only
              split
              · simp
              · refine ⟨by simp, fun b g r hl => ?_⟩
                cases hl
                exact hs

/-- A walk ends at an entry that is there, or at a free name in a directory.

**Proof sketch.** Induction on the links that may still be followed. Between two links the walk is
one stretch, by `Tidy.advance_stands`, and after a link it starts again at the top or where the
link is. -/
lemma Tidy.walk_stands (h : d.Tidy base) {aim : Aim} {links : Nat} {here : Location}
    {steps : List Text} (hs : d.Stands base here) :
    (∀ loc e, d.tree.walk aim links here steps = .ok (.entry loc e) →
        d.tree.get? loc = some e) ∧
      ∀ parent name, d.tree.walk aim links here steps = .ok (.vacant parent name) →
        d.Stands base parent ∧ d.tree.get? (parent ++ [Name.text name]) = none := by
  induction links generalizing here steps with
  | zero =>
    unfold FileTree.walk
    obtain ⟨hv, -⟩ := @h.advance_stands _ _ aim.follows here steps hs
    cases ha : d.tree.advance aim.follows here steps with
    | arrived l =>
      dsimp only
      split
      · next e he => simp_all
      · simp
    | vacant p n => simpa using hv p n ha
    | failed err => simp
    | link b g a => simp
  | succ links ih =>
    unfold FileTree.walk
    obtain ⟨hv, hl⟩ := @h.advance_stands _ _ aim.follows here steps hs
    cases ha : d.tree.advance aim.follows here steps with
    | arrived l =>
      dsimp only
      split
      · next e he => simp_all
      · simp
    | vacant p n => simpa using hv p n ha
    | failed err => simp
    | link b g a =>
      dsimp only
      split
      · split <;> simp
      · refine ih ?_
        split
        · exact stands_nil d base
        · exact hl b g a ha

/-- Where a free name in a directory can be, seen from the directory of the root.

**Proof sketch.** Below the root's directory, the directory of a free name is the root's or a
network's, by where it stands. In the first case the name may be free for a network, in the second
it is a file of one. -/
lemma InOrder.place_of_vacant (h : d.InOrder root base) {parent : Location} {name : Text}
    (hs : d.Stands base parent) (hfree : d.tree.get? (parent ++ [Name.text name]) = none) :
    ¬ base <+: parent ++ [Name.text name] ∨
      (∃ n, parent ++ [Name.text name] = base ++ [Name.text n] ∧ ¬ d.HasNetwork base n) ∨
      ∃ n f, parent ++ [Name.text name] = base ++ [Name.text n, .text f] ∧ d.HasNetwork base n := by
  by_cases hp : base <+: parent ++ [Name.text name]
  · right
    obtain ⟨rest, hrest⟩ := hp
    rcases List.eq_nil_or_concat rest with rfl | ⟨init, x, rfl⟩
    · obtain ⟨id, mode, hb⟩ := h.rooted.get?_base
      rw [List.append_nil] at hrest
      rw [← hrest, hb] at hfree
      cases hfree
    · rw [List.concat_eq_append, ← List.append_assoc] at hrest
      have hparent : base ++ init = parent := List.append_inj_left' hrest rfl
      have hx : x = .text name := by simpa using List.append_inj_right' hrest rfl
      subst hx
      cases init with
      | nil =>
        refine .inl ⟨name, by rw [← hparent, List.append_nil], ?_⟩
        rintro ⟨id, mode, hd⟩
        rw [List.append_nil] at hparent
        rw [hparent, hfree] at hd
        cases hd
      | cons y ys =>
        obtain ⟨n, hn, hnet⟩ := hs (y :: ys) hparent.symm (by simp)
        exact .inr ⟨n, name, by rw [← hparent, hn]; simp, hnet⟩
  · exact .inl hp

/-- Where a file can be, seen from the directory of the root.

**Proof sketch.** In a tidy root, what is below the root's directory is one name or two deep, and
the directory itself is no file. -/
lemma InOrder.place_of_file (h : d.InOrder root base) {loc : Location} {id : Nat} {x : Bool}
    {c : Content} (hf : d.tree.get? loc = some (.file id x c)) :
    ¬ base <+: loc ∨ (∃ n, loc = base ++ [Name.text n] ∧ ¬ d.HasNetwork base n) ∨
      ∃ n f, loc = base ++ [Name.text n, .text f] ∧ d.HasNetwork base n := by
  by_cases hp : base <+: loc
  · right
    obtain ⟨rest, rfl⟩ := hp
    by_cases hne : rest = []
    · obtain ⟨i, mode, hb⟩ := h.rooted.get?_base
      rw [hne, List.append_nil, hb] at hf
      cases hf
    · rcases h.tidy rest _ hf hne with ⟨n, rfl, -⟩ | ⟨n, f, rfl, -, hnet⟩
      · refine .inl ⟨n, rfl, ?_⟩
        rintro ⟨i, mode, hd⟩
        rw [hf] at hd
        cases hd
      · exact .inr ⟨n, f, rfl, hnet⟩
  · exact .inl hp

/-- A file that can be opened for writing is at the end of a walk. -/
lemma walk_of_openSpot {p : Path} {spot : Spot} (h : d.openSpot p = .ok spot) :
    d.walk .file p p.steps = .ok spot := by
  unfold openSpot at h
  split at h
  · cases hw : d.walk .target p p.parentSteps <;> simp [hw] at h
  · exact h

/-- **A text written to any path** goes to a place outside the directory of the root, beside the
networks, or into the directory of one.

**Proof sketch.** The walk starts at the top or in the current directory, which is not inside the
root. It ends at a free name or at a file, and for each of them the place is known. -/
theorem InOrder.write_anywhere (h : d.InOrder root base) {p : Path} {s : Text} {c : Change}
    (hw : d.writeText p s = .ok c) :
    (∃ id x, c.disk.tree = d.tree.put c.loc (.file id x (.text s)) ∧
        ∀ old, d.tree.get? c.loc = some old → Entry.Alike old (.file id x (.text s))) ∧
      c.disk.workDir = d.workDir ∧
      (¬ base <+: c.loc ∨ (∃ n, c.loc = base ++ [Name.text n] ∧ ¬ d.HasNetwork base n) ∨
        ∃ n f, c.loc = base ++ [Name.text n, .text f] ∧ d.HasNetwork base n) := by
  have hstart : d.Stands base (if p.isAbsolute then [] else d.workDir) := by
    split
    · exact stands_nil d base
    · rintro rest hrest hne
      exact absurd ⟨⟨rest, hrest.symm⟩, by simpa [hrest] using hne⟩ h.rooted.outside
  unfold writeText write at hw
  cases hopen : d.openSpot p with
  | error e => simp [hopen] at hw
  | ok spot =>
    rw [hopen] at hw
    obtain ⟨-, htree⟩ := walk_eq_tree_walk (walk_of_openSpot hopen)
    obtain ⟨hentry, hvacant⟩ := h.tidy.walk_stands hstart
    cases spot with
    | vacant parent name =>
      obtain ⟨hs, hfree⟩ := hvacant parent name htree
      cases hw
      refine ⟨⟨_, _, rfl, fun old hold => ?_⟩, rfl, h.place_of_vacant hs hfree⟩
      rw [hfree] at hold
      cases hold
    | entry loc e =>
      have he := hentry loc e htree
      cases e with
      | file id x content =>
        cases hw
        refine ⟨⟨_, _, rfl, fun old hold => ?_⟩, rfl, h.place_of_file he⟩
        rw [he] at hold
        cases hold
        rfl
      | directory id mode => cases hw
      | link target => cases hw

/-- A text written to any path leaves the layout in order. If it is not written over another file
of a network than a pid file, it does not show in what the networks hold. -/
lemma InOrder.of_write (h : d.InOrder root base) {p : Path} {s : Text} {c : Change}
    (hw : d.writeText p s = .ok c)
    (ht : ∀ n f, c.loc = base ++ [Name.text n, .text f] → f = pidName) :
    c.disk.InOrder root base ∧ c.disk.shelf base = d.shelf base := by
  obtain ⟨⟨id, x, htree, halike⟩, hdir, hout | ⟨n, hloc, hfree⟩ | ⟨n, f, hloc, hnet⟩⟩ :=
    h.write_anywhere hw
  · exact ⟨h.put_elsewhere hout halike htree hdir, shelf_put_elsewhere hout htree⟩
  · rw [hloc] at htree
    exact ⟨h.put_beside hfree htree hdir, shelf_put_beside hfree htree⟩
  · obtain rfl := ht n f hloc
    rw [hloc] at htree
    exact ⟨h.put_text hnet htree hdir, shelf_put_pid htree⟩

end Disk

/-! ## Daemons started and stopped -/

/-- The layout below the root is in order, and the networks hold `v`. -/
structure Host.Holds (root : Path) (base : Location) (v : Shelf) (h : Host) : Prop where
  /-- The layout is in order. -/
  inOrder : h.disk.InOrder root base
  /-- What the networks hold. -/
  shelf_eq : h.disk.shelf base = v

/-- An action leaves what the networks hold as it is, and if it fails then not because a domain
is claimed twice. -/
def Action.Serves {α : Type} (root : Path) (base : Location) (x : Action α) : Prop :=
  ∀ v, x.Meets base (Host.Holds root base v) (fun _ => Host.Holds root base v)
    (fun fault h => h.Holds root base v ∧ fault.isDomainCollision = false)

open ResolverMesh.Action

section Serves

variable {α β : Type} {root : Path} {base : Location}

/-- Whatever is said of what the networks hold stays so. -/
lemma Action.Serves.keeps {x : Action α} (hx : x.Serves root base) (P : Shelf → Prop) :
    x.Meets base (fun h => ∃ v, P v ∧ h.Holds root base v)
      (fun _ k => ∃ v, P v ∧ k.Holds root base v)
      (fun fault k => (∃ v, P v ∧ k.Holds root base v) ∧ fault.isDomainCollision = false) := by
  refine ⟨(hx .empty).records, ?_⟩
  rintro h ⟨v, hv, hh⟩ ht
  obtain ⟨hok, herr⟩ := (hx v).holds h hh ht
  exact ⟨fun a ha => ⟨v, hv, hok a ha⟩, fun fault hf => ⟨⟨v, hv, (herr fault hf).1⟩,
    (herr fault hf).2⟩⟩

/-- Two actions that serve, one after the other, serve. -/
lemma Action.Serves.bind {x : Action α} {f : α → Action β} (hx : x.Serves root base)
    (hf : ∀ a, (f a).Serves root base) : (x >>= f).Serves root base :=
  fun v => (hx v).bind fun a => hf a v

/-- A result alone serves. -/
lemma Action.serves_pure (a : α) : Serves root base (pure a) :=
  fun _ => .pure fun _ hh => hh

/-- A failure serves that is no collision of domains. -/
lemma Action.serves_throw {fault : Fault} (hf : fault.isDomainCollision = false) :
    Serves root base (throw fault : Action α) :=
  fun _ => .throw fun _ hh => ⟨hh, hf⟩

/-- A query that does not fail because a domain is claimed twice. -/
lemma Action.serves_ask {q : Query α}
    (hq : ∀ h fault, q h = .error fault → fault.isDomainCollision = false) :
    Serves root base (ask q) :=
  fun _ => .ask fun h hh => ⟨fun _ _ => hh, fun fault hf => ⟨hh, hq h fault hf⟩⟩

/-- An effect serves, whatever it is: the files are as before. -/
lemma Action.serves_record (e : Event) : Serves root base (record e) :=
  fun _ => .record fun _ hh => ⟨hh.inOrder, hh.shelf_eq⟩

/-- So does a line of the log. -/
lemma Action.serves_log (entry : LogEntry) : Serves root base (log entry) :=
  serves_record _

/-- An attempt goes on with a result, or with a fault that is not that of a domain claimed
twice. -/
lemma Action.Serves.attempt_bind {x : Action α} {f : Except Fault α → Action β}
    (hx : x.Serves root base) (hok : ∀ a, (f (.ok a)).Serves root base)
    (herr : ∀ fault, fault.isDomainCollision = false → (f (.error fault)).Serves root base)
    (hrec : ∀ r, (f r).Records) : (attempt x >>= f).Serves root base := by
  intro v
  refine (hx v).attempt.bind fun r => ?_
  cases r with
  | ok a => exact (hok a v).mono (fun h hh => hh.1 a rfl) (fun _ _ hq => hq) fun _ _ he => he
  | error fault =>
    refine ⟨hrec _, fun h hh ht => ?_⟩
    obtain ⟨hv, hf⟩ := hh.2 fault rfl
    exact (herr fault hf v).holds h hv ht

end Serves

/-- A host with the same disk holds the same. -/
lemma Host.Holds.of_disk {root : Path} {base : Location} {v : Shelf} {h k : Host}
    (hh : h.Holds root base v) (hd : k.disk = h.disk) : k.Holds root base v :=
  ⟨by rw [hd]; exact hh.inOrder, by rw [hd]; exact hh.shelf_eq⟩

/-- A signal changes nothing on the disk. -/
lemma Signal.disk_send (pid signal : Int) (h : Host) : (send pid signal h).2.disk = h.disk := by
  unfold send
  split
  · rfl
  · unfold deliver
    dsimp only
    split
    · rfl
    · split <;> rfl

/-- A signal is refused for the sake of its process.

**Proof sketch.** There are three reasons to refuse a signal, and none of them is about domains. -/
lemma Signal.fault_of_send {pid signal : Int} {h : Host} {fault : Fault}
    (hf : (send pid signal h).1 = .error fault) : fault.isDomainCollision = false := by
  unfold send at hf
  split at hf
  · next fault' hr =>
    cases hf
    unfold refusal at hr
    split at hr
    · cases hr
      rfl
    · split at hr
      · cases hr
        rfl
      · split at hr
        · cases hr
          rfl
        · cases hr
  · cases hf

section Serves

variable {root : Path} {base : Location}

/-- A signal serves, whether or not it is refused. -/
lemma Signal.serves_send (pid signal : Int) : (send pid signal).Serves root base :=
  fun _ => ⟨records_send pid signal, fun h hh _ =>
    ⟨fun _ _ => hh.of_disk (disk_send pid signal h),
      fun _ hf => ⟨hh.of_disk (disk_send pid signal h), fault_of_send hf⟩⟩⟩

/-- A daemon left behind has written its pid file and nothing else.

**Proof sketch.** Where no pid file is written, the host is as before. Where one is, the write is
recorded and hence tame, so that it is no file that the shelf tells of. -/
lemma Launch.serves_daemonize (command : List Text) (o : Outcome) (excuse : Excuse) :
    (daemonize command o excuse).Serves root base := by
  refine fun v => ⟨records_daemonize command o excuse, fun h hh ht => ?_⟩
  unfold daemonize at ht ⊢
  split
  · exact of_ok hh
  · next pidFile hpid =>
    rw [hpid] at ht
    dsimp only at ht
    split
    · exact of_ok hh
    · next c hw =>
      rw [hw] at ht
      dsimp only at ht ⊢
      have htame : Event.IsTame base (.pidWritten c.loc) := by
        refine ht _ ?_
        simp [Host.since, Host.record, Host.addProcess]
      obtain ⟨ho, hv⟩ := hh.inOrder.of_write hw htame
      exact of_ok ⟨ho, hv.trans hh.shelf_eq⟩

/-- A program that runs serves, whatever it comes to.

**Proof sketch.** A program that cannot be begun, or that ends by itself, leaves no process.
Otherwise the daemon is left behind once the program's run has been counted. -/
lemma Launch.serves_runProgram (command : List Text) :
    (runProgram command).Serves root base := by
  refine fun v => ⟨records_runProgram command, fun h hh ht => ?_⟩
  unfold runProgram at ht ⊢
  dsimp only at ht ⊢
  split
  · exact of_ok ⟨hh.inOrder, hh.shelf_eq⟩
  · exact of_ok ⟨hh.inOrder, hh.shelf_eq⟩
  · next excuse hend =>
    rw [hend] at ht
    dsimp only at ht
    -- the program's run is counted and noted before its daemon is left behind
    have hrec := records_daemonize command (h.programs (programName command)).next excuse
    refine (serves_daemonize command _ excuse v).holds _ ⟨hh.inOrder, hh.shelf_eq⟩ ?_
    exact ((Host.Tame.split (List.prefix_append _ _) (hrec _)).mp ht).2

/-- So does one that may not be found.

**Proof sketch.** A program that cannot be run fails with an I/O error. One that can is run as in
`Launch.serves_runProgram`. -/
lemma Launch.serves_run (program : Path) (args : List Text) :
    (run program args).Serves root base := by
  refine .bind (serves_record _) fun _ => ?_
  have hrest : Serves root base (do
      Action.ask (fun h => (findProgram h program (program.text :: args)).mapError Fault.io)
      runProgram (program.text :: args)) := by
    refine .bind (serves_ask fun h fault hf => ?_) fun _ => serves_runProgram _
    cases hp : findProgram h program (program.text :: args) with
    | ok _ => simp [hp, Except.mapError] at hf
    | error e =>
      simp only [hp, Except.mapError, Except.error.injEq] at hf
      rw [← hf]
      rfl
  dsimp only
  split
  · exact .bind (serves_throw rfl) fun _ => hrest
  · exact hrest

namespace Supervisor

variable (s : Supervisor)

/-- Starting a daemon serves. -/
lemma serves_start : s.start.Serves root base := by
  refine .bind (Launch.serves_run _ _) fun finished => ?_
  split
  · exact serves_log _
  · exact serves_throw rfl

/-- Stopping a daemon serves.

**Proof sketch.** Case by case on what the pid file holds. Only a pid is sent a signal, and then
the signal may be refused because the process is gone, which is no failure of the stop. -/
lemma serves_stop : s.stop.Serves root base := by
  refine .bind (serves_ask fun h fault hf => by cases hf) fun r => ?_
  cases r with
  | missing => exact serves_pure _
  | unreadable cause => exact serves_throw rfl
  | corrupt content => exact serves_log _
  | pid n =>
    refine .attempt_bind (Signal.serves_send _ _) (fun _ => serves_log _) (fun fault hf => ?_)
      fun sent => ?_
    · split
      · next heq => cases heq
      · exact serves_pure _
      · next heq =>
        cases heq
        exact serves_throw hf
    · split
      · exact records_log _
      · exact records_pure _
      · exact records_throw _

/-- Having a daemon read its files again serves.

**Proof sketch.** A daemon that does not run is started. One that runs is sent a signal, and
started if it has gone in between. -/
lemma serves_hup : s.hup.Serves root base := by
  refine .bind (serves_ask fun h fault hf => by cases hf) fun state => ?_
  cases state with
  | notRunning => exact s.serves_start
  | running n =>
    refine .attempt_bind (Signal.serves_send _ _) (fun _ => serves_pure _) (fun fault hf => ?_)
      fun sent => ?_
    · split
      · next heq => cases heq
      · exact s.serves_start
      · next heq =>
        cases heq
        exact serves_throw hf
    · split
      · exact records_pure _
      · exact s.records_start
      · exact records_throw _

/-- Restarting a daemon serves.

**Proof sketch.** By the state of the daemon, and by whether it outlives the signal, which is only
logged. -/
lemma serves_restartIfRunning : s.restartIfRunning.Serves root base := by
  refine .bind (serves_ask fun h fault hf => by cases hf) fun state => ?_
  cases state with
  | notRunning => exact serves_pure _
  | running n =>
    refine .bind s.serves_stop fun _ => .bind (serves_ask fun h fault hf => by cases hf) fun b => ?_
    dsimp only
    split
    · exact .bind (serves_log _) fun _ => s.serves_start
    · exact s.serves_start

end Supervisor

end Serves

/-! ## Whether a daemon runs -/

/-- What decides whether a process takes the probe. -/
lemma Signal.accepts_congr {h k : Host} (hp : k.processes = h.processes) (pid : Int) :
    accepts k pid = accepts h pid := by
  unfold accepts refusal Host.isAlive
  rw [hp]

section State

variable {root : Path} {base : Location} {n : Text} {s : Supervisor} {h k : Host}

open Disk

/-- Only networks have files. -/
lemma Disk.Tidy.fileText_eq_none {d : Disk} (ht : d.Tidy base) (hn : ¬ d.HasNetwork base n)
    (f : Text) : d.fileText base n f = none := by
  unfold fileText
  cases he : d.tree.get? (base ++ [Name.text n, .text f]) with
  | none => rfl
  | some e => exact absurd (ht.hasNetwork he).2 hn

/-- A network with a file that holds a text is there. -/
lemma Disk.Tidy.hasNetwork_of_fileText {d : Disk} {f t : Text} (ht : d.Tidy base)
    (h : d.fileText base n f = some t) : d.HasNetwork base n := by
  by_contra hno
  rw [ht.fileText_eq_none hno] at h
  cases h

/-- What a pid file tells of the state of its daemon. -/
def PidFile.stateOn (h : Host) : PidFile → ProcessState
  | .pid m => if Signal.accepts h m then .running m else .notRunning
  | _ => .notRunning

/-- **Whether a network's daemon runs** is decided by what its pid file holds, if the system takes
the path.

**Proof sketch.** Reading the pid file gives its text if the path is taken, and otherwise fails for
another reason than that the file is missing. Such a failure counts as a daemon that does not run.
-/
theorem Supervisor.stateOn_eq (ho : h.disk.InOrder root base)
    (hn : Settings.isNetworkName n = true) (hs : s.pidFile = root.fileOf n pidName) :
    s.stateOn h = if Admits (root.fileOf n pidName) n
      then ((h.disk.fileText base n pidName).elim .missing PidFile.ofText).stateOn h
      else .notRunning := by
  have hread : s.stateOn h = (PidFile.read h.disk s.pidFile).stateOn h := by
    unfold stateOn PidFile.stateOn
    rfl
  have hnone : ¬ h.disk.HasNetwork base n → h.disk.fileText base n pidName = none :=
    fun hnet => ho.tidy.fileText_eq_none hnet pidName
  rw [hread, hs]
  unfold PidFile.read
  rcases ho.readText_file hn isFileName_pidName with ⟨ha, hr⟩ | ⟨hno, e, he, hr⟩
  · rw [hr]
    cases ht : h.disk.fileText base n pidName with
    | none => by_cases ha : Admits (root.fileOf n pidName) n <;> simp [ha, PidFile.stateOn]
    | some t =>
      have hadm : Admits (root.fileOf n pidName) n := by
        refine ha.resolve_right fun hnet => ?_
        rw [hnone hnet] at ht
        cases ht
      rw [if_pos hadm]
      rfl
  · rw [hr]
    dsimp only
    rw [if_neg he]
    by_cases ha : Admits (root.fileOf n pidName) n
    · rw [if_pos ha, hnone fun hnet => hno ⟨ha, hnet⟩]
      rfl
    · rw [if_neg ha]
      rfl

/-- The daemon of a network that is not there does not run. -/
lemma Supervisor.stateOn_of_not_hasNetwork (ho : h.disk.InOrder root base)
    (hn : Settings.isNetworkName n = true) (hs : s.pidFile = root.fileOf n pidName)
    (hnet : ¬ h.disk.HasNetwork base n) : s.stateOn h = .notRunning := by
  rw [stateOn_eq ho hn hs, ho.tidy.fileText_eq_none hnet]
  split <;> rfl

/-- Changes to a network in which no daemon takes part do not decide whether its daemon runs. -/
lemma Supervisor.stateOn_congr (ho : h.disk.InOrder root base) (ko : k.disk.InOrder root base)
    (hn : Settings.isNetworkName n = true) (hs : s.pidFile = root.fileOf n pidName)
    (he : h.Edits base n k) : s.stateOn k = s.stateOn h := by
  rw [stateOn_eq ho hn hs, stateOn_eq ko hn hs, he.pid]
  unfold PidFile.stateOn
  simp only [Signal.accepts_congr he.processes]

end State

end ResolverMesh
