import ResolverMesh.Proofs.OperationEffects

set_option autoImplicit false
set_option relaxedAutoImplicit false

/-!
# Runs

A run starts with an empty root and goes on with pods added and deleted, in any order and with any
outcome, and with daemons killed from outside. What holds of the networks at first and is kept by
every move holds in every state between operations.

## Main definitions

* `ResolverMesh.Move`, `ResolverMesh.Mesh.play` — one move, and a run of them.
* `ResolverMesh.Mesh.Along` — something holds of every move of a run.
* `ResolverMesh.Mesh.StartsEmpty` — the root is empty, or is so once it is made.
* `ResolverMesh.Mesh.Stores` — what the networks hold between operations.
* `ResolverMesh.Move.Rewrites` — what a move leaves alone.

## Main results

* `ResolverMesh.Mesh.Along.keeps` — what every move keeps is kept by a run.
* `ResolverMesh.Mesh.play_keeps` — what no change of a host ends is kept by a run.
* `ResolverMesh.Mesh.Along.iff_of_step` — two statements that hold of the same runs.
* `ResolverMesh.Mesh.Stores.add_ok`, `ResolverMesh.Mesh.Stores.del_ok` — operations that succeed.
* `ResolverMesh.Mesh.Stores.step` — any move.
* `ResolverMesh.Mesh.Along.stores` — what holds of the networks after a run.
-/

namespace ResolverMesh

open ResolverMesh.Action Disk Propagation

/-! ## Moves and runs -/

/-- One move: a pod is added or deleted, or a daemon is killed from outside. -/
inductive Move
  /-- A pod is added. -/
  | add (a : Attachment)
  /-- A pod is deleted. -/
  | del (a : Attachment)
  /-- A daemon is killed from outside. -/
  | kill (pid : Nat)
  deriving DecidableEq, Repr

namespace Mesh

/-- A move made. -/
def perform (m : Mesh) : Move → Action Unit
  | .add a => do
    let _ ← m.add a
    return
  | .del a => m.del a
  | .kill pid => do
    let _ ← Setup.killDaemon pid
    return

/-- The host after a move. -/
def step (m : Mesh) (h : Host) (move : Move) : Host :=
  (m.perform move h).2

/-- The host after a run. -/
def play (m : Mesh) (h : Host) (moves : List Move) : Host :=
  moves.foldl m.step h

/-- Something holds of every move of a run, on the host that it is made on. -/
def Along (m : Mesh) (P : Host → Move → Prop) : Host → List Move → Prop
  | _, [] => True
  | h, move :: moves => P h move ∧ m.Along P (m.step h move) moves

instance (m : Mesh) (P : Host → Move → Prop) [∀ h move, Decidable (P h move)] (h : Host)
    (moves : List Move) : Decidable (m.Along P h moves) :=
  decideAlong m P h moves
where
  /-- Each move is looked at on its host. -/
  decideAlong (m : Mesh) (P : Host → Move → Prop) [∀ h move, Decidable (P h move)] :
      (h : Host) → (moves : List Move) → Decidable (m.Along P h moves)
    | _, [] => isTrue trivial
    | h, move :: moves =>
      have := decideAlong m P (m.step h move) moves
      inferInstanceAs (Decidable (P h move ∧ m.Along P (m.step h move) moves))

/-- **What every move keeps** is kept by a run. -/
theorem Along.keeps {m : Mesh} {P : Host → Move → Prop} {I : Host → Prop}
    (hstep : ∀ h move, I h → P h move → I (m.step h move)) {h : Host} {moves : List Move}
    (hrun : m.Along P h moves) (hi : I h) : I (m.play h moves) := by
  induction moves generalizing h with
  | nil => exact hi
  | cons move moves ih => exact ih hrun.2 (hstep h move hi hrun.1)

/-- What follows from an invariant holds of every move. -/
theorem Along.of_invariant {m : Mesh} {P Q : Host → Move → Prop} {I : Host → Prop}
    (hstep : ∀ h move, I h → P h move → I (m.step h move) ∧ Q h move) {h : Host}
    {moves : List Move} (hrun : m.Along P h moves) (hi : I h) : m.Along Q h moves := by
  induction moves generalizing h with
  | nil => trivial
  | cons move moves ih =>
    obtain ⟨hnext, hq⟩ := hstep h move hi hrun.1
    exact ⟨hq, ih hrun.2 hnext⟩

/-- Two statements hold of the same runs, where they hold of the same moves as long as an invariant
does, and a move of which they hold keeps the invariant.

**Proof sketch.** Induction over the run. Both statements hold of the first move or neither does,
and if they do, the invariant holds after it. -/
theorem Along.iff_of_step {m : Mesh} {P Q R : Host → Move → Prop} {I : Host → Prop}
    (hstep : ∀ h move, I h → P h move → (Q h move ↔ R h move) ∧ (Q h move → I (m.step h move)))
    {h : Host} {moves : List Move} (hrun : m.Along P h moves) (hi : I h) :
    m.Along Q h moves ↔ m.Along R h moves := by
  induction moves generalizing h with
  | nil => exact Iff.rfl
  | cons move moves ih =>
    obtain ⟨hiff, hnext⟩ := hstep h move hi hrun.1
    constructor
    · rintro ⟨hq, hthen⟩
      exact ⟨hiff.mp hq, (ih hrun.2 (hnext hq)).mp hthen⟩
    · rintro ⟨hr, hthen⟩
      exact ⟨hiff.mpr hr, (ih hrun.2 (hnext (hiff.mpr hr))).mpr hthen⟩

/-- A run of moves and then others. -/
lemma play_append (m : Mesh) (h : Host) (first rest : List Move) :
    m.play h (first ++ rest) = m.play (m.play h first) rest :=
  List.foldl_append ..

/-- What holds along a run of moves and then others. -/
lemma along_append {m : Mesh} {P : Host → Move → Prop} {h : Host} {first rest : List Move} :
    m.Along P h (first ++ rest) ↔ m.Along P h first ∧ m.Along P (m.play h first) rest := by
  induction first generalizing h with
  | nil => exact ⟨fun h => ⟨trivial, h⟩, fun h => h.2⟩
  | cons move first ih => exact (and_congr_right fun _ => ih).trans and_assoc.symm

/-- Adding a pod leaves the host that the operation leaves. -/
@[simp]
lemma step_add (m : Mesh) (h : Host) (a : Attachment) : m.step h (.add a) = (m.add a h).2 := by
  unfold step perform
  dsimp only
  rw [run_bind]
  rcases m.add a h with ⟨_ | _, k⟩ <;> rfl

/-- Adding a pod succeeds if it gives an answer. -/
lemma perform_add_eq_ok_iff {m : Mesh} {h : Host} {a : Attachment} :
    (m.perform (.add a) h).1 = .ok () ↔ ∃ servers, (m.add a h).1 = .ok servers := by
  unfold perform
  dsimp only
  rw [run_bind]
  rcases m.add a h with ⟨_ | _, k⟩ <;> simp

/-- So does deleting one. -/
@[simp]
lemma step_del (m : Mesh) (h : Host) (a : Attachment) : m.step h (.del a) = (m.del a h).2 := rfl

/-- A daemon killed from outside is sent a signal. -/
lemma step_kill (m : Mesh) (h : Host) (pid : Nat) :
    m.step h (.kill pid) = (Signal.send pid Signal.terminate h).2 := by
  unfold step perform Setup.killDaemon
  dsimp only
  rw [run_bind, run_bind, run_attempt]
  dsimp only
  cases (Signal.send pid Signal.terminate h).1 <;> rfl

/-- A daemon killed from outside changes nothing on the disk. -/
@[simp]
lemma disk_step_kill (m : Mesh) (h : Host) (pid : Nat) :
    (m.step h (.kill pid)).disk = h.disk := by
  rw [step_kill, Signal.disk_send]

/-- **A run** keeps a property that no change of the host ends.

**Proof sketch.** Induction on the moves, each of which keeps the property as the operation does
that it performs. -/
theorem play_keeps (m : Mesh) {P : Host → Prop} (hP : Host.Stable P)
    (hheld : ∀ h ids, P h → P { h with held := ids })
    (hcall : ∀ h call, P h → P (h.record (.chain call))) {h : Host} (hh : P h)
    (moves : List Move) : P (m.play h moves) := by
  induction moves generalizing h with
  | nil => exact hh
  | cons move moves ih =>
    refine ih ?_
    cases move with
    | add a =>
      rw [step_add]
      exact hP.keeps_add m a hheld hcall h hh
    | del a => exact hP.keeps_del m a hheld hcall h hh
    | kill pid =>
      rw [step_kill]
      exact hP.keeps_send _ _ h hh

/-! ## Empty roots -/

/-- The root is empty: no network is below it, and once it is made, which every operation does
first, it is in order and there is none still. -/
structure StartsEmpty (m : Mesh) (base : Location) (h : Host) : Prop where
  /-- There is no network. -/
  shelf_eq : h.disk.shelf base = .empty
  /-- The root can be made. -/
  opens : ∀ k, k.disk = h.disk → ∃ k',
    Files.makeDirectories LockGuard.rootMode m.settings.rootDir k = (.ok (), k') ∧
      k'.Holds m.settings.rootDir base .empty

/-- What the networks hold between operations. -/
def Stores (m : Mesh) (base : Location) (v : Shelf) (h : Host) : Prop :=
  h.Holds m.settings.rootDir base v ∨ v = .empty ∧ m.StartsEmpty base h

end Mesh

section Stores

variable {m : Mesh} {base : Location} {h k : Host} {v : Shelf} {n : Text}

/-- A root that is there is opened as it is. -/
lemma Host.Holds.opens {root : Path} (hh : h.Holds root base v) (mode : Nat) :
    Files.makeDirectories mode root h = (.ok (), h) := by
  obtain ⟨id, md, hf⟩ := hh.inOrder.rooted.find
  exact Files.makeDirectories_of_find hf mode

/-- A root that is there and holds no entries is empty. -/
lemma Mesh.StartsEmpty.of_holds (hh : h.Holds m.settings.rootDir base .empty) :
    m.StartsEmpty base h := by
  refine ⟨hh.shelf_eq, fun k hk => ⟨k, ?_, hh.of_disk hk⟩⟩
  exact (hh.of_disk hk).opens _

/-- A root that is there and holds no entries, as the entries of the disk show.

**Proof sketch.** An entry below the root would be one of the disk's, and those of the disk that
are not above the root are the root. So the root's directory has no layout to fail, and the shelf
is empty. -/
lemma Mesh.StartsEmpty.of_entries {id mode : Nat}
    (hf : (h.disk.above base).find m.settings.rootDir = .ok ⟨base, .directory id mode⟩)
    (hout : ¬ (base <+: h.disk.workDir ∧ h.disk.workDir ≠ base))
    (hnone : ∀ e ∈ h.disk.tree.entries, base <+: e.1.loc → e.1.loc = base) :
    m.StartsEmpty base h := by
  have hget : ∀ rest, rest ≠ [] → h.disk.tree.get? (base ++ rest) = none := by
    intro rest hrest
    cases he : h.disk.tree.get? (base ++ rest) with
    | none => rfl
    | some e =>
      obtain ⟨x, hx, hloc⟩ := FileTree.exists_of_get? he
      have hbase := hnone x hx (by rw [hloc]; exact List.prefix_append _ _)
      rw [hloc] at hbase
      exact absurd (List.append_right_eq_self.mp hbase) hrest
  refine .of_holds ⟨⟨⟨⟨id, mode, hf⟩, hout⟩, fun rest e he hrest => ?_⟩, ?_⟩
  · rw [hget rest hrest] at he
    cases he
  · ext n f x
    · simp [Disk.shelf, Shelf.empty, hget]
    · simp [Disk.shelf, Shelf.empty, hget]

namespace Mesh.Stores

/-- What is stored is what the disk holds. -/
lemma shelf_eq (hs : m.Stores base v h) : h.disk.shelf base = v := by
  rcases hs with hh | ⟨rfl, he⟩
  · exact hh.shelf_eq
  · exact he.shelf_eq

/-- It depends on the disk only. -/
lemma of_disk (hs : m.Stores base v h) (hd : k.disk = h.disk) : m.Stores base v k := by
  rcases hs with hh | ⟨rfl, he⟩
  · exact .inl (hh.of_disk hd)
  · refine .inr ⟨rfl, by rw [hd]; exact he.shelf_eq, fun l hl => he.opens l (hl.trans hd)⟩

/-- The networks that there are. -/
lemma hasNetwork_iff (hs : m.Stores base v h) :
    h.disk.HasNetwork base n ↔ v.isNetwork n = true := by
  rw [← isNetwork_shelf_iff, hs.shelf_eq]

/-- Only networks have files. -/
lemma text?_eq_none (hs : m.Stores base v h) (hn : v.isNetwork n = false) (f : Text) :
    v.text? n f = none := by
  rcases hs with hh | ⟨rfl, -⟩
  · rw [← hh.shelf_eq] at hn ⊢
    exact hh.inOrder.tidy.text?_eq_none hn f
  · rfl

/-- Where there is a network, the root is in order. -/
lemma holds (hs : m.Stores base v h) (hn : v.isNetwork n = true) :
    h.Holds m.settings.rootDir base v := by
  rcases hs with hh | ⟨rfl, -⟩
  · exact hh
  · cases hn

/-- An operation starts with the root in order. -/
lemma opens (hs : m.Stores base v h) : ∃ h₁,
    Files.makeDirectories LockGuard.rootMode m.settings.rootDir h = (.ok (), h₁) ∧
      h₁.Holds m.settings.rootDir base v ∧ (h.Holds m.settings.rootDir base v → h₁ = h) := by
  rcases hs with hh | ⟨rfl, he⟩
  · exact ⟨h, hh.opens _, hh, fun _ => rfl⟩
  · obtain ⟨h₁, hopen, hh⟩ := he.opens h rfl
    refine ⟨h₁, hopen, hh, fun hh' => ?_⟩
    have hsame := hh'.opens LockGuard.rootMode
    rw [hopen] at hsame
    exact congrArg Prod.snd hsame

end Mesh.Stores

/-! ## Operations between the states of a run -/

/-- Whether the daemon of a network runs. -/
def Mesh.stateOf (m : Mesh) (h : Host) (n : Text) : ProcessState :=
  (PidFile.read h.disk (m.settings.rootDir.fileOf n pidName)).stateOn h

/-- The daemon of a network that is there runs. -/
def Mesh.Runs (m : Mesh) (base : Location) (h : Host) (n : Text) : Prop :=
  h.disk.HasNetwork base n ∧ m.stateOf h n ≠ .notRunning

/-- A network's daemon is that of any instance of the network. -/
lemma Mesh.stateOf_eq {i : Instance} (hi : i.IsBelow m.settings.rootDir) (h : Host) :
    i.supervisor.stateOn h = m.stateOf h i.network := by
  unfold stateOf
  rw [← hi.pidFile]
  rfl

namespace Mesh.Stores

variable {a : Attachment}

/-- **A pod added.** The network is announced unless its daemon ran.

**Proof sketch.** The lock's root is there first, and with it the networks are the same. The
attachment is then told by `add_meets`, whose condition on the daemon is read at the host before:
if there is no such network, no pid file is read, so the daemon does not run in either way of
asking. -/
theorem add_ok (hs : m.Stores base v h) (ht : Host.Tame base h (m.add a h).2)
    {servers : List Text} (hok : (m.add a h).1 = .ok servers) :
    ∃ binary state v', v.Attached m.settings.rootDir (m.settings.instanceOf binary a) a state v' ∧
      (m.add a h).2.Holds m.settings.rootDir base v' ∧
      (state = .notRunning ↔ ¬ m.Runs base h a.network) := by
  obtain ⟨h₁, hopen, hh₁, hsame⟩ := hs.opens
  obtain ⟨binary, v', hi, hatt, hk⟩ := ((add_meets a hopen hh₁).holds h rfl ht).1 servers hok
  refine ⟨binary, _, v', hatt, hk, ?_⟩
  rcases m.resolve_eq a h with ⟨binary', hi', hb, -⟩ | ⟨fault, hf, -⟩
  · rw [hi] at hi'
    rw [← Except.ok.inj hi'] at hb
    -- before the root is made there is no network, and none of its daemons runs
    have hnone : ¬ h₁.disk.HasNetwork base a.network →
        (m.settings.instanceOf binary a).supervisor.stateOn h₁ = .notRunning :=
      fun hno => Supervisor.stateOn_of_not_hasNetwork hh₁.inOrder hb.name hb.pidFile hno
    have hnet : h₁.disk.HasNetwork base a.network ↔ h.disk.HasNetwork base a.network := by
      rw [hs.hasNetwork_iff, ← isNetwork_shelf_iff, hh₁.shelf_eq]
    unfold Runs
    by_cases hn : h.disk.HasNetwork base a.network
    · rw [hsame (hs.holds (hs.hasNetwork_iff.mp hn)), stateOf_eq hb]
      simp [hn, Settings.instanceOf]
    · rw [hnone (mt hnet.mp hn)]
      simp [hn]
  · rw [hi] at hf
    cases hf

/-- A pod that could not be added. -/
theorem add_error (hs : m.Stores base v h) (ht : Host.Tame base h (m.add a h).2) {fault : Fault}
    (hf : (m.add a h).1 = .error fault) :
    ∃ v', m.Stores base v' (m.add a h).2 ∧ v.Evolves v' a.network (· = a.ownText a.domain) := by
  obtain ⟨h₁, hopen, hh₁, -⟩ := hs.opens
  rcases ((add_meets a hopen hh₁).holds h rfl ht).2 fault hf with ⟨hk, -⟩ | ⟨binary, -, -, hfail⟩
  · exact ⟨v, by rw [hk]; exact hs, .refl v _ _⟩
  · obtain ⟨v', hev, hk⟩ := hfail.holds
    exact ⟨v', .inl hk, hev⟩

/-- **A pod whose domain another network claims.** The attachment was stopped before any sibling
was touched, and then undone.

**Proof sketch.** A failure that is a collision came from the attachment itself. Some network
claims the domain, so the root was there before and holds what it held. -/
theorem add_collision (hs : m.Stores base v h) (ht : Host.Tame base h (m.add a h).2)
    (hc : m.chain.KnowsNoDomains) {fault : Fault} (hf : (m.add a h).1 = .error fault)
    (hcol : fault.isDomainCollision = true) :
    h.Holds m.settings.rootDir base v ∧
      ∃ binary k₁, Settings.locate? h m.settings.binary = some binary ∧
        (m.settings.instanceOf binary a).IsBelow m.settings.rootDir ∧
        Collided m.settings.rootDir base v (m.settings.instanceOf binary a) a h k₁ ∧
        m.Undone a (m.settings.instanceOf binary a) k₁ (m.add a h).2 := by
  obtain ⟨h₁, hopen, hh₁, hsame⟩ := hs.opens
  rcases ((add_meets a hopen hh₁).holds h rfl ht).2 fault hf with
    ⟨-, hno⟩ | ⟨binary, hl, hb, hfail⟩
  · rw [hno] at hcol
    cases hcol
  · obtain ⟨k₁, hcollided, hundone⟩ := hfail.collision hc hcol
    obtain ⟨p, hp, -⟩ := hcollided.claimed
    have hh := hs.holds hp
    rw [hsame hh] at hcollided
    exact ⟨hh, binary, k₁, hl, hb, hcollided, hundone⟩

/-- **A pod deleted.** -/
theorem del_ok (hs : m.Stores base v h) (ht : Host.Tame base h (m.del a h).2)
    (hok : (m.del a h).1 = .ok ()) :
    ∃ binary v', v.Detached (m.settings.instanceOf binary a) a v' ∧
      (m.del a h).2.Holds m.settings.rootDir base v' := by
  obtain ⟨h₁, hopen, hh₁, -⟩ := hs.opens
  exact ((del_meets a hopen hh₁).holds h rfl ht).1 () hok

/-- A pod that could not be deleted. -/
theorem del_error (hs : m.Stores base v h) (ht : Host.Tame base h (m.del a h).2) {fault : Fault}
    (hf : (m.del a h).1 = .error fault) :
    ∃ v', m.Stores base v' (m.del a h).2 ∧ v.KeepsOwn v' := by
  obtain ⟨h₁, hopen, hh₁, -⟩ := hs.opens
  rcases ((del_meets a hopen hh₁).holds h rfl ht).2 fault hf with hk | ⟨v', hev, hk⟩
  · exact ⟨v, by rw [hk]; exact hs, .refl v⟩
  · exact ⟨v', .inl hk, hev⟩

/-- A daemon killed from outside. -/
lemma kill (hs : m.Stores base v h) (pid : Nat) : m.Stores base v (m.step h (.kill pid)) :=
  hs.of_disk (m.disk_step_kill h pid)

end Mesh.Stores

/-- What a move leaves alone: other networks stay, and their own forwarders. Only an attachment
writes those of its own network. -/
def Move.Rewrites (v v' : Shelf) : Move → Prop
  | .add a => v.Evolves v' a.network (· = a.ownText a.domain)
  | .del a => v.Evolves v' a.network (fun _ => False)
  | .kill _ => v' = v

/-- **Any move**, however it ends, leaves alone what other networks publish.

**Proof sketch.** Each kind of move has its own lemma for success and for failure. In all of them
the shelf evolves in the network of the move alone. -/
theorem Mesh.Stores.step (hs : m.Stores base v h) (move : Move)
    (ht : Host.Tame base h (m.step h move)) :
    ∃ v', m.Stores base v' (m.step h move) ∧ move.Rewrites v v' := by
  cases move with
  | add a =>
    rw [step_add] at ht ⊢
    cases hr : (m.add a h).1 with
    | ok servers =>
      obtain ⟨binary, state, v', hatt, hk, -⟩ := hs.add_ok ht hr
      exact ⟨v', .inl hk, hatt.evolves⟩
    | error fault => exact hs.add_error ht hr
  | del a =>
    rw [step_del] at ht ⊢
    cases hr : (m.del a h).1 with
    | ok u =>
      obtain ⟨binary, v', hdet, hk⟩ := hs.del_ok ht hr
      exact ⟨v', .inl hk, hdet.evolves _⟩
    | error fault =>
      obtain ⟨v', hs', hkeeps⟩ := hs.del_error ht hr
      exact ⟨v', hs', hkeeps.evolves _ _⟩
  | kill pid => exact ⟨v, hs.kill pid, rfl⟩

/-- **What holds of the networks after a run** from an empty root: what holds where there are none,
and is kept by every move. -/
theorem Mesh.Along.stores {P : Host → Move → Prop} {J : Shelf → Prop} {moves : List Move}
    (hrun : m.Along P h moves) (h₀ : m.StartsEmpty base h) (hempty : J .empty)
    (hstep : ∀ k v move, m.Stores base v k → J v → P k move →
      ∃ v', m.Stores base v' (m.step k move) ∧ J v') :
    ∃ v, m.Stores base v (m.play h moves) ∧ J v := by
  refine hrun.keeps (I := fun k => ∃ v, m.Stores base v k ∧ J v) ?_ ⟨_, .inr ⟨rfl, h₀⟩, hempty⟩
  rintro k move ⟨v, hs, hv⟩ hk
  exact hstep k v move hs hv hk

end Stores

/-! ## A small mesh -/

namespace Sample

/-- The mesh whose root is a directory at the top. -/
def mesh : Mesh :=
  ⟨⟨⟨"/root".toList⟩, "/bin/d".toList, "root".toList, .ofMillis 0⟩, .idle⟩

/-- The place of the root. -/
def base : Location := [.text "root".toList]

/-- A disk with an empty root and the daemon's program. -/
def disk : Disk where
  tree := (((Setup.boot [] [] 100).disk.tree.put base (.directory 5 0o755)).put
    [.text "bin".toList] (.directory 6 0o755)).put [.text "bin".toList, .text "d".toList]
      (.file 7 true .program)
  workDir := []
  nextId := 8

/-- A host with that disk. The runs of the daemon's program go as listed, the last one for all
that follow. -/
def host (outcomes : List Outcome) : Host :=
  { Setup.boot [] [] 100 with
    disk := disk
    programs := fun _ => .ofList outcomes }

/-- A run that leaves a daemon behind. -/
def daemon : Outcome := ⟨[], [], .daemonizes ⟨[], []⟩⟩

/-- A run that fails. -/
def failure : Outcome := ⟨[], [], .exit 1⟩

/-- The octets of an address. -/
def octets (a b c d : UInt8) : Vector UInt8 4 := #v[a, b, c, d]

/-- A pod in a network whose domain is known to the others. -/
def pod (network domain name : String) (octets : Vector UInt8 4) : Attachment where
  network := network.toList
  domain := domain.toList
  multiDomain := true
  podName := name.toList
  containerIps := [.v4 #v[10, 9, 0, 5]]
  nameservers := [.v4 octets]

/-- The sample host has an empty root. -/
lemma startsEmpty (outcomes : List Outcome) : mesh.StartsEmpty base (host outcomes) := by
  have hfind : (disk.above base).find mesh.settings.rootDir =
      .ok ⟨base, .directory 5 0o755⟩ := by decide +kernel
  have hnone : ∀ e ∈ disk.tree.entries, base <+: e.1.loc → e.1.loc = base := by decide +kernel
  have hout : ¬ (base <+: disk.workDir ∧ disk.workDir ≠ base) := by decide
  exact .of_entries hfind hout hnone

end Sample

end ResolverMesh
