import ResolverMesh.Proofs.OperationRequests

set_option autoImplicit false
set_option relaxedAutoImplicit false

/-!
# An announcement is planned before it is carried out

A network that announces its forwarders writes its own file, looks at its siblings, and only then
tells any of them. The look reads and changes nothing, so whatever ends it leaves the siblings, the
network's forwarders and all processes as they were. Siblings are looked at in dictionary order,
each in the same way: what it publishes is read, then searched for the domain, and then its
forwarders are read. The first of them at which this goes wrong decides the outcome.

The root may hold anything but links here. A file that is there may still be no file of text, and
it may lie at a path that the system does not take, since a path has a greatest length.

## Main definitions

* `ResolverMesh.Propagation.look`, `ResolverMesh.Propagation.carryOut` — what an announcement does
  once the network's own file is written.
* `ResolverMesh.Propagation.Blocked` — why a look can end early.
* `ResolverMesh.Propagation.FirstObstacle` — the first sibling in the way of an announcement.

## Main results

* `ResolverMesh.Propagation.publish_eq`, `ResolverMesh.Propagation.publish_outcome` — an
  announcement in its phases, and how it goes.
* `ResolverMesh.Propagation.publish_stops_at_first_obstacle` — the outcome where some sibling is in
  the way, and where none is.
-/

namespace ResolverMesh

open ResolverMesh.Action Disk

/-! ## Faults of a kind -/

/-- The fault is one of the system: a call failed, or a program did. -/
def Fault.isOfSystem : Fault → Bool
  | .io _ => true
  | .startFailure _ => true
  | _ => false

/-- An action that fails, fails for a reason of a kind. -/
def Action.FailsOnly {α : Type} (P : Fault → Prop) (x : Action α) : Prop :=
  ∀ h fault, (x h).1 = .error fault → P fault

/-- An action that fails, fails for another reason than a claimed domain. -/
def Action.KnowsNoDomains {α : Type} (x : Action α) : Prop :=
  ∀ h fault, (x h).1 = .error fault → fault.isDomainCollision = false

namespace Action

section FailsOnly

variable {α β : Type} {P Q : Fault → Prop}

/-- What an action fails for may be told less exactly. -/
lemma FailsOnly.mono {x : Action α} (hx : FailsOnly P x) (hPQ : ∀ fault, P fault → Q fault) :
    FailsOnly Q x :=
  fun h fault hr => hPQ fault (hx h fault hr)

/-- A failure fails for what it is. -/
lemma failsOnly_throw {fault : Fault} (hf : P fault) : FailsOnly P (throw fault : Action α) := by
  rintro h f hr
  cases hr
  exact hf

/-- A query that an action asks fails for what the query fails for. -/
lemma failsOnly_ask {q : Query α} (hq : ∀ h fault, q h = .error fault → P fault) :
    FailsOnly P (ask q) :=
  hq

/-- An action that does not fail. -/
lemma failsOnly_of_ok {x : Action α} (hx : ∀ h, ∃ a, (x h).1 = .ok a) : FailsOnly P x := by
  intro h fault hr
  obtain ⟨a, ha⟩ := hx h
  rw [ha] at hr
  cases hr

/-- Logging does not fail. -/
lemma failsOnly_log (entry : LogEntry) : FailsOnly P (log entry) :=
  failsOnly_of_ok fun _ => ⟨(), rfl⟩

/-- Two actions, one after the other, fail for what either fails for. -/
lemma FailsOnly.bind {x : Action α} {f : α → Action β} (hx : FailsOnly P x)
    (hf : ∀ a, FailsOnly P (f a)) : FailsOnly P (x >>= f) := by
  intro h fault hr
  rw [run_bind] at hr
  have hx' := hx h
  rcases hk : x h with ⟨fault' | a, k⟩ <;> rw [hk] at hr hx'
  · cases hr
    exact hx' fault rfl
  · exact hf a k fault hr

/-- A request to the disk fails for an I/O error. -/
lemma failsOnly_onDisk (hio : ∀ e, P (.io e)) (request : Disk → Except IoError Disk.Change)
    (event : Location → Event) : FailsOnly P (onDisk request event) := by
  intro h fault hr
  unfold onDisk at hr
  split at hr <;> cases hr
  exact hio _

end FailsOnly

end Action

/-- A program that is run fails for a reason of the system.

**Proof sketch.** Once it has begun, a run of a program comes to an end of some kind. Before that,
the program may not be found, which is an I/O error. -/
lemma Launch.failsOnly_run (program : Path) (args : List Text) :
    (run program args).FailsOnly (·.isOfSystem = true) := by
  have hfinished : (runProgram (program.text :: args)).FailsOnly (·.isOfSystem = true) := by
    refine failsOnly_of_ok fun h => ?_
    unfold runProgram
    dsimp only
    split
    · exact ⟨_, rfl⟩
    · exact ⟨_, rfl⟩
    · unfold daemonize
      split
      · exact ⟨_, rfl⟩
      · dsimp only
        split <;> exact ⟨_, rfl⟩
  have hfound : (do
      Action.ask (fun h => (findProgram h program (program.text :: args)).mapError Fault.io)
      runProgram (program.text :: args)).FailsOnly (·.isOfSystem = true) := by
    refine .bind (failsOnly_ask fun h fault hf => ?_) fun _ => hfinished
    cases hp : findProgram h program (program.text :: args) with
    | ok u =>
      rw [hp] at hf
      cases hf
    | error e =>
      rw [hp] at hf
      cases hf
      rfl
  unfold run
  refine .bind (failsOnly_of_ok fun _ => ⟨(), rfl⟩) fun _ => ?_
  dsimp only
  split
  · exact .bind (failsOnly_throw rfl) fun _ => hfound
  · exact hfound

namespace Supervisor

variable (s : Supervisor)

/-- Starting a daemon fails for a reason of the system. -/
lemma failsOnly_start : s.start.FailsOnly (·.isOfSystem = true) := by
  refine .bind (Launch.failsOnly_run _ _) fun finished => ?_
  split
  · exact failsOnly_log _
  · exact failsOnly_throw rfl

/-- A restart fails for a reason of the system. -/
lemma failsOnly_restartIfRunning : s.restartIfRunning.FailsOnly (·.isOfSystem = true) := by
  intro h fault hr
  cases hs : s.stateOn h with
  | notRunning =>
    rw [restartIfRunning_of_notRunning hs] at hr
    cases hr
  | running pid =>
    rw [restartIfRunning_of_running hs] at hr
    exact s.failsOnly_start _ fault hr

end Supervisor

/-- An update of a sibling fails for a reason of the system. -/
lemma SiblingUpdate.failsOnly_apply (u : SiblingUpdate) :
    u.apply.FailsOnly (·.isOfSystem = true) :=
  .bind (failsOnly_onDisk (fun _ => rfl) _ _) fun _ =>
    u.sibling.supervisor.failsOnly_restartIfRunning

/-! ## Files on a disk without links -/

/-- The system takes the path of a file of a network that has been written.

**Proof sketch.** The walk to the file either is that of a path that the system takes, or fails at
once. In the second case the write fails with it. -/
lemma Disk.Linkless.admits_of_write {root : Path} {base : Location} {h k : Host}
    (hl : h.disk.Linkless root base) {n f t : Text} (hn : Settings.isNetworkName n = true)
    (hf : IsFileName f) (hr : Files.write (root.fileOf n f) t h = (.ok (), k)) :
    Admits (root.fileOf n f) n := by
  obtain ⟨hsteps, habs, htext, hslash, -⟩ := hl.leads.path_file hn hf
  have hrest := hf.isStep_of_mem
  rcases hl.walk_names [f] hsteps habs htext hn hrest with ⟨ha, -⟩ | ⟨-, e, -, hwalk⟩
  · exact ha
  · unfold Files.write onDisk writeText write openSpot at hr
    dsimp only at hr
    rw [hslash] at hr
    simp only [Bool.false_eq_true, if_false] at hr
    rw [hwalk] at hr
    cases hr

/-- There are no links below a directory that a path leads to, as the entries of the disk show.

**Proof sketch.** What a walk meets are entries of the disk, and none of them is a link. -/
lemma Disk.Linkless.of_entries {d : Disk} {root : Path} {base : Location}
    (hfind : (d.find root).toOption.map Found.loc = some base ∧ d.isDirectory root = true)
    (hno : ∀ x ∈ d.tree.entries, x.2.isLink = false) : d.Linkless root base := by
  obtain ⟨hloc, hdir⟩ := hfind
  constructor
  · unfold isDirectory leadsTo at hdir
    rcases hf : d.find root with e | ⟨loc, entry⟩
    · simp [hf] at hdir
    · rw [hf] at hloc hdir
      obtain rfl : loc = base := Option.some.inj hloc
      cases entry with
      | directory id mode => exact ⟨id, mode, hf⟩
      | file id x c => cases hdir
      | link target => cases hdir
  · intro rest e he
    exact hno _ (FileTree.get?_eq_some_iff.mp he)

/-- The networks are among the entries of the root. -/
lemma Disk.HasNetwork.mem_of_children {d : Disk} {base : Location} {p : Text} {names : List Text}
    (hp : d.HasNetwork base p)
    (hall : ∀ x ∈ d.tree.children base, x.1 ∈ names.map Name.text) : p ∈ names := by
  obtain ⟨id, mode, hd⟩ := hp
  simpa using hall _ (FileTree.mem_children.mpr hd)

namespace Propagation

/-! ## The phases -/

/-- What an announcement looks at once the network's own file is written: the network's forwarders,
and the files of its siblings. -/
def look (s : Settings) (i : Instance) (own : List Text) : Action Survey := do
  let current ← Forwarders.readLines i.localServersFile
  let names ← s.siblings i.dir
  survey s i.domain own names ⟨current, []⟩

/-- What an announcement does once it has looked at the siblings: they are told, and the network's
forwarders are written. -/
def carryOut (i : Instance) (own : List Text) (found : Survey) : Action Unit := do
  applyAll found.updates
  Forwarders.writeLines i.localServersFile (Forwarders.remove found.known own).lines
  Action.log (.propagated i.network i.domain found.updates.length)

/-- **An announcement in its phases.** -/
lemma publish_eq (s : Settings) (i : Instance) (servers : List Text) :
    publish s i servers = (do
      Forwarders.writeLines i.ownServersFile (Forwarders.scopedLines i.domain servers)
      let found ← look s i (Forwarders.scopedLines i.domain servers)
      carryOut i (Forwarders.scopedLines i.domain servers) found) := by
  unfold publish look carryOut
  simp only [bind_assoc]

/-- The updates that an announcement plans. -/
def briefings (s : Settings) (w : Host) (v : Shelf) (own names : List Text) : List SiblingUpdate :=
  plan (siblingInstance s w) (fun n => Forwarders.merge (v.forwarders n) own) names

/-- Why a look can end early: the network's forwarders cannot be read, or a sibling is in the way,
or it has no instance. -/
def Blocked (s : Settings) (base : Location) (i : Instance) (names : List Text) (w : Host)
    (d : Disk) (fault : Fault) : Prop :=
  (∃ e, d.unreadable? s.rootDir base i.network localServersName = some e ∧ fault = .io e) ∨
    names.findSome? (obstacle? d s.rootDir base i.domain) = some fault ∨
    fault.isDomainCollision = false ∧ ∃ n ∈ names,
      Settings.isNetworkName n = false ∨ Settings.locate? w s.binary = none

section Phases

variable {s : Settings} {base : Location} {i : Instance} {h w : Host} {names own : List Text}

/-- What is in the way of a look at networks does not depend on the files of others.

**Proof sketch.** By the networks: the obstacle at one of them is read off its files alone. -/
lemma findSome?_obstacle?_congr {root : Path} {d d' : Disk} {domain : Text}
    (hsame : ∀ n ∈ names, ∀ f, d'.tree.get? (base ++ [Name.text n, .text f]) =
      d.tree.get? (base ++ [Name.text n, .text f])) :
    names.findSome? (obstacle? d' root base domain) =
      names.findSome? (obstacle? d root base domain) := by
  induction names with
  | nil => rfl
  | cons n names ih =>
    have hn := hsame n (by simp)
    have hobstacle : obstacle? d' root base domain n = obstacle? d root base domain n := by
      unfold obstacle? unreadable?
      rw [published_shelf, published_shelf, fileText, fileText, hn, hn]
    rw [List.findSome?_cons, List.findSome?_cons, hobstacle,
      ih fun m hm => hsame m (by simp [hm])]

/-- **A look** changes nothing. It ends early, or finds what is known and who lacks a line.

**Proof sketch.** What is known is read, the siblings are listed, and they are surveyed. None of
these writes. The first may fail at the network's own file, and the last is told by
`survey_outcome`. -/
lemma look_outcome (hl : w.disk.Linkless s.rootDir base) (hi : i.IsBelow s.rootDir)
    (hnet : w.disk.HasNetwork base i.network) (hnames : s.siblings i.dir w = .ok names)
    (hsib : Siblings (w.disk.shelf base) i.network names) (own : List Text) :
    (∃ fault, look s i own w = (.error fault, w) ∧ Blocked s base i names w w.disk fault) ∨
      ∃ known, look s i own w =
          (.ok ⟨known, briefings s w (w.disk.shelf base) own names⟩, w) ∧
        (∀ n ∈ names, Settings.isNetworkName n = true) ∧
        names.findSome? (obstacle? w.disk s.rootDir base i.domain) = none ∧
        Sighting s.rootDir (w.disk.shelf base) i.domain names
          ((w.disk.shelf base).forwarders i.network) known ∧
        Admits (s.rootDir.fileOf i.network localServersName) i.network := by
  unfold look
  rw [run_bind, run_lift, hi.localServersFile,
    Forwarders.readLines_eq hl hi.name isFileName_localServersName hnet, ← forwarders_shelf]
  cases hu : w.disk.unreadable? s.rootDir base i.network localServersName with
  | some e => exact .inl ⟨_, rfl, .inl ⟨e, hu, rfl⟩⟩
  | none =>
    dsimp only
    rw [run_bind, run_lift, hnames]
    dsimp only
    rw [run_lift]
    have hnets : ∀ n ∈ names, w.disk.HasNetwork base n := fun n hn =>
      isNetwork_shelf_iff.mp ((hsib.mem_iff n).mp hn).1
    rcases survey_outcome rfl hl i.domain own hnets ⟨(w.disk.shelf base).forwarders i.network, []⟩
      with ⟨⟨known, updates⟩, hfound, hproper, hfirst, hsight, hups⟩ | ⟨fault, hfault, hcause⟩
    · obtain rfl : updates = briefings s w (w.disk.shelf base) own names := hups
      rw [hfound]
      exact .inr ⟨known, rfl, hproper, hfirst, hsight, admits_of_unreadable? hu⟩
    · rw [hfault]
      exact .inl ⟨fault, rfl, .inr hcause⟩

/-- **How an announcement goes**: the network's own file is written, or nothing is done. Then the
siblings are looked at, and either the announcement ends there and nothing else has been done, or it
is carried out.

**Proof sketch.** The look reads the forwarders of the network and the files of its siblings, none
of which are written before it. What it finds is `look_outcome`, on the host with the network's own
file written. -/
theorem publish_outcome (hl : h.disk.Linkless s.rootDir base) (hi : i.IsBelow s.rootDir)
    {servers : List Text} (hown : Forwarders.scopedLines i.domain servers = own) :
    (∃ fault, Files.write i.ownServersFile (Forwarders.toText own) h = (.error fault, h) ∧
        publish s i servers h = (.error fault, h)) ∨
      ∃ w names, h.Wrote w (base ++ [Name.text i.network, .text ownServersName])
          (Forwarders.toText own) ∧ Siblings (h.disk.shelf base) i.network names ∧
        ((∃ fault, publish s i servers h = (.error fault, w) ∧
            Blocked s base i names w h.disk fault) ∨
          ∃ known, publish s i servers h =
              carryOut i own ⟨known, briefings s w (h.disk.shelf base) own names⟩ w ∧
            (∀ n ∈ names, Settings.isNetworkName n = true) ∧
            names.findSome? (obstacle? h.disk s.rootDir base i.domain) = none ∧
            Announced s.rootDir (h.disk.shelf base) i names known) := by
  rw [publish_eq, hown, run_bind]
  unfold Forwarders.writeLines
  have hwrite := hl.write_cases hi.name isFileName_ownServersName (Forwarders.toText own)
  rw [← hi.ownServersFile] at hwrite
  rcases hwrite with ⟨w, hr, hnet, hw⟩ | ⟨fault, hr⟩
  swap
  · rw [hr]
    exact .inl ⟨fault, rfl, rfl⟩
  have hl' : w.disk.Linkless s.rootDir base := Host.Filed.linkless hw hl
  have hadmits : Admits (s.rootDir.fileOf i.network ownServersName) i.network :=
    hl.admits_of_write hi.name isFileName_ownServersName (hi.ownServersFile ▸ hr)
  obtain ⟨-, -, -, hsame⟩ := Host.Filed.get? hw
  have hshelf : w.disk.shelf base =
      (h.disk.shelf base).write i.network ownServersName (Forwarders.toText own) :=
    hw.shelf (by decide)
  have hnet' := (Host.Filed.hasNetwork_iff hw).mpr hnet
  obtain ⟨names, hnames, hnd, hmem, hord⟩ := hl'.leads.siblings hi.name rfl
  have hsib : Siblings (w.disk.shelf base) i.network names :=
    ⟨hnd, fun n => by rw [hmem, isNetwork_shelf_iff], hord⟩
  have hlook := look_outcome hl' hi hnet' (by rw [hi.dir, hnames]) hsib own
  -- what the look reads is as it was before the network's own file was written
  have hunreadable : w.disk.unreadable? s.rootDir base i.network localServersName =
      h.disk.unreadable? s.rootDir base i.network localServersName := by
    unfold unreadable?
    rw [hsame _ (by simp; decide)]
  have hne : ∀ n ∈ names, n ≠ i.network := fun n hn => ((hmem n).mp hn).2
  have hobstacles := @findSome?_obstacle?_congr base names s.rootDir h.disk w.disk i.domain
    fun n hn f => hsame _ (by simp [hne n hn])
  unfold Blocked briefings at hlook
  rw [hshelf] at hlook hsib
  rw [hunreadable, hobstacles] at hlook
  simp only [forwarders_write_own] at hlook
  refine .inr ⟨w, names, hw, hsib.of_write, ?_⟩
  rw [hr]
  dsimp only
  rw [run_bind]
  rcases hlook with ⟨fault, hfault, hcause⟩ | ⟨known, hfound, hproper, hfirst, hsight, hadmits'⟩
  · rw [hfault]
    exact .inl ⟨fault, rfl, hcause⟩
  · rw [hfound]
    exact .inr ⟨known, rfl, hproper, hfirst, hsib.of_write, hsight.of_write hsib.not_mem,
      isNetwork_shelf_iff.mpr hnet, hadmits, hadmits'⟩

end Phases

/-- Carrying out an announcement fails for a reason of the system. -/
lemma failsOnly_carryOut (i : Instance) (own : List Text) (found : Survey) :
    (carryOut i own found).FailsOnly (·.isOfSystem = true) := by
  have happly : ∀ us : List SiblingUpdate, (applyAll us).FailsOnly (·.isOfSystem = true) := by
    intro us
    induction us with
    | nil => exact failsOnly_of_ok fun _ => ⟨(), rfl⟩
    | cons u us ih => exact .bind u.failsOnly_apply fun _ => ih
  exact .bind (happly _) fun _ => .bind (failsOnly_onDisk (fun _ => rfl) _ _) fun _ =>
    failsOnly_log _

/-- It does not fail for a claimed domain. -/
lemma knowsNoDomains_carryOut (i : Instance) (own : List Text) (found : Survey) :
    (carryOut i own found).KnowsNoDomains :=
  (failsOnly_carryOut i own found).mono fun fault hf => by cases fault <;> first | rfl | cases hf

/-! ## The first obstacle -/

/-- A sibling is in the way of an announcement, and none before it in dictionary order is. -/
structure FirstObstacle (root : Path) (base : Location) (d : Disk) (i : Instance) (p : Text)
    (fault : Fault) : Prop where
  /-- It is a network. -/
  hasNetwork : d.HasNetwork base p
  /-- It is another one. -/
  ne : p ≠ i.network
  /-- It is in the way. -/
  obstacle : obstacle? d root base i.domain p = some fault
  /-- No sibling before it is. -/
  first : ∀ q, d.HasNetwork base q → q ≠ i.network → q ≠ p → Text.le q p = true →
    obstacle? d root base i.domain q = none

section FirstObstacle

variable {s : Settings} {root : Path} {base : Location} {i : Instance} {h : Host}

/-- What a look at the siblings in order ends with is the first obstacle.

**Proof sketch.** The scan splits the siblings into those before the one with the obstacle, which
have none, and those behind it. A sibling that is not behind it in dictionary order is among the
former. -/
lemma firstObstacle_of_findSome? {d : Disk} {names : List Text} {fault : Fault}
    (hsib : Siblings (d.shelf base) i.network names)
    (hfirst : names.findSome? (obstacle? d root base i.domain) = some fault) :
    ∃ p, FirstObstacle root base d i p fault := by
  obtain ⟨before, p, after, rfl, hp, hnone⟩ := List.findSome?_eq_some_iff.mp hfirst
  obtain ⟨hnet, hne⟩ := (hsib.mem_iff p).mp (by simp)
  refine ⟨p, isNetwork_shelf_iff.mp hnet, hne, hp, fun q hq hqn hqp hle => ?_⟩
  have hmem := (hsib.mem_iff q).mpr ⟨isNetwork_shelf_iff.mpr hq, hqn⟩
  rcases List.mem_append.mp hmem with hmem | hmem
  · exact hnone q hmem
  · -- a sibling after it is not before it in dictionary order
    have hafter := (List.mem_cons.mp hmem).resolve_left hqp
    have hle' := (List.pairwise_cons.mp (List.pairwise_append.mp hsib.ordered).2.1).1 q hafter
    exact absurd (Text.le_antisymm hle hle') hqp

/-- **An announcement stops at the first obstacle**, and nothing is changed but the network's own
file. If there is none, it does not fail for a claimed domain.

**Proof sketch.** The network's own file has been written, so `publish_outcome` says that the look
is blocked or that the updates follow. It is not blocked at the own forwarders, and the search path
finds the program, so it is blocked by the first obstacle just if there is one; the list that it
went through is in order. -/
theorem publish_stops_at_first_obstacle {n domain : Text} {multi : Bool} {servers : List Text}
    (hl : h.disk.Linkless s.rootDir base)
    (hnames : ∀ p, h.disk.HasNetwork base p → Settings.isNetworkName p = true)
    (hi : s.resolve n domain multi h = .ok i)
    (hown : (Files.write i.ownServersFile (Forwarders.toText
      (Forwarders.scopedLines i.domain servers)) h).1 = .ok ())
    (hlocal : h.disk.unreadable? s.rootDir base i.network localServersName = none) :
    ((∃ p, h.disk.HasNetwork base p ∧ p ≠ i.network ∧
        (obstacle? h.disk s.rootDir base i.domain p).isSome = true) →
      ∃ p fault k, FirstObstacle s.rootDir base h.disk i p fault ∧
        publish s i servers h = (.error fault, k) ∧
        h.Wrote k (base ++ [Name.text i.network, .text ownServersName])
          (Forwarders.toText (Forwarders.scopedLines i.domain servers))) ∧
      ((∀ p, h.disk.HasNetwork base p → p ≠ i.network →
        obstacle? h.disk s.rootDir base i.domain p = none) →
        ∀ fault, (publish s i servers h).1 = .error fault → fault.isDomainCollision = false) := by
  obtain ⟨hbelow, -, hlocate⟩ := Settings.of_resolve_ok hi
  have hfound : (Settings.locate? h s.binary).isSome = true := by rw [hlocate, Option.isSome_some]
  rcases publish_outcome hl hbelow (@rfl _ (Forwarders.scopedLines i.domain servers)) with
    ⟨fault, hw, -⟩ | ⟨w, names, hw, hsib, ⟨fault, hr, hcause⟩ | ⟨known, hr, -, hnone, -⟩⟩
  · rw [hw] at hown
    cases hown
  · have hobstacle : names.findSome? (obstacle? h.disk s.rootDir base i.domain) = some fault := by
      rcases hcause with ⟨e, he, -⟩ | hobstacle | ⟨-, p, hp, hno | hno⟩
      · rw [hlocal] at he
        cases he
      · exact hobstacle
      · rw [hnames p (isNetwork_shelf_iff.mp ((hsib.mem_iff p).mp hp).1)] at hno
        cases hno
      · have hstill := Settings.locate?_of_edits (hw.edits (by decide)) hfound
        rw [hno] at hstill
        cases hstill
    obtain ⟨p, hp⟩ := firstObstacle_of_findSome? hsib hobstacle
    refine ⟨fun _ => ⟨p, fault, w, hp, hr, hw⟩, fun hnone => ?_⟩
    have hp' := hnone p hp.hasNetwork hp.ne
    rw [hp.obstacle] at hp'
    cases hp'
  · refine ⟨fun ⟨p, hp, hne, hobstacle⟩ => ?_, fun _ fault hf => ?_⟩
    · have hmem := (hsib.mem_iff p).mpr ⟨isNetwork_shelf_iff.mpr hp, hne⟩
      rw [List.findSome?_eq_none_iff.mp hnone p hmem] at hobstacle
      cases hobstacle
    · rw [hr] at hf
      exact knowsNoDomains_carryOut _ _ _ _ fault hf

end FirstObstacle

end Propagation

namespace Sample

/-- The sample disk with files of networks on it, each with the directory of its network. -/
def stock (files : List (Text × Text × Content)) : Disk :=
  files.foldl (fun d file =>
    { d with
      tree := (d.tree.put (base ++ [.text file.1]) (.directory 9 0o755)).put
        (base ++ [.text file.1, .text file.2.1]) (.file d.nextId false file.2.2)
      nextId := d.nextId + 1 }) { disk with nextId := 10 }

/-- A network, one that is no obstacle, one that claims the domain, and one whose file is no
text. -/
def contested : Host :=
  { host [] with disk := stock [
      ("a".toList, localServersName, .text []),
      ("b".toList, ownServersName, .text "server=/y/10.2.0.1\n".toList),
      ("c".toList, ownServersName, .text "server=/x/10.3.0.1\n".toList),
      ("d".toList, ownServersName, .binary [0xff])] }

/-- The announcing network. -/
def announcing : Instance :=
  ⟨"a".toList, "x".toList, true, ⟨"/root/a".toList⟩, ⟨"/bin/d".toList⟩, "root".toList⟩

end Sample

namespace Propagation

open Sample in
/-- The third of four networks claims the domain that the first one announces. The announcement
stops there.

**Proof sketch.** What the theorem asks of the sample host is computed at once. The names of its
networks are read off the entries of the root. -/
theorem publish_stops_at_first_obstacle_of_claimed :
    ∃ p fault k, FirstObstacle mesh.settings.rootDir base contested.disk announcing p fault ∧
      publish mesh.settings announcing ["10.1.0.1".toList] contested = (.error fault, k) ∧
      contested.Wrote k (base ++ [Name.text "a".toList, .text ownServersName])
        "server=/x/10.1.0.1\n".toList := by
  have hread : ((contested.disk.find mesh.settings.rootDir).toOption.map Found.loc = some base ∧
      contested.disk.isDirectory mesh.settings.rootDir = true) ∧
      (∀ x ∈ contested.disk.tree.entries, x.2.isLink = false) ∧
      (∀ x ∈ contested.disk.tree.children base,
        x.1 ∈ ["a".toList, "b".toList, "c".toList, "d".toList].map Name.text) ∧
      mesh.settings.resolve "a".toList "x".toList true contested = .ok announcing ∧
      (Files.write announcing.ownServersFile (Forwarders.toText
        (Forwarders.scopedLines "x".toList ["10.1.0.1".toList])) contested).1 = .ok () ∧
      contested.disk.unreadable? mesh.settings.rootDir base "a".toList localServersName = none ∧
      contested.disk.HasNetwork base "c".toList ∧
      (obstacle? contested.disk mesh.settings.rootDir base "x".toList
        "c".toList).isSome = true := by
    decide +kernel
  obtain ⟨hfind, hno, hall, hi, hown, hlocal, hnet, hobstacle⟩ := hread
  have hnames : ∀ p, contested.disk.HasNetwork base p → Settings.isNetworkName p = true := by
    intro p hp
    have hproper : ∀ q ∈ ["a".toList, "b".toList, "c".toList, "d".toList],
        Settings.isNetworkName q = true := by decide
    exact hproper p (hp.mem_of_children hall)
  exact (publish_stops_at_first_obstacle (.of_entries hfind hno) hnames hi hown hlocal).1
    ⟨"c".toList, hnet, by decide, hobstacle⟩

end Propagation

namespace Sample

/-- A path to the root that is so long that the system takes none to the files of a network with a
long name. -/
def farRoot : Path := ⟨(List.replicate 1998 "./".toList).flatten ++ "root".toList⟩

/-- A long name. -/
def longName : Text := List.replicate 100 'b'

/-- The announcing network below that root. -/
def farAnnouncing : Instance := { announcing with dir := farRoot.join "a".toList }

/-- A network with a long name, and one behind it that claims the domain. -/
def far : Host :=
  { host [] with disk := stock [
      ("a".toList, localServersName, .text []),
      (longName, ownServersName, .text "server=/y/10.2.0.1\n".toList),
      (longName, localServersName, .text []),
      ("c".toList, ownServersName, .text "server=/x/10.3.0.1\n".toList)] }

end Sample

namespace Propagation

open Sample in
/-- **A claimed domain is not reached** behind a network whose files hold good texts, but at paths
that the system does not take.

**Proof sketch.** The sample root is at a path so long that the files of the network with the long
name cannot be reached. The announcement stops at that network, and does not come to the one that
claims the domain. -/
theorem claimed_domain_behind_long_path : ¬ ∀ (s : Settings) (base : Location) (i : Instance)
    (servers : List Text) (h : Host) (p : Text), h.disk.Linkless s.rootDir base →
    s.resolve i.network i.domain i.multiDomain h = .ok i →
    (Files.write i.ownServersFile (Forwarders.toText
      (Forwarders.scopedLines i.domain servers)) h).1 = .ok () →
    (∃ t, Files.readIfThere i.localServersFile h = .ok t) →
    h.disk.HasNetwork base p → p ≠ i.network →
    Forwarders.claims ((h.disk.shelf base).published p) i.domain = true →
    (∀ q, h.disk.HasNetwork base q → q ≠ i.network → q ≠ p → Text.le q p = true →
      (∃ t, h.disk.fileText base q ownServersName = some t) ∧
      (∃ t, h.disk.fileText base q localServersName = some t) ∧
      Forwarders.claims ((h.disk.shelf base).published q) i.domain = false) →
    (publish s i servers h).1 = .error (.domainCollision i.domain p) := by
  intro hclaim
  have hread : ((far.disk.find farRoot).toOption.map Found.loc = some base ∧
      far.disk.isDirectory farRoot = true) ∧
      (∀ x ∈ far.disk.tree.entries, x.2.isLink = false) ∧
      (∀ x ∈ far.disk.tree.children base,
        x.1 ∈ ["a".toList, longName, "c".toList].map Name.text) ∧
      ({ mesh.settings with rootDir := farRoot } : Settings).resolve "a".toList "x".toList true
        far = .ok farAnnouncing ∧
      (Files.write farAnnouncing.ownServersFile (Forwarders.toText
        (Forwarders.scopedLines "x".toList ["10.1.0.1".toList])) far).1 = .ok () ∧
      Files.readIfThere farAnnouncing.localServersFile far = .ok (some []) ∧
      far.disk.HasNetwork base "c".toList ∧
      Forwarders.claims ((far.disk.shelf base).published "c".toList) "x".toList = true ∧
      far.disk.fileText base longName ownServersName = some "server=/y/10.2.0.1\n".toList ∧
      far.disk.fileText base longName localServersName = some [] ∧
      Forwarders.claims ((far.disk.shelf base).published longName) "x".toList = false ∧
      (publish { mesh.settings with rootDir := farRoot } farAnnouncing ["10.1.0.1".toList] far).1 =
        .error (.io .nameTooLong) := by
    decide +kernel
  obtain ⟨hfind, hno, hall, hi, hown, hlocal, hnet, hclaims, howntext, hlocaltext, hfree, hfault⟩ :=
    hread
  have hresult := hclaim { mesh.settings with rootDir := farRoot } base farAnnouncing
    ["10.1.0.1".toList] far "c".toList (.of_entries hfind hno) hi hown ⟨_, hlocal⟩ hnet (by decide)
    hclaims fun q hq hqa hqc _ => ?_
  · rw [hfault] at hresult
    cases hresult
  · have hmem := hq.mem_of_children hall
    rcases List.mem_cons.mp hmem with rfl | hmem
    · exact absurd rfl hqa
    rcases List.mem_cons.mp hmem with rfl | hmem
    · exact ⟨⟨_, howntext⟩, ⟨_, hlocaltext⟩, hfree⟩
    · exact absurd (List.mem_singleton.mp hmem) hqc

end Propagation

end ResolverMesh
