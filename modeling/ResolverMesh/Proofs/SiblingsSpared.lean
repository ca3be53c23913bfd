import ResolverMesh.Proofs.Runs

set_option autoImplicit false
set_option relaxedAutoImplicit false

/-!
# Siblings left alone

An attachment whose domain another network claims is undone by a detachment. As long as other pods
of its network are left, no sibling is touched by that. If not, the lines of the attachment are
withdrawn from all siblings, and a sibling that holds one of them, learnt from the network that
claims the domain rightly, loses it.

## Main definitions

* `ResolverMesh.Host.LeavesAlone` — a network's files, process and daemon are not touched.
* `ResolverMesh.Host.Loyal` — daemons wrote no files of networks but their own pid files.
* `ResolverMesh.Host.Spares` — a stretch of effects that leaves a network alone.
* `ResolverMesh.Shelf.Reaches` — a withdrawal comes to a sibling that has one of the lines.
* `ResolverMesh.Attachment.KeepsPods` — other pods of the network are left.

## Main results

* `ResolverMesh.Propagation.withdrawFrom_cases` — a withdrawal changes nothing, or it changes a
  sibling that held a line.
* `ResolverMesh.Mesh.Stores.leavesAlone_iff` — when a rejected attachment leaves the siblings alone.
* `ResolverMesh.siblings_left_alone_iff` — the same in every state of a run.
-/

namespace ResolverMesh

open ResolverMesh.Action Disk Propagation

/-! ## What is left alone -/

/-- A command runs the daemon's program with the configuration of a network. -/
def Launch.IsFor (root : Path) (n : Text) (command : List Text) : Prop :=
  command[3]? = some (configOption ++ (root.fileOf n configName).text)

namespace Host

/-- From one host to a later one, a network is left alone: all it holds is as it was, no process
that its pid file named was signalled, and its daemon was not run. -/
structure LeavesAlone (root : Path) (base : Location) (p : Text) (h k : Host) : Prop where
  /-- Its directory and its files are as they were. -/
  files : ∀ rest, k.disk.tree.get? (base ++ .text p :: rest) =
    h.disk.tree.get? (base ++ .text p :: rest)
  /-- The process that its pid file named was sent no signal. -/
  signals : ∀ pid, PidFile.read h.disk (root.fileOf p pidName) = .pid pid →
    ∀ signal, .signalled pid signal ∉ h.since k
  /-- Its daemon was not run. -/
  launches : ∀ command, .launched command ∈ h.since k → ¬ Launch.IsFor root p command

/-- From one host to a later one, daemons wrote no files of networks but pid files, and only those
of networks that they were run for. -/
def Loyal (root : Path) (base : Location) (h k : Host) : Prop :=
  ∀ n f, .pidWritten (base ++ [Name.text n, .text f]) ∈ h.since k →
    f = pidName ∧ ∃ command, .launched command ∈ h.since k ∧ Launch.IsFor root n command

/-- A stretch of effects that leaves a network alone, as long as no daemon writes its pid file:
nothing is signalled at all, and its daemon is not run. -/
structure Spares (root : Path) (base : Location) (p : Text) (h k : Host) : Prop where
  /-- The journal is only added to. -/
  journal : h.journal <+: k.journal
  /-- The files are as they were, unless a daemon has written one of them. -/
  files : (∀ f, .pidWritten (base ++ [Name.text p, .text f]) ∉ h.since k) → ∀ rest,
    k.disk.tree.get? (base ++ .text p :: rest) = h.disk.tree.get? (base ++ .text p :: rest)
  /-- Nothing was signalled. -/
  signals : ∀ pid signal, .signalled pid signal ∉ h.since k
  /-- The daemon was not run. -/
  launches : ∀ command, .launched command ∈ h.since k → ¬ Launch.IsFor root p command

section Spares

variable {root : Path} {base : Location} {n p : Text} {h k l : Host}

/-- Loyal daemons are tame. -/
lemma Loyal.tame (hl : Loyal root base h k) : Tame base h k := by
  rintro (_ | _ | _ | _ | _ | _ | _ | loc | _ | _) he <;> try trivial
  rintro n f rfl
  exact (hl n f he).1

/-- The effects after which a host has a longer journal. -/
lemma since_of_journal {es : List Event} (hj : k.journal = h.journal ++ es) : h.since k = es := by
  rw [since, hj, List.drop_left]

namespace Spares

/-- What spares a network in two stretches spares it over both.

**Proof sketch.** What happened in both stretches is what happened in the first and then in the
second. -/
lemma trans (h₁ : Spares root base p h k) (h₂ : Spares root base p k l) :
    Spares root base p h l := by
  have hsince := since_append h₁.journal h₂.journal
  refine ⟨h₁.journal.trans h₂.journal, fun hno rest => ?_, fun pid signal => ?_,
    fun command hc => ?_⟩
  · simp only [hsince, List.mem_append, not_or] at hno
    rw [h₂.files (fun f => (hno f).2) rest, h₁.files (fun f => (hno f).1) rest]
  · rw [hsince, List.mem_append]
    rintro (he | he)
    · exact h₁.signals pid signal he
    · exact h₂.signals pid signal he
  · rw [hsince, List.mem_append] at hc
    exact hc.elim (h₁.launches command) (h₂.launches command)

/-- Effects in which no daemon takes part, and after which the files are as they were. -/
lemma of_quiet {es : List Event} (hj : k.journal = h.journal ++ es)
    (hes : ∀ e ∈ es, e.isQuiet = true) (hfiles : ∀ rest,
      k.disk.tree.get? (base ++ .text p :: rest) = h.disk.tree.get? (base ++ .text p :: rest)) :
    Spares root base p h k := by
  have hsince := since_of_journal hj
  refine ⟨⟨es, hj.symm⟩, fun _ => hfiles, fun pid signal he => ?_, fun command he => ?_⟩ <;>
    rw [hsince] at he <;> cases hes _ he

/-- Nothing has touched the network. -/
lemma refl (h : Host) : Spares root base p h h :=
  .of_quiet (List.append_nil _).symm (by simp) fun _ => rfl

/-- A logged entry. -/
lemma log (h : Host) (entry : LogEntry) : Spares root base p h (h.record (.logged entry)) :=
  .of_quiet rfl (by simp [Event.isQuiet]) fun _ => rfl

/-- Changes to another network in which no daemon takes part. -/
lemma of_edits (he : Edits base n h k) (hp : p ≠ n) : Spares root base p h k := by
  obtain ⟨es, hj, hes⟩ := he.journal
  refine .of_quiet hj hes fun rest => he.elsewhere _ ?_
  simpa using Ne.symm hp

/-- One action after another. -/
lemma bind {α β : Type} {x : Action α} {f : α → Action β} (hx : Spares root base p h (x h).2)
    (hf : ∀ a k, x h = (.ok a, k) → Spares root base p k (f a k).2) :
    Spares root base p h ((x >>= f) h).2 := by
  rw [run_bind]
  rcases hr : x h with ⟨fault | a, k⟩
  · rw [hr] at hx
    exact hx
  · rw [hr] at hx
    exact hx.trans (hf a k hr)

/-- **A network that is spared** is left alone by loyal daemons, since its own was not run. -/
lemma leavesAlone (hs : Spares root base p h k) (hl : Loyal root base h k) :
    LeavesAlone root base p h k := by
  refine ⟨hs.files fun f he => ?_, fun pid _ signal => hs.signals pid signal, hs.launches⟩
  obtain ⟨-, command, hc, hfor⟩ := hl p f he
  exact hs.launches command hc hfor

end Spares

end Spares

end Host

/-! ## The daemon of another network -/

section Daemon

variable {root : Path} {base : Location} {n p : Text} {h k : Host} {i : Instance}

/-- A configuration is that of one network. -/
lemma Launch.IsFor.unique (ho : h.disk.Leads root base) {command : List Text}
    (hn : Settings.isNetworkName n = true) (hp : Settings.isNetworkName p = true)
    (hcn : Launch.IsFor root n command) (hcp : Launch.IsFor root p command) : p = n := by
  have htext : (root.fileOf p configName).text = (root.fileOf n configName).text :=
    List.append_cancel_left (Option.some.inj (hcp.symm.trans hcn))
  have hsteps : (root.fileOf p configName).steps = (root.fileOf n configName).steps := by
    unfold Path.steps
    rw [htext]
  rw [(ho.path_file hp isFileName_configName).1,
    (ho.path_file hn isFileName_configName).1] at hsteps
  simpa using List.append_cancel_left hsteps

/-- A daemon that is left behind writes one file.

**Proof sketch.** The pid file is written outside the root, beside the networks, or into a
network's directory. If it is a file of this network, the effect says so; and no other file of it
has changed. -/
lemma Launch.spares_daemonize (ho : h.disk.InOrder root base) (hp : h.disk.HasNetwork base p)
    (command : List Text) (o : Outcome) (excuse : Excuse) :
    h.Spares root base p (daemonize command o excuse h).2 := by
  unfold daemonize
  split
  · exact .refl h
  · split
    · exact .refl h
    · next c hw =>
      dsimp only
      obtain ⟨⟨id, x, htree, -⟩, -, hplace⟩ := ho.write_anywhere hw
      have hsince : h.since ((({ h with disk := c.disk }.addProcess).record
          (.daemonStarted h.nextPid)).record (.pidWritten c.loc)) =
            [.daemonStarted h.nextPid, .pidWritten c.loc] :=
        Host.since_of_journal (by simp [Host.record, Host.addProcess])
      refine ⟨(List.prefix_append _ _).trans (List.prefix_append _ _), fun hno rest => ?_, ?_, ?_⟩
      · rw [hsince] at hno
        change c.disk.tree.get? _ = _
        rw [htree, FileTree.get?_put, if_neg]
        -- the network's directory is no place for a file, and its files are other ones
        intro hloc
        rcases hplace with hout | ⟨m, hm, hfree⟩ | ⟨m, f, hm, -⟩
        · exact hout (hloc ▸ List.prefix_append _ _)
        · rw [hm] at hloc
          obtain ⟨hmp, -⟩ := List.cons.inj (List.append_cancel_left hloc)
          cases hmp
          exact hfree hp
        · rw [hm] at hloc
          obtain ⟨hmp, -⟩ := List.cons.inj (List.append_cancel_left hloc)
          cases hmp
          exact hno f (by simp [hm])
      · simp [hsince]
      · simp [hsince]

/-- A program is run for one network.

**Proof sketch.** The command is for another network, and it is the only one that is launched.
Running the program writes nothing until a daemon is left behind, which `Launch.spares_daemonize`
tells of. -/
lemma Launch.spares_run (ho : h.disk.InOrder root base) (hp : h.disk.HasNetwork base p)
    {program : Path} {args : List Text} (hc : ¬ Launch.IsFor root p (program.text :: args)) :
    h.Spares root base p (run program args h).2 := by
  have hlaunched : h.Spares root base p (h.record (.launched (program.text :: args))) := by
    have hsince : h.since (h.record (.launched (program.text :: args))) =
        [.launched (program.text :: args)] := Host.since_of_journal rfl
    refine ⟨List.prefix_append _ _, fun _ _ => rfl, ?_, fun command he => ?_⟩
    · simp [hsince]
    · simp only [hsince, List.mem_singleton, Event.launched.injEq] at he
      rw [he]
      exact hc
  have hrun : ∀ k : Host, k.disk = h.disk →
      k.Spares root base p (runProgram (program.text :: args) k).2 := by
    intro k hk
    have hbegan : ∀ programs, k.Spares root base p
        (({ k with programs := programs } : Host).record (.began (program.text :: args))) := by
      intro programs
      have hsince : k.since (({ k with programs := programs } : Host).record
          (.began (program.text :: args))) = [.began (program.text :: args)] :=
        Host.since_of_journal rfl
      exact ⟨List.prefix_append _ _, fun _ _ => rfl, by simp [hsince], by simp [hsince]⟩
    unfold runProgram
    dsimp only
    split
    · exact hbegan _
    · exact hbegan _
    · refine (hbegan _).trans (spares_daemonize ?_ ?_ _ _ _)
      · change k.disk.InOrder root base
        rw [hk]
        exact ho
      · change k.disk.HasNetwork base p
        rw [hk]
        exact hp
  unfold run
  refine .bind hlaunched fun _ k hk => ?_
  obtain ⟨-, rfl⟩ := Prod.ext_iff.mp hk
  dsimp only
  split
  · exact .bind (.refl _) fun _ k hk => by cases hk
  · refine .bind (.refl _) fun _ k hk => ?_
    obtain ⟨-, rfl⟩ := Prod.ext_iff.mp hk
    exact hrun _ rfl

/-- **The daemon of another network started.**

**Proof sketch.** The command names the configuration of its own network, and a path leads to one
file only. -/
theorem Supervisor.spares_start (ho : h.disk.InOrder root base) (hi : i.IsBelow root)
    (hp : h.disk.HasNetwork base p) (hne : p ≠ i.network) :
    h.Spares root base p (i.supervisor.start h).2 := by
  have hfor : Launch.IsFor root i.network (i.supervisor.binary.text :: i.supervisor.arguments) := by
    unfold Launch.IsFor
    rw [← hi.configFile]
    rfl
  unfold start
  refine .bind (Launch.spares_run ho hp fun hfor' => ?_) fun finished k _ => ?_
  · exact hne (hfor.unique ho.rooted.find hi.name (ho.tidy.isNetworkName hp) hfor')
  · split
    · exact .log k _
    · exact .refl k

/-- A daemon that does not run is started so that it reads its files. -/
lemma Supervisor.hup_of_notRunning {s : Supervisor} (hs : s.stateOn h = .notRunning) :
    s.hup h = s.start h := by
  unfold hup state
  rw [run_bind, run_lift, hs]

/-- A process that does not take the probe is sent no other signal.

**Proof sketch.** A refusal depends on the pid and on whether its process lives, not on the signal,
once the signal is one that there is. -/
lemma Signal.send_of_not_accepts {pid : Nat} (hpid : accepts h pid = false) (signal : Int) :
    ∃ fault, send pid signal h = (.error fault, h) := by
  unfold accepts refusal at hpid
  unfold send refusal
  split
  · next fault hf => exact ⟨fault, rfl⟩
  · next hnone =>
    split at hnone
    · cases hnone
    · next hpos =>
      split at hnone
      · cases hnone
      · next hlive =>
        rw [if_neg hpos, if_neg hlive] at hpid
        simp [probe, greatest] at hpid

/-- **A daemon that does not run** is stopped without a signal.

**Proof sketch.** Case by case on what the pid file holds: a pid in it takes no signal, as the
daemon does not run. -/
theorem Supervisor.spares_stop {s : Supervisor} (hs : s.stateOn h = .notRunning) :
    h.Spares root base p (s.stop h).2 ∧ (s.stop h).2.disk = h.disk := by
  unfold stop
  unfold stateOn at hs
  rw [run_bind, run_ask]
  dsimp only
  cases hr : PidFile.read h.disk s.pidFile with
  | missing => exact ⟨.refl h, rfl⟩
  | unreadable cause => exact ⟨.refl h, rfl⟩
  | corrupt content => exact ⟨.log h _, rfl⟩
  | pid n =>
    have hno : Signal.accepts h n = false := by
      rw [hr] at hs
      simpa using hs
    obtain ⟨fault, hsend⟩ := Signal.send_of_not_accepts hno Signal.terminate
    dsimp only
    rw [run_bind, run_attempt, hsend]
    cases fault <;> exact ⟨.refl h, rfl⟩

/-- The directory of another network removed.

**Proof sketch.** By what stands at the place of the directory. Only a directory is removed, and it
is another one. -/
lemma Files.spares_removeIfThere (ho : h.disk.InOrder root base) (hi : i.IsBelow root)
    (hne : p ≠ i.network) : h.Spares root base p (Files.removeIfThere i.dir h).2 := by
  rw [hi.dir]
  rcases ho.linkless.removeIfThere_network hi.name with ⟨-, hr⟩ | ⟨hr, -⟩ | ⟨e, hr⟩
  · rw [hr]
    refine .of_quiet rfl (by simp [Event.isQuiet]) fun rest => ?_
    change (h.disk.tree.removeAt _).get? _ = _
    rw [FileTree.get?_removeAt, if_neg]
    simpa using Ne.symm hne
  · rw [hr]
    exact .refl h
  · rw [hr]
    exact .refl h

end Daemon

/-! ## What a withdrawal changes -/

/-- A withdrawal of lines from the siblings of a network comes to a sibling that has one of them:
the forwarders of that sibling and of all before it can be read. -/
structure Shelf.Reaches (root : Path) (v : Shelf) (n : Text) (own : List Text) (p : Text) :
    Prop where
  /-- It is a network. -/
  isNetwork : v.isNetwork p = true
  /-- It is another one. -/
  ne : p ≠ n
  /-- It has one of the lines. -/
  line : ∃ l ∈ own, l ∈ v.forwarders p
  /-- The system takes the paths up to its own. -/
  admits : ∀ q ≠ n, v.isNetwork q = true → Text.le q p = true →
    Admits (root.fileOf q localServersName) q

/-- A sibling has lost lines that were withdrawn, whatever happened next. -/
def Shelf.Lost (root : Path) (base : Location) (v : Shelf) (own : List Text) (p : Text)
    (k : Host) : Prop :=
  ∃ v', v'.text? p localServersName =
    some (Forwarders.toText (Forwarders.remove (v.forwarders p) own).lines) ∧ k.Holds root base v'

section Withdraw

variable {root : Path} {base : Location} {s : Settings} {n p : Text} {h k : Host} {i : Instance}
  {v w : Shelf} {own names : List Text}

/-- What can be executed can be executed in a tree that has grown, too.

**Proof sketch.** The walk along the path survives the growth, and the file at its end is as
executable as before. -/
lemma Disk.isExecutable_of_grows {d d' : Disk} (hg : d.tree.Grows d'.tree)
    (hw : d'.workDir = d.workDir) {path : Path} (hx : d.isExecutable path = true) :
    d'.isExecutable path = true := by
  unfold isExecutable leadsTo at hx ⊢
  rcases hf : d.find path with e | ⟨loc, e⟩
  · simp [hf] at hx
  · obtain ⟨e', ha, hf'⟩ := find_of_grows d d' hg hw hf
    rw [hf] at hx
    rw [hf']
    cases e with
    | file id x c =>
      obtain ⟨id', c', rfl⟩ := ha.of_file
      exact hx
    | directory id mode => cases hx
    | link target => cases hx

/-- A program that is found is found in a tree that has grown, too. -/
lemma Settings.locate?_of_grows (hg : h.disk.tree.Grows k.disk.tree)
    (hw : k.disk.workDir = h.disk.workDir) (hp : k.searchPath = h.searchPath) {binary : Text}
    (hl : (locate? h binary).isSome = true) : (locate? k binary).isSome = true := by
  unfold locate? at hl ⊢
  rw [hp]
  exact h.searchPath.isSome_find? hw (fun _ => Disk.isExecutable_of_grows hg hw) hl

/-- A program that is found is found after changes to a network, too. -/
lemma Settings.locate?_of_edits (he : h.Edits base n k) {binary : Text}
    (hl : (locate? h binary).isSome = true) : (locate? k binary).isSome = true :=
  locate?_of_grows he.grows he.workDir he.searchPath hl

namespace Propagation

/-- A sibling whose file can be read and holds a line loses it.

**Proof sketch.** The sibling's file is read and written without the lines. What comes after that,
its restart and the withdrawal from the others, leaves this file as it is, whether it succeeds or
fails. -/
lemma withdrawFrom_lost (hs : s.rootDir = root) (hh : h.Holds root base v)
    (hl : (Settings.locate? h s.binary).isSome = true)
    (ha : Admits (root.fileOf p localServersName) p)
    (hc : (Forwarders.remove (v.forwarders p) own).changed = true)
    (hnames : ∀ m ∈ p :: names, v.isNetwork m = true) (hnd : (p :: names).Nodup) :
    (withdrawFrom s own (p :: names)).Meets base (· = h) (fun _ => v.Lost root base own p)
      (fun _ => v.Lost root base own p) := by
  obtain ⟨hp, hnd'⟩ := List.nodup_cons.mp hnd
  have hnet := hnames p (by simp)
  have hname := hh.isNetworkName hnet
  -- once the file is written, neither the sibling's daemon nor the other siblings concern it
  have hrest : ∀ u : Supervisor, Meets base
      (Host.Holds root base (v.write p localServersName
        (Forwarders.toText (Forwarders.remove (v.forwarders p) own).lines)))
      (do u.restartIfRunning; withdrawFrom s own names)
      (fun _ => v.Lost root base own p) (fun _ => v.Lost root base own p) := by
    intro u
    have hself := Shelf.text?_write_self v p localServersName
      (Forwarders.toText (Forwarders.remove (v.forwarders p) own).lines)
    have hnames' : ∀ m ∈ names, (v.write p localServersName
        (Forwarders.toText (Forwarders.remove (v.forwarders p) own).lines)).isNetwork m = true :=
      fun m hm => hnames m (by simp [hm])
    refine .bind ((u.serves_restartIfRunning _).mono (fun _ hk => hk) (fun _ _ hk => hk)
      fun _ k he => ⟨_, hself, he.1⟩) fun _ => ?_
    refine (withdrawFrom_meets hs own hnames' hnd').mono
      (fun _ hk => hk) (fun _ k hk => ⟨_, ?_, hk⟩) ?_
    · rw [Shelf.text?_revise_of_not_mem hp]
      exact hself
    · rintro fault k ⟨⟨done, hdone, hk⟩, -⟩
      refine ⟨_, ?_, hk⟩
      rw [Shelf.text?_revise_of_not_mem fun hm => hp (hdone.subset hm)]
      exact hself
  refine ⟨records_withdrawFrom s own _, ?_⟩
  rintro h rfl ht
  obtain ⟨i, hi, hb, hin⟩ := Settings.exists_resolve hl hname [] true
  rw [hs] at hb
  have hread : Forwarders.readLines i.localServersFile h = .ok (v.forwarders p) := by
    rw [hb.localServersFile, hin, hh.readLines_local_of_admits hnet ha]
  rw [withdrawFrom_cons_of_changed hi hread hc] at ht ⊢
  unfold SiblingUpdate.apply Forwarders.writeLines at ht ⊢
  dsimp only at ht ⊢
  rw [bind_assoc, run_bind, hb.localServersFile, hin] at ht ⊢
  rcases hh.write hname isFileName_localServersName (by decide)
      (Forwarders.toText (Forwarders.remove (v.forwarders p) own).lines) with
    ⟨k, hw, hk, he, -⟩ | ⟨hno, -⟩
  · rw [hw] at ht ⊢
    exact (hrest i.supervisor).after hk he.journal_prefix ht
  · exact absurd ⟨ha, hnet⟩ hno

/-- **A withdrawal** from networks in dictionary order changes nothing, or the first that has one
of the lines loses it.

**Proof sketch.** Induction on the names. If the head cannot be read, the withdrawal ends there,
and nothing was changed. If it has one of the lines, it is the first to lose it; if not, it is
passed over. -/
theorem withdrawFrom_cases (hs : s.rootDir = root) (hh : h.Holds root base v)
    (hl : (Settings.locate? h s.binary).isSome = true) (own : List Text)
    (hnames : ∀ m ∈ names, v.isNetwork m = true) (hnd : names.Nodup)
    (hord : names.Pairwise fun m p => Text.le m p = true) :
    ((withdrawFrom s own names h).2 = h ∧ ∀ p ∈ names,
        (Forwarders.remove (v.forwarders p) own).changed = true →
          ∃ q ∈ names, Text.le q p = true ∧ ¬ Admits (root.fileOf q localServersName) q) ∨
      ∃ p ∈ names, (Forwarders.remove (v.forwarders p) own).changed = true ∧
        (∀ q ∈ names, Text.le q p = true → Admits (root.fileOf q localServersName) q) ∧
        (withdrawFrom s own names).Meets base (· = h) (fun _ => v.Lost root base own p)
          (fun _ => v.Lost root base own p) := by
  induction names with
  | nil => exact .inl ⟨rfl, by simp⟩
  | cons n names ih =>
    have hnet := hnames n (by simp)
    obtain ⟨hle, hord'⟩ := List.pairwise_cons.mp hord
    obtain ⟨hn, hnd'⟩ := List.nodup_cons.mp hnd
    have hrest : ∀ m ∈ names, v.isNetwork m = true := fun m hm => hnames m (by simp [hm])
    have hle' : ∀ m ∈ n :: names, Text.le n m = true := by
      intro m hm
      rcases List.mem_cons.mp hm with rfl | hm
      · exact Text.le_refl m
      · exact hle m hm
    obtain ⟨i, hi, hb, hin⟩ := Settings.exists_resolve hl (hh.isNetworkName hnet) [] true
    rw [hs] at hb
    by_cases ha : Admits (root.fileOf n localServersName) n
    · by_cases hc : (Forwarders.remove (v.forwarders n) own).changed = true
      · refine .inr ⟨n, by simp, hc, fun q hq hqn => ?_, ?_⟩
        · rcases List.mem_cons.mp hq with rfl | hq
          · exact ha
          · exact absurd (Text.le_antisymm (hle q hq) hqn ▸ hq) hn
        · exact withdrawFrom_lost hs hh hl ha hc hnames hnd
      · -- nothing is done here, and the withdrawal goes on with the others
        have hread : Forwarders.readLines i.localServersFile h = .ok (v.forwarders n) := by
          rw [hb.localServersFile, hin, hh.readLines_local_of_admits hnet ha]
        have hskip : withdrawFrom s own (n :: names) h = withdrawFrom s own names h :=
          withdrawFrom_cons_of_unchanged hi hread hc
        rcases ih hrest hnd' hord' with ⟨hsame, hnone⟩ | ⟨p, hp, hcp, hadm, hlost⟩
        · refine .inl ⟨hskip ▸ hsame, fun p hp hcp => ?_⟩
          rcases List.mem_cons.mp hp with rfl | hp
          · exact absurd hcp hc
          · obtain ⟨q, hq, hqp, hno⟩ := hnone p hp hcp
            exact ⟨q, by simp [hq], hqp, hno⟩
        · refine .inr ⟨p, by simp [hp], hcp, fun q hq hqp => ?_, records_withdrawFrom _ _ _, ?_⟩
          · rcases List.mem_cons.mp hq with rfl | hq
            · exact ha
            · exact hadm q hq hqp
          · rintro h rfl ht
            rw [hskip] at ht ⊢
            exact hlost.holds h rfl ht
    · refine .inl ⟨?_, fun p hp _ => ⟨n, by simp, hle' p hp, ha⟩⟩
      rcases hh.readLines_local hnet with ⟨ha', -⟩ | ⟨e, hr⟩
      · exact absurd ha' ha
      · rw [← hin, ← hb.localServersFile] at hr
        rw [withdrawFrom_cons_of_not_read hi hr]

end Propagation

variable {m : Mesh} {a : Attachment}

/-- What is done to a network itself when it is taken down, its daemon not running, leaves the
others alone. -/
lemma Instance.spares_removed (ho : h.disk.InOrder root base) (hi : i.IsBelow root)
    (hstate : i.supervisor.stateOn h = .notRunning) (hp : p ≠ i.network) :
    h.Spares root base p (i.demolish h).2 := by
  have hstop := @Supervisor.spares_stop root base p h i.supervisor hstate
  refine .bind hstop.1 fun _ k hk => ?_
  rw [hk] at hstop
  have ho' : k.disk.InOrder root base := by
    rw [hstop.2]
    exact ho
  exact .bind (Files.spares_removeIfThere ho' hi hp) fun _ l _ => .log l _

/-- It does not concern what another one has lost.

**Proof sketch.** The daemon's stop leaves all files, and the directory that is removed is that of
another network. -/
lemma Instance.lost_removed (hi : i.IsBelow root) (hp : p ≠ i.network) :
    Meets base (v.Lost root base own p) i.demolish
      (fun _ => v.Lost root base own p) (fun _ => v.Lost root base own p) := by
  refine .bind ((i.supervisor.serves_stop.keeps _).mono (fun _ hk => hk) (fun _ _ hk => hk)
    fun _ _ he => he.1) fun _ => .bind (Q := fun _ => v.Lost root base own p) ?_ fun _ => ?_
  · refine ⟨Files.records_removeIfThere _, ?_⟩
    rintro k ⟨w, hw, hk⟩ ht
    obtain ⟨hok, herr⟩ := (Files.removeIfThere_meets hi).holds k hk ht
    refine ⟨fun u hu => ⟨_, ?_, hok u hu⟩, fun fault hf => ⟨w, hw, herr fault hf⟩⟩
    rw [Shelf.text?_removeNetwork_of_ne hp]
    exact hw
  · exact .log fun k ⟨w, hw, hk⟩ => ⟨w, hw, hk.of_disk rfl⟩

/-- A network that is announced is taken down once its lines are withdrawn. -/
lemma Mesh.tearDown_eq (hmulti : i.multiDomain = true)
    (hnames : m.settings.siblings i.dir h = .ok names) :
    m.tearDown i a h = (do
      withdrawFrom m.settings (Forwarders.scopedLines i.domain a.servers) names
      Action.log (.withdrew i.network i.domain)
      i.demolish : Action Unit) h := by
  rw [tearDown_eq_demolish, if_pos hmulti]
  unfold Propagation.withdraw
  simp only [bind_assoc]
  rw [run_bind, run_lift, hnames]

/-- **A network taken down** without its daemon leaves all others alone, or one that has a line of
the attachment loses it.

**Proof sketch.** The withdrawal changes nothing, or a first sibling loses a line, by
`withdrawFrom_cases`. In the first case the rest is about the network's own daemon, which does not
run, and its directory. -/
theorem Mesh.tearDown_cases (hs : m.settings.rootDir = root) (hi : i.IsBelow root)
    (hh : h.Holds root base v) (hl : (Settings.locate? h m.settings.binary).isSome = true)
    (hmulti : i.multiDomain = true) (hstate : i.supervisor.stateOn h = .notRunning) :
    ((∀ p, ¬ v.Reaches root i.network (Forwarders.scopedLines i.domain a.servers) p) ∧
        ∀ p ≠ i.network, h.Spares root base p (m.tearDown i a h).2) ∨
      ∃ p, v.Reaches root i.network (Forwarders.scopedLines i.domain a.servers) p ∧
        (m.tearDown i a).Meets base (· = h)
          (fun _ => v.Lost root base (Forwarders.scopedLines i.domain a.servers) p)
          (fun _ => v.Lost root base (Forwarders.scopedLines i.domain a.servers) p) := by
  obtain ⟨names, hnames, hsib⟩ := exists_siblings hs hh hi.name
  rw [← hi.dir] at hnames
  have hdown := m.tearDown_eq (a := a) hmulti hnames
  generalize Forwarders.scopedLines i.domain a.servers = own at hdown ⊢
  rcases withdrawFrom_cases hs hh hl own (fun q hq => ((hsib.mem_iff q).mp hq).1) hsib.nodup
      hsib.ordered with ⟨hsame, hnone⟩ | ⟨p, hp, hc, hadm, hlost⟩
  · refine .inl ⟨fun p hreach => ?_, fun p hne => ?_⟩
    · have hp := (hsib.mem_iff p).mpr ⟨hreach.isNetwork, hreach.ne⟩
      obtain ⟨q, hq, hqp, hno⟩ := hnone p hp (Forwarders.changed_remove_iff.mpr hreach.line)
      obtain ⟨hqnet, hqn⟩ := (hsib.mem_iff q).mp hq
      exact hno (hreach.admits q hqn hqnet hqp)
    · rw [hdown]
      refine .bind (by rw [hsame]; exact .refl h) fun _ k hk => ?_
      obtain rfl : k = h := by rw [← hsame, hk]
      refine .bind (.log k _) fun _ l hlog => ?_
      obtain ⟨-, rfl⟩ := Prod.ext_iff.mp hlog
      exact Instance.spares_removed hh.inOrder hi hstate hne
  · obtain ⟨hpnet, hpn⟩ := (hsib.mem_iff p).mp hp
    have hreach : v.Reaches root i.network own p :=
      ⟨hpnet, hpn, Forwarders.changed_remove_iff.mp hc, fun q hqn hqnet hqp =>
        hadm q ((hsib.mem_iff q).mpr ⟨hqnet, hqn⟩) hqp⟩
    have hlog : Meets base (v.Lost root base own p) (Action.log (.withdrew i.network i.domain))
        (fun _ => v.Lost root base own p) (fun _ => v.Lost root base own p) :=
      .log fun k ⟨w, hw, hk⟩ => ⟨w, hw, hk.of_disk rfl⟩
    have hthen := hlost.bind fun _ => hlog.bind fun _ => Instance.lost_removed hi hpn
    refine .inr ⟨p, hreach, m.records_tearDown i a, ?_⟩
    rintro h rfl ht
    rw [hdown] at ht ⊢
    exact hthen.holds h rfl ht

/-- The forwarders of another network are not edited. -/
lemma Host.Edits.forwarders_of_ne (he : h.Edits base n k) (hp : p ≠ n) :
    (k.disk.shelf base).forwarders p = (h.disk.shelf base).forwarders p := by
  unfold Shelf.forwarders
  rw [he.text?_of_ne hp]

/-- Nor is it decided by the edited network what a withdrawal comes to.

**Proof sketch.** An edit of one network changes neither which other networks there are nor what
they forward to. -/
lemma Host.Edits.reaches_iff (he : h.Edits base n k) :
    (k.disk.shelf base).Reaches root n own p ↔ (h.disk.shelf base).Reaches root n own p := by
  constructor
  · rintro ⟨hnet, hp, hline, hadm⟩
    rw [he.isNetwork_of_ne hp] at hnet
    rw [he.forwarders_of_ne hp] at hline
    refine ⟨hnet, hp, hline, fun q hq hqnet => hadm q hq ?_⟩
    rw [he.isNetwork_of_ne hq]
    exact hqnet
  · rintro ⟨hnet, hp, hline, hadm⟩
    rw [← he.isNetwork_of_ne hp] at hnet
    rw [← he.forwarders_of_ne hp] at hline
    refine ⟨hnet, hp, hline, fun q hq hqnet => hadm q hq ?_⟩
    rw [← he.isNetwork_of_ne hq]
    exact hqnet

/-- **A pod taken out** of a network whose daemon does not run leaves all others alone, or one that
has a line of the attachment loses it. The latter needs that no pod is left.

**Proof sketch.** Taking the pod out edits the network alone, so whether its daemon runs is as
before. If pods are left, it is started, which spares the others; if not, `Mesh.tearDown_cases`
applies. -/
theorem Mesh.cleanUp_cases {t : Text} (hs : m.settings.rootDir = root) (hi : i.IsBelow root)
    (hh : h.Holds root base v) (hl : (Settings.locate? h m.settings.binary).isSome = true)
    (hmulti : i.multiDomain = true) (hstate : i.supervisor.stateOn h = .notRunning)
    (ha : Admits (root.fileOf i.network hostsName) i.network)
    (hnet : v.isNetwork i.network = true) (hhosts : v.text? i.network hostsName = some t) :
    ((HostsFile.without a.podName t ≠ [] ∨
          ∀ p, ¬ v.Reaches root i.network (Forwarders.scopedLines i.domain a.servers) p) ∧
        ∀ p ≠ i.network, v.isNetwork p = true → h.Spares root base p (m.cleanUp i a h).2) ∨
      HostsFile.without a.podName t = [] ∧
        ∃ p, v.Reaches root i.network (Forwarders.scopedLines i.domain a.servers) p ∧
          (m.cleanUp i a).Meets base (· = h)
            (fun _ => v.Lost root base (Forwarders.scopedLines i.domain a.servers) p)
            (fun _ => v.Lost root base (Forwarders.scopedLines i.domain a.servers) p) := by
  rcases (m.takeOut_ends hi a hh).cases with ⟨left, k, hr, w, hout, he⟩ | ⟨fault, k, -, -, hno⟩
  · have hleft : left = !(HostsFile.without a.podName t).isEmpty := by
      rcases hout with ⟨hnone, -⟩ | ⟨t', ht', hleft, -⟩
      · rw [hhosts] at hnone
        cases hnone
      · rw [hhosts] at ht'
        cases ht'
        exact hleft
    have hrun : m.cleanUp i a h =
        (if left then i.supervisor.hup else m.tearDown i a) k := by
      rw [cleanUp_eq, run_bind, hr]
    have hstate' : i.supervisor.stateOn k = .notRunning := by
      rw [Supervisor.stateOn_congr hh.inOrder he.holds.inOrder hi.name hi.pidFile he.edits]
      exact hstate
    have hspared : ∀ p ≠ i.network, h.Spares root base p k := fun p hp => .of_edits he.edits hp
    cases left with
    | true =>
      refine .inl ⟨.inl (by simpa using hleft.symm), fun p hp hpnet => ?_⟩
      have hpk : k.disk.HasNetwork base p := by
        rw [← isNetwork_shelf_iff, he.edits.isNetwork_of_ne hp, hh.shelf_eq]
        exact hpnet
      rw [hrun, if_pos rfl, Supervisor.hup_of_notRunning hstate']
      exact (hspared p hp).trans (Supervisor.spares_start he.holds.inOrder hi hpk hp)
    | false =>
      have hempty : HostsFile.without a.podName t = [] := by simpa using hleft.symm
      have hreaches : ∀ p, w.Reaches root i.network (Forwarders.scopedLines i.domain a.servers) p ↔
          v.Reaches root i.network (Forwarders.scopedLines i.domain a.servers) p := by
        intro p
        rw [← he.holds.shelf_eq, ← hh.shelf_eq]
        exact he.edits.reaches_iff
      rw [if_neg (by simp)] at hrun
      rcases tearDown_cases (a := a) hs hi he.holds (Settings.locate?_of_edits he.edits hl) hmulti
          hstate' with ⟨hnone, hspares⟩ | ⟨p, hreach, hlost⟩
      · refine .inl ⟨.inr fun p => ?_, fun p hp _ => ?_⟩
        · rw [← hreaches]
          exact hnone p
        · rw [hrun]
          exact (hspared p hp).trans (hspares p hp)
      · have hfor : w.forwarders p = v.forwarders p := by
          rw [← he.holds.shelf_eq, ← hh.shelf_eq]
          exact he.edits.forwarders_of_ne hreach.ne
        refine .inr ⟨hempty, p, (hreaches p).mp hreach, m.records_cleanUp i a, ?_⟩
        rintro h rfl ht
        unfold Shelf.Lost at hlost ⊢
        rw [hfor] at hlost
        rw [hrun] at ht ⊢
        exact hlost.after rfl he.edits.journal_prefix ht
  · exact absurd ⟨ha, hnet⟩ hno

end Withdraw

/-! ## Rejected attachments -/

/-- Other pods are left in the network of a pod that is entered and taken out again. -/
def Attachment.KeepsPods (a : Attachment) (v : Shelf) : Prop :=
  HostsFile.without a.podName ((v.text? a.network hostsName).getD [] ++
    HostsFile.entry a.podName a.aliases a.containerIps) ≠ []

namespace Sample

/-- Two networks, of which the second has learnt where the pods of the first are found. -/
def sharedMoves : List Move :=
  [.add (pod "a" "x" "p" (octets 10 1 0 1)), .add (pod "b" "y" "q" (octets 10 2 0 1))]

/-- The host after these moves. -/
def shared : Host := mesh.play (host [.quiet]) sharedMoves

/-- A pod of a third network, for the domain of the first and with its nameserver. -/
def rejected : Attachment := pod "c" "x" "r" (octets 10 1 0 1)

end Sample

section Rejected

variable {m : Mesh} {base : Location} {h k : Host} {v : Shelf} {a : Attachment} {p : Text}
  {own : List Text}

/-- A sibling that has lost a line is not as it was.

**Proof sketch.** If the file were as before, writing its lines without the network's would give
the same text. But it holds one of them, so the text is shorter. -/
lemma Shelf.Lost.not_leavesAlone {root : Path} (hh : h.Holds root base v)
    (hline : ∃ l ∈ own, l ∈ v.forwarders p) (hlost : v.Lost root base own p k) :
    ¬ h.LeavesAlone root base p k := by
  intro halone
  obtain ⟨w, hw, hk⟩ := hlost
  have hsame : w.text? p localServersName = v.text? p localServersName := by
    rw [← hk.shelf_eq, ← hh.shelf_eq]
    simp only [Disk.shelf]
    rw [halone.files [.text localServersName]]
  rw [hsame] at hw
  have hread : v.forwarders p = Forwarders.ofText
      (Forwarders.toText (Forwarders.remove (v.forwarders p) own).lines) := by
    conv => lhs; unfold Shelf.forwarders
    rw [hw]
    rfl
  generalize htext : Forwarders.toText (Forwarders.remove (v.forwarders p) own).lines = t at hread
  rw [hread] at htext hline
  exact Forwarders.toText_remove_ne (Forwarders.changed_remove_iff.mpr hline) htext

/-- What a rejected attachment is undone from: the pod is listed last in its network. -/
lemma Collided.exists_holds {root : Path} {i : Instance} (hc : Collided root base v i a h k) :
    ∃ w, k.Holds root base w ∧ w.isNetwork i.network = true ∧ w.text? i.network hostsName =
      some ((v.text? i.network hostsName).getD [] ++
        HostsFile.entry a.podName a.aliases a.containerIps) := by
  have hne : hostsName ≠ ownServersName := by decide
  obtain ⟨v₁, he, hk⟩ := hc.holds
  refine ⟨_, hk, he.isNetwork, ?_⟩
  rw [Shelf.text?_write_of_ne v₁ fun hf => hne hf.2]
  exact he.hosts

/-- **A rejected attachment that is undone** leaves the siblings alone just if other pods of its
network are left, or none of its lines is found at a sibling.

**Proof sketch.** The attachment has stopped after editing its own network only, so the siblings
reach the same lines as before, and the daemon does not run. The cleanup from there is told by
`Mesh.cleanUp_cases`, whose two cases are told apart by the right side. -/
theorem Collided.leavesAlone_iff {i : Instance} {l : Host} (hi : i.IsBelow m.settings.rootDir)
    (hh : h.Holds m.settings.rootDir base v)
    (hloc : (Settings.locate? h m.settings.binary).isSome = true)
    (hc : Collided m.settings.rootDir base v i a h k) (hundone : m.Undone a i k l)
    (hl : h.Loyal m.settings.rootDir base l) :
    (∀ p ≠ i.network, v.isNetwork p = true → h.LeavesAlone m.settings.rootDir base p l) ↔
      HostsFile.without a.podName ((v.text? i.network hostsName).getD [] ++
          HostsFile.entry a.podName a.aliases a.containerIps) ≠ [] ∨
        ∀ p, ¬ v.Reaches m.settings.rootDir i.network
          (Forwarders.scopedLines i.domain a.servers) p := by
  have he := hc.edits
  obtain ⟨w, hk, hnet, hhosts⟩ := hc.exists_holds
  have hreaches : ∀ own p, w.Reaches m.settings.rootDir i.network own p ↔
      v.Reaches m.settings.rootDir i.network own p := by
    intro own p
    rw [← hh.shelf_eq, ← hk.shelf_eq]
    exact he.reaches_iff
  have hstate : i.supervisor.stateOn k = .notRunning := by
    rw [Supervisor.stateOn_congr hh.inOrder hk.inOrder hi.name hi.pidFile he]
    exact hc.state
  have ht := hundone.tame he.journal_prefix hl.tame
  obtain ⟨hdisk, es, hes, hquiet⟩ := hundone
  rcases Mesh.cleanUp_cases (a := a) rfl hi hk (Settings.locate?_of_edits he hloc) hc.multiDomain
      hstate hc.admits_hosts hnet hhosts with ⟨hwhen, hspares⟩ | ⟨hempty, p, hreach, hlost⟩
  · refine ⟨fun _ => hwhen.imp_right fun hno p => ?_, fun _ p hp hpnet => ?_⟩
    · rw [← hreaches]
      exact hno p
    · rw [← hh.shelf_eq, ← he.isNetwork_of_ne hp, hk.shelf_eq] at hpnet
      refine Host.Spares.leavesAlone ?_ hl
      refine ((Host.Spares.of_edits he hp).trans (hspares p hp hpnet)).trans ?_
      exact .of_quiet hes hquiet fun rest => by rw [hdisk]
  · have hreach' := (hreaches _ _).mp hreach
    constructor
    · intro halone
      have hcleaned : w.Lost m.settings.rootDir base (Forwarders.scopedLines i.domain a.servers) p
          (m.cleanUp i a k).2 := by
        obtain ⟨hok, herr⟩ := hlost.holds k rfl ht
        cases hr : (m.cleanUp i a k).1 with
        | ok u => exact hok u hr
        | error second => exact herr second hr
      have hleft : v.Lost m.settings.rootDir base (Forwarders.scopedLines i.domain a.servers) p
          l := by
        obtain ⟨v', hv', hk'⟩ := hcleaned
        rw [← hk.shelf_eq, he.forwarders_of_ne hreach.ne, hh.shelf_eq] at hv'
        exact ⟨v', hv', hk'.of_disk hdisk⟩
      exact absurd (halone p hreach.ne hreach'.isNetwork)
        (hleft.not_leavesAlone hh hreach'.line)
    · rintro (hkeeps | hno)
      · exact absurd hempty hkeeps
      · exact absurd hreach' (hno p)

/-- **A rejected attachment** in a state of a run. -/
theorem Mesh.Stores.leavesAlone_iff (hs : m.Stores base v h) (hc : m.chain.KnowsNoDomains)
    {fault : Fault} (hf : (m.add a h).1 = .error fault) (hcol : fault.isDomainCollision = true)
    (hl : h.Loyal m.settings.rootDir base (m.add a h).2) :
    (∀ p ≠ a.network, v.isNetwork p = true →
        h.LeavesAlone m.settings.rootDir base p (m.add a h).2) ↔
      a.KeepsPods v ∨ ∀ p, ¬ v.Reaches m.settings.rootDir a.network
        (Forwarders.scopedLines a.domain a.servers) p := by
  obtain ⟨hh, binary, k, hloc, hb, hcollided, hundone⟩ := hs.add_collision hl.tame hc hf hcol
  exact hcollided.leavesAlone_iff hb hh (by rw [hloc]; rfl) hundone hl

/-- **A rejected domain leaves the siblings alone**, in every state of a run from an empty root,
just if other pods of the network are left once the rejected one is taken out again, or if no line
of the rejected attachment is found at a sibling.

**Proof sketch.** The attachment has stopped before any sibling was touched, and its daemon does
not run. If pods are left, it is started, and that is all. If not, the network is taken down: the
withdrawal changes nothing, or the first sibling that has a line loses it, and then its file is
shorter than it was. -/
theorem siblings_left_alone_iff {moves : List Move} {fault : Fault} (h₀ : m.StartsEmpty base h)
    (hrun : m.Along (fun k move => Host.Tame base k (m.step k move)) h moves)
    (hc : m.chain.KnowsNoDomains) (hk : m.play h moves = k) (hf : (m.add a k).1 = .error fault)
    (hcol : fault.isDomainCollision = true)
    (hl : k.Loyal m.settings.rootDir base (m.add a k).2) :
    (∀ p ≠ a.network, k.disk.HasNetwork base p →
        k.LeavesAlone m.settings.rootDir base p (m.add a k).2) ↔
      a.KeepsPods (k.disk.shelf base) ∨
        ∀ p, ¬ (k.disk.shelf base).Reaches m.settings.rootDir a.network
          (Forwarders.scopedLines a.domain a.servers) p := by
  obtain ⟨v, hs, -⟩ := hrun.stores (J := fun _ => True) h₀ trivial fun k v move hs _ ht => by
    obtain ⟨v', hs', -⟩ := hs.step move ht
    exact ⟨v', hs', trivial⟩
  rw [hk] at hs
  rw [hs.shelf_eq]
  simp only [hs.hasNetwork_iff]
  exact hs.leavesAlone_iff hc hf hcol hl

/-- A third network that claims the domain of the first with the same nameserver: the second loses
what it has learnt from the first.

**Proof sketch.** What is read off the concrete run is computed at once. No pod of the rejected
network is left, and the second network has the line, so the right side of the theorem fails. -/
theorem siblings_left_alone_iff_of_shared :
    (Sample.mesh.add Sample.rejected Sample.shared).1 =
        .error (.domainCollision "x".toList "a".toList) ∧
      ¬ ∀ p ≠ Sample.rejected.network, Sample.shared.disk.HasNetwork Sample.base p →
        Sample.shared.LeavesAlone Sample.mesh.settings.rootDir Sample.base p
          (Sample.mesh.add Sample.rejected Sample.shared).2 := by
  -- all that is read off the run, so that it is made once
  have hread : Sample.mesh.Along (fun k move => Host.Tame Sample.base k (Sample.mesh.step k move))
        (Sample.host [.quiet]) Sample.sharedMoves ∧
      (Sample.mesh.add Sample.rejected Sample.shared).1 =
        .error (.domainCollision "x".toList "a".toList) ∧
      (∀ e ∈ Sample.shared.since (Sample.mesh.add Sample.rejected Sample.shared).2,
        e.isQuiet = true) ∧
      HostsFile.without Sample.rejected.podName
        (((Sample.shared.disk.shelf Sample.base).text? Sample.rejected.network hostsName).getD [] ++
          HostsFile.entry Sample.rejected.podName Sample.rejected.aliases
            Sample.rejected.containerIps) = [] ∧
      Sample.shared.disk.HasNetwork Sample.base "b".toList ∧
      "server=/x/10.1.0.1".toList ∈
        (Sample.shared.disk.shelf Sample.base).forwarders "b".toList ∧
      ∀ x ∈ Sample.shared.disk.tree.entries, x.1.loc.head? = some (.text "root".toList) →
        x.1.loc[1]? ∈ [none, some (.text "a".toList), some (.text "b".toList)] := by
    decide +kernel
  obtain ⟨hrun, hf, hquiet, hempty, hb, hline, hentries⟩ := hread
  have hknows : Sample.mesh.chain.KnowsNoDomains := fun _ _ _ h => by cases h
  have hloyal : Sample.shared.Loyal Sample.mesh.settings.rootDir Sample.base
      (Sample.mesh.add Sample.rejected Sample.shared).2 := by
    intro n f he
    cases hquiet _ he
  have hplay : Sample.mesh.play (Sample.host [.quiet]) Sample.sharedMoves = Sample.shared := rfl
  have hown : "server=/x/10.1.0.1".toList ∈
      Forwarders.scopedLines Sample.rejected.domain Sample.rejected.servers := by decide +kernel
  generalize Sample.shared = k at *
  refine ⟨hf, fun halone => ?_⟩
  rcases (siblings_left_alone_iff (Sample.startsEmpty _) hrun hknows hplay hf rfl hloyal).mp halone
    with hkeeps | hnone
  · exact hkeeps hempty
  · refine hnone "b".toList ⟨isNetwork_shelf_iff.mpr hb, by decide, ⟨_, hown, hline⟩, ?_⟩
    -- the other networks are those that have an entry below the root
    intro q _ hq _
    obtain ⟨id, mode, hd⟩ := isNetwork_shelf_iff.mp hq
    obtain ⟨x, hx, hloc⟩ := FileTree.exists_of_get? hd
    have hname := hentries x hx (by rw [hloc]; rfl)
    rw [hloc] at hname
    have hcases : q = "a".toList ∨ q = "b".toList := by simpa [Sample.base] using hname
    rcases hcases with rfl | rfl <;> decide +kernel

end Rejected

end ResolverMesh
