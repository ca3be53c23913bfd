import ResolverMesh.Proofs.Continuity

set_option autoImplicit false
set_option relaxedAutoImplicit false

/-!
# Siblings told one after the other

A withdrawal takes a network's lines from its siblings in turn. Where a sibling has some of them,
its file is written anew and its daemon is restarted if it runs. A daemon that cannot be started
again ends the withdrawal there, and does not run from then on. No other daemon begins to run, so
each withdrawal that ends early leaves fewer daemons to fail the next one.

A file that is written anew is read back with one carriage return less at the end of each line. So
what was no line of the network may have become one, and a second withdrawal may take more away.

## Main definitions

* `ResolverMesh.Forwarders.Stripped` — a file from which lines were taken a number of times.
* `ResolverMesh.Host.Faithful` — daemons wrote the pid files of their own networks.
* `ResolverMesh.Mesh.Told` — how often each network was told, and what else may have changed.
* `ResolverMesh.Mesh.CutShort` — a withdrawal that has ended early.

## Main results

* `ResolverMesh.Forwarders.Stripped.eq_iff` — when two ways of taking the lines end alike.
* `ResolverMesh.Supervisor.restartIfRunning_outcome` — a daemon that could not be restarted.
* `ResolverMesh.Mesh.told_apply` — one sibling told.
* `ResolverMesh.Mesh.told_withdrawFrom` — siblings told in turn.
-/

namespace ResolverMesh

open ResolverMesh.Action Disk Propagation

/-! ## Lines taken off a file -/

namespace Forwarders

/-- Lines of `own` are in a file of forwarders. -/
def HasSome (own : List Text) (file : Option Text) : Prop :=
  (remove (ofText (file.getD [])) own).changed = true

instance (own : List Text) (file : Option Text) : Decidable (HasSome own file) :=
  inferInstanceAs (Decidable (_ = true))

/-- A file of forwarders once the lines of `own` were taken off. -/
def strip (own : List Text) (file : Option Text) : Option Text :=
  some (toText (remove (ofText (file.getD [])) own).lines)

/-- Lines of `own` were taken off a file a number of times, and there were some each time. -/
inductive Stripped (own : List Text) : Nat → Option Text → Option Text → Prop
  /-- The file is as it was. -/
  | refl (file : Option Text) : Stripped own 0 file file
  /-- They were taken off once more. -/
  | strip {times : Nat} {file after : Option Text} (h : Stripped own times file after)
      (hsome : HasSome own after) : Stripped own (times + 1) file (strip own after)

namespace Stripped

variable {own : List Text} {c d : Nat} {file after later : Option Text}

/-- Stripped no times, a file is as it was. -/
lemma eq_of_zero (h : Stripped own 0 file after) : after = file := by
  cases h
  rfl

/-- Once, if there are some. -/
lemma once (own : List Text) (file : Option Text) : Stripped own
    (if HasSome own file then 1 else 0) file (if HasSome own file then Forwarders.strip own file
      else file) := by
  split
  · next h => exact .strip (.refl file) h
  · exact .refl file

/-- Stripped once, it had some of the lines, and has been stripped of them. -/
lemma eq_of_one (h : Stripped own 1 file after) :
    HasSome own file ∧ after = Forwarders.strip own file := by
  obtain _ | ⟨h, hsome⟩ := h
  obtain rfl := h.eq_of_zero
  exact ⟨hsome, rfl⟩

/-- Stripped so many times and then so many more. -/
lemma trans (h : Stripped own c file after) (h' : Stripped own d after later) :
    Stripped own (c + d) file later := by
  induction h' with
  | refl => exact h
  | strip _ hsome ih => exact .strip (ih h) hsome

/-- The first time, lines were taken off the file itself. -/
lemma first (h : Stripped own (c + 1) file after) :
    HasSome own file ∧ Stripped own c (Forwarders.strip own file) after := by
  induction c generalizing after with
  | zero =>
    obtain ⟨hsome, rfl⟩ := h.eq_of_one
    exact ⟨hsome, .refl _⟩
  | succ c ih =>
    obtain _ | ⟨h, hsome⟩ := h
    obtain ⟨hfirst, hrest⟩ := ih h
    exact ⟨hfirst, .strip hrest hsome⟩

/-- Where there are some lines, there were some at first. -/
lemma hasSome (h : Stripped own c file after) (hsome : HasSome own after) : HasSome own file := by
  cases c with
  | zero => exact h.eq_of_zero ▸ hsome
  | succ c => exact h.first.1

/-- **Each time there is a line less.**

**Proof sketch.** By the number of times. Reading a file back gives no more lines than were
written, and each removal that changes something takes one away. -/
theorem length_le (h : Stripped own c file after) :
    (ofText (after.getD [])).length + c ≤ (ofText (file.getD [])).length := by
  induction h with
  | refl => exact Nat.le_refl _
  | @strip times file after _ hsome ih =>
    have hread : (ofText (toText (remove (ofText (after.getD [])) own).lines)).length ≤
        (remove (ofText (after.getD [])) own).lines.length :=
      length_ofText_toText_le fun l hl => (of_mem_ofText ((remove_sublist _ _).subset hl)).2
    have hless := length_remove_lt hsome
    unfold Forwarders.strip
    rw [Option.getD_some]
    omega

/-- **Two ways** of taking the lines off a file, at once or in two stages, end alike just if they
were taken off no more than once.

**Proof sketch.** How often the file is stripped in all decides. If never, it had none of the
lines; if once, both ways strip it once; if more often, the second way is shorter, since each
stripping takes at least one line. -/
theorem eq_iff (h : Stripped own c file after) :
    (if HasSome own after then Forwarders.strip own after else after) =
        (if HasSome own file then Forwarders.strip own file else file) ↔
      c + (if HasSome own after then 1 else 0) ≤ 1 := by
  have hall := h.trans (once own after)
  generalize (if HasSome own after then Forwarders.strip own after else after) = last at hall ⊢
  generalize hd : c + (if HasSome own after then 1 else 0) = d at hall ⊢
  match d, hall with
  | 0, hall =>
    have hnone : ¬ HasSome own file := by
      intro hsome
      obtain rfl : c = 0 := by omega
      obtain rfl := h.eq_of_zero
      rw [if_pos hsome] at hd
      cases hd
    rw [if_neg hnone, hall.eq_of_zero]
    simp
  | 1, hall =>
    obtain ⟨hsome, rfl⟩ := hall.eq_of_one
    rw [if_pos hsome]
    simp
  | d + 2, hall =>
    obtain ⟨hsome, hrest⟩ := hall.first
    have hless := hrest.length_le
    rw [if_pos hsome]
    refine iff_of_false (fun heq => ?_) (by omega)
    rw [heq] at hless
    omega

/-- **Lines that stand once each** and do not end in a carriage return are taken off once.

**Proof sketch.** Suppose that lines are taken off twice. After the first time none of them is
left, since each stood there once and the file is read back as written. So the second time changes
nothing. -/
theorem le_one (h : Stripped own c file after) (hnodup : (ofText (file.getD [])).Nodup)
    (hending : ∀ l ∈ ofText (file.getD []), l.getLast? ≠ some '\r') : c ≤ 1 := by
  match c, h with
  | 0, _ => omega
  | 1, _ => omega
  | c + 2, h =>
    -- after the first time there is none left
    obtain ⟨l, hl, hmem⟩ := changed_remove_iff.mp h.first.2.first.1
    have hclean : ∀ l ∈ (remove (ofText (file.getD [])) own).lines, IsClean l := by
      intro l hl
      have hold := (remove_sublist _ _).subset hl
      exact isClean_of_mem_ofText hold (hending l hold)
    unfold Forwarders.strip at hmem
    rw [Option.getD_some, ofText_toText hclean, Text.mem_sorted, mem_remove hnodup] at hmem
    exact absurd hl hmem.2

end Stripped

end Forwarders

/-! ## Daemons that write their own pid files -/

namespace Host

variable {root : Path} {base : Location} {h k l : Host}

/-- From one host to a later one, daemons wrote no files of networks but pid files, each of them
that of the network whose configuration it was started with. -/
structure Faithful (root : Path) (base : Location) (h k : Host) : Prop where
  /-- They wrote pid files only. -/
  tame : Tame base h k
  /-- Each wrote its own. -/
  own : ∀ command pid n f, [Event.began command, .daemonStarted pid,
    .pidWritten (base ++ [Name.text n, .text f])] <:+: h.since k → Launch.IsFor root n command

/-- No daemon wrote anything. -/
lemma Faithful.of_none (hno : ∀ loc, .pidWritten loc ∉ h.since k) : Faithful root base h k := by
  refine ⟨?_, fun command pid n f hin => absurd (hin.subset ?_) (hno (base ++ [.text n, .text f]))⟩
  swap
  · simp
  rintro (_ | _ | _ | _ | _ | _ | _ | loc | _ | _) he <;> try trivial
  exact absurd he (hno loc)

/-- It is read off the journals. -/
lemma Faithful.congr {h' k' : Host} (hf : Faithful root base h k)
    (hh : h'.journal = h.journal) (hk : k'.journal = k.journal) : Faithful root base h' k' := by
  have hsince : h'.since k' = h.since k := by rw [since, hh, hk, since]
  refine ⟨?_, ?_⟩
  · unfold Tame
    rw [hsince]
    exact hf.tame
  · rw [hsince]
    exact hf.own

/-- Daemons that are faithful in two stretches together are so in each of them. -/
lemma Faithful.split (hf : Faithful root base h l) (hk : h.journal <+: k.journal)
    (hl : k.journal <+: l.journal) : Faithful root base h k ∧ Faithful root base k l := by
  obtain ⟨htame, htame'⟩ := (Tame.split hk hl).mp hf.tame
  have hsince := since_append hk hl
  refine ⟨⟨htame, fun command pid n f hin => hf.own command pid n f ?_⟩,
    ⟨htame', fun command pid n f hin => hf.own command pid n f ?_⟩⟩ <;> rw [hsince]
  · exact hin.trans (List.prefix_append _ _).isInfix
  · exact hin.trans (List.suffix_append _ _).isInfix

end Host

namespace Supervisor

variable (s : Supervisor) (h : Host)

/-- A pid file written on a start was written by the daemon that was started.

**Proof sketch.** Of the ways in which a start can end, only the one with a daemon left behind
writes a pid file, and there the effects stand next to each other. -/
lemma infix_of_pidWritten_start {loc : Location} (hw : .pidWritten loc ∈ h.since (s.start h).2) :
    ∃ pid, [Event.began s.command, .daemonStarted pid, .pidWritten loc] <:+:
      h.since (s.start h).2 := by
  have hbegun : (h.launching s.command).journal =
      h.journal ++ [.launched s.command, .began s.command] := by
    simp [Host.launching, Host.record]
  rcases s.start_cases h with ⟨fault, hr | hr⟩ | ⟨hr, -⟩ | ⟨pidFile, c, hr, -, -⟩ <;>
    rw [hr] at hw ⊢
  · simp [Host.since_record] at hw
  · simp [Host.since_of_journal hbegun] at hw
  · have hsince : h.since ((h.launching s.command).record (.logged (.startedDaemon s.configFile))) =
        [.launched s.command, .began s.command, .logged (.startedDaemon s.configFile)] :=
      Host.since_of_journal (by simp [Host.launching, Host.record])
    simp [hsince] at hw
  · have hsince : h.since (((h.launching s.command).leftBehind c).record
          (.logged (.startedDaemon s.configFile))) =
        [.launched s.command] ++ [.began s.command, .daemonStarted h.nextPid, .pidWritten c.loc] ++
          [.logged (.startedDaemon s.configFile)] :=
      Host.since_of_journal (by simp [Host.record, Host.journal_leftBehind])
    dsimp only at hw ⊢
    rw [hsince] at hw ⊢
    obtain rfl : loc = c.loc := by simpa using hw
    exact ⟨h.nextPid, List.infix_append ..⟩

/-- So was one written in a restart.

**Proof sketch.** A daemon that does not run is left alone. One that runs is stopped, without a pid
file written, and then started. -/
lemma infix_of_pidWritten {loc : Location}
    (hw : .pidWritten loc ∈ h.since (s.restartIfRunning h).2) : ∃ pid,
      [Event.began s.command, .daemonStarted pid, .pidWritten loc] <:+:
        h.since (s.restartIfRunning h).2 := by
  cases hs : s.stateOn h with
  | notRunning =>
    rw [restartIfRunning_of_notRunning hs] at hw
    simp [Host.since] at hw
  | running pid =>
    rw [restartIfRunning_of_running hs] at hw ⊢
    have hsince := Host.since_append (h.prefix_stopped pid) (s.records_start (h.stopped pid))
    rw [hsince] at hw ⊢
    rw [Host.since_of_journal (h.journal_stopped pid)] at hw
    obtain ⟨q, hin⟩ := s.infix_of_pidWritten_start (h.stopped pid) (by simpa using hw)
    exact ⟨q, hin.trans (List.suffix_append _ _).isInfix⟩

/-- **A faithful daemon restarted** wrote its own pid file and no other file of a network. -/
theorem eq_of_pidWritten {root : Path} {base : Location} {i : Instance} {h : Host}
    (hi : i.IsBelow root) (hl : h.disk.Linkless root base)
    (hf : Host.Faithful root base h (i.supervisor.restartIfRunning h).2) {p f : Text}
    (hw : .pidWritten (base ++ [Name.text p, .text f]) ∈
      h.since (i.supervisor.restartIfRunning h).2) :
    f = pidName ∧ (Settings.isNetworkName p = true → p = i.network) := by
  refine ⟨hf.tame _ hw p f rfl, fun hp => ?_⟩
  obtain ⟨pid, hin⟩ := i.supervisor.infix_of_pidWritten h hw
  exact Launch.IsFor.unique hl.leads hi.name hp hi.isFor_command (hf.own _ _ _ _ hin)

/-- **A daemon restarted**: if it cannot be started again, it ran, and does not run any more.

**Proof sketch.** If it ran, it was killed, and its pid file still names the dead process when the
start fails. -/
theorem restartIfRunning_outcome : (s.restartIfRunning h).1 = .ok () ∨
    (∃ fault, (s.restartIfRunning h).1 = .error fault) ∧ s.stateOn h ≠ .notRunning ∧
      s.stateOn (s.restartIfRunning h).2 = .notRunning := by
  cases hs : s.stateOn h with
  | notRunning => exact .inl (by rw [restartIfRunning_of_notRunning hs])
  | running pid =>
    have hdead := stateOn_stopped (stateOn_eq_running_iff.mp hs).1
    rw [restartIfRunning_of_running hs]
    rcases s.start_cases (h.stopped pid) with
      ⟨fault, hr | hr⟩ | ⟨hr, -⟩ | ⟨pidFile, c, hr, -, -⟩ <;> rw [hr]
    · exact .inr ⟨⟨fault, rfl⟩, by simp, hdead⟩
    · exact .inr ⟨⟨fault, rfl⟩, by simp, hdead⟩
    · exact .inl rfl
    · exact .inl rfl

end Supervisor

/-! ## Siblings told -/

namespace Mesh

/-- From one host to a later one, the forwarders of each network were written as often as `times`
says, to take the lines of `own` off them, and its daemon may have been restarted then. -/
structure Told (m : Mesh) (base : Location) (own : List Text) (times : Text → Nat) (h k : Host) :
    Prop where
  /-- The journal was only added to. -/
  journal : h.journal <+: k.journal
  /-- It tells of the writing. -/
  count : ∀ p, (h.since k).count (.toldOf base p) = times p
  /-- Lines were taken off the forwarders each time, and nothing else was done to them. -/
  stripped : ∀ p, Forwarders.Stripped own (times p) (h.disk.fileText base p localServersName)
    (k.disk.fileText base p localServersName)
  /-- The pid files of the others are as they were. -/
  pidFile : ∀ p, Settings.isNetworkName p = true → times p = 0 →
    k.disk.fileText base p pidName = h.disk.fileText base p pidName
  /-- A daemon that runs ran before. -/
  runs : ∀ p, Settings.isNetworkName p = true → m.stateOf k p ≠ .notRunning →
    m.stateOf h p ≠ .notRunning
  /-- The networks are those that there were. -/
  networks : ∀ p, k.disk.HasNetwork base p ↔ h.disk.HasNetwork base p
  /-- What was there is there. -/
  continues : ∀ o, Host.Continues base o h → Host.Continues base o k

namespace Told

variable {m : Mesh} {base : Location} {own : List Text} {times times' : Text → Nat}
  {h k l : Host}

/-- Nobody has been told anything. -/
lemma refl (m : Mesh) (base : Location) (own : List Text) (h : Host) :
    m.Told base own (fun _ => 0) h h where
  journal := List.prefix_refl _
  count p := by simp [Host.since]
  stripped p := .refl _
  pidFile _ _ _ := rfl
  runs _ _ := id
  networks _ := .rfl
  continues _ := id

/-- Siblings told in two stretches.

**Proof sketch.** The counts add up, and a sibling told in neither stretch has kept its pid file in
both. -/
lemma trans (h₁ : m.Told base own times h k) (h₂ : m.Told base own times' k l) :
    m.Told base own (fun p => times p + times' p) h l where
  journal := h₁.journal.trans h₂.journal
  count p := by
    rw [Host.since_append h₁.journal h₂.journal, List.count_append, h₁.count, h₂.count]
  stripped p := (h₁.stripped p).trans (h₂.stripped p)
  pidFile p hp hnone := by
    have hzero : times p = 0 ∧ times' p = 0 := by omega
    rw [h₂.pidFile p hp hzero.2, h₁.pidFile p hp hzero.1]
  runs p hp hk := h₁.runs p hp (h₂.runs p hp hk)
  networks p := (h₂.networks p).trans (h₁.networks p)
  continues o ho := h₂.continues o (h₁.continues o ho)

/-- What counts is how often each sibling was told. -/
lemma congr (ht : m.Told base own times h k) (heq : ∀ p, times p = times' p) :
    m.Told base own times' h k := by
  obtain rfl : times = times' := funext heq
  exact ht

/-- An effect that changes nothing. -/
lemma record (ht : m.Told base own times h k) {e : Event} (he : ∀ p, e ≠ .toldOf base p) :
    m.Told base own times h (k.record e) where
  journal := ht.journal.trans (List.prefix_append _ _)
  count p := by
    rw [Host.since_append ht.journal (List.prefix_append _ _), List.count_append, ht.count,
      Host.since_record, List.count_singleton, if_neg (by simpa using he p), Nat.add_zero]
  stripped := ht.stripped
  pidFile := ht.pidFile
  runs := ht.runs
  networks := ht.networks
  continues o ho := (ht.continues o ho).of_same rfl rfl rfl

/-- Which locks are held plays no part. -/
lemma held (ht : m.Told base own times h k) (ids ids' : List Nat) :
    m.Told base own times { h with held := ids } { k with held := ids' } where
  journal := ht.journal
  count := ht.count
  stripped := ht.stripped
  pidFile := ht.pidFile
  runs := ht.runs
  networks := ht.networks
  continues o ho := (ht.continues o (ho.of_same rfl rfl rfl)).of_same rfl rfl rfl

/-- A file of a network written that is no pid file. If it is that of the forwarders, lines were
taken off it.

**Proof sketch.** The one effect is that of telling the network if the file is that of its
forwarders. No pid file has changed, so daemons run where they ran. -/
lemma of_wrote {p f s : Text} (hl : h.disk.Linkless m.settings.rootDir base)
    (hw : h.Wrote k (base ++ [Name.text p, .text f]) s) (hf : f ≠ pidName)
    (htaken : f = localServersName →
      Forwarders.HasSome own (h.disk.fileText base p localServersName) ∧
        some s = Forwarders.strip own (h.disk.fileText base p localServersName)) :
    m.Told base own (fun q => if q = p ∧ f = localServersName then 1 else 0) h k := by
  have hj := Host.Filed.journal hw
  have hl' : k.disk.Linkless m.settings.rootDir base := Host.Filed.linkless hw hl
  have hpid : ∀ q, k.disk.fileText base q pidName = h.disk.fileText base q pidName := by
    intro q
    rw [hw.fileText, if_neg fun hq => hf hq.2.symm]
  have hnet : ∀ q, k.disk.HasNetwork base q ↔ h.disk.HasNetwork base q := fun q =>
    Host.Filed.hasNetwork_iff hw
  refine ⟨⟨_, hj.symm⟩, fun q => ?_, fun q => ?_, fun q _ _ => hpid q, fun q hq hk hh => ?_, hnet,
    fun o ho => ho.filed hf hw⟩
  · have hevent : (Event.wroteFile (base ++ [Name.text p, .text f]) == Event.toldOf base q) =
        decide (q = p ∧ f = localServersName) := by
      rw [beq_eq_decide]
      simp only [Event.wroteFile.injEq, List.append_cancel_left_eq, List.cons.injEq,
        Name.text.injEq, and_true, eq_comm]
    rw [Host.since_of_journal hj, List.count_singleton, hevent]
    simp
  · rw [hw.fileText]
    by_cases hqp : q = p ∧ f = localServersName
    · obtain ⟨rfl, rfl⟩ := hqp
      obtain ⟨hsome, hs⟩ := htaken rfl
      rw [if_pos ⟨rfl, rfl⟩, if_pos ⟨rfl, rfl⟩, hs]
      exact .strip (.refl _) hsome
    · rw [if_neg hqp, if_neg fun hq => hqp ⟨hq.1, hq.2.symm⟩]
      exact .refl _
  · cases hs : m.stateOf k q with
    | notRunning => exact hk hs
    | running pid =>
      have hold := (Host.Filed.calm hw).running hl hl' hq (hnet q).mp (fun t ht => hpid q ▸ ht) hs
      rw [hh] at hold
      cases hold

/-- **The daemon of a network that was told** is restarted if it runs.

**Proof sketch.** A restart writes no forwarders, so nobody is told by it. A pid file that it
writes is, as daemons are faithful, that of the network whose daemon was restarted, and this one
has been told. -/
theorem restarted (ht : m.Told base own times h k) {o : Host} (hc : Host.Continues base o k)
    (hl : k.disk.Linkless m.settings.rootDir base) {i : Instance}
    (hi : i.IsBelow m.settings.rootDir) (htimes : times i.network ≠ 0)
    (hf : Host.Faithful m.settings.rootDir base k (i.supervisor.restartIfRunning k).2) :
    m.Told base own times h (i.supervisor.restartIfRunning k).2 := by
  have htended := i.supervisor.tended_restartIfRunning k
  have hpath := (Host.stable_searchPath k.searchPath).keeps_restartIfRunning i.supervisor k rfl
  have hown := fun p f => @Supervisor.eq_of_pidWritten _ base i k hi hl hf p f
  have hidle := fun hs => congrArg Prod.snd
    (Supervisor.restartIfRunning_of_notRunning (s := i.supervisor) (h := k) hs)
  rw [Mesh.stateOf_eq hi] at hidle
  generalize (i.supervisor.restartIfRunning k).2 = l at htended hpath hown hidle hf ⊢
  have hsame : ∀ p f, .pidWritten (base ++ [Name.text p, .text f]) ∉ k.since l →
      l.disk.fileText base p f = k.disk.fileText base p f := by
    intro p f hno
    unfold fileText
    rw [htended.get?_of_not_mem hno]
  refine ⟨ht.journal.trans htended.records, fun p => ?_, fun p => ?_, fun p hp hnone => ?_,
    fun p hp hrun => ht.runs p hp fun hstill => ?_,
    fun p => htended.hasNetwork_iff.trans (ht.networks p),
    fun o' ho' => (ht.continues o' ho').tended htended hpath⟩
  · have hquiet : Event.toldOf base p ∉ k.since l := fun hmem => by cases htended.isDaemonic hmem
    rw [Host.since_append ht.journal htended.records, List.count_append, ht.count,
      List.count_eq_zero_of_not_mem hquiet, Nat.add_zero]
  · rw [hsame p _ fun hw => absurd (hown p _ hw).1 (by decide)]
    exact ht.stripped p
  · rw [hsame p _ fun hw => htimes ((hown p _ hw).2 hp ▸ hnone)]
    exact ht.pidFile p hp hnone
  · by_cases hpi : p = i.network
    · subst hpi
      rw [hidle hstill] at hrun
      exact hrun hstill
    · cases hs : m.stateOf l p with
      | notRunning => exact hrun hs
      | running pid =>
        rcases htended.running hl hp hs with hold | hstarted
        · rw [hstill] at hold
          cases hold
        · -- its pid file would hold a pid that was not given
          obtain ⟨⟨-, -, t, htext, hnames⟩, -⟩ :=
            (Mesh.stateOf_eq_running_iff (htended.linkless hl) hp).mp hs
          rw [hsame p _ fun hw => hpi ((hown p _ hw).2 hp)] at htext
          have hgiven := hc.given p pid ⟨t, htext, hnames⟩
          have hnew := (htended.started pid hstarted).1
          omega

end Told

section Withdrawn

variable {m : Mesh} {base : Location} {own names : List Text} {v : Shelf} {o h : Host}

/-- **A sibling told** that some lines are gone. Its daemon is restarted if it ran; if that fails,
it does not run any more.

**Proof sketch.** The forwarders are written, since their path is taken and the network is there;
that tells the sibling once. Then its daemon is restarted, and if this fails, the daemon has been
stopped before. -/
theorem told_apply (hh : h.Holds m.settings.rootDir base v) (hc : Host.Continues base o h)
    {u : SiblingUpdate} (hu : u.sibling.IsBelow m.settings.rootDir) {p : Text}
    (hp : u.sibling.network = p) (hnet : v.isNetwork p = true)
    (ha : Admits (m.settings.rootDir.fileOf p localServersName) p)
    (hsome : (Forwarders.remove (v.forwarders p) own).changed = true)
    (hlines : u.lines = (Forwarders.remove (v.forwarders p) own).lines)
    (hf : Host.Faithful m.settings.rootDir base h (u.apply h).2) :
    m.Told base own (fun q => if q = p then 1 else 0) h (u.apply h).2 ∧
      (u.apply h).2.Holds m.settings.rootDir base
        (v.revise [p] fun q => Forwarders.remove (v.forwarders q) own) ∧
      ((u.apply h).1 = .ok () ∨ (∃ fault, (u.apply h).1 = .error fault) ∧
        m.stateOf h p ≠ .notRunning ∧ m.stateOf (u.apply h).2 p = .notRunning) := by
  subst hp
  have hl := hh.inOrder.linkless
  have htext : h.disk.fileText base u.sibling.network localServersName =
      v.text? u.sibling.network localServersName := by
    rw [← hh.shelf_eq]
    exact (text?_shelf_eq (by decide) _).symm
  have hthere : h.disk.HasNetwork base u.sibling.network := by
    rw [← isNetwork_shelf_iff, hh.shelf_eq]
    exact hnet
  obtain ⟨-, -, hok, hw⟩ := (hh.inOrder.files_write hu.name isFileName_localServersName
    (Forwarders.toText u.lines)).resolve_right fun hno => hno.1 ⟨ha, hthere⟩
  have happly : u.apply h = u.sibling.supervisor.restartIfRunning
      (Files.write (m.settings.rootDir.fileOf u.sibling.network localServersName)
        (Forwarders.toText u.lines) h).2 := by
    unfold SiblingUpdate.apply Forwarders.writeLines
    rw [run_bind, hu.localServersFile]
    generalize Files.write _ _ h = written at hok
    obtain ⟨r, w⟩ := written
    obtain rfl : r = .ok () := hok
    rfl
  generalize (Files.write _ _ h).2 = w at hw happly
  rw [happly] at hf ⊢
  have hwritten : m.Told base own (fun q => if q = u.sibling.network then 1 else 0) h w := by
    refine (Told.of_wrote hl hw (by decide) fun _ => ?_).congr fun q => by simp
    rw [htext, hlines]
    exact ⟨hsome, rfl⟩
  have hw' : w.Holds m.settings.rootDir base
      (v.revise [u.sibling.network] fun q => Forwarders.remove (v.forwarders q) own) := by
    refine ⟨hw.inOrder hh.inOrder hthere, ?_⟩
    rw [hw.shelf (by decide), hh.shelf_eq, Shelf.revise_singleton, if_pos hsome, hlines]
  have hrec := u.sibling.supervisor.records_restartIfRunning w
  have hf' := (hf.split hwritten.journal hrec).2
  have htold := hwritten.restarted (hwritten.continues o hc) hw'.inOrder.linkless hu (by simp) hf'
  obtain ⟨hdone, hfailed⟩ := (u.sibling.supervisor.serves_restartIfRunning _).holds w hw' hf'.tame
  refine ⟨htold, ?_, ?_⟩
  · cases hr : (u.sibling.supervisor.restartIfRunning w).1 with
    | ok _ => exact hdone _ hr
    | error fault => exact (hfailed fault hr).1
  · refine (u.sibling.supervisor.restartIfRunning_outcome w).imp_right fun ⟨hr, hran, hdead⟩ => ?_
    rw [Mesh.stateOf_eq hu] at hran hdead
    exact ⟨hr, hwritten.runs _ hu.name hran, hdead⟩

end Withdrawn

end Mesh

/-! ## A withdrawal -/

/-- How often each of some networks is told that lines are gone: once, if it has any of them. -/
def Shelf.due (v : Shelf) (own names : List Text) (p : Text) : Nat :=
  if names.contains p && (Forwarders.remove (v.forwarders p) own).changed then 1 else 0

/-- A network that is not listed is not due to be told. -/
lemma Shelf.due_of_not_mem {v : Shelf} {own names : List Text} {p : Text} (hp : p ∉ names) :
    v.due own names p = 0 :=
  if_neg (by simp [hp])

namespace Mesh

/-- Each of some networks was told that lines are gone. -/
structure ToldAll (m : Mesh) (base : Location) (v : Shelf) (own names : List Text) (h k : Host) :
    Prop where
  /-- Nothing else was done. -/
  told : m.Told base own (v.due own names) h k
  /-- The lines are gone. -/
  holds : k.Holds m.settings.rootDir base
    (v.revise names fun p => Forwarders.remove (v.forwarders p) own)

/-- A withdrawal has ended early: the system does not take a path, or the daemon of a network that
was told could not be restarted. -/
structure CutShort (m : Mesh) (base : Location) (v : Shelf) (own names : List Text) (h k : Host) :
    Prop where
  /-- Some of the networks were told. -/
  toldSome : ∃ done, done <+: names ∧ m.ToldAll base v own done h k
  /-- What has ended it. -/
  cause : (∃ p ∈ names, ¬ Admits (m.settings.rootDir.fileOf p localServersName) p) ∨
    ∃ p ∈ names, (Forwarders.remove (v.forwarders p) own).changed = true ∧
      m.stateOf h p ≠ .notRunning ∧ m.stateOf k p = .notRunning

section Withdrawal

variable {m : Mesh} {base : Location} {own names : List Text} {n : Text} {v : Shelf}
  {o h k l : Host}

/-- Nobody has any of the lines.

**Proof sketch.** No network is due, and the revision that nobody is due for changes nothing. -/
lemma ToldAll.refl (hh : h.Holds m.settings.rootDir base v)
    (hnone : ∀ p ∈ names, (Forwarders.remove (v.forwarders p) own).changed = false) :
    m.ToldAll base v own names h h where
  told := by
    refine (Told.refl m base own h).congr fun p => (if_neg fun hdue => ?_).symm
    rw [Bool.and_eq_true, List.contains_iff_mem] at hdue
    rw [hnone p hdue.1] at hdue
    cases hdue.2
  holds := by
    have hsame : v.revise names (fun p => Forwarders.remove (v.forwarders p) own) = v := by
      ext p f x
      · rfl
      · simp only [Shelf.revise]
        rw [if_neg]
        rintro ⟨-, hp, hc⟩
        rw [hnone p hp] at hc
        cases hc
    rw [hsame]
    exact hh

/-- An effect that changes nothing. -/
lemma ToldAll.record (ht : m.ToldAll base v own names h k) {e : Event}
    (he : ∀ p, e ≠ .toldOf base p) : m.ToldAll base v own names h (k.record e) where
  told := ht.told.record he
  holds := ht.holds.of_disk rfl

/-- One network told, and then the others.

**Proof sketch.** A network is due for the first part or for the others, as it is not named twice.
What the first part has made of its file does not concern the others. -/
lemma ToldAll.cons (hn : n ∉ names) (h₁ : m.ToldAll base v own [n] h k)
    (h₂ : m.ToldAll base (v.revise [n] fun p => Forwarders.remove (v.forwarders p) own) own names
      k l) : m.ToldAll base v own (n :: names) h l where
  told := by
    refine (h₁.told.trans h₂.told).congr fun p => ?_
    unfold Shelf.due
    by_cases hp : p = n
    · subst hp
      simp [hn]
    · rw [forwarders_revise_of_not_mem (by simpa using hp)]
      simp [hp]
  holds := by
    rw [revise_cons_remove hn]
    exact h₂.holds

/-- One network told, and then the others in part.

**Proof sketch.** What has been told is one network longer, and what cut the round short is the
same. -/
lemma CutShort.cons (hnames : ∀ p ∈ n :: names, Settings.isNetworkName p = true) (hn : n ∉ names)
    (h₁ : m.ToldAll base v own [n] h k)
    (h₂ : m.CutShort base (v.revise [n] fun p => Forwarders.remove (v.forwarders p) own) own names
      k l) : m.CutShort base v own (n :: names) h l where
  toldSome := by
    obtain ⟨done, hdone, htold⟩ := h₂.toldSome
    exact ⟨n :: done, by simpa using hdone, h₁.cons (fun hm => hn (hdone.subset hm)) htold⟩
  cause := by
    refine h₂.cause.imp (fun ⟨p, hp, hno⟩ => ⟨p, by simp [hp], hno⟩)
      fun ⟨p, hp, hsome, hran, hdead⟩ => ⟨p, by simp [hp], ?_, ?_, hdead⟩
    · rwa [forwarders_revise_of_not_mem] at hsome
      rintro hpn
      exact hn (List.mem_singleton.mp hpn ▸ hp)
    · exact h₁.told.runs p (hnames p (by simp [hp])) hran

/-- **Lines withdrawn** from siblings in turn: each is told, or that was cut short.

**Proof sketch.** Induction on the names. The sibling at the head has no line, or is told by
`told_apply`; the rest goes on from there. Where its file cannot be read or its daemon cannot be
restarted, the withdrawal is cut short at it. -/
theorem told_withdrawFrom (hh : h.Holds m.settings.rootDir base v) (hc : Host.Continues base o h)
    (hfound : (Settings.locate? o m.settings.binary).isSome = true)
    (hnames : ∀ p ∈ names, v.isNetwork p = true) (hnd : names.Nodup)
    (hf : Host.Faithful m.settings.rootDir base h (withdrawFrom m.settings own names h).2) :
    (withdrawFrom m.settings own names).Ends h
      (fun _ k => m.ToldAll base v own names h k ∧
        ∀ p ∈ names, Admits (m.settings.rootDir.fileOf p localServersName) p)
      (fun _ k => m.CutShort base v own names h k) := by
  induction names generalizing v h with
  | nil => exact ⟨.refl hh (by simp), by simp⟩
  | cons n names ih =>
    obtain ⟨hn, hnd'⟩ := List.nodup_cons.mp hnd
    have hproper : ∀ p ∈ n :: names, Settings.isNetworkName p = true :=
      fun p hp => hh.isNetworkName (hnames p hp)
    have hnet := hnames n (by simp)
    -- the rest of the list goes on once the first network is told, or has no line of them
    have hgo : ∀ k, m.ToldAll base v own [n] h k →
        Admits (m.settings.rootDir.fileOf n localServersName) n →
        Host.Faithful m.settings.rootDir base k (withdrawFrom m.settings own names k).2 →
        (withdrawFrom m.settings own names).Ends k
          (fun _ l => m.ToldAll base v own (n :: names) h l ∧
            ∀ p ∈ n :: names, Admits (m.settings.rootDir.fileOf p localServersName) p)
          (fun _ l => m.CutShort base v own (n :: names) h l) := by
      intro k hk ha hf'
      refine (ih hk.holds (hk.told.continues o hc) (fun p hp => ?_) hnd' hf').mono
        (fun _ l hl => ⟨hk.cons hn hl.1, ?_⟩) fun _ l hl => hl.cons hproper hn hk
      · exact hnames p (by simp [hp])
      · simpa [ha] using hl.2
    obtain ⟨i, hi, hb, hin⟩ :=
      Settings.exists_resolve (hc.found hfound) (hproper n (by simp)) [] true
    unfold Ends
    by_cases ha : Admits (m.settings.rootDir.fileOf n localServersName) n
    swap
    · rcases hh.readLines_local hnet with ⟨ha', -⟩ | ⟨e, hr⟩
      · exact absurd ha' ha
      · rw [← hin, ← hb.localServersFile] at hr
        rw [withdrawFrom_cons_of_not_read hi hr]
        exact ⟨⟨[], List.nil_prefix, .refl hh (by simp)⟩, .inl ⟨n, by simp, ha⟩⟩
    have hread : Forwarders.readLines i.localServersFile h = .ok (v.forwarders n) := by
      rw [hb.localServersFile, hin, hh.readLines_local_of_admits hnet ha]
    by_cases hsome : (Forwarders.remove (v.forwarders n) own).changed = true
    swap
    · rw [withdrawFrom_cons_of_unchanged hi hread hsome] at hf ⊢
      exact hgo h (.refl hh (by simpa using hsome)) ha hf
    rw [withdrawFrom_cons_of_changed hi hread hsome, run_bind] at hf ⊢
    have hrest := records_withdrawFrom m.settings own names
    generalize hu : (⟨i, (Forwarders.remove (v.forwarders n) own).lines⟩ : SiblingUpdate) = u
      at hf ⊢
    have hrec := u.records_apply h
    have hone := told_apply hh hc (u := u) (by rw [← hu]; exact hb)
      (by rw [← hu]; exact hin) hnet ha hsome (by rw [← hu])
    have hdue : ∀ p, (if p = n then 1 else 0) = v.due own [n] p := by
      intro p
      unfold Shelf.due
      by_cases hp : p = n <;> simp [hp, hsome]
    rcases hr : u.apply h with ⟨fault | r, k⟩ <;> rw [hr] at hf hrec hone
    · obtain ⟨htold, hk, hend⟩ := hone hf
      obtain ⟨-, hran, hdead⟩ := hend.resolve_left (by simp)
      exact ⟨⟨[n], by simp, htold.congr hdue, hk⟩, .inr ⟨n, by simp, hsome, hran, hdead⟩⟩
    · obtain ⟨hfk, hf'⟩ := hf.split hrec (hrest k)
      obtain ⟨htold, hk, -⟩ := hone hfk
      exact hgo k ⟨htold.congr hdue, hk⟩ ha hf'

end Withdrawal

end Mesh

end ResolverMesh
