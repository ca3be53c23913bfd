import ResolverMesh.Proofs.SiblingsSpared

set_option autoImplicit false
set_option relaxedAutoImplicit false

/-!
# Runs of a daemon's program

The program of a daemon is run with the configuration of a network, and a daemon that it leaves
behind writes its pid where that configuration says. This module reads off the definitions which
path that is, that the pid is read back from there, and how starting, stopping and waking a daemon
end.

## Main definitions

* `ResolverMesh.Host.launching` — a host on which a command has begun to run.
* `ResolverMesh.Host.leftBehind` — a host on which a daemon has been left behind.
* `ResolverMesh.Host.stopped` — a host on which a daemon has been killed.

## Main results

* `ResolverMesh.PidFile.ofText_pidLine` — a pid is read back as it was written.
* `ResolverMesh.Launch.pidFileOf?_configLines` — a configuration names its network's pid file.
* `ResolverMesh.Launch.run_cases`, `ResolverMesh.Supervisor.start_cases` — a daemon started.
* `ResolverMesh.Supervisor.stop_of_accepts`, `ResolverMesh.Supervisor.hup_of_running` — one that
  runs, stopped and woken.
-/

namespace ResolverMesh

open ResolverMesh.Action Disk

/-! ## Pids in decimal -/

namespace Text

/-- A digit has the value that it is written for. -/
lemma digit?_digitChar {d : Nat} (hd : d < 10) : digit? 10 (Nat.digitChar d) = some d := by
  have hall : ∀ d < 10, digit? 10 (Nat.digitChar d) = some d := by decide
  exact hall d hd

/-- A number is read back as it was written.

**Proof sketch.** Induction on the number. Its last digit is read last, on top of the number of the
others. -/
theorem number?_decimal (n : Nat) : number? 10 (decimal n) = some n := by
  unfold decimal
  induction n using Nat.strongRecOn with
  | ind n ih =>
    rw [Nat.toDigits_eq_if (by omega)]
    split
    · next hn => simp [number?, numberFrom, digit?_digitChar hn]
    · next hn =>
      have hne : Nat.toDigits 10 (n / 10) ≠ [] := by
        intro hnil
        have hval := ih (n / 10) (by omega)
        rw [hnil] at hval
        cases hval
      rw [number?_append hne, ih (n / 10) (by omega)]
      simp only [Option.bind_some, numberFrom, digit?_digitChar (Nat.mod_lt n (by omega : 0 < 10)),
        Option.some.injEq]
      omega

/-- A number is written without blanks. -/
lemma not_blank_of_mem_decimal {n : Nat} {c : Char} (hc : c ∈ decimal n) : isBlank c = false := by
  have hall : ∀ d < 10, isBlank (Nat.digitChar d) = false := by decide
  obtain ⟨d, hd, rfl⟩ := mem_toDigits (by omega) hc
  exact hall d hd

/-- A text without blanks is what is left of its line.

**Proof sketch.** The text begins and ends with no blank, so only the line feed is taken off. -/
lemma trim_append_newline {t : Text} (ht : ∀ c ∈ t, isBlank c = false) :
    trim (t ++ ['\n']) = t := by
  have hdrop : ∀ s : Text, (∀ c ∈ s, isBlank c = false) → s.dropWhile isBlank = s := by
    intro s hs
    cases s with
    | nil => rfl
    | cons c cs => rw [List.dropWhile_cons_of_neg (by simp [hs c (by simp)])]
  have hend : isBlank '\n' = true := by decide
  unfold trim
  cases t with
  | nil => simp [hend]
  | cons c cs =>
    rw [List.cons_append, List.dropWhile_cons_of_neg (by simp [ht c (by simp)]), ← List.cons_append,
      List.reverse_append, List.reverse_singleton, List.singleton_append,
      List.dropWhile_cons_of_pos hend, hdrop _ fun d hd => ht d (List.mem_reverse.mp hd),
      List.reverse_reverse]

end Text

/-- **The line of a pid** is read back as that pid, or as none if it is out of range.

**Proof sketch.** The line feed is trimmed, and the digits are read back by `Text.number?_decimal`.
There is no plus sign among them. -/
theorem PidFile.ofText_pidLine_eq (pid : Nat) : ofText (Launch.pidLine pid) =
    if 0 < pid ∧ pid ≤ greatestPid then .pid pid else .corrupt (Text.decimal pid) := by
  have hplus : '+' ∉ Text.decimal pid := by
    intro hmem
    have hall : ∀ d < 10, '+' ≠ Nat.digitChar d := by decide
    obtain ⟨d, hd, heq⟩ := Text.mem_toDigits (by omega) hmem
    exact hall d hd heq
  have hparse : parsePid? (Text.decimal pid) =
      if 0 < pid ∧ pid ≤ greatestPid then some pid else none := by
    unfold parsePid?
    split
    · next rest heq => simp [heq] at hplus
    · rw [Text.number?_decimal]
      simp [Option.filter, Nat.one_le_iff_ne_zero, Nat.pos_iff_ne_zero]
  unfold ofText Launch.pidLine
  rw [Text.trim_append_newline fun c hc => Text.not_blank_of_mem_decimal hc, hparse]
  by_cases hfits : 0 < pid ∧ pid ≤ greatestPid
  · rw [if_pos hfits, if_pos hfits]
  · rw [if_neg hfits, if_neg hfits]

/-- The line of a pid that is in range is read back as that pid. -/
theorem PidFile.ofText_pidLine {pid : Nat} (hpos : 0 < pid) (hle : pid ≤ greatestPid) :
    ofText (Launch.pidLine pid) = .pid pid := by
  rw [ofText_pidLine_eq, if_pos ⟨hpos, hle⟩]

/-! ## The pid file that a configuration names -/

/-- A path joined with a name holds the characters of both and a slash. -/
lemma Path.not_mem_text_join {p : Path} {name : Text} {c : Char} (hp : c ∉ p.text) (hn : c ∉ name)
    (hc : c ≠ '/') : c ∉ (p.join name).text := by
  unfold join
  split
  · exact hn
  · split <;> simp [hp, hn, hc]

/-- A configuration has no broken line if the directory, the domain and the interface are each on
one line.

**Proof sketch.** A path of the directory is on one line as the directory is, since the names of
files are. So each line is, whatever stands in it. -/
lemma Instance.not_mem_configLines {i : Instance} {interface : Text} (hdir : '\n' ∉ i.dir.text)
    (hdomain : '\n' ∉ i.domain) (hinterface : '\n' ∉ interface) :
    ∀ l ∈ i.configLines interface, '\n' ∉ l := by
  have hfile : ∀ f : Text, '\n' ∉ f → '\n' ∉ (i.dir.join f).text :=
    fun f hf => Path.not_mem_text_join hdir hf (by decide)
  have hdirective : ∀ (key : String) (value : Text), '\n' ∉ key.toList → '\n' ∉ value →
      '\n' ∉ directive key value := by
    intro key value hk hv
    simp [directive, hk, hv]
  have hlines : ∀ l ∈ domainLines i.domain, '\n' ∉ l := by
    intro l hl
    unfold domainLines at hl
    split at hl
    · cases hl
    · simp only [List.mem_cons, List.not_mem_nil, or_false] at hl
      rcases hl with rfl | rfl | rfl
      · exact hdirective _ _ (by decide) (by simp [hdomain])
      · exact hdirective _ _ (by decide) hdomain
      · decide
  intro l hl
  unfold configLines at hl
  rcases List.mem_append.mp hl with hl | hl
  · rcases List.mem_append.mp hl with hl | hl
    · have hmarker : ∀ l ∈ marker ++ ["strict-order".toList], '\n' ∉ l := by decide
      exact hmarker l hl
    · exact hlines l hl
  · simp only [List.mem_cons, List.not_mem_nil, or_false] at hl
    rcases hl with rfl | rfl | rfl | rfl | rfl | rfl | rfl
    · exact hdirective _ _ (by decide) (hfile _ (by decide))
    · decide
    · decide
    · decide
    · exact hdirective _ _ (by decide) hinterface
    · exact hdirective _ _ (by decide) (hfile _ (by decide))
    · exact hdirective _ _ (by decide) (hfile _ (by decide))

/-- A line that begins with another letter does not name a pid file.

**Proof sketch.** The key begins with a 'p', and taking off a carriage return leaves the first
letter as it is. -/
lemma Launch.after?_pidFileKey_of_head? {l : Text} (hl : l.head? ≠ some 'p') :
    after? pidFileKey (Text.dropReturn l) = none := by
  have hdrop : Text.dropReturn l <+: l := by
    unfold Text.dropReturn
    split
    · exact List.dropLast_prefix l
    · exact List.prefix_refl l
  unfold after?
  rw [if_neg]
  intro hpre
  obtain ⟨rest, rfl⟩ := (List.isPrefixOf_iff_prefix.mp hpre).trans hdrop
  exact hl rfl

/-- **The configuration of a network names its pid file**, if none of its lines is broken.

**Proof sketch.** None of the lines before begins with the key, and the line itself ends with the
name of the file, so it is read back whole. -/
theorem Launch.pidFileOf?_configLines {i : Instance} {interface : Text}
    (hl : ∀ l ∈ i.configLines interface, '\n' ∉ l) :
    pidFileOf? (Text.unlines (i.configLines interface)) = some i.pidFile := by
  have hdomain : ∀ l ∈ Instance.domainLines i.domain, l.head? ≠ some 'p' := by
    intro l hmem
    unfold Instance.domainLines Instance.directive at hmem
    split at hmem
    · cases hmem
    · simp only [List.mem_cons, List.not_mem_nil, or_false] at hmem
      rcases hmem with rfl | rfl | rfl <;> simp
  have hbefore : ∀ l ∈ Instance.marker ++ ["strict-order".toList] ++ Instance.domainLines i.domain,
      after? pidFileKey (Text.dropReturn l) = none := by
    intro l hmem
    refine after?_pidFileKey_of_head? ?_
    rcases List.mem_append.mp hmem with hmem | hmem
    · have hmarker : ∀ l ∈ Instance.marker ++ ["strict-order".toList], l.head? ≠ some 'p' := by
        decide
      exact hmarker l hmem
    · exact hdomain l hmem
  have hline : after? pidFileKey (Text.dropReturn (Instance.directive "pid-file" i.pidFile.text)) =
      some i.pidFile.text := by
    have hname : ∃ xs, Instance.directive "pid-file" i.pidFile.text = xs ++ "pidfile".toList := by
      have hplain : Path.IsPlain "pidfile".toList := by decide
      unfold Instance.directive Instance.pidFile Path.join
      rw [if_neg hplain.head?_ne]
      split
      · exact ⟨"pid-file=".toList ++ i.dir.text, by simp⟩
      · exact ⟨"pid-file=".toList ++ i.dir.text ++ ['/'], by simp⟩
    obtain ⟨xs, hxs⟩ := hname
    have hlast : (xs ++ "pidfile".toList).getLast? ≠ some '\r' := by
      have hend : "pidfile".toList.getLast? = some 'e' := by decide
      rw [List.getLast?_append, hend, Option.some_or]
      decide
    rw [hxs, Text.dropReturn_of_ne hlast, ← hxs]
    rfl
  unfold pidFileOf?
  rw [Text.lines_unlines_of_newline hl]
  unfold Instance.configLines
  rw [List.map_append, List.findSome?_append, List.findSome?_eq_none_iff.mpr ?_, List.map_cons,
    List.findSome?_cons, hline]
  · rfl
  · intro l hmem
    obtain ⟨l', hmem', rfl⟩ := List.mem_map.mp hmem
    exact hbefore l' hmem'

/-! ## How a daemon is started -/

namespace Host

/-- The host on which a command has begun to run. -/
def launching (h : Host) (command : List Text) : Host :=
  ({ h.record (.launched command) with
    programs := fun n => if n = Launch.programName command
      then (h.programs (Launch.programName command)).advance else h.programs n } : Host).record
    (.began command)

/-- The host on which a daemon has been left behind that has written its pid. -/
def leftBehind (h : Host) (c : Disk.Change) : Host :=
  (({ h with disk := c.disk }.addProcess).record (.daemonStarted h.nextPid)).record
    (.pidWritten c.loc)

/-- A program that leaves a daemon behind has four effects. -/
lemma journal_leftBehind (h : Host) (command : List Text) (c : Disk.Change) :
    ((h.launching command).leftBehind c).journal = h.journal ++
      [.launched command, .began command, .daemonStarted h.nextPid, .pidWritten c.loc] := by
  simp [launching, leftBehind, record, addProcess]

/-- It only adds to the journal. -/
lemma prefix_leftBehind (h : Host) (command : List Text) (c : Disk.Change) :
    h.journal <+: ((h.launching command).leftBehind c).journal :=
  ⟨_, (h.journal_leftBehind command c).symm⟩

/-- The host on which a daemon has been killed as a process, and that has been logged. -/
def stopped (h : Host) (pid : Nat) : Host :=
  ((h.record (.signalled pid Signal.terminate)).kill pid).record (.logged (.stoppedDaemon pid))

/-- A daemon that is stopped has two effects. -/
lemma journal_stopped (h : Host) (pid : Nat) : (h.stopped pid).journal =
    h.journal ++ [.signalled pid Signal.terminate, .logged (.stoppedDaemon pid)] := by
  simp [stopped, record, kill]

/-- These, too, are only added to the journal. -/
lemma prefix_stopped (h : Host) (pid : Nat) : h.journal <+: (h.stopped pid).journal :=
  ⟨_, (h.journal_stopped pid).symm⟩

end Host

/-- **A program run**: it cannot be run, or it ends without leaving a daemon behind, or it leaves
one behind that has written its pid to the path that its configuration names.

**Proof sketch.** The program is not found, or it runs and its next outcome says how. A daemon is
left behind only if the configuration names a pid file that can be written. -/
theorem Launch.run_cases (program : Path) (args : List Text) (h : Host) :
    (∃ fault, run program args h =
        (.error fault, h.record (.launched (program.text :: args)))) ∨
      (∃ finished, run program args h = (.ok finished, h.launching (program.text :: args)) ∧
        (finished.success = true → ∃ code,
          (h.programs (programName (program.text :: args))).next.ending = .exit code ∧
            code % 256 = 0)) ∨
      ∃ finished pidFile c,
        run program args h = (.ok finished, (h.launching (program.text :: args)).leftBehind c) ∧
        finished.success = true ∧
        pidFileOf? (configOf h.disk (program.text :: args)) = some pidFile ∧
        h.disk.writeText pidFile (pidLine h.nextPid) = .ok c := by
  generalize hcommand : program.text :: args = command
  have hrun : ∀ k : Host, k = h.record (.launched command) →
      (∃ finished, runProgram command k = (.ok finished, h.launching command) ∧
        (finished.success = true → ∃ code,
          (h.programs (programName command)).next.ending = .exit code ∧ code % 256 = 0)) ∨
      ∃ finished pidFile c,
        runProgram command k = (.ok finished, (h.launching command).leftBehind c) ∧
        finished.success = true ∧ pidFileOf? (configOf h.disk command) = some pidFile ∧
        h.disk.writeText pidFile (pidLine h.nextPid) = .ok c := by
    rintro k rfl
    unfold runProgram
    dsimp only
    have hprograms : (h.record (.launched command)).programs = h.programs := rfl
    rw [hprograms]
    cases hend : (h.programs (programName command)).next.ending with
    | exit code => exact .inl ⟨_, rfl, fun hs => ⟨code, rfl, by simpa using hs⟩⟩
    | dies => exact .inl ⟨_, rfl, fun hs => by cases hs⟩
    | daemonizes excuse =>
      unfold daemonize
      dsimp only [Host.record]
      cases hp : pidFileOf? (configOf h.disk command) with
      | none => exact .inl ⟨_, rfl, fun hs => by cases hs⟩
      | some pidFile =>
        dsimp only
        cases hw : h.disk.writeText pidFile (pidLine h.nextPid) with
        | error e => exact .inl ⟨_, rfl, fun hs => by cases hs⟩
        | ok c => exact .inr ⟨_, pidFile, c, rfl, rfl, rfl, hw⟩
  unfold run
  dsimp only
  rw [hcommand, run_bind, run_record]
  dsimp only
  split
  · exact .inl ⟨_, rfl⟩
  · rw [run_bind, run_ask]
    cases hfind :
        (findProgram (h.record (.launched command)) program command).mapError Fault.io with
    | error fault => exact .inl ⟨fault, rfl⟩
    | ok u => exact .inr (hrun _ rfl)

namespace Supervisor

/-- The command that starts the daemon. -/
def command (s : Supervisor) : List Text :=
  s.binary.text :: s.arguments

/-- **A daemon started**: that fails, or its program succeeds and leaves nothing behind, or it
leaves a daemon behind.

**Proof sketch.** By how the run of the program ends: it cannot be run, it exits, or it leaves a
daemon. Of the runs that exit only those with success let the start succeed. -/
theorem start_cases (s : Supervisor) (h : Host) :
    (∃ fault, s.start h = (.error fault, h.record (.launched s.command)) ∨
        s.start h = (.error fault, h.launching s.command)) ∨
      (s.start h = (.ok (), (h.launching s.command).record
          (.logged (.startedDaemon s.configFile))) ∧ ∃ code,
        (h.programs (Launch.programName s.command)).next.ending = .exit code ∧ code % 256 = 0) ∨
      ∃ pidFile c, s.start h = (.ok (), ((h.launching s.command).leftBehind c).record
          (.logged (.startedDaemon s.configFile))) ∧
        Launch.pidFileOf? (Launch.configOf h.disk s.command) = some pidFile ∧
        h.disk.writeText pidFile (Launch.pidLine h.nextPid) = .ok c := by
  unfold start
  rw [run_bind]
  rcases Launch.run_cases s.binary s.arguments h with
    ⟨fault, hr⟩ | ⟨finished, hr, hexit⟩ | ⟨finished, pidFile, c, hr, hs, hp, hw⟩ <;> rw [hr]
  · exact .inl ⟨fault, .inl rfl⟩
  · dsimp only
    by_cases hs : finished.success = true
    · rw [if_pos hs]
      exact .inr (.inl ⟨rfl, hexit hs⟩)
    · rw [if_neg hs]
      exact .inl ⟨_, .inr rfl⟩
  · dsimp only
    rw [if_pos hs]
    exact .inr (.inr ⟨pidFile, c, rfl, hp, hw⟩)

end Supervisor

/-- The command that starts the daemon of a network names the network's configuration. -/
lemma Instance.IsBelow.isFor_command {i : Instance} {root : Path} (hi : i.IsBelow root) :
    Launch.IsFor root i.network i.supervisor.command := by
  unfold Launch.IsFor
  rw [← hi.configFile]
  rfl

/-! ## How a daemon is stopped and woken -/

/-- A process takes the probe just if it lives. -/
lemma Signal.accepts_iff {h : Host} {pid : Nat} :
    accepts h pid = true ↔ 0 < pid ∧ h.isAlive pid = true := by
  unfold accepts refusal
  by_cases hpos : 0 < pid
  · rw [if_neg (by omega)]
    cases hl : h.isAlive pid <;> simp [hpos, probe, greatest]
  · rw [if_pos (by omega)]
    simp [hpos]

/-- A process that takes the probe takes other signals, too. -/
lemma Signal.send_of_accepts {h : Host} {pid : Nat} {signal : Int} (hpid : accepts h pid = true)
    (hs : 0 ≤ signal ∧ signal ≤ greatest) :
    send pid signal h = (.ok (), deliver pid signal h) := by
  obtain ⟨hpos, hl⟩ := accepts_iff.mp hpid
  have hnone : refusal h pid signal = none := by
    unfold refusal
    rw [if_neg (by omega), if_neg (by simp [hl]), if_neg (by omega)]
  unfold send
  rw [hnone]
  rfl

/-- A daemon that runs is told to read its files again.

**Proof sketch.** A daemon runs as a pid that takes a signal, so the signal is sent and not
refused. -/
lemma Supervisor.hup_of_running {s : Supervisor} {h : Host} {pid : Nat}
    (hs : s.stateOn h = .running pid) :
    s.hup h = (.ok (), h.record (.signalled pid Signal.reload)) := by
  have ha : Signal.accepts h pid = true := by
    unfold stateOn at hs
    split at hs
    · split at hs
      · next hacc =>
        cases hs
        exact hacc
      · cases hs
    · cases hs
  have hcast : (pid : Int).toNat = pid := rfl
  unfold hup state
  rw [run_bind, run_lift, hs]
  dsimp only
  rw [run_bind, run_attempt, Signal.send_of_accepts ha (by decide)]
  rfl

/-- A daemon that takes signals is stopped by one. -/
lemma Supervisor.stop_of_accepts {s : Supervisor} {h : Host} {pid : Nat}
    (hr : PidFile.read h.disk s.pidFile = .pid pid) (ha : Signal.accepts h pid = true) :
    s.stop h = (.ok (), h.stopped pid) := by
  unfold stop
  rw [run_bind, run_ask, hr]
  dsimp only
  rw [run_bind, run_attempt, Signal.send_of_accepts ha (by decide)]
  rfl

/-- A daemon that takes no signals is stopped already, or its pid file is at fault.

**Proof sketch.** Case by case on what the pid file holds. A pid that takes no signal lets the send
fail, because there is no such process or because the pid cannot be signalled. -/
lemma Supervisor.stop_of_not_accepts (s : Supervisor) {h : Host} (hno : ¬ ∃ pid : Nat,
    PidFile.read h.disk s.pidFile = .pid pid ∧ Signal.accepts h pid = true) :
    s.stop h = (.ok (), h) ∨ (∃ fault, s.stop h = (.error fault, h)) ∨
      ∃ entry, s.stop h = (.ok (), h.record (.logged entry)) := by
  unfold stop
  rw [run_bind, run_ask]
  cases hr : PidFile.read h.disk s.pidFile with
  | missing => exact .inl rfl
  | unreadable cause => exact .inr (.inl ⟨_, rfl⟩)
  | corrupt content => exact .inr (.inr ⟨_, rfl⟩)
  | pid p =>
    have ha : Signal.accepts h p = false := by
      rw [← Bool.not_eq_true]
      exact fun ha => hno ⟨p, hr, ha⟩
    obtain ⟨fault, hsend⟩ := Signal.send_of_not_accepts ha Signal.terminate
    dsimp only
    rw [run_bind, run_attempt, hsend]
    cases fault <;> first
      | exact .inl rfl
      | exact .inr (.inl ⟨_, rfl⟩)

/-- **A daemon restarted**: nothing is done if it does not run. If not, it is stopped, and started
from there if it could be.

**Proof sketch.** A daemon that runs is stopped. The start follows if that has succeeded, with a
line of the log before it if the daemon has survived. -/
theorem Supervisor.restartIfRunning_cases (s : Supervisor) (h : Host) :
    s.restartIfRunning h = (.ok (), h) ∨
      (∃ fault, s.stop h = (.error fault, (s.restartIfRunning h).2)) ∨
      ∃ k, s.stop h = (.ok (), k) ∧ (s.restartIfRunning h = s.start k ∨
        ∃ entry, s.restartIfRunning h = s.start (k.record (.logged entry))) := by
  unfold restartIfRunning state
  rw [run_bind, run_lift]
  dsimp only
  cases s.stateOn h with
  | notRunning => exact .inl rfl
  | running p =>
    dsimp only
    rw [run_bind]
    rcases hr : s.stop h with ⟨fault | u, k⟩
    · exact .inr (.inl ⟨fault, rfl⟩)
    · refine .inr (.inr ⟨k, rfl, ?_⟩)
      dsimp only
      rw [run_bind, run_ask]
      dsimp only
      split
      · exact .inr ⟨_, rfl⟩
      · exact .inl rfl

end ResolverMesh
