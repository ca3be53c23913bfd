import Mathlib.Data.List.TakeWhile
import ResolverMesh.Proofs.AdmittedRequests
import ResolverMesh.Proofs.RestartedSiblings

set_option autoImplicit false
set_option relaxedAutoImplicit false

/-!
# What a pid file decides

Every request to a daemon reads its pid file anew, and the file may hold anything. Whether the
daemon runs, whom a signal is sent to, and whether a daemon is started is decided by one reading of
it: the file is a text, and the text is a number with blanks around it. A number that no pid can be,
a process that is gone, and all other contents make no difference to a missing file.

## Main definitions

* `ResolverMesh.PidFile.Spells` — a text that stands for a pid.
* `ResolverMesh.Supervisor.RunsAs` — the process that a daemon runs as.
* `ResolverMesh.Host.requestsSince` — the signals sent and the programs asked for, in order.
* `ResolverMesh.Supervisor.DecidesAlike` — all requests to a daemon go by the process it runs as.

## Main results

* `ResolverMesh.Text.trim_eq_iff` — a text without the blanks around it.
* `ResolverMesh.Text.number?_ten_eq_some_iff` — a number read from digits.
* `ResolverMesh.PidFile.ofText_eq_pid_iff` — the texts that stand for a pid are those that spell it.
* `ResolverMesh.Supervisor.decides_alike` — the requests to a daemon agree on its pid file.
-/

namespace ResolverMesh

open ResolverMesh.Action Disk

/-! ## Texts without the blanks around them -/

namespace Text

/-- A text that does not begin with a blank is left when blanks before it are dropped. -/
lemma dropWhile_isBlank_append {before t : Text} (hbefore : ∀ c ∈ before, isBlank c = true)
    (ht : ∀ c, t.head? = some c → isBlank c = false) :
    (before ++ t).dropWhile isBlank = t := by
  rw [List.dropWhile_append_of_pos hbefore]
  cases t with
  | nil => rfl
  | cons c cs => rw [List.dropWhile_cons_of_neg (by simp [ht c rfl])]

/-- **A text without the blanks around it** is what stands between blanks, and neither begins nor
ends with one.

**Proof sketch.** From left to right, the blanks dropped in front and behind are the two texts
around. From right to left, the first drop ends at the head of the core and the second one at its
end, as neither is blank; a core without characters is the case that all is blank. -/
theorem trim_eq_iff {t core : Text} : trim t = core ↔
    (∃ before after, t = before ++ core ++ after ∧
      (∀ c ∈ before, isBlank c = true) ∧ ∀ c ∈ after, isBlank c = true) ∧
    (∀ c, core.head? = some c → isBlank c = false) ∧
      ∀ c, core.getLast? = some c → isBlank c = false := by
  have hfirst : ∀ s : Text, ∀ c, (s.dropWhile isBlank).head? = some c → isBlank c = false := by
    intro s c hc
    have hnot := List.head?_dropWhile_not isBlank s
    rw [hc] at hnot
    exact hnot
  constructor
  · rintro rfl
    have hfront := @List.takeWhile_append_dropWhile _ isBlank t
    have hback := @List.takeWhile_append_dropWhile _ isBlank (t.dropWhile isBlank).reverse
    have hrest : trim t ++ ((t.dropWhile isBlank).reverse.takeWhile isBlank).reverse =
        t.dropWhile isBlank := by
      rw [trim, ← List.reverse_append, hback, List.reverse_reverse]
    refine ⟨⟨t.takeWhile isBlank, ((t.dropWhile isBlank).reverse.takeWhile isBlank).reverse, ?_,
      fun c => List.mem_takeWhile_imp, fun c hc => List.mem_takeWhile_imp (List.mem_reverse.mp hc)⟩,
      fun c hc => ?_, fun c hc => ?_⟩
    · rw [List.append_assoc, hrest, hfront]
    · -- what begins the trimmed text begins what is left once the first blanks are dropped
      refine hfirst t c ?_
      rw [← hrest, List.head?_append, hc, Option.some_or]
    · rw [trim, List.getLast?_reverse] at hc
      exact hfirst _ c hc
  · rintro ⟨⟨before, after, rfl, hbefore, hafter⟩, hhead, hlast⟩
    cases core with
    | nil =>
      have hall : ∀ c ∈ before ++ [] ++ after, isBlank c = true := by
        simpa [or_imp, forall_and] using ⟨hbefore, hafter⟩
      rw [trim, List.dropWhile_eq_nil_iff.mpr hall]
      rfl
    | cons c cs =>
      have hhead' : ∀ d, (c :: cs ++ after).head? = some d → isBlank d = false :=
        fun d hd => hhead d (by simpa using hd)
      have hlast' : ∀ d, (c :: cs).reverse.head? = some d → isBlank d = false :=
        fun d hd => hlast d (by rwa [List.head?_reverse] at hd)
      rw [trim, List.append_assoc, dropWhile_isBlank_append hbefore hhead', List.reverse_append,
        dropWhile_isBlank_append (fun d hd => hafter d (List.mem_reverse.mp hd)) hlast',
        List.reverse_reverse]

/-! ## Numbers in decimal -/

/-- The digits of base ten, by code point. -/
lemma isDigit_iff {c : Char} : c.isDigit = true ↔ 0x30 ≤ c.toNat ∧ c.toNat ≤ 0x39 := by
  unfold Char.isDigit
  rw [Bool.and_eq_true, decide_eq_true_eq, decide_eq_true_eq, ge_iff_le,
    UInt32.le_iff_toNat_le, UInt32.le_iff_toNat_le]
  rfl

/-- A digit of base ten.

**Proof sketch.** A letter stands for ten or more, which is no digit of base ten. -/
lemma digit?_ten (c : Char) :
    digit? 10 c = if c.isDigit then some (c.toNat - '0'.toNat) else none := by
  have hzero : '0'.toNat = 0x30 := rfl
  unfold digit?
  dsimp only
  rw [hzero]
  by_cases hc : c.isDigit = true
  · have hrange := isDigit_iff.mp hc
    rw [if_pos hrange, if_pos hc, Option.filter_some_pos (by simp; omega)]
  · have hrange : ¬ (0x30 ≤ c.toNat ∧ c.toNat ≤ 0x39) := fun h => hc (isDigit_iff.mpr h)
    rw [if_neg hrange, if_neg hc]
    -- a letter stands for ten or more
    split
    · simp
    · split <;> simp

/-- The value of digits after a number.

**Proof sketch.** By the digits, for any number before them: one that is no digit ends the reading
with nothing. -/
lemma numberFrom_ten_eq_some_iff {value n : Nat} {cs : Text} : numberFrom 10 value cs = some n ↔
    (∀ c ∈ cs, c.isDigit = true) ∧ Nat.ofDigitChars 10 cs value = n := by
  induction cs generalizing value with
  | nil => simp [numberFrom]
  | cons c cs ih =>
    rw [numberFrom, digit?_ten, Nat.ofDigitChars_cons]
    by_cases hc : c.isDigit = true
    · rw [if_pos hc, Option.bind_some, ih, Nat.mul_comm]
      simp [hc]
    · rw [if_neg hc]
      simp [hc]

/-- **A number read from digits**: there is one at least, and it is their value. -/
theorem number?_ten_eq_some_iff {n : Nat} {cs : Text} : number? 10 cs = some n ↔
    cs ≠ [] ∧ (∀ c ∈ cs, c.isDigit = true) ∧ Nat.ofDigitChars 10 cs 0 = n := by
  unfold number?
  cases cs with
  | nil => simp
  | cons c cs =>
    rw [List.isEmpty_cons, if_neg (by simp), numberFrom_ten_eq_some_iff]
    simp

/-- A digit is no blank. -/
lemma not_blank_of_isDigit {c : Char} (hc : c.isDigit = true) : isBlank c = false := by
  have hrange := isDigit_iff.mp hc
  unfold isBlank
  simp only [Bool.or_eq_false_iff, Bool.and_eq_false_iff, decide_eq_false_iff_not,
    beq_eq_false_iff_ne]
  omega

end Text

/-! ## The pid that a text spells -/

namespace PidFile

/-- A text spells a pid: there may be blanks around it, a plus sign may stand before it, and its
digits have a value from one to the greatest pid. -/
def Spells (t : Text) (pid : Nat) : Prop :=
  ∃ before sign digits after, t = before ++ (sign ++ digits) ++ after ∧
    (∀ c ∈ before, Text.isBlank c = true) ∧ (∀ c ∈ after, Text.isBlank c = true) ∧
    (sign = [] ∨ sign = ['+']) ∧ digits ≠ [] ∧ (∀ c ∈ digits, c.isDigit = true) ∧
    Nat.ofDigitChars 10 digits 0 = pid ∧ 1 ≤ pid ∧ pid ≤ greatestPid

/-- The number zero is not spelled. -/
lemma Spells.pos {t : Text} {pid : Nat} (h : Spells t pid) : 0 < pid := by
  obtain ⟨_, _, _, _, -, -, -, -, -, -, -, hpos, -⟩ := h
  exact hpos

/-- The pid that a text without blanks around it stands for.

**Proof sketch.** By the sign. A text of digits does not begin with a plus, so the two forms
exclude each other. -/
lemma parsePid?_eq_some_iff {cs : Text} {pid : Nat} : parsePid? cs = some pid ↔
    ∃ sign digits, cs = sign ++ digits ∧ (sign = [] ∨ sign = ['+']) ∧ digits ≠ [] ∧
      (∀ c ∈ digits, c.isDigit = true) ∧ Nat.ofDigitChars 10 digits 0 = pid ∧
      1 ≤ pid ∧ pid ≤ greatestPid := by
  have hplus : Char.isDigit '+' = false := by decide
  unfold parsePid?
  rw [Option.filter_eq_some_iff, decide_eq_true_eq, Text.number?_ten_eq_some_iff]
  constructor
  · rintro ⟨hnumber, hrange⟩
    split at hnumber
    · next rest => exact ⟨['+'], rest, rfl, .inr rfl, hnumber.1, hnumber.2.1, hnumber.2.2, hrange⟩
    · exact ⟨[], cs, rfl, .inl rfl, hnumber.1, hnumber.2.1, hnumber.2.2, hrange⟩
  · rintro ⟨sign, digits, rfl, rfl | rfl, hne, hdigits, hvalue, hrange⟩
    · rw [List.nil_append]
      split
      · next rest =>
        rw [hdigits '+' (by simp)] at hplus
        cases hplus
      · exact ⟨⟨hne, hdigits, hvalue⟩, hrange⟩
    · exact ⟨⟨hne, hdigits, hvalue⟩, hrange⟩

/-- **The texts that stand for a pid** are those that spell it.

**Proof sketch.** The text is trimmed first, and its sign and digits hold no blank, so
`Text.trim_eq_iff` cuts it where its spelling does. -/
theorem ofText_eq_pid_iff {t : Text} {pid : Nat} : ofText t = .pid pid ↔ Spells t pid := by
  have hparse : ofText t = .pid pid ↔ parsePid? (Text.trim t) = some pid := by
    unfold ofText
    cases parsePid? (Text.trim t) <;> simp
  rw [hparse, parsePid?_eq_some_iff]
  constructor
  · rintro ⟨sign, digits, htrim, hrest⟩
    obtain ⟨⟨before, after, ht, hbefore, hafter⟩, -⟩ := Text.trim_eq_iff.mp htrim
    exact ⟨before, sign, digits, after, ht, hbefore, hafter, hrest⟩
  · rintro ⟨before, sign, digits, after, ht, hbefore, hafter, hsign, hne, hdigits, hrest⟩
    have hword : ∀ c ∈ sign ++ digits, Text.isBlank c = false := by
      intro c hc
      rcases List.mem_append.mp hc with hc | hc
      · rcases hsign with rfl | rfl
        · cases hc
        · rw [List.mem_singleton.mp hc]
          decide
      · exact Text.not_blank_of_isDigit (hdigits c hc)
    refine ⟨sign, digits, ?_, hsign, hne, hdigits, hrest⟩
    exact Text.trim_eq_iff.mpr ⟨⟨before, after, ht, hbefore, hafter⟩,
      fun c hc => hword c (List.mem_of_mem_head? hc), fun c hc => hword c (List.mem_of_getLast? hc)⟩

example : ofText "\u2003+0007\r\n".toList = .pid 7 ∧
    ofText "-7\n".toList = .corrupt "-7".toList := by
  decide

/-- A pid file names a pid just if it can be read as a text that spells it. -/
lemma read_eq_pid_iff {d : Disk} {p : Path} {pid : Nat} : read d p = .pid pid ↔
    ∃ t, d.readText p = .ok t ∧ Spells t pid := by
  unfold read
  cases d.readText p with
  | error e =>
    dsimp only
    split <;> simp
  | ok t => simpa using ofText_eq_pid_iff

/-- A pid file cannot be read just if reading it fails, and it is not for want of a file.

**Proof sketch.** By what reading the file gives. A text is a pid or corrupt, and never unreadable.
-/
lemma read_eq_unreadable_iff {d : Disk} {p : Path} {e : IoError} : read d p = .unreadable e ↔
    d.readText p = .error e ∧ e ≠ .notFound := by
  unfold read
  cases d.readText p with
  | error e' =>
    dsimp only
    by_cases he : e' = .notFound
    · rw [if_pos he]
      subst he
      simpa using fun h => h.symm
    · rw [if_neg he]
      simp only [unreadable.injEq, Except.error.injEq]
      exact ⟨fun h => ⟨h, h ▸ he⟩, And.left⟩
  | ok t =>
    dsimp only [ofText]
    cases parsePid? (Text.trim t) <;> simp

end PidFile

/-! ## The requests to a daemon -/

/-- An effect that concerns a process: it was sent a signal, or a program was asked for. -/
def Event.isRequest : Event → Bool
  | .signalled _ _ => true
  | .launched _ => true
  | _ => false

/-- The signals that were sent and the programs that were asked for from one host to a later one,
in order. -/
def Host.requestsSince (h k : Host) : List Event :=
  (h.since k).filter Event.isRequest

namespace Supervisor

variable {s : Supervisor} {h : Host} {pid : Nat}

/-- The process that a daemon runs as: its pid file is a text that spells the pid, and the process
lives. -/
def RunsAs (s : Supervisor) (h : Host) (pid : Nat) : Prop :=
  ∃ t, h.disk.readText s.pidFile = .ok t ∧ PidFile.Spells t pid ∧ h.isAlive pid = true

/-- **The state of a daemon** names the process that it runs as. -/
theorem stateOn_eq_running_iff_runsAs : s.stateOn h = .running pid ↔ s.RunsAs h pid := by
  rw [stateOn_eq_running_iff, Signal.accepts_iff, PidFile.read_eq_pid_iff]
  constructor
  · rintro ⟨⟨t, ht, hspells⟩, -, hlive⟩
    exact ⟨t, ht, hspells, hlive⟩
  · rintro ⟨t, ht, hspells, hlive⟩
    exact ⟨⟨t, ht, hspells⟩, hspells.pos, hlive⟩

/-- A daemon does not run just if there is no process that it runs as. -/
lemma stateOn_eq_notRunning_iff : s.stateOn h = .notRunning ↔ ∀ pid, ¬ s.RunsAs h pid := by
  constructor
  · intro hs pid hp
    rw [stateOn_eq_running_iff_runsAs.mpr hp] at hs
    cases hs
  · intro hno
    cases hs : s.stateOn h with
    | notRunning => rfl
    | running pid => exact absurd (stateOn_eq_running_iff_runsAs.mp hs) (hno pid)

/-- A daemon that runs is stopped by the signal that kills. -/
lemma RunsAs.stop_eq (hp : s.RunsAs h pid) :
    s.stop h = (.ok (), h.stopped pid) := by
  obtain ⟨hr, ha⟩ := stateOn_eq_running_iff.mp (stateOn_eq_running_iff_runsAs.mpr hp)
  exact stop_of_accepts hr ha

/-- A daemon that does not run needs no signal to be stopped. That fails if its pid file cannot be
read.

**Proof sketch.** By what the pid file holds. A pid that it names is dead, so the first signal,
which only asks whether it lives, fails. -/
lemma stop_eq_of_not_runsAs (hno : ∀ pid, ¬ s.RunsAs h pid) :
    (∃ e, PidFile.read h.disk s.pidFile = .unreadable e ∧ s.stop h = (.error (.io e), h)) ∨
      (∀ e, PidFile.read h.disk s.pidFile ≠ .unreadable e) ∧ (s.stop h = (.ok (), h) ∨
        ∃ entry, s.stop h = (.ok (), h.record (.logged entry))) := by
  unfold stop
  rw [run_bind, run_ask]
  cases hr : PidFile.read h.disk s.pidFile with
  | missing => exact .inr ⟨by simp, .inl rfl⟩
  | unreadable e => exact .inl ⟨e, rfl, rfl⟩
  | corrupt content => exact .inr ⟨by simp, .inr ⟨_, rfl⟩⟩
  | pid p =>
    obtain ⟨t, ht, hspells⟩ := PidFile.read_eq_pid_iff.mp hr
    have hdead : h.isAlive p = false := by
      rw [← Bool.not_eq_true]
      exact fun hlive => hno p ⟨t, ht, hspells, hlive⟩
    refine .inr ⟨by simp, .inl ?_⟩
    dsimp only
    rw [run_bind, run_attempt, Signal.send_of_dead hspells.pos hdead]
    rfl

/-- A daemon started: its program is asked for once, and no process is sent a signal.

**Proof sketch.** By the ways in which a start ends. All other effects are no requests. -/
lemma requestsSince_start (s : Supervisor) (h : Host) :
    h.requestsSince (s.start h).2 = [.launched s.command] := by
  have hbegun : (h.launching s.command).journal =
      h.journal ++ [.launched s.command, .began s.command] := by
    simp [Host.launching, Host.record]
  unfold Host.requestsSince Host.since
  rcases s.start_cases h with ⟨fault, hr | hr⟩ | ⟨hr, -⟩ | ⟨pidFile, c, hr, -⟩ <;> rw [hr]
  · rw [Host.record, List.drop_left]
    rfl
  · rw [hbegun, List.drop_left]
    rfl
  · rw [Host.record, hbegun, List.append_assoc, List.drop_left]
    rfl
  · rw [Host.record, Host.journal_leftBehind, List.append_assoc, List.drop_left]
    rfl

/-- A daemon killed and started. -/
lemma requestsSince_start_stopped (s : Supervisor) (h : Host) (pid : Nat) :
    h.requestsSince (s.start (h.stopped pid)).2 =
      [.signalled pid Signal.terminate, .launched s.command] := by
  have hstart := requestsSince_start s (h.stopped pid)
  unfold Host.requestsSince at hstart ⊢
  rw [Host.since_append (h.prefix_stopped pid) (s.records_start _), List.filter_append, hstart,
    Host.since_of_journal (h.journal_stopped pid)]
  rfl

/-- A daemon that runs is sent the signal that kills, to stop it. -/
lemma RunsAs.requestsSince_stop (hp : s.RunsAs h pid) :
    h.requestsSince (s.stop h).2 = [.signalled pid Signal.terminate] := by
  rw [hp.stop_eq, Host.requestsSince, Host.since_of_journal (h.journal_stopped pid)]
  rfl

/-- To stop a daemon that does not run, nothing is sent a signal. -/
lemma requestsSince_stop_of_not_runsAs (hno : ∀ pid, ¬ s.RunsAs h pid) :
    h.requestsSince (s.stop h).2 = [] := by
  unfold Host.requestsSince Host.since
  rcases stop_eq_of_not_runsAs hno with ⟨e, -, hr⟩ | ⟨-, hr | ⟨entry, hr⟩⟩ <;> rw [hr]
  · rw [List.drop_length, List.filter_nil]
  · rw [List.drop_length, List.filter_nil]
  · rw [Host.record, List.drop_left]
    rfl

/-- **A daemon stopped**: the process that it runs as dies, and no other one.

**Proof sketch.** If it runs as a process, there is only one such pid, and stopping kills it. If
not, no process is touched. -/
theorem isAlive_stop_iff (s : Supervisor) (h : Host) (q : Nat) :
    (s.stop h).2.isAlive q = true ↔ h.isAlive q = true ∧ ¬ s.RunsAs h q := by
  by_cases hrun : ∃ pid, s.RunsAs h pid
  · obtain ⟨pid, hp⟩ := hrun
    have hone : s.RunsAs h q ↔ q = pid := by
      rw [← stateOn_eq_running_iff_runsAs, stateOn_eq_running_iff_runsAs.mpr hp,
        ProcessState.running.injEq, eq_comm]
    rw [hp.stop_eq, hone]
    exact h.isAlive_stopped_iff pid q
  · have hsame : (s.stop h).2.isAlive q = h.isAlive q := by
      rcases stop_eq_of_not_runsAs (not_exists.mp hrun) with ⟨e, -, hr⟩ | ⟨-, hr | ⟨entry, hr⟩⟩ <;>
        rw [hr]
      rfl
    rw [hsame, and_iff_left (not_exists.mp hrun q)]

/-- **A daemon cannot be stopped** just if reading its pid file fails, and not for want of one.

**Proof sketch.** If the daemon runs, its pid file was read and stopping succeeds. If not, only an
unreadable file is an error. -/
theorem stop_eq_error_iff (s : Supervisor) (h : Host) (fault : Fault) :
    (s.stop h).1 = .error fault ↔
      ∃ e, h.disk.readText s.pidFile = .error e ∧ e ≠ .notFound ∧ fault = .io e := by
  by_cases hrun : ∃ pid, s.RunsAs h pid
  · obtain ⟨pid, hp⟩ := hrun
    obtain ⟨t, ht, -⟩ := id hp
    rw [hp.stop_eq, ht]
    simp
  · have hread : ∀ e, h.disk.readText s.pidFile = .error e ∧ e ≠ .notFound ↔
        PidFile.read h.disk s.pidFile = .unreadable e := fun e =>
      PidFile.read_eq_unreadable_iff.symm
    simp only [← and_assoc, hread]
    rcases stop_eq_of_not_runsAs (not_exists.mp hrun) with ⟨e, he, hr⟩ | ⟨hno, hr | ⟨entry, hr⟩⟩ <;>
      rw [hr]
    · simp [he, eq_comm]
    · simp [hno]
    · simp [hno]

/-- A daemon that runs is sent the signal to read its files again. -/
lemma RunsAs.requestsSince_hup (hp : s.RunsAs h pid) : (s.hup h).1 = .ok () ∧
    h.requestsSince (s.hup h).2 = [.signalled pid Signal.reload] := by
  rw [hup_of_running (stateOn_eq_running_iff_runsAs.mpr hp), Host.requestsSince, Host.since,
    Host.record, List.drop_left]
  exact ⟨rfl, rfl⟩

/-- A daemon that runs is killed and started again. -/
lemma RunsAs.restartIfRunning (hp : s.RunsAs h pid) : ∃ k, s.stop h = (.ok (), k) ∧
    k.isAlive pid = false ∧ s.restartIfRunning h = s.start k ∧
    h.requestsSince (s.restartIfRunning h).2 =
      [.signalled pid Signal.terminate, .launched s.command] := by
  refine ⟨_, hp.stop_eq, h.isAlive_stopped pid, ?_⟩
  rw [restartIfRunning_of_running (stateOn_eq_running_iff_runsAs.mpr hp)]
  exact ⟨rfl, s.requestsSince_start_stopped h pid⟩

/-- **Only the process that a daemon runs as** is sent a signal.

**Proof sketch.** If the daemon runs, the requests of each of the four operations are known, and
their signals go to its process. If it does not run, none of them signals. -/
theorem runsAs_of_signalled {x : Action Unit}
    (hx : x ∈ [s.start, s.stop, s.hup, s.restartIfRunning]) {signal : Int}
    (hmem : .signalled pid signal ∈ h.since (x h).2) : s.RunsAs h pid := by
  have hrequest : .signalled pid signal ∈ h.requestsSince (x h).2 :=
    List.mem_filter.mpr ⟨hmem, rfl⟩
  have hstart := s.requestsSince_start h
  simp only [List.mem_cons, List.not_mem_nil, or_false] at hx
  by_cases hrun : ∃ q, s.RunsAs h q
  · obtain ⟨q, hq⟩ := hrun
    rcases hx with rfl | rfl | rfl | rfl
    · simp [hstart] at hrequest
    · rw [hq.requestsSince_stop, List.mem_singleton] at hrequest
      cases hrequest
      exact hq
    · rw [hq.requestsSince_hup.2, List.mem_singleton] at hrequest
      cases hrequest
      exact hq
    · obtain ⟨_, -, -, -, hrestart⟩ := hq.restartIfRunning
      rw [hrestart, List.mem_cons, List.mem_singleton] at hrequest
      rcases hrequest with hrequest | hrequest
      · cases hrequest
        exact hq
      · cases hrequest
  · have hno := not_exists.mp hrun
    have hs := stateOn_eq_notRunning_iff.mpr hno
    rcases hx with rfl | rfl | rfl | rfl
    · simp [hstart] at hrequest
    · simp [requestsSince_stop_of_not_runsAs hno] at hrequest
    · rw [hup_of_notRunning hs] at hrequest
      simp [hstart] at hrequest
    · rw [restartIfRunning_of_notRunning hs, Host.requestsSince, Host.since, List.drop_length]
        at hrequest
      cases hrequest

/-- All requests to a daemon go by the process that it runs as. -/
structure DecidesAlike (s : Supervisor) (h : Host) : Prop where
  /-- The daemon is said to run as that process, and if there is none, it is said not to run. -/
  state : (∀ pid, s.state h = .ok (.running pid) ↔ s.RunsAs h pid) ∧
    (s.state h = .ok .notRunning ↔ ∀ pid, ¬ s.RunsAs h pid)
  /-- It is said to run just if there is one. -/
  isRunning : (s.isRunning h = .ok true ↔ ∃ pid, s.RunsAs h pid) ∧
    (s.isRunning h = .ok false ↔ ∀ pid, ¬ s.RunsAs h pid)
  /-- To stop it, that process is sent the signal that kills. -/
  stop_running : ∀ pid, s.RunsAs h pid →
    h.requestsSince (s.stop h).2 = [.signalled pid Signal.terminate]
  /-- If there is none, nothing is sent a signal. -/
  stop_idle : (∀ pid, ¬ s.RunsAs h pid) → h.requestsSince (s.stop h).2 = []
  /-- That process dies, and no other one. -/
  stop_kills : ∀ pid : Nat,
    (s.stop h).2.isAlive pid = true ↔ h.isAlive pid = true ∧ ¬ s.RunsAs h pid
  /-- The daemon cannot be stopped just if reading its pid file fails, and not for want of one. -/
  stop_fault : ∀ fault, (s.stop h).1 = .error fault ↔
    ∃ e, h.disk.readText s.pidFile = .error e ∧ e ≠ .notFound ∧ fault = .io e
  /-- If it can be stopped, it does not run then. -/
  stopped : (s.stop h).1 = .ok () → s.state (s.stop h).2 = .ok .notRunning
  /-- To reload it, that process is sent the signal to read its files again, and none is started. -/
  hup_running : ∀ pid, s.RunsAs h pid → (s.hup h).1 = .ok () ∧
    h.requestsSince (s.hup h).2 = [.signalled pid Signal.reload]
  /-- If there is none, the daemon is started once, and nothing is sent a signal. -/
  hup_idle : (∀ pid, ¬ s.RunsAs h pid) → s.hup h = s.start h ∧
    h.requestsSince (s.hup h).2 = [.launched s.command]
  /-- To restart it, that process is killed, and then the daemon is started once. -/
  restart_running : ∀ pid, s.RunsAs h pid → ∃ k, s.stop h = (.ok (), k) ∧
    k.isAlive pid = false ∧ s.restartIfRunning h = s.start k ∧
    h.requestsSince (s.restartIfRunning h).2 =
      [.signalled pid Signal.terminate, .launched s.command]
  /-- If there is none, nothing is done. -/
  restart_idle : (∀ pid, ¬ s.RunsAs h pid) → s.restartIfRunning h = (.ok (), h)
  /-- What is sent a signal has a positive pid. -/
  positive : ∀ x ∈ [s.start, s.stop, s.hup, s.restartIfRunning], ∀ pid signal,
    .signalled pid signal ∈ h.since (x h).2 → 0 < pid
  /-- A signal to any other number is refused before anything is signalled. -/
  refused : ∀ pid signal : Int, pid ≤ 0 →
    Signal.send pid signal h = (.error (.signalRefused pid .invalidParameter), h)

/-- **The requests to a daemon agree** on its pid file, whatever that holds and whatever processes
there are.

**Proof sketch.** The state of a daemon names the process that it runs as, which is decided by one
reading of the pid file. Each request is followed where there is such a process, and where there is
none. -/
theorem decides_alike (s : Supervisor) (h : Host) : s.DecidesAlike h where
  state := by
    have hstate : ∀ st, s.state h = .ok st ↔ s.stateOn h = st := fun st => by simp [state]
    exact ⟨fun pid => (hstate _).trans stateOn_eq_running_iff_runsAs,
      (hstate _).trans stateOn_eq_notRunning_iff⟩
  isRunning := by
    have hidle : s.isRunning h = .ok false ↔ ∀ pid, ¬ s.RunsAs h pid := by
      rw [← stateOn_eq_notRunning_iff]
      simp [isRunning]
    refine ⟨?_, hidle⟩
    rw [← not_iff_not, not_exists, ← hidle]
    simp [isRunning]
  stop_running _ hp := hp.requestsSince_stop
  stop_idle := requestsSince_stop_of_not_runsAs
  stop_kills := s.isAlive_stop_iff h
  stop_fault := s.stop_eq_error_iff h
  stopped _ := congrArg Except.ok (s.stateOn_stop h)
  hup_running _ hp := hp.requestsSince_hup
  hup_idle hno := by
    rw [hup_of_notRunning (stateOn_eq_notRunning_iff.mpr hno)]
    exact ⟨rfl, s.requestsSince_start h⟩
  restart_running _ hp := hp.restartIfRunning
  restart_idle hno := restartIfRunning_of_notRunning (stateOn_eq_notRunning_iff.mpr hno)
  positive x hx pid signal hmem := by
    obtain ⟨t, -, hspells, -⟩ := runsAs_of_signalled hx hmem
    exact hspells.pos
  refused pid signal hpid := by
    unfold Signal.send Signal.refusal
    rw [if_pos hpid]

end Supervisor

end ResolverMesh
