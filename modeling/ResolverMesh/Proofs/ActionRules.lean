import ResolverMesh.Proofs.RootLayout
import ResolverMesh.Proofs.StableProperties

set_option autoImplicit false
set_option relaxedAutoImplicit false

/-!
# Rules for actions

An action only ever adds to the journal, whatever it does and however it ends. What else an
action guarantees is stated by what holds before it, what holds after it succeeds and what holds
after it fails, and these statements are put together as the actions are.

What a daemon writes is not the mesh's doing. A statement about an action that starts daemons
therefore holds where the pid files that they wrote are no other files of networks, and the
journal tells which places they wrote.

## Main definitions

* `ResolverMesh.Action.Records` — an action only adds to the journal.
* `ResolverMesh.Host.since` — the effects from one host to another.
* `ResolverMesh.Host.Tame` — daemons wrote no files of networks but pid files.
* `ResolverMesh.Action.Meets` — what holds after an action that is run on tame daemons.
* `ResolverMesh.Action.Ends` — how one run of an action ends.

## Main results

* `ResolverMesh.Host.Tame.split` — being tame, of one stretch of effects after another.
* `ResolverMesh.Action.Meets.bind` — one action after another.
* `ResolverMesh.Mesh.records_add`, `ResolverMesh.Mesh.records_del` — the operations only add to
  the journal.
-/

namespace ResolverMesh

/-! ## Adding to the journal -/

/-- An action only adds to the journal. -/
def Action.Records {α : Type} (x : Action α) : Prop :=
  ∀ h, h.journal <+: (x h).2.journal

namespace Action

section Records

variable {α β : Type}

/-- A result alone leaves the record as it was. -/
lemma records_pure (a : α) : Records (pure a) :=
  fun _ => List.prefix_refl _

/-- A failure alone leaves the record as it was. -/
lemma records_throw (fault : Fault) : Records (throw fault : Action α) :=
  fun _ => List.prefix_refl _

/-- A query has no effect, so it leaves the record as it was. -/
lemma records_ask (q : Query α) : Records (ask q) :=
  fun _ => List.prefix_refl _

/-- Neither has a query that an action asks on the way. -/
lemma records_lift (q : Query α) : Records (liftM q : Action α) :=
  fun _ => List.prefix_refl _

/-- An effect goes to the end of the record. -/
lemma records_record (e : Event) : Records (record e) :=
  fun _ => List.prefix_append _ _

/-- So does a line of the log, which is an effect like any other. -/
lemma records_log (entry : LogEntry) : Records (log entry) :=
  records_record _

/-- An action that is attempted records what it records by itself. -/
lemma Records.attempt {x : Action α} (hx : Records x) : Records (attempt x) :=
  hx

/-- Two actions that only add to the record, one after the other, only add to it.

**Proof sketch.** If the first action ends with a fault, the second is not begun. Otherwise the two
additions stand one behind the other. -/
lemma Records.bind {x : Action α} {f : α → Action β} (hx : Records x)
    (hf : ∀ a, Records (f a)) : Records (x >>= f) := by
  intro h
  rw [run_bind]
  have hk := hx h
  cases hr : x h with
  | mk r k =>
    rw [hr] at hk
    cases r with
    | error fault => exact hk
    | ok a => exact hk.trans (hf a k)

/-- What an action that has succeeded did first. -/
lemma of_bind_ok {x : Action α} {f : α → Action β} {b : β} {h k : Host}
    (hr : (x >>= f) h = (.ok b, k)) : ∃ a l, x h = (.ok a, l) ∧ f a l = (.ok b, k) := by
  rw [run_bind] at hr
  rcases hx : x h with ⟨fault | a, l⟩
  · rw [hx] at hr
    cases hr
  · rw [hx] at hr
    exact ⟨a, l, rfl, hr⟩

/-- What has been recorded stays so. -/
lemma stable_recorded (past : List Event) : Host.Stable (past <+: ·.journal) where
  record hh _ := hh.trans (List.prefix_append _ _)
  disk _ hh := hh
  programs _ hh := hh
  addProcess hh := hh
  kill _ hh := hh

/-- An action records when it keeps each beginning of the record, whatever that is. -/
lemma Records.of_keeps {x : Action α} (hx : ∀ past, Keeps (past <+: ·.journal) x) : Records x :=
  fun h => hx h.journal h (List.prefix_refl _)

/-- A request to the disk records one effect where it succeeds, and none where it fails. -/
lemma records_onDisk (request : Disk → Except IoError Disk.Change) (event : Location → Event) :
    Records (onDisk request event) := by
  intro h
  unfold onDisk
  split
  · exact List.prefix_refl _
  · exact List.prefix_append _ _

end Records

end Action

open ResolverMesh.Action

/-- Making a directory and those above it records. -/
lemma Files.records_makeDirectories (mode : Nat) (p : Path) : Records (makeDirectories mode p) :=
  .of_keeps fun past => (stable_recorded past).keeps_makeDirectories _ _

/-- So does removing a tree that may be missing. -/
lemma Files.records_removeIfThere (p : Path) : Records (removeIfThere p) :=
  .of_keeps fun past => (stable_recorded past).keeps_removeIfThere _

/-- A signal is recorded whether or not it ends the process. -/
lemma Signal.records_send (pid signal : Int) : Records (send pid signal) :=
  .of_keeps fun past => (stable_recorded past).keeps_send _ _

/-- The last steps of a daemon's start record, whether it stays or gives up. -/
lemma Launch.records_daemonize (command : List Text) (o : Outcome) (excuse : Excuse) :
    Records (daemonize command o excuse) :=
  .of_keeps fun past => (stable_recorded past).keeps_daemonize _ _ _

/-- So does the whole run of a program. -/
lemma Launch.records_runProgram (command : List Text) : Records (runProgram command) :=
  .of_keeps fun past => (stable_recorded past).keeps_runProgram _

namespace Supervisor

/-- Starting a daemon records. -/
lemma records_start (s : Supervisor) : Records s.start :=
  .of_keeps fun past => (stable_recorded past).keeps_start s

/-- Stopping a daemon records. -/
lemma records_stop (s : Supervisor) : Records s.stop :=
  .of_keeps fun past => (stable_recorded past).keeps_stop s

/-- Having a daemon read its files again records, also where it is started instead. -/
lemma records_hup (s : Supervisor) : Records s.hup :=
  .of_keeps fun past => (stable_recorded past).keeps_hup s

/-- So does restarting it. -/
lemma records_restartIfRunning (s : Supervisor) : Records s.restartIfRunning :=
  .of_keeps fun past => (stable_recorded past).keeps_restartIfRunning s

end Supervisor

/-- The update of one sibling records. -/
lemma SiblingUpdate.records_apply (u : SiblingUpdate) : Records u.apply :=
  .of_keeps fun past => (stable_recorded past).keeps_apply u

namespace Propagation

/-- So do the updates of several, one after the other. -/
lemma records_applyAll (us : List SiblingUpdate) : Records (applyAll us) :=
  .of_keeps fun past => (stable_recorded past).keeps_applyAll us

/-- Publishing a network's servers records. -/
lemma records_publish (s : Settings) (i : Instance) (servers : List Text) :
    Records (publish s i servers) :=
  .of_keeps fun past => (stable_recorded past).keeps_publish s i servers

/-- Withdrawing lines from a list of networks records. -/
lemma records_withdrawFrom (s : Settings) (own names : List Text) :
    Records (withdrawFrom s own names) :=
  .of_keeps fun past => (stable_recorded past).keeps_withdrawFrom s own names

/-- So does withdrawing a network's servers from all its siblings. -/
lemma records_withdraw (s : Settings) (i : Instance) (servers : List Text) :
    Records (withdraw s i servers) :=
  .of_keeps fun past => (stable_recorded past).keeps_withdraw s i servers

end Propagation

/-- Taking a pod out of a hosts file records. -/
lemma HostsFile.records_removePod (p : Path) (pod : Text) : Records (removePod p pod) :=
  .of_keeps fun past => (stable_recorded past).keeps_removePod p pod

/-- Taking the lock of a root records the directories made for it. -/
lemma LockGuard.records_acquire (root : Path) (timeout : Elapsed) :
    Records (acquire root timeout) :=
  .of_keeps fun past => (stable_recorded past).keeps_acquire (fun _ _ hh => hh) root timeout

/-- What is done under a lock records when the taking of the lock and the rest do; that the lock is
given back is no effect. -/
lemma LockGuard.records_hold {α : Type} {take : Action LockGuard} {body : Action α}
    (ht : Records take) (hb : Records body) : Records (hold take body) := by
  intro h
  have hk := ht h
  unfold hold
  rcases hr : take h with ⟨fault | g, k⟩
  · rw [hr] at hk
    exact hk
  · rw [hr] at hk
    exact hk.trans (hb k)

/-- Demolishing a network records. -/
lemma Instance.records_demolish (i : Instance) : Records i.demolish :=
  .of_keeps fun past => (stable_recorded past).keeps_demolish i

namespace Mesh

variable (m : Mesh) (i : Instance) (a : Attachment)

/-- What has been recorded stays so when the hook is called. -/
lemma recorded_of_call (past : List Event) (h : Host) (call : ChainCall)
    (hh : past <+: h.journal) : past <+: (h.record (.chain call)).journal :=
  hh.trans (List.prefix_append _ _)

/-- Attaching a pod records. -/
lemma records_provision : Records (m.provision i a) :=
  .of_keeps fun past => (stable_recorded past).keeps_provision m i a (recorded_of_call past)

/-- So does taking a network down. -/
lemma records_tearDown : Records (m.tearDown i a) :=
  .of_keeps fun past => (stable_recorded past).keeps_tearDown m i a

/-- Dropping the forwarding chain records, though its failure is only logged. -/
lemma records_dropChain : Records (m.dropChain a) :=
  .of_keeps fun past => (stable_recorded past).keeps_dropChain m a (recorded_of_call past)

/-- Detaching a pod records. -/
lemma records_cleanUp : Records (m.cleanUp i a) :=
  .of_keeps fun past => (stable_recorded past).keeps_cleanUp m i a (recorded_of_call past)

/-- So does an attachment with the cleanup that may follow it. -/
lemma records_provisionOrUndo : Records (m.provisionOrUndo i a) :=
  .of_keeps fun past => (stable_recorded past).keeps_provisionOrUndo m i a (recorded_of_call past)

/-- Attaching a pod only adds to the journal. -/
theorem records_add : Records (m.add a) :=
  .of_keeps fun past =>
    (stable_recorded past).keeps_add m a (fun _ _ hh => hh) (recorded_of_call past)

/-- Detaching a pod only adds to the journal. -/
theorem records_del : Records (m.del a) :=
  .of_keeps fun past =>
    (stable_recorded past).keeps_del m a (fun _ _ hh => hh) (recorded_of_call past)

end Mesh

/-! ## Tame daemons -/

/-- The pid file that an effect tells of, if it tells of one, is no other file of a network. -/
def Event.IsTame (base : Location) : Event → Prop
  | .pidWritten loc => ∀ n f, loc = base ++ [Name.text n, .text f] → f = pidName
  | _ => True

/-- The names below a root are not those of another file of a network than a pid file. -/
def Location.isTame : Location → Bool
  | [.text _, .text f] => decide (f = pidName)
  | _ => true

/-- The tameness of a pid file that was written is read off the names below the root.

**Proof sketch.** Below the root, the names that are left once it is dropped are those that
tameness asks about. -/
lemma Event.isTame_pidWritten_iff {base loc : Location} :
    (Event.pidWritten loc).IsTame base ↔
      (base <+: loc → Location.isTame (loc.drop base.length) = true) := by
  constructor
  · rintro h ⟨rest, rfl⟩
    rw [List.drop_left]
    unfold Location.isTame
    split
    · next n f => simpa using h n f rfl
    · rfl
  · rintro h n f rfl
    have hdrop := h (List.prefix_append _ _)
    rw [List.drop_left] at hdrop
    simpa [Location.isTame] using hdrop

instance (base : Location) (e : Event) : Decidable (e.IsTame base) :=
  match e with
  | .pidWritten _ => decidable_of_iff _ Event.isTame_pidWritten_iff.symm
  | .madeDirectory _ | .wroteFile _ | .removed _ | .chain _ | .launched _ | .began _
  | .daemonStarted _ | .signalled _ _ | .logged _ => isTrue trivial

namespace Host

/-- The effects from one host to a later one. -/
def since (h k : Host) : List Event :=
  k.journal.drop h.journal.length

/-- From one host to a later one, daemons wrote no files of networks but pid files. -/
def Tame (base : Location) (h k : Host) : Prop :=
  ∀ e ∈ h.since k, e.IsTame base

instance (base : Location) (h k : Host) : Decidable (Tame base h k) :=
  inferInstanceAs (Decidable (∀ e ∈ h.since k, e.IsTame base))

variable {base : Location} {h k l : Host}

/-- A record that has grown is the old one with what was recorded since. -/
lemma journal_eq_append_since (hk : h.journal <+: k.journal) :
    k.journal = h.journal ++ h.since k := by
  obtain ⟨es, hes⟩ := hk
  rw [since, ← hes, List.drop_left]

/-- The effects of one stretch are followed by those of the next. -/
lemma since_append (hk : h.journal <+: k.journal) (hl : k.journal <+: l.journal) :
    h.since l = h.since k ++ k.since l := by
  have h₁ := journal_eq_append_since hk
  have h₂ := journal_eq_append_since hl
  have h₃ := journal_eq_append_since (hk.trans hl)
  rw [h₂, h₁, List.append_assoc] at h₃
  exact (List.append_cancel_left h₃).symm

/-- **Being tame** on a long stretch is being so on each of its parts.

**Proof sketch.** The effects of the long stretch are those of its two parts. -/
theorem Tame.split (hk : h.journal <+: k.journal) (hl : k.journal <+: l.journal) :
    Tame base h l ↔ Tame base h k ∧ Tame base k l := by
  unfold Tame
  rw [since_append hk hl]
  simp only [List.mem_append]
  constructor
  · intro ht
    exact ⟨fun e he => ht e (.inl he), fun e he => ht e (.inr he)⟩
  · rintro ⟨h₁, h₂⟩ e (he | he)
    · exact h₁ e he
    · exact h₂ e he

end Host

/-- What an action that has succeeded did first, and that its daemons were tame before and after
that. -/
lemma Action.of_bind_ok_of_tame {α β : Type} {base : Location} {x : Action α} {f : α → Action β}
    {b : β} {h k : Host} (hx : Records x) (hf : ∀ a, Records (f a)) (ht : Host.Tame base h k)
    (hr : (x >>= f) h = (.ok b, k)) : ∃ a l, x h = (.ok a, l) ∧ f a l = (.ok b, k) ∧
      Host.Tame base h l ∧ Host.Tame base l k := by
  obtain ⟨a, l, hxl, hfk⟩ := of_bind_ok hr
  have hl := hx h
  have hk := hf a l
  rw [hxl] at hl
  rw [hfk] at hk
  exact ⟨a, l, hxl, hfk, (Host.Tame.split hl hk).mp ht⟩

/-! ## What an action guarantees -/

/-- An action only adds to the journal. Run on a host that satisfies `P`, with tame daemons, it
leaves a host that satisfies `Q` with its result or `E` with its fault. -/
structure Action.Meets {α : Type} (base : Location) (P : Host → Prop) (x : Action α)
    (Q : α → Host → Prop) (E : Fault → Host → Prop) : Prop where
  /-- It only adds to the journal. -/
  records : Records x
  /-- What holds after it. -/
  holds : ∀ h, P h → Host.Tame base h (x h).2 →
    (∀ a, (x h).1 = .ok a → Q a (x h).2) ∧ ∀ fault, (x h).1 = .error fault → E fault (x h).2

namespace Action

/-- What holds after a run that has failed. -/
lemma of_error {α : Type} {Q : α → Prop} {E : Fault → Prop} {fault : Fault} (h : E fault) :
    (∀ a, (.error fault : Except Fault α) = .ok a → Q a) ∧
      ∀ f, (.error fault : Except Fault α) = .error f → E f := by
  refine ⟨fun _ hok => ?_, fun _ hf => ?_⟩
  · cases hok
  · cases hf
    exact h

/-- What holds after a run that has succeeded. -/
lemma of_ok {α : Type} {Q : α → Prop} {E : Fault → Prop} {a : α} (h : Q a) :
    (∀ b, (.ok a : Except Fault α) = .ok b → Q b) ∧
      ∀ f, (.ok a : Except Fault α) = .error f → E f := by
  refine ⟨fun _ hok => ?_, fun _ hf => ?_⟩
  · cases hok
    exact h
  · cases hf

section Meets

variable {α β : Type} {base : Location} {P P' : Host → Prop} {x : Action α}
  {Q Q' : α → Host → Prop} {E E' : Fault → Host → Prop}

/-- A weaker guarantee, on fewer hosts. -/
lemma Meets.mono (hx : Meets base P x Q E) (hP : ∀ h, P' h → P h)
    (hQ : ∀ a h, Q a h → Q' a h) (hE : ∀ fault h, E fault h → E' fault h) :
    Meets base P' x Q' E' := by
  refine ⟨hx.records, fun h hh ht => ?_⟩
  obtain ⟨hok, herr⟩ := hx.holds h (hP h hh) ht
  exact ⟨fun a ha => hQ a _ (hok a ha), fun fault hf => hE fault _ (herr fault hf)⟩

/-- **One action after another**: what the first guarantees is what the second starts from, and
both guarantee the same of a failure.

**Proof sketch.** The record of both is split where the first one ends. What was recorded until
then is tame, and so is the rest, so each action is used on its own part. -/
theorem Meets.bind {f : α → Action β} {R : β → Host → Prop} (hx : Meets base P x Q E)
    (hf : ∀ a, Meets base (Q a) (f a) R E) : Meets base P (x >>= f) R E := by
  refine ⟨hx.records.bind fun a => (hf a).records, fun h hh ht => ?_⟩
  have hrec := hx.records h
  have hx' := hx.holds h hh
  rw [run_bind] at ht ⊢
  cases hr : x h with
  | mk r k =>
    rw [hr] at hrec hx' ht
    dsimp only at hrec hx' ht ⊢
    cases r with
    | error fault => exact of_error ((hx' ht).2 fault rfl)
    | ok a =>
      dsimp only at ht ⊢
      obtain ⟨ht₁, ht₂⟩ := (Host.Tame.split hrec ((hf a).records k)).mp ht
      exact (hf a).holds k ((hx' ht₁).1 a rfl) ht₂

/-- What holds after an action that goes on from a host `k`, on daemons that have been tame since an
earlier one. -/
lemma Meets.after (hx : Meets base P x Q E) {h k : Host} (hk : P k)
    (hp : h.journal <+: k.journal) (ht : Host.Tame base h (x k).2) :
    (∀ a, (x k).1 = .ok a → Q a (x k).2) ∧ ∀ fault, (x k).1 = .error fault → E fault (x k).2 :=
  hx.holds k hk ((Host.Tame.split hp (hx.records k)).mp ht).2

/-- A result alone meets what holds of it already. -/
lemma Meets.pure {a : α} (h : ∀ h, P h → Q a h) : Meets base P (pure a) Q E :=
  ⟨records_pure a, fun k hk _ => of_ok (h k hk)⟩

/-- A failure alone meets what holds of it already. -/
lemma Meets.throw {fault : Fault} (h : ∀ h, P h → E fault h) :
    Meets base P (throw fault : Action α) Q E :=
  ⟨records_throw fault, fun k hk _ => of_error (h k hk)⟩

/-- A query leaves the host alone, so only its answer is told. -/
lemma Meets.ask {q : Query α}
    (h : ∀ h, P h → (∀ a, q h = .ok a → Q a h) ∧ ∀ fault, q h = .error fault → E fault h) :
    Meets base P (ask q) Q E :=
  ⟨records_ask q, fun k hk _ => h k hk⟩

/-- An effect is met by what holds once it is recorded. -/
lemma Meets.record {e : Event} {Q : Unit → Host → Prop}
    (h : ∀ h, P h → Q () (h.record e)) : Meets base P (record e) Q E :=
  ⟨records_record e, fun k hk _ => of_ok (h k hk)⟩

/-- So is a line of the log. -/
lemma Meets.log {entry : LogEntry} {Q : Unit → Host → Prop}
    (h : ∀ h, P h → Q () (h.record (.logged entry))) : Meets base P (log entry) Q E :=
  .record h

/-- After an attempt both outcomes are results. -/
lemma Meets.attempt (hx : Meets base P x Q E) :
    Meets base P (attempt x)
      (fun r h => (∀ a, r = .ok a → Q a h) ∧ ∀ fault, r = .error fault → E fault h) E' :=
  ⟨hx.records.attempt, fun h hh ht => of_ok (hx.holds h hh ht)⟩

end Meets

/-! ## How one run ends -/

/-- Run on one host, an action ends with a result and a host that satisfy `Q`, or with a fault and
a host that satisfy `E`. -/
def Ends {α : Type} (x : Action α) (h : Host) (Q : α → Host → Prop)
    (E : Fault → Host → Prop) : Prop :=
  match x h with
  | (.ok a, k) => Q a k
  | (.error fault, k) => E fault k

section Ends

variable {α β : Type} {x : Action α} {h : Host} {Q Q' : α → Host → Prop}
  {E E' : Fault → Host → Prop}

/-- What is told of an end may be weakened, for a result and for a failure apart. -/
lemma Ends.mono (hx : x.Ends h Q E) (hQ : ∀ a k, Q a k → Q' a k)
    (hE : ∀ fault k, E fault k → E' fault k) : x.Ends h Q' E' := by
  unfold Ends at *
  split at hx
  · exact hQ _ _ hx
  · exact hE _ _ hx

/-- One action after another: the second starts where the first ended. -/
lemma Ends.bind {f : α → Action β} {R : β → Host → Prop} (hx : x.Ends h Q E)
    (hf : ∀ a k, Q a k → (f a).Ends k R E) : (x >>= f).Ends h R E := by
  unfold Ends at hx ⊢
  rw [run_bind]
  rcases hr : x h with ⟨fault | a, k⟩
  · rw [hr] at hx
    exact hx
  · rw [hr] at hx
    exact hf a k hx

/-- How a run ended. -/
lemma Ends.cases (hx : x.Ends h Q E) :
    (∃ a k, x h = (.ok a, k) ∧ Q a k) ∨ ∃ fault k, x h = (.error fault, k) ∧ E fault k := by
  unfold Ends at hx
  split at hx
  · next a k hr => exact .inl ⟨a, k, hr, hx⟩
  · next fault k hr => exact .inr ⟨fault, k, hr, hx⟩

end Ends

end Action

end ResolverMesh
