import ResolverMesh.Proofs.HostsLedger
import ResolverMesh.Proofs.OperationRequests
import ResolverMesh.Proofs.Supervision

set_option autoImplicit false
set_option relaxedAutoImplicit false

/-!
# Calls of the forwarding chain hook

Every pod that is added asks the hook for the chain of its interface, and every pod that is deleted
asks it to remove the chain, whether or not other pods of the network are left: one call each, and
no other request of an operation makes one. So the latest call for an interface tells what the
latest operation on its network was, and not whether the network has pods.

## Main definitions

* `ResolverMesh.Host.latestCall` — the latest call for an interface.
* `ResolverMesh.Move.isOn`, `ResolverMesh.latestOn` — the moves on a network, and the latest one.
* `ResolverMesh.Move.callFor` — the call that a move makes.

## Main results

* `ResolverMesh.Mesh.chainCalls_provision`, `ResolverMesh.Mesh.chainCalls_cleanUp` — the calls of an
  attachment that succeeds, and those of any detachment.
* `ResolverMesh.Mesh.latestCall_step` — the latest call after a move.
* `ResolverMesh.latest_call_of_latest_operation` — the latest call after a run.
* `ResolverMesh.chain_removed_while_pods_remain` — a chain is removed while a pod is left.
-/

namespace ResolverMesh

open ResolverMesh.Action Disk

/-! ## Which requests call the hook -/

namespace Host

/-- A call is left in the journal. -/
lemma chainCalls_record (h : Host) (e : Event) :
    (h.record e).chainCalls = h.chainCalls ++ e.chainCall?.toList := by
  unfold chainCalls record
  rw [List.filterMap_append]
  cases hc : e.chainCall? <;> simp [hc]

/-- The calls so far are no matter of what else changes on the host. -/
lemma stable_chainCalls (calls : List ChainCall) : Host.Stable (·.chainCalls = calls) where
  record hh he := by rw [chainCalls_record, he, hh, Option.toList_none, List.append_nil]
  disk _ hh := hh
  programs _ hh := hh
  addProcess hh := hh
  kill _ hh := hh

end Host

open Host

/-- A call of the hook, whatever it answers. -/
lemma ChainHook.chainCalls_call (c : ChainHook) (request : ChainCall) (h : Host) :
    (c.call request h).2.chainCalls = h.chainCalls ++ [request] := by
  have hrecord := chainCalls_record h (.chain request)
  unfold ChainHook.call
  rw [run_bind, run_ask]
  dsimp only
  rw [run_bind, run_record]
  dsimp only
  cases c.refusal h.chainCalls request <;> exact hrecord

namespace Mesh

variable {m : Mesh} {i : Instance} {a : Attachment} {h k : Host}

/-- **An attachment that succeeds** calls the hook once, for the chain of its interface.

**Proof sketch.** The steps are followed in order. Only the third calls the hook, and the others
keep the list of its calls by `stable_chainCalls`. -/
theorem chainCalls_provision (hr : m.provision i a h = (.ok (), k)) :
    k.chainCalls = h.chainCalls ++ [.ensure a.interface] := by
  have hstable := stable_chainCalls h.chainCalls
  obtain ⟨_, h₁, hdir, hr⟩ := of_bind_ok hr
  obtain ⟨_, h₂, hconfig, hr⟩ := of_bind_ok hr
  obtain ⟨_, h₃, hcall, hr⟩ := of_bind_ok hr
  have h₁calls : h₁.chainCalls = h.chainCalls := by
    have hkeeps := hstable.keeps_makeDirectories instanceMode i.dir h rfl
    rwa [hdir] at hkeeps
  have h₂calls : h₂.chainCalls = h.chainCalls := by
    have hkeeps := hstable.keeps_ensureConfigFile i a.interface h₁ h₁calls
    rwa [hconfig] at hkeeps
  have h₃calls : h₃.chainCalls = h.chainCalls ++ [.ensure a.interface] := by
    have hcalls := m.chain.chainCalls_call (.ensure a.interface) h₂
    rwa [hcall, h₂calls] at hcalls
  have hkeeps := (stable_chainCalls _).keeps_register m i a h₃ h₃calls
  rwa [hr] at hkeeps

/-- Dropping the chain calls the hook once, even if the hook refuses. -/
lemma chainCalls_dropChain (m : Mesh) (a : Attachment) (h : Host) :
    (m.dropChain a h).2.chainCalls = h.chainCalls ++ [.remove a.interface] := by
  have hcalls := m.chain.chainCalls_call (.remove a.interface) h
  unfold dropChain
  rw [run_bind, run_attempt]
  dsimp only
  cases (m.chain.call (.remove a.interface) h).1 with
  | ok u => exact hcalls
  | error fault => exact (stable_chainCalls _).keeps_log _ _ hcalls

/-- **A detachment**, however it ends, calls the hook once, to remove the chain of its
interface. -/
theorem chainCalls_cleanUp (m : Mesh) (i : Instance) (a : Attachment) (h : Host) :
    (m.cleanUp i a h).2.chainCalls = h.chainCalls ++ [.remove a.interface] := by
  have hcalls := m.chainCalls_dropChain a h
  unfold cleanUp
  rw [run_bind]
  rcases hd : m.dropChain a h with ⟨fault | u, k⟩ <;> rw [hd] at hcalls
  · exact hcalls
  · exact (stable_chainCalls _).keeps_unregister m i a k hcalls

/-- Neither making the root nor taking the lock on it calls the hook. -/
lemma chainCalls_withRoot (m : Mesh) (h : Host) (ids : List Nat) :
    { m.withRoot h with held := ids }.chainCalls = h.chainCalls :=
  (stable_chainCalls h.chainCalls).keeps_makeDirectories _ _ h rfl

/-- A pod that is added has had its chain ensured, and nothing else was asked of the hook. -/
lemma chainCalls_add {servers : List Text} (hr : m.add a h = (.ok servers, k)) :
    k.chainCalls = h.chainCalls ++ [.ensure a.interface] := by
  rw [add_eq] at hr
  obtain ⟨u, l, hrun, hdone⟩ := of_bind_ok hr
  cases hdone
  obtain ⟨i, ids, l, ids', -, hbody, rfl⟩ := attended_eq_ok hrun
  have hcalls := chainCalls_provision (provision_of_provisionOrUndo hbody)
  rw [chainCalls_withRoot] at hcalls
  exact hcalls

/-- A pod that is deleted has had its chain removed. -/
lemma chainCalls_del (hr : m.del a h = (.ok (), k)) :
    k.chainCalls = h.chainCalls ++ [.remove a.interface] := by
  rw [del_eq] at hr
  obtain ⟨i, ids, l, ids', -, hbody, rfl⟩ := attended_eq_ok hr
  have hcalls := m.chainCalls_cleanUp i a { m.withRoot h with held := ids }
  rw [hbody, chainCalls_withRoot] at hcalls
  exact hcalls

end Mesh

/-! ## The latest call -/

/-- The interface that a call is for. -/
def ChainCall.interface : ChainCall → Text
  | .ensure interface | .remove interface => interface

/-- The latest call for an interface, if there was one. -/
def Host.latestCall (h : Host) (interface : Text) : Option ChainCall :=
  (h.chainCalls.filter (·.interface = interface)).getLast?

/-- A pod of a network is added or deleted. -/
def Move.isOn (n : Text) : Move → Bool
  | .add a | .del a => a.network = n
  | .kill _ => false

/-- The latest move on a network, if there was one. -/
def latestOn (n : Text) (moves : List Move) : Option Move :=
  (moves.filter (·.isOn n)).getLast?

/-- The call of a move on the network of an interface: for the chain if a pod is added, to remove it
if one is deleted. -/
def Move.callFor (interface : Text) : Move → Option ChainCall
  | .add _ => some (.ensure interface)
  | .del _ => some (.remove interface)
  | .kill _ => none

/-- The pod of a move is attached by the interface of its network. -/
def Move.IsWired (wiring : Text → Text) : Move → Prop
  | .add a | .del a => a.interface = wiring a.network
  | .kill _ => True

instance (wiring : Text → Text) (move : Move) : Decidable (move.IsWired wiring) :=
  match move with
  | .add a | .del a => inferInstanceAs (Decidable (a.interface = wiring a.network))
  | .kill _ => isTrue trivial

/-- One more move is the latest on its network. -/
lemma latestOn_append_singleton (n : Text) (moves : List Move) (move : Move) :
    latestOn n (moves ++ [move]) = if move.isOn n then some move else latestOn n moves := by
  unfold latestOn
  rw [List.filter_append]
  split <;> simp [*]

/-- A call more. -/
lemma Host.latestCall_append {h k : Host} {call : ChainCall}
    (hk : k.chainCalls = h.chainCalls ++ [call]) (interface : Text) :
    k.latestCall interface =
      if call.interface = interface then some call else h.latestCall interface := by
  unfold latestCall
  rw [hk, List.filter_append]
  split <;> simp [*]

section Runs

variable {m : Mesh} {h : Host} {wiring : Text → Text}

/-- **The latest call after a move** is that of the move if it is on the network of the interface,
and else the one before.

**Proof sketch.** The interfaces of different networks differ, so a call for the interface of one
is made by a move on that network. Adding ensures the chain and deleting removes it; a killed
process calls nothing. -/
theorem Mesh.latestCall_step (hinj : Function.Injective wiring) {move : Move}
    (hwired : move.IsWired wiring) (hok : (m.perform move h).1 = .ok ()) (n : Text) :
    (m.step h move).latestCall (wiring n) =
      if move.isOn n then move.callFor (wiring n) else h.latestCall (wiring n) := by
  cases move with
  | add a =>
    have hw : a.interface = wiring a.network := hwired
    obtain ⟨servers, hadd⟩ := perform_add_eq_ok_iff.mp hok
    rw [step_add, latestCall_append (chainCalls_add (Prod.ext hadd rfl))]
    simp only [ChainCall.interface, hw, hinj.eq_iff, Move.isOn, decide_eq_true_eq, Move.callFor]
    split
    · next hn => rw [hn]
    · rfl
  | del a =>
    have hw : a.interface = wiring a.network := hwired
    rw [step_del, latestCall_append (chainCalls_del (Prod.ext hok rfl))]
    simp only [ChainCall.interface, hw, hinj.eq_iff, Move.isOn, decide_eq_true_eq, Move.callFor]
    split
    · next hn => rw [hn]
    · rfl
  | kill pid =>
    have hcalls : (m.step h (.kill pid)).chainCalls = h.chainCalls := by
      rw [step_kill]
      exact (stable_chainCalls h.chainCalls).keeps_send _ _ h rfl
    rw [latestCall, hcalls]
    rfl

/-- **The latest call for an interface tells the latest operation on its network.** In a run in
which every operation succeeds, with one interface for each network, a chain was asked for if the
latest operation on the network was to add a pod, and removed if it was to delete one, whether or
not pods are left.

**Proof sketch.** An operation that succeeds makes exactly one call, and from there by induction on
the run, at its end. -/
theorem latest_call_of_latest_operation (hinj : Function.Injective wiring)
    (hnone : h.chainCalls = []) {moves : List Move} (hwired : ∀ move ∈ moves, move.IsWired wiring)
    (hok : m.Along (fun k move => (m.perform move k).1 = .ok ()) h moves) (n : Text) :
    (m.play h moves).latestCall (wiring n) =
      (latestOn n moves).bind (·.callFor (wiring n)) := by
  induction moves using List.reverseRecOn with
  | nil =>
    have hcalls : (m.play h []).chainCalls = [] := hnone
    rw [Host.latestCall, hcalls]
    rfl
  | append_singleton moves move ih =>
    obtain ⟨hbefore, hlast, -⟩ := Mesh.along_append.mp hok
    have hthen : m.play h (moves ++ [move]) = m.step (m.play h moves) move :=
      m.play_append h moves [move]
    rw [hthen, Mesh.latestCall_step hinj (hwired _ (by simp)) hlast, latestOn_append_singleton,
      ih (fun x hx => hwired x (List.mem_append_left _ hx)) hbefore]
    split <;> rfl

end Runs

namespace Sample

/-- Each network has the interface of its name. -/
def wiredPod (network domain name : String) (octets : Vector UInt8 4) : Attachment :=
  { pod network domain name octets with interface := network.toList }

/-- Two pods are added to a network, and the first of them is deleted. -/
def oneLeft : List Move :=
  [.add (wiredPod "a" "x" "p" (octets 10 1 0 1)), .add (wiredPod "a" "x" "q" (octets 10 1 0 1)),
    .del (wiredPod "a" "x" "p" (octets 10 1 0 1))]

end Sample

/-- One pod of a network is left, and another network has one: the latest operation on the first
was to delete a pod, and its chain is removed, while the chain of the second was asked for last. -/
theorem latest_call_of_latest_operation_of_two_networks :
    (Sample.mesh.play (Sample.host [Sample.daemon]) (Sample.oneLeft ++
        [.add (Sample.wiredPod "b" "y" "r" (Sample.octets 10 2 0 1))])).latestCall "a".toList =
      some (.remove "a".toList) ∧
    (Sample.mesh.play (Sample.host [Sample.daemon]) (Sample.oneLeft ++
        [.add (Sample.wiredPod "b" "y" "r" (Sample.octets 10 2 0 1))])).latestCall "b".toList =
      some (.ensure "b".toList) := by
  have hok : Sample.mesh.Along (fun k move => (Sample.mesh.perform move k).1 = .ok ())
      (Sample.host [Sample.daemon]) (Sample.oneLeft ++
        [.add (Sample.wiredPod "b" "y" "r" (Sample.octets 10 2 0 1))]) := by decide +kernel
  have hlatest := latest_call_of_latest_operation Function.injective_id rfl
    (by decide) hok
  exact ⟨hlatest "a".toList, hlatest "b".toList⟩

/-- **A chain is removed while a pod remains.** All calls of the hook succeed, each network has an
interface of its own, the pods have names of one word, no aliases and an address, the root is empty
at first, and every operation succeeds. After two pods were added and the first of them deleted, the
hosts file lists the second, and the latest call for the interface was to remove its chain.

**Proof sketch.** All of it is computed on the concrete run. -/
theorem chain_removed_while_pods_remain :
    (∀ past call, Sample.mesh.chain.refusal past call = none) ∧
      Sample.mesh.StartsEmpty Sample.base (Sample.host [Sample.daemon]) ∧
      (∀ move ∈ Sample.oneLeft, move.IsWired id) ∧
      (∀ a, .add a ∈ Sample.oneLeft ∨ .del a ∈ Sample.oneLeft → a.IsRegistrable) ∧
      Sample.mesh.Along (fun k move => (Sample.mesh.perform move k).1 = .ok ())
        (Sample.host [Sample.daemon]) Sample.oneLeft ∧
      ((Sample.mesh.play (Sample.host [Sample.daemon]) Sample.oneLeft).disk.fileText Sample.base
          "a".toList hostsName).map (fun t => (Text.lines t).map HostsFile.podOf?) =
        some [some "q".toList] ∧
      (Sample.mesh.play (Sample.host [Sample.daemon]) Sample.oneLeft).latestCall "a".toList =
        some (.remove "a".toList) := by
  -- all that is read off the run, so that it is made once
  have hread : Sample.mesh.Along (fun k move => (Sample.mesh.perform move k).1 = .ok ())
        (Sample.host [Sample.daemon]) Sample.oneLeft ∧
      ((Sample.mesh.play (Sample.host [Sample.daemon]) Sample.oneLeft).disk.fileText Sample.base
          "a".toList hostsName).map (fun t => (Text.lines t).map HostsFile.podOf?) =
        some [some "q".toList] ∧
      (Sample.mesh.play (Sample.host [Sample.daemon]) Sample.oneLeft).latestCall "a".toList =
        some (.remove "a".toList) := by decide +kernel
  have hpods : ∀ a, .add a ∈ Sample.oneLeft ∨ .del a ∈ Sample.oneLeft → a.IsRegistrable := by
    intro a ha
    simp only [Sample.oneLeft, List.mem_cons, Move.add.injEq, Move.del.injEq, reduceCtorEq,
      List.not_mem_nil, or_false, false_or] at ha
    rcases ha with (rfl | rfl) | rfl <;> decide
  exact ⟨fun _ _ => rfl, Sample.startsEmpty _, by decide, hpods, hread⟩

end ResolverMesh
