import ResolverMesh.Proofs.Runs

set_option autoImplicit false
set_option relaxedAutoImplicit false

/-!
# Forwarders left behind

What a network has published is in its own file of forwarders. What is withdrawn when the network
is taken down is not read from that file: it is made up anew from the request that detaches the
last pod. So a line that was published stays with a sibling just if the sibling has more copies of
it than the request has.

## Main definitions

* `ResolverMesh.Attachment.withdrawn` — the lines that a request takes back.
* `ResolverMesh.Forwarders.Outlasts` — a line that stays where others are taken away.

## Main results

* `ResolverMesh.Forwarders.outlasts_iff_of_ending` — which lines stay, as far as lines do not end
  in a carriage return.
* `ResolverMesh.Mesh.Stores.left_behind_iff` — what is left of a network that has been taken down.
* `ResolverMesh.Mesh.Stores.nothing_left` — requests that leave nothing.
* `ResolverMesh.teardown_withdraws_iff` — the same in every state of a run.
-/

namespace ResolverMesh

open Disk Propagation

/-- The lines that are taken back from the siblings when a pod is detached as the last one. -/
def Attachment.withdrawn (a : Attachment) : List Text :=
  if a.multiDomain then Forwarders.scopedLines a.domain a.servers else []

namespace Forwarders

/-- A line is read from a file of forwarders that others have been removed from: the file had more
copies of it than were removed. A file from which something is removed is written anew, and a
carriage return at the end of one of its lines is lost then. -/
def Outlasts (current outgoing : List Text) (l : Text) : Prop :=
  ∃ l', outgoing.count l' < current.count l' ∧
    (if (remove current outgoing).changed then Text.dropReturn l' else l') = l

section Outlasts

variable {current outgoing : List Text} {l : Text}

/-- What is left by a removal had more copies than were removed. -/
lemma mem_remove_iff_count :
    l ∈ (remove current outgoing).lines ↔ outgoing.count l < current.count l := by
  rw [← List.count_pos_iff, count_remove]
  omega

/-- **Which lines stay** where none ends in a carriage return: those with more copies than are
removed.

**Proof sketch.** Without carriage returns a line is read back as it is, so a line stays just if a
copy of itself does. -/
theorem outlasts_iff_of_ending (h : ∀ x ∈ current, x.getLast? ≠ some '\r') :
    Outlasts current outgoing l ↔ outgoing.count l < current.count l := by
  have hread : ∀ l', outgoing.count l' < current.count l' →
      (if (remove current outgoing).changed then Text.dropReturn l' else l') = l' := by
    intro l' hl'
    have hmem : l' ∈ current := List.count_pos_iff.mp (by omega)
    rw [Text.dropReturn_of_ne (h l' hmem), ite_self]
  constructor
  · rintro ⟨l', hl', rfl⟩
    rw [hread l' hl']
    exact hl'
  · exact fun hl => ⟨l, hl, hread l hl⟩

/-- A line that is removed does not stay where no line stands twice. -/
lemma not_outlasts_of_mem (h : ∀ x ∈ current, x.getLast? ≠ some '\r') (hnd : current.Nodup)
    (hl : l ∈ outgoing) : ¬ Outlasts current outgoing l := by
  have hone := List.nodup_iff_count_le_one.mp hnd l
  have hpos := List.count_pos_iff.mpr hl
  rw [outlasts_iff_of_ending h]
  omega

end Outlasts

end Forwarders

section Revise

variable {v : Shelf} {names own : List Text} {p l : Text}

/-- What a sibling forwards to after lines have been withdrawn from it.

**Proof sketch.** If the file is written again, a line is read back from it just if a line of it
reads as this one. If not, the removal has left all lines in place. -/
lemma Shelf.mem_forwarders_withdrawn (hp : p ∈ names) (hl : l ≠ []) :
    l ∈ (v.revise names fun q => Forwarders.remove (v.forwarders q) own).forwarders p ↔
      Forwarders.Outlasts (v.forwarders p) own l := by
  rw [Propagation.forwarders_revise_of_mem hp]
  unfold Forwarders.Outlasts
  by_cases hc : (Forwarders.remove (v.forwarders p) own).changed = true
  · have hnewline : ∀ x ∈ (Forwarders.remove (v.forwarders p) own).lines, '\n' ∉ x :=
      fun x hx => (Forwarders.of_mem_ofText ((Forwarders.remove_sublist _ _).subset hx)).2
    simp only [if_pos hc]
    rw [Forwarders.mem_ofText_toText_iff hnewline]
    simp only [Forwarders.mem_remove_iff_count, hl, ne_eq, not_false_eq_true, true_and]
  · have hsame := Forwarders.lines_remove_of_unchanged (by simpa using hc)
    simp only [if_neg hc, exists_eq_right]
    rw [← Forwarders.mem_remove_iff_count, hsame]

end Revise

namespace Sample

/-- A pod joins a network whose daemon runs, so that the other nameserver it brings is not
published; the first pod leaves. -/
def changedMoves : List Move :=
  [.add (pod "a" "x" "p" (octets 10 1 0 1)), .add (pod "b" "y" "q" (octets 10 2 0 1)),
    .add (pod "b" "y" "r" (octets 10 2 0 9)), .del (pod "b" "y" "q" (octets 10 2 0 1))]

/-- The host after these moves. -/
def changed : Host := mesh.play (host [daemon]) changedMoves

/-- The pod that is left, with the nameserver that it came with. -/
def lastPod : Attachment := pod "b" "y" "r" (octets 10 2 0 9)

end Sample

section Teardown

variable {m : Mesh} {base : Location} {h k : Host} {v : Shelf} {a : Attachment}

/-- **A network that has been taken down** leaves none of its lines with a sibling just if no
sibling has more copies of one than the request takes back.

**Proof sketch.** The network is gone, so the lines were taken back from each sibling that is left.
A line is still there just if it outlasts that, which is said sibling by sibling. -/
theorem Mesh.Stores.left_behind_iff (hs : m.Stores base v h)
    (ht : Host.Tame base h (m.del a h).2) (hok : (m.del a h).1 = .ok ())
    (hthere : v.isNetwork a.network = true)
    (hgone : ¬ (m.del a h).2.disk.HasNetwork base a.network) :
    (∀ p ≠ a.network, (m.del a h).2.disk.HasNetwork base p → ∀ l ∈ v.published a.network,
        l ∉ ((m.del a h).2.disk.shelf base).forwarders p) ↔
      ∀ p ≠ a.network, v.isNetwork p = true → ∀ l ∈ v.published a.network,
        ¬ Forwarders.Outlasts (v.forwarders p) a.withdrawn l := by
  obtain ⟨binary, v', hdet, hk⟩ := hs.del_ok ht hok
  rw [← isNetwork_shelf_iff, hk.shelf_eq] at hgone
  simp only [← isNetwork_shelf_iff, hk.shelf_eq]
  rcases hdet with ⟨t, rfl⟩ | ⟨names, hsib, rfl⟩
  · exact absurd hthere hgone
  · have hsib : Siblings v a.network names := hsib
    -- a network that is not made known takes nothing back, which a removal of no lines does not
    have hwithdrawn : (if (m.settings.instanceOf binary a).multiDomain then
          v.revise names fun p => Forwarders.remove (v.forwarders p)
            (Forwarders.scopedLines a.domain a.servers) else v) =
        v.revise names fun p => Forwarders.remove (v.forwarders p) a.withdrawn := by
      change (if a.multiDomain = true then _ else _) = _
      unfold Attachment.withdrawn
      split
      · rfl
      · ext n f x
        · rfl
        · simp [Shelf.revise, Forwarders.remove]
    have hstays : ∀ p ≠ a.network, ((if (m.settings.instanceOf binary a).multiDomain then
          v.revise names fun p => Forwarders.remove (v.forwarders p)
            (Forwarders.scopedLines a.domain a.servers) else v).removeNetwork a.network).isNetwork
              p = v.isNetwork p := by
      intro p hp
      rw [hwithdrawn]
      simp [Shelf.removeNetwork, hp]
    have hmem : ∀ p ≠ a.network, v.isNetwork p = true → ∀ l ∈ v.published a.network,
        (l ∈ ((if (m.settings.instanceOf binary a).multiDomain then
          v.revise names fun p => Forwarders.remove (v.forwarders p)
            (Forwarders.scopedLines a.domain a.servers) else v).removeNetwork
              a.network).forwarders p ↔
          Forwarders.Outlasts (v.forwarders p) a.withdrawn l) := by
      intro p hp hnet l hl
      rw [hwithdrawn]
      unfold Shelf.forwarders
      rw [Shelf.text?_removeNetwork_of_ne hp]
      exact Shelf.mem_forwarders_withdrawn ((hsib.mem_iff p).mpr ⟨hnet, hp⟩)
        (Forwarders.of_mem_ofText hl).1
    constructor
    · intro hnone p hp hnet l hl
      rw [← hmem p hp hnet l hl]
      exact hnone p hp ((hstays p hp).trans hnet) l hl
    · intro hnone p hp hnet l hl
      have hnet : v.isNetwork p = true := (hstays p hp).symm.trans hnet
      exact (hmem p hp hnet l hl).not.mpr (hnone p hp hnet l hl)

/-- **A request that names what was published** leaves nothing of it behind, where no line stands
twice with a sibling and none ends in a carriage return. -/
theorem Mesh.Stores.nothing_left (hs : m.Stores base v h)
    (ht : Host.Tame base h (m.del a h).2) (hok : (m.del a h).1 = .ok ())
    (hthere : v.isNetwork a.network = true)
    (hgone : ¬ (m.del a h).2.disk.HasNetwork base a.network)
    (hnamed : ∀ l ∈ v.published a.network, l ∈ a.withdrawn)
    (hfiles : ∀ p ≠ a.network, v.isNetwork p = true →
      (v.forwarders p).Nodup ∧ ∀ x ∈ v.forwarders p, x.getLast? ≠ some '\r') :
    ∀ p ≠ a.network, (m.del a h).2.disk.HasNetwork base p → ∀ l ∈ v.published a.network,
      l ∉ ((m.del a h).2.disk.shelf base).forwarders p :=
  (hs.left_behind_iff ht hok hthere hgone).mpr fun p hp hnet l hl =>
    Forwarders.not_outlasts_of_mem (hfiles p hp hnet).2 (hfiles p hp hnet).1 (hnamed l hl)

/-- **A teardown withdraws what was published**, in every state of a run from an empty root, just
if no sibling has more copies of a published line than the request takes back: the lines of its
domain for its nameservers, or none if it is not for a network that is known to the others.

**Proof sketch.** The network is gone, so the detachment has come to its end: each sibling has
been revised from the lines that it had, and a removal takes as many copies of a line away as the
request has. -/
theorem teardown_withdraws_iff {moves : List Move} (h₀ : m.StartsEmpty base h)
    (hrun : m.Along (fun k move => Host.Tame base k (m.step k move)) h moves)
    (hk : m.play h moves = k) (ht : Host.Tame base k (m.del a k).2)
    (hok : (m.del a k).1 = .ok ()) (hthere : k.disk.HasNetwork base a.network)
    (hgone : ¬ (m.del a k).2.disk.HasNetwork base a.network) :
    (∀ p ≠ a.network, (m.del a k).2.disk.HasNetwork base p →
        ∀ l ∈ (k.disk.shelf base).published a.network,
          l ∉ ((m.del a k).2.disk.shelf base).forwarders p) ↔
      ∀ p ≠ a.network, k.disk.HasNetwork base p →
        ∀ l ∈ (k.disk.shelf base).published a.network,
          ¬ Forwarders.Outlasts ((k.disk.shelf base).forwarders p) a.withdrawn l := by
  obtain ⟨v, hs, -⟩ := hrun.stores (J := fun _ => True) h₀ trivial fun k v move hs _ ht => by
    obtain ⟨v', hs', -⟩ := hs.step move ht
    exact ⟨v', hs', trivial⟩
  rw [hk] at hs
  rw [hs.hasNetwork_iff] at hthere
  simp only [hs.shelf_eq, hs.hasNetwork_iff]
  exact hs.left_behind_iff ht hok hthere hgone

/-- A line that was published and is not taken back, since the last pod came with another
nameserver.

**Proof sketch.** The line that was published is not among those that the request takes back, so it
outlasts them in the file of the first network. -/
theorem teardown_withdraws_iff_of_changed :
    (Sample.mesh.del Sample.lastPod Sample.changed).1 = .ok () ∧
      ¬ ∀ p ≠ "b".toList, (Sample.mesh.del Sample.lastPod Sample.changed).2.disk.HasNetwork
          Sample.base p → ∀ l ∈ (Sample.changed.disk.shelf Sample.base).published "b".toList,
            l ∉ ((Sample.mesh.del Sample.lastPod Sample.changed).2.disk.shelf
              Sample.base).forwarders p := by
  -- all that is read off the run, so that it is made once
  have hread : Sample.mesh.Along (fun k move => Host.Tame Sample.base k (Sample.mesh.step k move))
        (Sample.host [Sample.daemon]) Sample.changedMoves ∧
      Host.Tame Sample.base Sample.changed (Sample.mesh.del Sample.lastPod Sample.changed).2 ∧
      (Sample.mesh.del Sample.lastPod Sample.changed).1 = .ok () ∧
      Sample.changed.disk.HasNetwork Sample.base "a".toList ∧
      Sample.changed.disk.HasNetwork Sample.base "b".toList ∧
      ¬ (Sample.mesh.del Sample.lastPod Sample.changed).2.disk.HasNetwork Sample.base
        "b".toList ∧
      (Sample.changed.disk.shelf Sample.base).published "b".toList =
        ["server=/y/10.2.0.1".toList] ∧
      (Sample.changed.disk.shelf Sample.base).forwarders "a".toList =
        ["server=/y/10.2.0.1".toList] := by decide +kernel
  obtain ⟨hrun, ht, hok, ha, hb, hgone, hpub, hfor⟩ := hread
  have hplay : Sample.mesh.play (Sample.host [Sample.daemon]) Sample.changedMoves =
      Sample.changed := rfl
  have hlasts : Forwarders.Outlasts ["server=/y/10.2.0.1".toList] Sample.lastPod.withdrawn
      "server=/y/10.2.0.1".toList :=
    ⟨"server=/y/10.2.0.1".toList, by decide +kernel, by decide +kernel⟩
  generalize Sample.changed = k at *
  refine ⟨hok, fun hnone => ?_⟩
  refine (teardown_withdraws_iff (Sample.startsEmpty _) hrun hplay ht hok hb hgone).mp hnone
    "a".toList (by decide) ha "server=/y/10.2.0.1".toList ?_ ?_
  · change _ ∈ (k.disk.shelf Sample.base).published "b".toList
    rw [hpub]
    exact List.mem_singleton_self _
  · rw [hfor]
    exact hlasts

end Teardown

end ResolverMesh
