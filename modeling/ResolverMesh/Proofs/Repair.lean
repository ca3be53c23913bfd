import ResolverMesh.Proofs.MeshInvariant

set_option autoImplicit false
set_option relaxedAutoImplicit false

/-!
# Links repaired by the next attachment

An operation can stop anywhere between the files of two networks, whenever a daemon fails to start
again. The next attachment of a pod to a network links that network with all others anew, however
little was left of the links, but only if the network's daemon does not run. If it does, the files
of the others are not looked at, and links that were missing stay missing.

## Main definitions

* `ResolverMesh.Roster.Linked` — a network and all others know each other.
* `ResolverMesh.Roster.Publishes` — no network publishes other lines than its own.
* `ResolverMesh.Shelf.withServers` — the networks with servers for everything added to one.

## Main results

* `ResolverMesh.Roster.Publishes.step` — every move keeps what the networks publish.
* `ResolverMesh.Roster.linked_published` — a network that is announced is linked.
* `ResolverMesh.linked_after_add_iff` — when an attachment that succeeds leaves its network linked.
-/

namespace ResolverMesh

open Disk Propagation

namespace Roster

/-- A network and all others know each other: it publishes its lines, all others have them, and it
has what all others publish. -/
structure Linked (R : Roster) (v : Shelf) (n : Text) : Prop where
  /-- It publishes exactly its lines. -/
  own : v.text? n ownServersName = some (Forwarders.toText (R.lines n))
  /-- All others have them. -/
  known : ∀ p ≠ n, v.isNetwork p = true → ∀ l ∈ R.lines n, l ∈ v.forwarders p
  /-- It has what all others publish. -/
  knows : ∀ p ≠ n, v.isNetwork p = true → ∀ l ∈ v.published p, l ∈ v.forwarders n

/-- The networks publish their own lines or nothing. -/
def Publishes (R : Roster) (v : Shelf) : Prop :=
  ∀ n, v.text? n ownServersName = none ∨
    v.text? n ownServersName = some (Forwarders.toText (R.lines n))

/-- A move of a run in which each network keeps its domain and its nameservers, whatever comes of
it. -/
def Covers (R : Roster) : Move → Prop
  | .add a => R.Fits a
  | .del a => R.Fits a
  | .kill _ => True

instance (R : Roster) (move : Move) : Decidable (R.Covers move) :=
  match move with
  | .add a => inferInstanceAs (Decidable (R.Fits a))
  | .del a => inferInstanceAs (Decidable (R.Fits a))
  | .kill _ => isTrue trivial

section Linked

variable {R : Roster} {root : Path} {v v₁ v' : Shelf} {n p : Text} {l : Text} {a : Attachment}
  {names known : List Text}

/-- What is published by a network that may have published nothing yet. -/
lemma Publishes.mem_lines (h : R.Publishes v) (hl : l ∈ v.published p) : l ∈ R.lines p := by
  unfold Shelf.published at hl
  rcases h p with hnone | hsome
  · rw [hnone] at hl
    cases hl
  · rw [hsome, Option.getD_some, R.ofText_toText_lines, Text.mem_sorted] at hl
    exact hl

/-- Whether a network is linked is decided by its own files and by the other networks.

**Proof sketch.** What is asked of a network is about its own two files and, of the others, about
whether they are there and what their files hold. -/
lemma Linked.congr (h : R.Linked v n) (hnet : ∀ p ≠ n, v'.isNetwork p = v.isNetwork p)
    (htext : ∀ p ≠ n, ∀ f, v'.text? p f = v.text? p f)
    (hown : v'.text? n ownServersName = v.text? n ownServersName)
    (hlocal : v'.text? n localServersName = v.text? n localServersName) : R.Linked v' n := by
  have hfor : v'.forwarders n = v.forwarders n := by
    unfold Shelf.forwarders
    rw [hlocal]
  refine ⟨hown.trans h.own, fun p hp hpnet l hl => ?_, fun p hp hpnet l hl => ?_⟩
  · unfold Shelf.forwarders
    rw [htext p hp]
    rw [hnet p hp] at hpnet
    exact h.known p hp hpnet l hl
  · rw [hfor]
    unfold Shelf.published at hl
    rw [htext p hp] at hl
    rw [hnet p hp] at hpnet
    exact h.knows p hp hpnet l hl

/-- A sibling that lines are merged into has them.

**Proof sketch.** If the merge has changed the file, it holds the merged lines. If not, no line was
missing. -/
lemma mem_forwarders_revise {own : List Text} (hclean : ∀ l ∈ own, Forwarders.IsClean l)
    (hp : p ∈ names) (hl : l ∈ own) :
    l ∈ (v.revise names fun q => Forwarders.merge (v.forwarders q) own).forwarders p := by
  unfold Shelf.forwarders
  by_cases hc : (Forwarders.merge (v.forwarders p) own).changed = true
  · have htext : (v.revise names fun q => Forwarders.merge (v.forwarders q) own).text? p
        localServersName = some (Forwarders.toText (Forwarders.merge (v.forwarders p) own).lines) :=
      by simp [Shelf.revise, hp, hc]
    unfold Shelf.forwarders at htext
    rw [htext]
    refine Forwarders.mem_ofText_toText ?_ (hclean l hl)
    exact Forwarders.mem_merge.mpr (.inr hl)
  · have htext : (v.revise names fun q => Forwarders.merge (v.forwarders q) own).text? p
        localServersName = v.text? p localServersName := by
      simp [Shelf.revise, hc]
    unfold Shelf.forwarders at htext
    rw [htext]
    -- no line was missing
    have hmem : l ∈ v.forwarders p := by
      by_contra hno
      exact hc (Forwarders.changed_merge_iff.mpr ⟨l, hl, hno⟩)
    exact hmem

/-- **A network that is announced** is linked, whatever its siblings knew before.

**Proof sketch.** All siblings are looked at: those that lack a line of the network get it, and
what they publish is learnt. It is not taken away again with the network's own lines, since no two
networks share a line. -/
theorem linked_published (h : R.Publishes v) (hsib : Siblings v n names) {domain : Text}
    (hsight : Sighting root v domain names (v.forwarders n) known) :
    R.Linked (Propagation.published v n (R.lines n) names known) n := by
  refine ⟨text?_published_own n _ names known, fun p hp hpnet l hl => ?_,
    fun p hp hpnet l hl => ?_⟩
  · have hmem : p ∈ names := (hsib.mem_iff p).mpr ⟨hpnet, hp⟩
    unfold Shelf.forwarders
    rw [text?_published_of_ne hp]
    exact mem_forwarders_revise (fun _ hl => isClean_of_mem_lines hl) hmem hl
  · have hmem : p ∈ names := (hsib.mem_iff p).mpr ⟨hpnet, hp⟩
    have hl' : l ∈ v.published p := by
      unfold Shelf.published at hl ⊢
      rw [text?_published_of_ne hp, Shelf.text?_revise_of_ne (by decide)] at hl
      exact hl
    have hlines : l ∈ R.lines p := h.mem_lines hl'
    have hlearnt : l ∈ known := (hsight.mem_known l).mpr (.inr ⟨p, hmem, .inl hl'⟩)
    have hkept : l ∈ (Forwarders.remove known (R.lines n)).lines := by
      refine (Forwarders.mem_remove_of_not_mem fun hln => ?_).mpr hlearnt
      exact hp (eq_of_mem_lines hlines hln)
    unfold Shelf.forwarders
    rw [text?_published_local]
    exact Forwarders.mem_ofText_toText hkept (isClean_of_mem_lines hlines)

/-- An attachment leaves other networks as they were before it looks at them. -/
lemma Publishes.entered (h : R.Publishes v) (he : v.Entered v₁ n a) : R.Publishes v₁ := by
  intro p
  by_cases hp : p = n
  · subst hp
    rw [he.own]
    exact h p
  · rw [he.text_of_ne p hp]
    exact h p

/-- Where nothing but the lines of a network is written to its own file, all publish what they
did.

**Proof sketch.** The network's own file is gone, or as before, or holds its lines. The others keep
theirs. -/
lemma Publishes.evolves {written : Text → Prop} (h : R.Publishes v)
    (he : v.Evolves v' n written)
    (hw : ∀ t, written t → t = Forwarders.toText (R.lines n)) : R.Publishes v' := by
  intro p
  by_cases hp : p = n
  · subst hp
    rcases he.own with hnone | hsame | ⟨t, ht, hwritten⟩
    · exact .inl hnone
    · rw [hsame]
      exact h p
    · rw [ht, hw t hwritten]
      exact .inr rfl
  · rw [he.own_of_ne p hp]
    exact h p

/-- **Every move** of such a run, however it ends, keeps what the networks publish.

**Proof sketch.** An attachment of such a run writes the lines that its network is known for. A
detachment and a kill write no such file. -/
theorem Publishes.step (h : R.Publishes v) {move : Move} (hcovers : R.Covers move)
    (hrew : move.Rewrites v v') : R.Publishes v' := by
  cases move with
  | add a =>
    have hfits : R.Fits a := hcovers
    refine h.evolves hrew ?_
    rintro t rfl
    unfold Attachment.ownText
    rw [hfits.scopedLines]
  | del a => exact h.evolves hrew fun t hfalse => hfalse.elim
  | kill pid =>
    have hsame : v' = v := hrew
    rw [hsame]
    exact h

end Linked

end Roster

/-- The networks with servers for everything added to the forwarders of one. -/
def Shelf.withServers (v : Shelf) (n : Text) (servers : List Text) : Shelf :=
  v.write n localServersName
    (Forwarders.withPlain ((v.text? n localServersName).getD []) servers)

namespace Sample

/-- The last pod of a network is deleted, which is stopped since the daemon of the other network
does not start again. -/
def interruptedMoves : List Move :=
  [.add (pod "a" "x" "p" (octets 10 1 0 1)), .add (pod "b" "y" "q" (octets 10 2 0 1)),
    .del (pod "b" "y" "q" (octets 10 2 0 1))]

/-- A host on which the fourth run of the daemon's program fails. -/
def faulty : Host := host [daemon, daemon, daemon, failure, daemon]

/-- The host after these moves. -/
def interrupted : Host := mesh.play faulty interruptedMoves

/-- The next pod of that network. -/
def nextPod : Attachment := pod "b" "y" "r" (octets 10 2 0 1)

end Sample

section Repair

variable {m : Mesh} {R : Roster} {base : Location} {h k : Host} {v : Shelf} {a : Attachment}

/-- A network that a pod has been entered into is linked just if it was linked before, with the
servers of the pod.

**Proof sketch.** The link of a network depends on which networks are there and on the two files of
each, and these are the same on both shelves. The hosts file is not among them. -/
lemma Shelf.Entered.linked_iff {v₁ : Shelf} {n : Text} (he : v.Entered v₁ n a) :
    R.Linked v₁ n ↔ R.Linked (v.withServers n a.defaultServers) n := by
  have hne : ownServersName ≠ localServersName := by decide
  have htext : ∀ p ≠ n, ∀ f, (v.withServers n a.defaultServers).text? p f = v₁.text? p f := by
    intro p hp f
    rw [he.text_of_ne p hp]
    exact Shelf.text?_write_of_ne v fun h => hp h.1
  have hown : (v.withServers n a.defaultServers).text? n ownServersName =
      v₁.text? n ownServersName := by
    rw [he.own]
    exact Shelf.text?_write_of_ne v fun h => hne h.2
  have hlocal : (v.withServers n a.defaultServers).text? n localServersName =
      v₁.text? n localServersName := by
    rw [he.forwarders]
    exact Shelf.text?_write_self v n localServersName _
  have hnet : ∀ p ≠ n, (v.withServers n a.defaultServers).isNetwork p = v₁.isNetwork p :=
    fun p hp => (he.isNetwork_of_ne p hp).symm
  constructor
  · exact fun hl => hl.congr hnet htext hown hlocal
  · exact fun hl => hl.congr (fun p hp => (hnet p hp).symm) (fun p hp f => (htext p hp f).symm)
      hown.symm hlocal.symm

/-- **A pod added** in a state of a run links its network with all others, if the daemon did not
run.

**Proof sketch.** If the daemon ran, the pod was entered and not announced. If it did not, the
announcement has linked the network, and the condition on a running daemon is void. -/
theorem Mesh.Stores.linked_iff (hs : m.Stores base v h) (hpub : R.Publishes v) (hfits : R.Fits a)
    (ht : Host.Tame base h (m.add a h).2) {servers : List Text}
    (hok : (m.add a h).1 = .ok servers) :
    R.Linked ((m.add a h).2.disk.shelf base) a.network ↔
      (m.Runs base h a.network →
        R.Linked (v.withServers a.network a.defaultServers) a.network) := by
  obtain ⟨binary, state, v', ⟨v₁, he, hcase⟩, hk, hstate⟩ := hs.add_ok ht hok
  have he : v.Entered v₁ a.network a := he
  have hmulti : (m.settings.instanceOf binary a).multiDomain = true := hfits.multiDomain
  rw [hk.shelf_eq, ← he.linked_iff]
  rcases hcase with ⟨hran, rfl⟩ | ⟨-, hno, names, known, hann, rfl⟩
  · -- the network was not announced, since its daemon ran
    have hruns : m.Runs base h a.network := by
      by_contra hno
      exact hran hmulti (hstate.mpr hno)
    exact ⟨fun hl _ => hl, fun hl => hl hruns⟩
  · have hsib : Siblings v₁ a.network names := hann.siblings
    have hlinked := Roster.linked_published (hpub.entered he) hsib hann.sighting
    rw [← hfits.scopedLines] at hlinked
    exact ⟨fun _ hruns => absurd hruns (hstate.mp hno), fun _ => hlinked⟩

/-- **The next attachment repairs what an operation has left**, in every state of a run from an
empty root in which each network keeps its domain and its nameservers: an attachment that succeeds
leaves its network linked with all others just if the network's daemon did not run before, or the
network was linked already, up to the servers that come with the pod.

**Proof sketch.** By induction on the run, no network publishes other lines than its own. If the
daemon did not run, the network is announced, which links it. If it ran, the attachment has
changed nothing but the files of its own network, and there only the forwarders to servers. -/
theorem linked_after_add_iff {moves : List Move} (h₀ : m.StartsEmpty base h)
    (hrun : m.Along (fun k move => R.Covers move ∧ Host.Tame base k (m.step k move)) h moves)
    (hk : m.play h moves = k) (hfits : R.Fits a) (ht : Host.Tame base k (m.add a k).2)
    {servers : List Text} (hok : (m.add a k).1 = .ok servers) :
    R.Linked ((m.add a k).2.disk.shelf base) a.network ↔
      (m.Runs base k a.network →
        R.Linked ((k.disk.shelf base).withServers a.network a.defaultServers) a.network) := by
  have hempty : R.Publishes .empty := fun _ => .inl rfl
  obtain ⟨v, hs, hpub⟩ := hrun.stores h₀ hempty fun k v move hs hpub ⟨hcovers, ht⟩ => by
    obtain ⟨v', hs', hrew⟩ := hs.step move ht
    exact ⟨v', hs', hpub.step hcovers hrew⟩
  rw [hk] at hs
  rw [hs.shelf_eq]
  exact hs.linked_iff hpub hfits ht hok

/-- A link that is missing stays missing, since the daemon of the network runs on.

**Proof sketch.** The daemon of the second network runs before the attachment, and the first
network lacks a line then. So the network was not linked before, and the theorem says that it still
is not. -/
theorem linked_after_add_iff_of_interrupted :
    (Sample.mesh.add Sample.nextPod Sample.interrupted).1 = .ok ["10.2.0.1".toList] ∧
      ¬ Sample.roster.Linked ((Sample.mesh.add Sample.nextPod Sample.interrupted).2.disk.shelf
        Sample.base) "b".toList := by
  -- all that is read off the run, so that it is made once
  have hread : Sample.mesh.Along (fun k move => Sample.roster.Covers move ∧
        Host.Tame Sample.base k (Sample.mesh.step k move)) Sample.faulty Sample.interruptedMoves ∧
      Host.Tame Sample.base Sample.interrupted
        (Sample.mesh.add Sample.nextPod Sample.interrupted).2 ∧
      (Sample.mesh.add Sample.nextPod Sample.interrupted).1 = .ok ["10.2.0.1".toList] ∧
      Sample.interrupted.disk.HasNetwork Sample.base "a".toList ∧
      Sample.interrupted.disk.HasNetwork Sample.base "b".toList ∧
      Sample.mesh.stateOf Sample.interrupted "b".toList ≠ .notRunning ∧
      "server=/y/10.2.0.1".toList ∉ ((Sample.interrupted.disk.shelf Sample.base).withServers
        "b".toList []).forwarders "a".toList := by decide +kernel
  obtain ⟨hrun, ht, hok, ha, hb, hstate, hmissing⟩ := hread
  have hplay : Sample.mesh.play Sample.faulty Sample.interruptedMoves = Sample.interrupted := rfl
  have hfits : Sample.roster.Fits Sample.nextPod := by decide +kernel
  have hline : "server=/y/10.2.0.1".toList ∈ Sample.roster.lines "b".toList := by decide +kernel
  have hnet : (Sample.interrupted.disk.shelf Sample.base).isNetwork "a".toList = true :=
    isNetwork_shelf_iff.mpr ha
  generalize Sample.interrupted = k at *
  refine ⟨hok, fun hlinked => ?_⟩
  have hbefore :=
    (linked_after_add_iff (Sample.startsEmpty _) hrun hplay hfits ht hok).mp hlinked ⟨hb, hstate⟩
  exact hmissing (hbefore.known "a".toList (by decide) hnet _ hline)

end Repair

end ResolverMesh
