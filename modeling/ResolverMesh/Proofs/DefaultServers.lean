import ResolverMesh.Proofs.OperationFrame
import ResolverMesh.Proofs.Runs

set_option autoImplicit false
set_option relaxedAutoImplicit false

/-!
# Servers for everything else

A pod may bring servers for the questions that no network's domain answers. They are written into
its own network's file of forwarders, beside the lines that the network learns from its siblings.
When another network is announced, it learns all that this file holds. So the servers of a pod stay
with its network just as long as no network overhears them at its announcement.

## Main definitions

* `ResolverMesh.Shelf.ForwardsTo` — a network forwards what it cannot answer to a server.
* `ResolverMesh.Asked`, `ResolverMesh.Shelf.Contains` — the servers that pods of a network brought,
  and that no network forwards to others.
* `ResolverMesh.Mesh.Overhears` — an attachment lets its network learn servers of a sibling.
* `ResolverMesh.Host.Gathered` — where the servers of a network come from, in the middle of an
  operation.

## Main results

* `ResolverMesh.Propagation.mem_known_of_survey` — what a network learns from its siblings.
* `ResolverMesh.Host.Gathered.attachingKeeps`, `ResolverMesh.Host.Gathered.detachingKeeps` — the
  requests of an operation.
* `ResolverMesh.default_servers_contained_iff` — when the servers of pods stay with their networks.
-/

namespace ResolverMesh

open ResolverMesh.Action Disk

/-! ## Lines for everything -/

namespace Forwarders

variable {s l d : Text} {servers ls : List Text}

/-- The line of a server is among the lines of some just if the server is among them. -/
lemma plainLine_mem_plainLines_iff : plainLine s ∈ plainLines servers ↔ s ∈ servers := by
  refine ⟨fun hmem => ?_, List.mem_map_of_mem⟩
  obtain ⟨t, ht, heq⟩ := List.mem_map.mp hmem
  exact List.append_cancel_left heq ▸ ht

/-- A line for a domain has a slash before the domain. -/
lemma plainLine_not_mem_scopedLines (hs : '/' ∉ s) : plainLine s ∉ scopedLines d servers := by
  intro hmem
  obtain ⟨server, -, heq⟩ := List.mem_map.mp hmem
  have hslash := slash_mem_scopedLine d server
  rw [heq] at hslash
  unfold plainLine at hslash
  exact (List.mem_append.mp hslash).elim (by decide) hs

/-- Clean lines that are written are read again, and no others. -/
lemma mem_ofText_toText_of_isClean (h : ∀ l ∈ ls, IsClean l) : l ∈ ofText (toText ls) ↔ l ∈ ls := by
  rw [ofText_toText h, Text.mem_sorted]

end Forwarders

/-! ## Definitions -/

namespace Shelf

/-- A network forwards what it cannot answer to a server. -/
def ForwardsTo (v : Shelf) (n s : Text) : Prop :=
  '/' ∉ s ∧ Forwarders.plainLine s ∈ v.forwarders n

/-- Whether a network forwards to a server is decided by its forwarders. -/
lemma forwardsTo_congr {v w : Shelf} {n : Text} (h : w.forwarders n = v.forwarders n) (s : Text) :
    w.ForwardsTo n s ↔ v.ForwardsTo n s := by
  unfold ForwardsTo
  rw [h]

/-- The forwarders of all networks are read back as they are written, and none of those that a
network publishes is for everything. -/
structure Proper (v : Shelf) : Prop where
  /-- No line of a network ends in a carriage return. -/
  forwarders : ∀ n, ∀ l ∈ v.forwarders n, l.getLast? ≠ some '\r'
  /-- Nor does one that is published, which has a slash. -/
  published : ∀ n, ∀ l ∈ v.published n, '/' ∈ l ∧ l.getLast? ≠ some '\r'

/-- Without a network there is nothing improper. -/
lemma Proper.empty : Proper .empty :=
  ⟨fun _ _ hl => (List.not_mem_nil hl).elim, fun _ _ hl => (List.not_mem_nil hl).elim⟩

end Shelf

/-- What an attachment brings is read back as it is written: its domain and its servers are on one
line, and no server ends in a carriage return. -/
structure Attachment.HasCleanLines (a : Attachment) : Prop where
  /-- The domain is on one line. -/
  domain : '\n' ∉ a.domain
  /-- So is each server. -/
  servers : ∀ s ∈ a.defaultServers, '\n' ∉ s ∧ s.getLast? ≠ some '\r'

/-- From one host to a later one, a network was announced. -/
def Host.Announces (n d : Text) (h k : Host) : Prop :=
  ∃ count, .logged (.propagated n d count) ∈ h.since k

/-- From a host to a later one, where the servers come from that a network forwards to: they are
those of before, those that were asked for, and those of siblings if it was announced. Once it is,
and if it is there, it forwards to all of them. -/
structure Host.Gathered (base : Location) (n d : Text) (asked : List Text) (isThere : Prop)
    (o k : Host) : Prop where
  /-- No line ends in a carriage return. -/
  ending : ∀ p, ∀ l ∈ (k.disk.shelf base).forwarders p, l.getLast? ≠ some '\r'
  /-- Siblings forward to the same servers. -/
  siblings : ∀ p ≠ n, ∀ s, (k.disk.shelf base).ForwardsTo p s ↔ (o.disk.shelf base).ForwardsTo p s
  /-- The servers of the network. -/
  own : ∀ s, (k.disk.shelf base).ForwardsTo n s → (o.disk.shelf base).ForwardsTo n s ∨ s ∈ asked ∨
    o.Announces n d k ∧ ∃ p ≠ n, o.disk.HasNetwork base p ∧ (o.disk.shelf base).ForwardsTo p s
  /-- The servers of siblings that it has heard of. -/
  heard : isThere → o.Announces n d k → ∀ p ≠ n, o.disk.HasNetwork base p → ∀ s,
    (o.disk.shelf base).ForwardsTo p s → (k.disk.shelf base).ForwardsTo n s

/-! ## What a network learns -/

/-- **What a network learns from its siblings** is what they publish and what they know.

**Proof sketch.** A survey that has ended with a result is a sighting of all the siblings named. -/
theorem Propagation.mem_known_of_survey {s : Settings} {base : Location} {domain : Text}
    {own names : List Text} {h : Host} (hl : h.disk.Linkless s.rootDir base)
    (hnames : ∀ p ∈ names, h.disk.HasNetwork base p) {found result : Survey}
    (hr : survey s domain own names found h = .ok result) (l : Text) :
    l ∈ result.known ↔ l ∈ found.known ∨ ∃ p ∈ names,
      l ∈ (h.disk.shelf base).published p ∨ l ∈ (h.disk.shelf base).forwarders p := by
  rcases survey_outcome rfl hl domain own hnames found with
    ⟨res, hres, -, -, hsight, -⟩ | ⟨fault, hfault, -⟩
  · rw [hr] at hres
    obtain rfl : result = res := Except.ok.inj hres
    exact hsight.mem_known l
  · rw [hr] at hfault
    cases hfault

/-! ## In the middle of an operation -/

namespace Host

section Gathered

variable {root : Path} {base : Location} {n p d : Text} {asked : List Text} {isThere : Prop}
  {o h k w : Host}

/-- A network is announced in a stretch of effects just if it is in one of its parts. -/
lemma announces_iff (ho : o.journal <+: h.journal) (hrec : h.journal <+: k.journal) :
    o.Announces n d k ↔ o.Announces n d h ∨ h.Announces n d k := by
  unfold Announces
  simp only [since_append ho hrec, List.mem_append, exists_or]

/-- A network is announced once its forwarders have been written. -/
lemma Filed.announces {loc : Location} {c : Content} (hw : h.Filed k loc c)
    (ho : o.journal <+: h.journal) (count : Nat) :
    o.Announces n d (k.record (.logged (.propagated n d count))) := by
  have hj : (k.record (.logged (.propagated n d count))).journal =
      h.journal ++ [Event.wroteFile loc, .logged (.propagated n d count)] := by
    rw [Host.record, hw.journal, List.append_assoc]
    rfl
  refine ⟨count, mem_since_of_suffix ho ⟨_, hj.symm⟩ ?_⟩
  rw [since_of_journal hj]
  simp

/-- **Forwarders written** as clean lines. -/
lemma Wrote.forwarders {ls : List Text}
    (hw : h.Wrote k (base ++ [Name.text p, .text localServersName]) (Forwarders.toText ls))
    (hls : ∀ l ∈ ls, Forwarders.IsClean l) :
    (∀ q ≠ p, (k.disk.shelf base).forwarders q = (h.disk.shelf base).forwarders q) ∧
      ∀ l, l ∈ (k.disk.shelf base).forwarders p ↔ l ∈ ls := by
  refine ⟨fun q hq => ?_, fun l => ?_⟩
  · rw [forwarders_shelf, forwarders_shelf, hw.fileText, if_neg fun h => hq h.1]
  · rw [forwarders_shelf, hw.fileText, if_pos ⟨rfl, rfl⟩]
    exact Forwarders.mem_ofText_toText_of_isClean hls

/-- Tame daemons leave the forwarders alone. -/
lemma Tended.forwarders {command : List Text} {targets : Nat → Prop}
    (ht : Tended command targets h k) (htame : Tame base h k) (p : Text) :
    (k.disk.shelf base).forwarders p = (h.disk.shelf base).forwarders p := by
  rw [forwarders_shelf, forwarders_shelf, fileText, fileText, ht.get?_of_not_mem fun hmem =>
    Event.IsTame.ne (htame _ hmem) (by decide) rfl]

namespace Gathered

/-- Nothing has been gathered yet. -/
lemma refl (hv : (o.disk.shelf base).Proper) : Gathered base n d asked isThere o o := by
  refine ⟨hv.forwarders, fun _ _ _ => .rfl, fun _ hs => .inl hs, fun _ ⟨c, hc⟩ => ?_⟩
  simp [since] at hc

/-- A network that is there under fewer conditions has learnt under fewer conditions. -/
lemma mono {isThere' : Prop} (hk : Gathered base n d asked isThere o k)
    (hthere : isThere' → isThere) : Gathered base n d asked isThere' o k :=
  ⟨hk.ending, hk.siblings, hk.own, fun h => hk.heard (hthere h)⟩

/-- Which locks are held plays no part. -/
lemma held (hk : Gathered base n d asked isThere o k) (ids ids' : List Nat) :
    Gathered base n d asked isThere { o with held := ids } { k with held := ids' } :=
  ⟨hk.ending, hk.siblings, hk.own, hk.heard⟩

/-- **A stretch without an announcement**, after which the network forwards to what it did before
and to servers that were asked for.

**Proof sketch.** Clause by clause, with what was gathered before. There was an announcement on the
whole stretch just if there was one before. -/
theorem extend (hk : Gathered base n d asked isThere o h) (ho : o.journal <+: h.journal)
    (hrec : h.journal <+: k.journal) (hno : ¬ h.Announces n d k)
    (hend : ∀ p, ∀ l ∈ (k.disk.shelf base).forwarders p, l.getLast? ≠ some '\r')
    (hsib : ∀ p ≠ n, ∀ s,
      (k.disk.shelf base).ForwardsTo p s ↔ (h.disk.shelf base).ForwardsTo p s)
    (hgain : ∀ s, (k.disk.shelf base).ForwardsTo n s →
      (h.disk.shelf base).ForwardsTo n s ∨ s ∈ asked)
    (hkeep : ∀ s, (h.disk.shelf base).ForwardsTo n s → (k.disk.shelf base).ForwardsTo n s) :
    Gathered base n d asked isThere o k := by
  have hann := announces_iff (n := n) (d := d) ho hrec
  refine ⟨hend, fun p hp s => (hsib p hp s).trans (hk.siblings p hp s), fun s hs => ?_,
    fun hthere ha p hp hnet s hs => ?_⟩
  · rcases hgain s hs with hs | hs
    · exact (hk.own s hs).imp_right fun hor =>
        hor.imp_right fun ⟨ha, hfrom⟩ => ⟨hann.mpr (.inl ha), hfrom⟩
    · exact .inr (.inl hs)
  · exact hkeep s (hk.heard hthere ((hann.mp ha).resolve_right hno) p hp hnet s hs)

/-- A stretch without an announcement that leaves the forwarders alone. -/
lemma of_forwarders (hk : Gathered base n d asked isThere o h) (ho : o.journal <+: h.journal)
    (hrec : h.journal <+: k.journal) (hno : ¬ h.Announces n d k)
    (hsame : ∀ p, (k.disk.shelf base).forwarders p = (h.disk.shelf base).forwarders p) :
    Gathered base n d asked isThere o k := by
  have hto := fun p => Shelf.forwardsTo_congr (hsame p)
  refine hk.extend ho hrec hno (fun p l hl => hk.ending p l (hsame p ▸ hl)) (fun p _ => hto p)
    (fun s hs => .inl ((hto n s).mp hs)) fun s hs => (hto n s).mpr hs

/-- A request about a daemon. -/
lemma tended (hk : Gathered base n d asked isThere o h) (ho : o.journal <+: h.journal)
    {command : List Text} {targets : Nat → Prop} (ht : Tended command targets h k)
    (htame : Tame base h k) : Gathered base n d asked isThere o k := by
  refine hk.of_forwarders ho ht.records (fun ⟨c, hc⟩ => ?_) (ht.forwarders htame)
  cases ht.isDaemonic hc

/-- The forwarders of a network written with other lines, of which only those for everything
count.

**Proof sketch.** Other networks have their forwarders as before. Those of the network are the
lines that were written; among them are all of before, and any new one was asked for by the
network. -/
theorem wrote (hk : Gathered base n d asked isThere o h) (ho : o.journal <+: h.journal)
    {ls : List Text}
    (hw : h.Wrote k (base ++ [Name.text p, .text localServersName]) (Forwarders.toText ls))
    (hls : ∀ l ∈ ls, Forwarders.IsClean l)
    (hkeep : ∀ s, (h.disk.shelf base).ForwardsTo p s → Forwarders.plainLine s ∈ ls)
    (hgain : ∀ s, '/' ∉ s → Forwarders.plainLine s ∈ ls →
      (h.disk.shelf base).ForwardsTo p s ∨ p = n ∧ s ∈ asked) :
    Gathered base n d asked isThere o k := by
  obtain ⟨hothers, hlines⟩ := hw.forwarders hls
  have hj := Filed.journal hw
  have hto := fun q hq => Shelf.forwardsTo_congr (hothers q hq)
  have hmem : ∀ s, (k.disk.shelf base).ForwardsTo p s ↔ '/' ∉ s ∧ Forwarders.plainLine s ∈ ls := by
    intro s
    unfold Shelf.ForwardsTo
    rw [hlines]
  refine hk.extend ho ⟨_, hj.symm⟩ (fun ⟨c, hc⟩ => ?_) (fun q l hl => ?_) (fun q hq s => ?_)
    (fun s hs => ?_) fun s hs => ?_
  · rw [since_of_journal hj] at hc
    simp at hc
  · by_cases hq : q = p
    · subst hq
      exact (hls l ((hlines l).mp hl)).ending
    · exact hk.ending q l (hothers q hq ▸ hl)
  · by_cases hqp : q = p
    · subst hqp
      rw [hmem]
      exact ⟨fun ⟨hs, hl⟩ => (hgain s hs hl).resolve_right fun h => hq h.1,
        fun hs => ⟨hs.1, hkeep s hs⟩⟩
    · exact hto q hqp s
  · by_cases hnp : n = p
    · subst hnp
      obtain ⟨hslash, hl⟩ := (hmem s).mp hs
      exact (hgain s hslash hl).imp_right fun h => h.2
    · exact .inl ((hto n hnp s).mp hs)
  · by_cases hnp : n = p
    · subst hnp
      exact (hmem s).mpr ⟨hs.1, hkeep s hs⟩
    · exact (hto n hnp s).mpr hs

end Gathered

end Gathered

/-! ## The requests of an operation -/

section Requests

variable {m : Mesh} {base : Location} {i : Instance} {a : Attachment} {asked : List Text}
  {isThere isThere' : Prop} {o h k s : Host}

/-- From one host to a later one an operation has kept to its frame, and it has gathered servers if
daemons were tame. -/
def Gathers (m : Mesh) (base : Location) (i : Instance) (asked : List Text) (isThere : Prop)
    (o k : Host) : Prop :=
  Framed m.settings.rootDir base i.network o k ∧
    (Tame base o k → Gathered base i.network i.domain asked isThere o k)

namespace Gathers

/-- One more stretch, in which tame daemons let the servers be gathered. -/
lemma step (hk : Gathers m base i asked isThere o h)
    (hf : Framed m.settings.rootDir base i.network o k) (hrec : h.journal <+: k.journal)
    (hg : Tame base o h → Tame base h k →
      Gathered base i.network i.domain asked isThere o h →
      Gathered base i.network i.domain asked isThere' o k) :
    Gathers m base i asked isThere' o k := by
  refine ⟨hf, fun ht => ?_⟩
  obtain ⟨hbefore, hafter⟩ := (Tame.split hk.1.journal hrec).mp ht
  exact hg hbefore hafter (hk.2 hbefore)

/-- An effect that is no announcement and leaves the forwarders alone. -/
lemma quiet (hk : Gathers m base i asked isThere o h)
    (hf : Framed m.settings.rootDir base i.network o k) {e : Event}
    (hj : k.journal = h.journal ++ [e]) (he : ∀ n d c, e ≠ .logged (.propagated n d c))
    (hsame : ∀ p, k.disk.fileText base p localServersName =
      h.disk.fileText base p localServersName) : Gathers m base i asked isThere o k := by
  refine hk.step hf ⟨_, hj.symm⟩ fun _ _ hg => ?_
  refine hg.of_forwarders hk.1.journal ⟨_, hj.symm⟩ (fun ⟨c, hc⟩ => ?_) fun p => ?_
  · rw [since_of_journal hj, List.mem_singleton] at hc
    exact he _ _ _ hc.symm
  · rw [forwarders_shelf, forwarders_shelf, hsame]

/-- A file of the network written that is not the one of its forwarders. -/
lemma filed (hk : Gathers m base i asked isThere o h)
    (hf : Framed m.settings.rootDir base i.network o k) {f : Text} (hne : f ≠ localServersName)
    {c : Content} (hw : h.Filed k (base ++ [Name.text i.network, .text f]) c) :
    Gathers m base i asked isThere o k := by
  obtain ⟨id, x, -, hget⟩ := hw.get?
  refine hk.quiet hf hw.journal (by simp) fun p => ?_
  rw [fileText, fileText, hget _ (by simp [Ne.symm hne])]

/-- A request about the network's daemon. -/
lemma tended (hk : Gathers m base i asked isThere o h)
    (hf : Framed m.settings.rootDir base i.network o k) {command : List Text}
    {targets : Nat → Prop} (ht : Tended command targets h k) : Gathers m base i asked isThere o k :=
  hk.step hf ht.records fun _ htame hg => hg.tended hk.1.journal ht htame

/-- **A sibling told** of other lines than those for everything.

**Proof sketch.** The effects are the write of the sibling's forwarders, which tell of plain
servers what they told before, and those of a daemon, which writes no such file. -/
theorem apply (hk : Gathers m base i asked isThere o h)
    (hl : h.disk.Linkless m.settings.rootDir base) {u : SiblingUpdate}
    (hu : u.sibling.IsBelow m.settings.rootDir) (hne : u.sibling.network ≠ i.network)
    (hlines : Tame base o h → Gathered base i.network i.domain asked isThere o h →
      (∀ l ∈ u.lines, Forwarders.IsClean l) ∧ ∀ s, '/' ∉ s →
        (Forwarders.plainLine s ∈ u.lines ↔
          Forwarders.plainLine s ∈ (h.disk.shelf base).forwarders u.sibling.network)) :
    Gathers m base i asked isThere o (u.apply h).2 := by
  have hf := hk.1.apply hu hl hne
  have hrec := u.records_apply h
  rcases hl.apply_cases hu with ⟨w, hr, -, hw⟩ | ⟨fault, hr⟩ <;> rw [hr] at hf hrec ⊢
  swap
  · exact hk
  have ht := u.sibling.supervisor.tended_restartIfRunning w
  have hj := Filed.journal hw
  refine hk.step hf hrec fun hbefore hafter hg => ?_
  obtain ⟨hclean, hplain⟩ := hlines hbefore hg
  have hwrote := hg.wrote hk.1.journal hw hclean (fun s hs => (hplain s hs.1).mpr hs.2)
    fun s hs hl => .inl ⟨hs, (hplain s hs).mp hl⟩
  exact hwrote.tended (hk.1.journal.trans ⟨_, hj.symm⟩) ht
    ((Tame.split ⟨_, hj.symm⟩ ht.records).mp hafter).2

/-- What the network puts into its own files.

**Proof sketch.** By what is put. Only two of the texts are forwarders: the empty one, put where
there was none, and the lines that were read with the default servers merged in. -/
lemma puts (hk : Gathers m base i a.defaultServers isThere o h) (hi : i.IsBelow m.settings.rootDir)
    (ha : a.HasCleanLines) (hl : h.disk.Linkless m.settings.rootDir base)
    (hnet : h.disk.HasNetwork base i.network) {f : Text} {c : Content}
    (hf : Framed m.settings.rootDir base i.network o k) (hputs : Mesh.Puts base i a h f c)
    (hw : h.Filed k (base ++ [Name.text i.network, .text f]) c) :
    Gathers m base i a.defaultServers isThere o k := by
  cases hputs with
  | config => exact hk.filed hf (by decide) hw
  | listed hold => exact hk.filed hf (by decide) hw
  | own => exact hk.filed hf (by decide) hw
  | blank hno =>
    -- an empty file holds as many lines as none
    refine hk.step hf ⟨_, hw.journal.symm⟩ fun _ _ hg =>
      hg.of_forwarders hk.1.journal ⟨_, hw.journal.symm⟩ (fun ⟨c, hc⟩ => ?_) fun p => ?_
    · rw [since_of_journal hw.journal] at hc
      simp at hc
    · rw [forwarders_shelf, forwarders_shelf, hw.wrote.fileText]
      split
      · next hp => rw [hp.1, hno]; rfl
      · rfl
  | plain hread =>
    rw [hi.localServersFile] at hread
    obtain ⟨-, rfl⟩ | ⟨hno, -⟩ := forwarders_of_readLines hl hi.name hread
    swap
    · exact absurd hnet hno
    refine hk.step hf ⟨_, hw.journal.symm⟩ fun _ _ hg => hg.wrote hk.1.journal hw.wrote
      (fun l hl => ?_) (fun s hs => Forwarders.mem_merge.mpr (.inl hs.2)) fun s hs hl => ?_
    · rcases Forwarders.mem_merge.mp hl with hl | hl
      · exact Forwarders.isClean_of_mem_ofText hl (hg.ending _ l hl)
      · obtain ⟨s, hs, rfl⟩ := List.mem_map.mp hl
        exact Forwarders.isClean_plainLine (ha.servers s hs).1 (ha.servers s hs).2
    · rcases Forwarders.mem_merge.mp hl with hl | hl
      · exact .inl ⟨hs, hl⟩
      · exact .inr ⟨rfl, Forwarders.plainLine_mem_plainLines_iff.mp hl⟩

/-- No sibling has written what it publishes. -/
lemma published (hv : (o.disk.shelf base).Proper) (hk : Gathers m base i asked isThere o k)
    (ht : Tame base o k) {p : Text} (hp : p ≠ i.network) :
    ∀ l ∈ (k.disk.shelf base).published p, '/' ∈ l ∧ l.getLast? ≠ some '\r' := by
  have hsame : k.disk.fileText base p ownServersName = o.disk.fileText base p ownServersName := by
    rw [fileText, fileText, hk.1.get?_sibling hp (fun h => absurd h (by decide))
      fun hpid => Event.IsTame.ne (ht _ hpid) (by decide) rfl]
  intro l hl
  refine hv.published p l ?_
  unfold Shelf.published at hl ⊢
  change l ∈ Forwarders.ofText ((k.disk.fileText base p ownServersName).getD []) at hl
  rwa [hsame] at hl

/-- **The network announced**: it has learnt all that its siblings forward to.

**Proof sketch.** What is written are the lines known after the look at the siblings, less the
network's own. A line without a slash among them was known or is a forwarder of a sibling, since
what siblings publish has a slash; and all forwarders of siblings are among them. -/
theorem learn (hv : (o.disk.shelf base).Proper) (hi : m.IsFor i a)
    {found : Propagation.Survey} (hs : Gathers m base i a.defaultServers True o s)
    (hls : s.disk.Linkless m.settings.rootDir base) (hfound : m.Surveyed i a s found)
    (hrec : s.journal <+: h.journal) (hk : Gathers m base i a.defaultServers True o h)
    (hw : h.Wrote k (base ++ [Name.text i.network, .text localServersName]) (Forwarders.toText
      (Forwarders.remove found.known (Forwarders.scopedLines i.domain a.servers)).lines)) :
    Gathers m base i a.defaultServers True o
      (k.record (.logged (.propagated i.network i.domain found.updates.length))) := by
  obtain ⟨current, names, hcurrent, hnames, hsurvey⟩ := hfound
  obtain ⟨names', hnames', -, hmem, -⟩ := hls.leads.siblings hi.below.name rfl
  rw [← hi.below.dir, hnames] at hnames'
  cases hnames'
  have hknown := Propagation.mem_known_of_survey hls (fun p hp => ((hmem p).mp hp).1) hsurvey
  have hold : ∀ l ∈ current, l ∈ (s.disk.shelf base).forwarders i.network := by
    intro l hl
    rw [hi.below.localServersFile] at hcurrent
    obtain ⟨-, rfl⟩ | ⟨-, rfl⟩ := forwarders_of_readLines hls hi.below.name hcurrent
    · exact hl
    · cases hl
  have hk' : h.journal <+: (k.record
      (.logged (.propagated i.network i.domain found.updates.length))).journal := by
    rw [Host.record, Filed.journal hw, List.append_assoc]
    exact List.prefix_append _ _
  refine ⟨(hk.1.filed (by decide) (.inl ⟨_, rfl⟩) hw).record rfl trivial, fun ht => ?_⟩
  obtain ⟨hth, -⟩ := (Tame.split hk.1.journal hk').mp ht
  obtain ⟨hts, -⟩ := (Tame.split hs.1.journal hrec).mp hth
  have hgs := hs.2 hts
  have hgh := hk.2 hth
  have hpublished := fun p hp => hs.published hv hts ((hmem p).mp hp).2
  have hclean : ∀ l ∈ (Forwarders.remove found.known
      (Forwarders.scopedLines i.domain a.servers)).lines, Forwarders.IsClean l := by
    intro l hl
    rcases (hknown l).mp ((Forwarders.remove_sublist _ _).subset hl) with hl | ⟨p, hp, hl | hl⟩
    · exact Forwarders.isClean_of_mem_ofText (hold l hl) (hgs.ending _ l (hold l hl))
    · exact Forwarders.isClean_of_mem_ofText hl (hpublished p hp l hl).2
    · exact Forwarders.isClean_of_mem_ofText hl (hgs.ending _ l hl)
  obtain ⟨hothers, hlines⟩ := hw.forwarders hclean
  have hann : o.Announces i.network i.domain
      (k.record (.logged (.propagated i.network i.domain found.updates.length))) :=
    Filed.announces hw hk.1.journal _
  have hplain : ∀ x, '/' ∉ x → ((k.disk.shelf base).ForwardsTo i.network x ↔
      Forwarders.plainLine x ∈ found.known) := by
    intro x hx
    unfold Shelf.ForwardsTo
    rw [hlines, Forwarders.mem_remove_of_not_mem (Forwarders.plainLine_not_mem_scopedLines hx)]
    exact and_iff_right hx
  refine ⟨fun p l hl => ?_, fun p hp x => ?_, fun x hx => ?_, fun _ _ p hp hnet x hx => ?_⟩
  · by_cases hp : p = i.network
    · subst hp
      exact (hclean l ((hlines l).mp hl)).ending
    · exact hgh.ending p l (hothers p hp ▸ hl)
  · exact (Shelf.forwardsTo_congr (hothers p hp) x).trans (hgh.siblings p hp x)
  · rcases (hknown _).mp ((hplain x hx.1).mp hx) with hl | ⟨p, hp, hl | hl⟩
    · exact (hgs.own x ⟨hx.1, hold _ hl⟩).imp_right fun hor => hor.imp_right fun h => ⟨hann, h.2⟩
    · exact absurd (hpublished p hp _ hl).1
        fun hslash => (List.mem_append.mp hslash).elim (by decide) hx.1
    · obtain ⟨hpnet, hne⟩ := (hmem p).mp hp
      exact .inr (.inr ⟨hann, p, hne, (hs.1.networks p hne).mp hpnet,
        (hgs.siblings p hne x).mp ⟨hx.1, hl⟩⟩)
  · have hp' := (hmem p).mpr ⟨(hs.1.networks p hp).mpr hnet, hp⟩
    exact (hplain x hx.1).mpr ((hknown _).mpr (.inr ⟨p, hp', .inr
      ((hgs.siblings p hp x).mpr hx).2⟩))

/-- **The requests of an attachment** gather servers for its network.

**Proof sketch.** Request by request. A sibling that is told gets the network's own lines, which
have a slash, so its servers for everything are as before. What the network puts and learns is told
by `puts` and `learn`. -/
theorem attachingKeeps (hv : (o.disk.shelf base).Proper) (hi : m.IsFor i a)
    (ha : a.HasCleanLines) :
    m.AttachingKeeps base i a (Gathers m base i a.defaultServers True o) := by
  have hframe := Framed.attachingKeeps m base a o hi.below
  have hown : ∀ l ∈ Forwarders.scopedLines i.domain a.servers, Forwarders.IsClean l := by
    intro l hl
    rw [hi.domain] at hl
    exact Forwarders.isClean_of_mem_scopedLines ha.domain hl
  refine ⟨fun {k} hk => hk.quiet (hframe.call hk.1) rfl (by simp) fun _ => rfl,
    fun {k l} hk hl hp => hk.quiet (hframe.opened hk.1 hl hp) hp.journal (by simp) fun p => ?_,
    fun {k l f c} hk hl hnet hputs hw =>
      hk.puts hi.below ha hl hnet (hframe.filed hk.1 hl hnet hputs hw) hputs hw,
    fun {s k found u} _ hs hls hfound hu hrec hk hl => ?_,
    fun {s k l found} hs hls hfound hrec hk _ _ hw => hs.learn hv hi hls hfound hrec hk hw,
    fun {k} hk hl => hk.tended (hframe.hup hk.1 hl) (i.supervisor.tended_hup k)⟩
  · exact hp.fileText p _
  · obtain ⟨hb, hne, hnet, theirs, hread, -, hlines⟩ := hfound.noted hls hi.below hu
    rw [hb.localServersFile] at hread
    obtain ⟨-, rfl⟩ | ⟨hno, -⟩ := forwarders_of_readLines hls hb.name hread
    swap
    · exact absurd hnet hno
    refine hk.apply hl hb hne fun hbefore hg => ?_
    have hgs := hs.2 ((Tame.split hs.1.journal hrec).mp hbefore).1
    rw [hlines]
    refine ⟨fun l hmem => ?_, fun x hx => ?_⟩
    · rcases Forwarders.mem_merge.mp hmem with hmem | hmem
      · exact Forwarders.isClean_of_mem_ofText hmem (hgs.ending _ l hmem)
      · exact hown l hmem
    · rw [Forwarders.mem_merge,
        or_iff_left (Forwarders.plainLine_not_mem_scopedLines hx)]
      have hsame := (hgs.siblings _ hne x).trans (hg.siblings _ hne x).symm
      unfold Shelf.ForwardsTo at hsame
      simpa only [hx, not_false_eq_true, true_and] using hsame

/-- **The requests of a detachment** leave it with the servers that were gathered.

**Proof sketch.** Request by request. A sibling loses lines with a slash only. The network that is
removed forwards to nobody, and the others are as before. -/
theorem detachingKeeps (hi : i.IsBelow m.settings.rootDir) :
    m.DetachingKeeps base i a (Gathers m base i asked True o)
      fun k => Gathers m base i asked (k.disk.HasNetwork base i.network) o k := by
  have hframe := Framed.detachingKeeps m base a o hi
  refine ⟨fun {k} hk => hk.quiet (hframe.call hk.1) rfl (by simp) fun _ => rfl,
    fun {k entry} hk he => hk.quiet (hframe.log hk.1 he) rfl (by simpa using he) fun _ => rfl,
    fun {k l t} hk hl hnet hread hw =>
      hk.filed (hframe.delisted hk.1 hl hnet hread hw) (by decide) hw,
    fun {k j current} hmulti hk hl hj hne hread hchanged => hk.apply hl hj hne fun _ hg => ?_,
    fun {k} hk hl => hk.tended (hframe.hup hk.1 hl) (i.supervisor.tended_hup k),
    fun {k} hk hl => hk.tended (hframe.stop hk.1 hl) (i.supervisor.tended_stop k),
    fun {k l} hk hl hr => ?_, fun {k} hk => ⟨hk.1, fun ht => (hk.2 ht).mono fun _ => trivial⟩,
    fun {k entry} hk he => hk.quiet (hframe.logEnd hk.1 he) rfl (by simpa using he) fun _ => rfl⟩
  · rw [hj.localServersFile] at hread
    obtain ⟨-, rfl⟩ | ⟨-, rfl⟩ := forwarders_of_readLines hl hj.name hread
    swap
    · obtain ⟨l, -, hmem⟩ := Forwarders.changed_remove_iff.mp hchanged
      cases hmem
    refine ⟨fun l hmem => ?_, fun x hx =>
      Forwarders.mem_remove_of_not_mem (Forwarders.plainLine_not_mem_scopedLines hx)⟩
    have hmem := (Forwarders.remove_sublist _ _).subset hmem
    exact Forwarders.isClean_of_mem_ofText hmem (hg.ending _ l hmem)
  · refine hk.step (hframe.removed hk.1 hl hr) ⟨_, hr.journal.symm⟩ fun _ _ hg => ?_
    have hnone : (l.disk.shelf base).forwarders i.network = [] := by
      rw [forwarders_shelf, hr.fileText, if_pos rfl]
      rfl
    have hothers : ∀ p ≠ i.network, (l.disk.shelf base).forwarders p =
        (k.disk.shelf base).forwarders p := by
      intro p hp
      rw [forwarders_shelf, forwarders_shelf, hr.fileText, if_neg hp]
    refine ⟨fun p x hx => ?_, fun p hp x => ?_, fun x hx => ?_, fun hnet => ?_⟩
    · by_cases hp : p = i.network
      · rw [hp, hnone] at hx
        cases hx
      · exact hg.ending p x (hothers p hp ▸ hx)
    · exact (Shelf.forwardsTo_congr (hothers p hp) x).trans (hg.siblings p hp x)
    · rw [Shelf.ForwardsTo, hnone] at hx
      cases hx.2
    · refine absurd hnet (not_hasNetwork_of_get?_eq_none ?_)
      cases hr
      exact (FileTree.get?_removeAt ..).trans (if_pos (List.prefix_refl _))

end Gathers

end Requests

end Host

/-! ## Between the states of a run -/

/-- A pod of a network has brought a server. -/
def Asked (moves : List Move) (n s : Text) : Prop :=
  ∃ a, .add a ∈ moves ∧ a.network = n ∧ s ∈ a.defaultServers

/-- Each network forwards only to servers that its own pods have brought. -/
def Shelf.IsContained (v : Shelf) (moves : List Move) : Prop :=
  ∀ n s, v.ForwardsTo n s → Asked moves n s

/-- An attachment, the last of some moves, lets its network overhear a server: the network is
announced and there in the end, and a sibling forwards to a server that no pod of the network has
brought. -/
def Mesh.Overhears (m : Mesh) (base : Location) (moves : List Move) (h : Host) (a : Attachment) :
    Prop :=
  h.Announces a.network a.domain (m.add a h).2 ∧
    (m.add a h).2.disk.HasNetwork base a.network ∧
      ∃ p ≠ a.network, h.disk.HasNetwork base p ∧
        ∃ s, (h.disk.shelf base).ForwardsTo p s ∧ ¬ Asked moves a.network s

section Runs

variable {m : Mesh} {base : Location} {a : Attachment} {h k o : Host} {v v' : Shelf}
  {asked : List Text} {moves : List Move}

/-- What has happened before the root was there plays no part.

**Proof sketch.** Making the root changes no forwarders, and no announcement is among its effects.
-/
lemma Host.Gathered.of_raised {n d : Text} {isThere : Prop} {w : Host} {paths : List Path}
    (hw : h.Raised paths w) (hrec : w.journal <+: k.journal)
    (hnet : ∀ p, w.disk.HasNetwork base p ↔ h.disk.HasNetwork base p)
    (hk : Gathered base n d asked isThere w k) : Gathered base n d asked isThere h k := by
  have hto : ∀ p s, (w.disk.shelf base).ForwardsTo p s ↔ (h.disk.shelf base).ForwardsTo p s := by
    refine fun p => Shelf.forwardsTo_congr ?_
    rw [forwarders_shelf, forwarders_shelf, hw.prepared.fileText]
  have hann : h.Announces n d k ↔ w.Announces n d k :=
    ⟨fun ⟨c, hc⟩ => ⟨c, Mesh.KeptToFrame.mem_since_of_raised hw hrec hc (by simp)⟩,
      fun ⟨c, hc⟩ => ⟨c, mem_since_of_suffix hw.prepared.records hrec hc⟩⟩
  refine ⟨hk.ending, fun p hp s => (hk.siblings p hp s).trans (hto p s), fun s hs => ?_,
    fun hthere ha p hp hn s hs =>
      hk.heard hthere (hann.mp ha) p hp ((hnet p).mpr hn) s ((hto p s).mpr hs)⟩
  rcases hk.own s hs with hold | hasked | ⟨ha, p, hp, hn, hs⟩
  · exact .inl ((hto n s).mp hold)
  · exact .inr (.inl hasked)
  · exact .inr (.inr ⟨hann.mpr ha, p, hp, (hnet p).mp hn, (hto p s).mp hs⟩)

/-- **An operation on the instance of an attachment**, from the host before it.

**Proof sketch.** The action is not begun, and then nothing is gathered, or it runs under the lock.
The root that was made before it, and the lock that is given back after it, are no matter to the
forwarders. -/
theorem Mesh.Stores.gathered_of_attended (hs : m.Stores base v h) (hv : v.Proper)
    (body : Instance → Action Unit) (hbody : ∀ i w, m.IsFor i a →
      w.disk.Linkless m.settings.rootDir base → (w.disk.shelf base).Proper →
      Host.Gathers m base i asked ((body i w).2.disk.HasNetwork base i.network) w (body i w).2)
    (ht : Host.Tame base h (m.attended a body h).2) :
    Host.Gathered base a.network a.domain asked
      ((m.attended a body h).2.disk.HasNetwork base a.network) h (m.attended a body h).2 := by
  have hw := hs.holds_withRoot
  have hraised := m.raised_withRoot h
  have hproper : (h.disk.shelf base).Proper := by
    rw [hs.shelf_eq]
    exact hv
  have hproper' : ((m.withRoot h).disk.shelf base).Proper := by
    rw [hw.shelf_eq]
    exact hv
  have hnet : ∀ p, (m.withRoot h).disk.HasNetwork base p ↔ h.disk.HasNetwork base p := by
    intro p
    rw [← isNetwork_shelf_iff, ← isNetwork_shelf_iff, hw.shelf_eq, hs.shelf_eq]
  rcases m.attended_cases a h with ⟨fault, k, hk, hrun⟩ | ⟨-, binary, ids, hb, hrun⟩
  · rw [hrun body]
    rcases hk with rfl | rfl
    · exact .refl hproper
    · exact (Host.Gathered.refl hproper').of_raised hraised (List.prefix_refl _) hnet
  · obtain ⟨ids', hrun⟩ := hrun body
    rw [hrun] at ht ⊢
    obtain ⟨hf, hg⟩ := hbody _ { m.withRoot h with held := ids } ⟨hb, rfl, rfl⟩
      hw.inOrder.linkless hproper'
    have htame := ((Host.Tame.split hraised.prepared.records hf.journal).mp ht).2
    exact ((hg htame).held (m.withRoot h).held ids').of_raised hraised hf.journal hnet

/-- What the networks publish after a move has a slash, and no carriage return at the end.

**Proof sketch.** A move writes what one network publishes, at most, and these are scoped lines,
which have a slash and end as `Forwarders.isClean_of_mem_ofText` tells. All else is published as
before. -/
lemma Move.Rewrites.published {move : Move} (hr : move.Rewrites v v')
    (hclean : ∀ a, move = .add a → '\n' ∉ a.domain)
    (hv : ∀ n, ∀ l ∈ v.published n, '/' ∈ l ∧ l.getLast? ≠ some '\r') :
    ∀ n, ∀ l ∈ v'.published n, '/' ∈ l ∧ l.getLast? ≠ some '\r' := by
  have hsame : ∀ n, v'.text? n ownServersName = v.text? n ownServersName →
      ∀ l ∈ v'.published n, '/' ∈ l ∧ l.getLast? ≠ some '\r' := by
    intro n htext l hl
    unfold Shelf.published at hl
    rw [htext] at hl
    exact hv n l hl
  have hevolves : ∀ {n : Text} {written : Text → Prop}, v.Evolves v' n written →
      (∀ t, written t → ∀ l ∈ Forwarders.ofText t, '/' ∈ l ∧ l.getLast? ≠ some '\r') →
      ∀ p, ∀ l ∈ v'.published p, '/' ∈ l ∧ l.getLast? ≠ some '\r' := by
    intro n written hev hwritten p
    by_cases hp : p = n
    · subst hp
      rcases hev.own with hnone | hold | ⟨t, htext, ht⟩
      · intro l hl
        unfold Shelf.published at hl
        rw [hnone] at hl
        cases hl
      · exact hsame p hold
      · intro l hl
        unfold Shelf.published at hl
        rw [htext] at hl
        exact hwritten t ht l hl
    · exact hsame p (hev.own_of_ne p hp)
  cases move with
  | add a =>
    refine hevolves (hr : v.Evolves v' a.network _) ?_
    rintro t rfl l hl
    have hscoped : ∀ l ∈ Forwarders.scopedLines a.domain a.servers, Forwarders.IsClean l :=
      fun l hl => Forwarders.isClean_of_mem_scopedLines (hclean a rfl) hl
    have hl := (Forwarders.mem_ofText_toText_of_isClean hscoped).mp hl
    obtain ⟨server, -, rfl⟩ := List.mem_map.mp hl
    exact ⟨Forwarders.slash_mem_scopedLine _ _, (hscoped _ hl).ending⟩
  | del a => exact hevolves (hr : v.Evolves v' a.network _) fun _ h => h.elim
  | kill pid =>
    obtain rfl : v' = v := hr
    exact hv

/-- A pod added. -/
lemma Mesh.Stores.gathered_add (hs : m.Stores base v h) (hv : v.Proper) (ha : a.HasCleanLines)
    (ht : Host.Tame base h (m.add a h).2) :
    Host.Gathered base a.network a.domain a.defaultServers
      ((m.add a h).2.disk.HasNetwork base a.network) h (m.add a h).2 := by
  rw [m.snd_add] at ht ⊢
  refine hs.gathered_of_attended hv _ (fun i w hi hl hw => ?_) ht
  have hprovided := (Host.Gathers.attachingKeeps hw hi ha).keeps_provision hi.below w
    ⟨hl, .refl .., fun _ => .refl hw⟩
  exact (Host.Gathers.detachingKeeps hi.below).keeps_provisionOrUndo hi.below hprovided

/-- A pod deleted. -/
lemma Mesh.Stores.gathered_del (hs : m.Stores base v h) (hv : v.Proper)
    (ht : Host.Tame base h (m.del a h).2) :
    Host.Gathered base a.network a.domain [] ((m.del a h).2.disk.HasNetwork base a.network) h
      (m.del a h).2 := by
  refine hs.gathered_of_attended hv (m.cleanUp · a) (fun i w hi hl hw => ?_) ht
  exact (Host.Gathers.detachingKeeps hi.below).keeps_cleanUp hi.below
    ⟨hl, .refl .., fun _ => .refl hw⟩

/-- No network is announced when a pod is deleted.

**Proof sketch.** Before the action, at most directories were made. The effects of a detachment are
told by `detachingKeeps_hasOnly`, and an announcement is none of them. -/
lemma Mesh.Stores.not_announces_del (hs : m.Stores base v h) (n d : Text) :
    ¬ h.Announces n d (m.del a h).2 := by
  have hw := hs.holds_withRoot
  have hraised := m.raised_withRoot h
  rintro ⟨c, hc⟩
  rw [m.del_eq] at hc
  rcases m.attended_cases a h with ⟨fault, k, hk, hrun⟩ | ⟨-, binary, ids, hb, hrun⟩
  · rw [hrun] at hc
    rcases hk with rfl | rfl
    · simp [Host.since] at hc
    · obtain ⟨loc, heq, -⟩ := hraised.made _ hc
      cases heq
  · obtain ⟨ids', hrun⟩ := hrun (m.cleanUp · a)
    rw [hrun] at hc
    have heffects := (m.detachingKeeps_hasOnly base (m.settings.instanceOf binary a) a
      { m.withRoot h with held := ids }).keeps_cleanUp (h := { m.withRoot h with held := ids }) hb
      ⟨hw.inOrder.linkless, .refl ..⟩
    cases heffects.effects _
      (Mesh.KeptToFrame.mem_since_of_raised hraised heffects.journal hc (by simp))

/-- A network that forwards to a server is there. -/
lemma Mesh.Stores.hasNetwork_of_forwardsTo (hs : m.Stores base v h) {n s : Text}
    (hto : (h.disk.shelf base).ForwardsTo n s) : h.disk.HasNetwork base n := by
  rw [hs.shelf_eq] at hto
  rw [hs.hasNetwork_iff]
  by_contra hno
  have hnone := hs.text?_eq_none (by simpa using hno) localServersName
  rw [Shelf.ForwardsTo, Shelf.forwarders, hnone] at hto
  cases hto.2

/-- What is asked for by some moves is asked for by more of them. -/
lemma Asked.append {n s : Text} (h : Asked moves n s) (rest : List Move) :
    Asked (moves ++ rest) n s := by
  obtain ⟨a, ha, hn, hs⟩ := h
  exact ⟨a, List.mem_append_left _ ha, hn, hs⟩

/-- **A move** after which each network still forwards only to the servers of its own pods: one
that does not let a network overhear others.

**Proof sketch.** What an attachment gathers is asked for by its own pod, or heard from a sibling
in an announcement. So a network forwards to a server that was not asked for by its pods just if it
has overheard one. The other moves gather nothing. -/
theorem Mesh.Stores.isContained_iff (hs : m.Stores base v h) (hv : v.Proper)
    (hc : v.IsContained moves) {move : Move} (hclean : ∀ a, move = .add a → a.HasCleanLines)
    (ht : Host.Tame base h (m.step h move)) :
    ((m.step h move).disk.shelf base).IsContained (moves ++ [move]) ↔
      ∀ a, move = .add a → ¬ m.Overhears base (moves ++ [move]) h a := by
  obtain ⟨v', hs', -⟩ := hs.step move ht
  rw [← hs.shelf_eq] at hc
  cases move with
  | add a =>
    rw [step_add] at hs' ht ⊢
    have hg := hs.gathered_add hv (hclean a rfl) ht
    constructor
    · rintro hc' b hb ⟨hann, hnet, p, hp, hpnet, s, hps, hno⟩
      cases hb
      exact hno (hc' _ s (hg.heard hnet hann p hp hpnet s hps))
    · intro hno n s hns
      by_cases hn : n = a.network
      · subst hn
        rcases hg.own s hns with hold | hasked | ⟨hann, p, hp, hpnet, hps⟩
        · exact (hc _ s hold).append _
        · exact ⟨a, by simp, rfl, hasked⟩
        · by_contra hnot
          exact hno a rfl ⟨hann, hs'.hasNetwork_of_forwardsTo hns, p, hp, hpnet, s, hps, hnot⟩
      · exact (hc n s ((hg.siblings n hn s).mp hns)).append _
  | del a =>
    rw [step_del] at ht ⊢
    have hg := hs.gathered_del hv ht
    refine ⟨fun _ b hb => Move.noConfusion hb, fun _ n s hns => ?_⟩
    by_cases hn : n = a.network
    · subst hn
      rcases hg.own s hns with hold | hasked | ⟨hann, -⟩
      · exact (hc _ s hold).append _
      · cases hasked
      · exact absurd hann (hs.not_announces_del _ _)
    · exact (hc n s ((hg.siblings n hn s).mp hns)).append _
  | kill pid =>
    refine ⟨fun _ b hb => Move.noConfusion hb, fun _ n s hns => ?_⟩
    rw [m.disk_step_kill] at hns
    exact (hc n s hns).append _

/-- The lines of the networks stay as they can be read back.

**Proof sketch.** What an attachment or a detachment gathers ends plainly, and what is published
was written from clean lines. -/
lemma Mesh.Stores.step_proper (hs : m.Stores base v h) (hv : v.Proper) {move : Move}
    (hclean : ∀ a, move = .add a → a.HasCleanLines) (ht : Host.Tame base h (m.step h move)) :
    ∃ v', m.Stores base v' (m.step h move) ∧ v'.Proper := by
  obtain ⟨v', hs', hr⟩ := hs.step move ht
  have hpublished := hr.published (fun a ha => (hclean a ha).domain) hv.published
  refine ⟨v', hs', ?_, hpublished⟩
  rw [← hs'.shelf_eq]
  cases move with
  | add a =>
    rw [step_add] at ht ⊢
    exact (hs.gathered_add hv (hclean a rfl) ht).ending
  | del a => exact (hs.gathered_del hv ht).ending
  | kill pid =>
    rw [m.disk_step_kill, hs.shelf_eq]
    exact hv.forwarders

/-- **The servers of pods stay with their networks.** Take a run from an empty root, of pods added
and deleted with any outcome and of daemons killed from outside, in which what the pods bring can be
read back and daemons write no file of a network but their pid files. In every state of the run each
network forwards what it cannot answer only to servers that its own pods have brought so far, just
if no attachment lets its network overhear a server of a sibling.

**Proof sketch.** By induction on the run. In the middle of an operation a network forwards to what
it did before and to what the attachment brings, until it is announced; then it has learnt all that
its siblings forward to. An operation that fails takes nothing of that back but with the directory
of the network. -/
theorem default_servers_contained_iff (h₀ : m.StartsEmpty base o)
    (hclean : ∀ a, .add a ∈ moves → a.HasCleanLines)
    (hrun : m.Along (fun h move => Host.Tame base h (m.step h move)) o moves) :
    (∀ before, before <+: moves →
        ((m.play o before).disk.shelf base).IsContained before) ↔
      ∀ before a, before ++ [Move.add a] <+: moves →
        ¬ m.Overhears base (before ++ [Move.add a]) (m.play o before) a := by
  -- what holds before and on each move of the run
  have hmove : ∀ before move, before ++ [move] <+: moves →
      (∀ a, move = .add a → a.HasCleanLines) ∧
        Host.Tame base (m.play o before) (m.step (m.play o before) move) := by
    rintro before move ⟨rest, rfl⟩
    rw [List.append_assoc, Mesh.along_append] at hrun
    refine ⟨fun a ha => hclean a ?_, hrun.2.1⟩
    simp [ha]
  have hstores : ∀ before, before <+: moves →
      ∃ v, m.Stores base v (m.play o before) ∧ v.Proper := by
    intro before
    induction before using List.reverseRecOn with
    | nil => exact fun _ => ⟨.empty, .inr ⟨rfl, h₀⟩, .empty⟩
    | append_singleton before move ih =>
      intro hpre
      obtain ⟨v, hs, hv⟩ := ih ((List.prefix_append _ _).trans hpre)
      obtain ⟨hcleanly, ht⟩ := hmove before move hpre
      rw [m.play_append]
      exact hs.step_proper hv hcleanly ht
  have hstep : ∀ before move, before ++ [move] <+: moves →
      ((m.play o before).disk.shelf base).IsContained before →
      (((m.play o (before ++ [move])).disk.shelf base).IsContained (before ++ [move]) ↔
        ∀ a, move = .add a → ¬ m.Overhears base (before ++ [move]) (m.play o before) a) := by
    intro before move hpre hc
    obtain ⟨v, hs, hv⟩ := hstores before ((List.prefix_append _ _).trans hpre)
    obtain ⟨hcleanly, ht⟩ := hmove before move hpre
    rw [hs.shelf_eq] at hc
    rw [m.play_append]
    exact hs.isContained_iff hv hc hcleanly ht
  constructor
  · intro hall before a hpre
    exact (hstep before (.add a) hpre (hall before ((List.prefix_append _ _).trans hpre))).mp
      (hall _ hpre) a rfl
  · intro hno before
    induction before using List.reverseRecOn with
    | nil =>
      intro _ n s hns
      rw [show (m.play o []).disk = o.disk from rfl, h₀.shelf_eq] at hns
      cases hns.2
    | append_singleton before move ih =>
      intro hpre
      refine (hstep before move hpre (ih ((List.prefix_append _ _).trans hpre))).mpr ?_
      rintro a rfl
      exact hno before a hpre

end Runs

namespace Sample

/-- A pod that brings a server for everything else. -/
def askingPod : Attachment :=
  { pod "a" "x" "p" (octets 10 1 0 1) with defaultServers := ["8.8.8.8".toList] }

/-- A pod of another network, which brings none. -/
def modestPod : Attachment := pod "b" "y" "q" (octets 10 2 0 1)

/-- Both pods are added. -/
def overhearingMoves : List Move := [.add askingPod, .add modestPod]

/-- The host with the first network. -/
def serving : Host := mesh.play (host [daemon]) [.add askingPod]

/-- The host with both networks. -/
def overheard : Host := (mesh.add modestPod serving).2

end Sample

/-- The second network learns the server that the pod of the first one has brought.

**Proof sketch.** What is read off the concrete run is computed at once. The second attachment
overhears the first one's server, and the theorem gives that the networks are not contained then. -/
theorem default_servers_contained_iff_of_overheard :
    Sample.overheard.disk.fileText Sample.base "b".toList localServersName =
        some "server=/x/10.1.0.1\nserver=8.8.8.8\n".toList ∧
      ¬ ∀ before, before <+: Sample.overhearingMoves →
        ((Sample.mesh.play (Sample.host [Sample.daemon]) before).disk.shelf
          Sample.base).IsContained before := by
  -- all that is read off the run, so that it is made once
  have hread : Sample.overheard.disk.fileText Sample.base "b".toList localServersName =
        some "server=/x/10.1.0.1\nserver=8.8.8.8\n".toList ∧
      Sample.mesh.Along (fun h move => Host.Tame Sample.base h (Sample.mesh.step h move))
        (Sample.host [Sample.daemon]) Sample.overhearingMoves ∧
      .logged (.propagated "b".toList "y".toList 1) ∈ Sample.serving.since Sample.overheard ∧
      Sample.overheard.disk.HasNetwork Sample.base "b".toList ∧
      Sample.serving.disk.HasNetwork Sample.base "a".toList ∧
      Forwarders.plainLine "8.8.8.8".toList ∈
        (Sample.serving.disk.shelf Sample.base).forwarders "a".toList := by decide +kernel
  have hserving :
      Sample.mesh.play (Sample.host [Sample.daemon]) [.add Sample.askingPod] = Sample.serving := rfl
  have hoverheard : (Sample.mesh.add Sample.modestPod Sample.serving).2 = Sample.overheard := rfl
  have hclean : ∀ a, .add a ∈ Sample.overhearingMoves → a.HasCleanLines := by
    rintro a (_ | ⟨_, _ | ⟨_, ⟨⟩⟩⟩) <;> exact ⟨by decide, by decide⟩
  have hasked : ¬ Asked Sample.overhearingMoves "b".toList "8.8.8.8".toList := by
    rintro ⟨a, _ | ⟨_, _ | ⟨_, ⟨⟩⟩⟩, hn, hs⟩
    · exact absurd hn (by decide)
    · exact absurd hs (by decide)
  generalize Sample.overheard = k at *
  generalize Sample.serving = h at *
  obtain ⟨htext, htame, hann, hnet, hother, hline⟩ := hread
  refine ⟨htext, fun hall => ?_⟩
  refine (default_servers_contained_iff (Sample.startsEmpty _) hclean htame).mp hall
    [.add Sample.askingPod] Sample.modestPod (List.prefix_refl _) ?_
  rw [hserving]
  unfold Mesh.Overhears
  rw [hoverheard]
  exact ⟨⟨_, hann⟩, hnet, _, by decide, hother, _, ⟨by decide, hline⟩, hasked⟩

end ResolverMesh
