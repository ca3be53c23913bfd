import Mathlib.Logic.Equiv.List
import ResolverMesh.Proofs.Runs

set_option autoImplicit false
set_option relaxedAutoImplicit false

/-!
# The invariant of the mesh

Where each network has a domain and nameservers of its own and every operation succeeds, the
networks know each other exactly: each publishes its own lines, and its daemon forwards to all
others and to none else.

## Main definitions

* `ResolverMesh.Roster` — the domains and nameservers of the networks.
* `ResolverMesh.Roster.Meshed` — the networks know each other.

## Main results

* `ResolverMesh.Roster.Meshed.attached`, `ResolverMesh.Roster.Meshed.detached` — both operations
  keep the mesh.
* `ResolverMesh.Mesh.meshed_of_run` — the mesh after any run.

## Design

What is read from a file of forwarders has been sorted, and what is written to it is sorted then.
So the invariant speaks of the lines that were last written (`ResolverMesh.Roster.Knows`), of
which only the membership and that no line stands twice carry over from one operation to the next.
-/

namespace ResolverMesh

open Disk Propagation

namespace Forwarders

/-- A server that the line for everything can name: without a slash and a line feed, and without a
carriage return at its end. -/
structure IsPlainServer (s : Text) : Prop where
  /-- It holds no slash. -/
  slash : '/' ∉ s
  /-- It holds no line feed. -/
  newline : '\n' ∉ s
  /-- It does not end in a carriage return. -/
  ending : s.getLast? ≠ some '\r'

instance (s : Text) : Decidable (IsPlainServer s) :=
  decidable_of_iff ('/' ∉ s ∧ '\n' ∉ s ∧ s.getLast? ≠ some '\r')
    ⟨fun h => ⟨h.1, h.2.1, h.2.2⟩, fun h => ⟨h.1, h.2, h.3⟩⟩

/-- The line of a plain server is clean. -/
lemma IsPlainServer.isClean_plainLine {s : Text} (h : IsPlainServer s) :
    IsClean (plainLine s) :=
  Forwarders.isClean_plainLine h.newline h.ending

/-- It has no slash. -/
lemma IsPlainServer.slash_not_mem_plainLine {s : Text} (h : IsPlainServer s) :
    '/' ∉ plainLine s := by
  have hkey : '/' ∉ "server=".toList := by decide
  unfold plainLine
  rw [List.mem_append]
  rintro (hm | hm)
  · exact hkey hm
  · exact h.slash hm

end Forwarders

/-- The domains and nameservers of the networks: each domain belongs to one network. -/
structure Roster where
  /-- The domain of a network. -/
  domain : Text → Text
  /-- The addresses of the nameservers of a network. -/
  nameservers : Text → List Address
  /-- No domain holds a slash. -/
  slash : ∀ n, '/' ∉ domain n
  /-- No domain holds a line feed. -/
  newline : ∀ n, '\n' ∉ domain n
  /-- No two networks have the same domain. -/
  injective : Function.Injective domain

namespace Roster

/-- The forwarders to a network. -/
def lines (R : Roster) (n : Text) : List Text :=
  Forwarders.scopedLines (R.domain n) ((R.nameservers n).map Address.text)

/-- An attachment with the domain and the nameservers of its network. -/
structure Fits (R : Roster) (a : Attachment) : Prop where
  /-- The domain is that of the network. -/
  domain : a.domain = R.domain a.network
  /-- So are the nameservers. -/
  nameservers : a.nameservers = R.nameservers a.network
  /-- The network is made known to the others. -/
  multiDomain : a.multiDomain = true

instance (R : Roster) (a : Attachment) : Decidable (R.Fits a) :=
  decidable_of_iff (a.domain = R.domain a.network ∧
      a.nameservers = R.nameservers a.network ∧ a.multiDomain = true)
    ⟨fun h => ⟨h.1, h.2.1, h.2.2⟩, fun h => ⟨h.1, h.2, h.3⟩⟩

variable {R : Roster} {n p : Text} {l : Text}

/-- The lines of an attachment that fits are those of its network. -/
lemma Fits.scopedLines {a : Attachment} (h : R.Fits a) :
    Forwarders.scopedLines a.domain a.servers = R.lines a.network := by
  unfold lines Attachment.servers
  rw [h.domain, h.nameservers]

/-- A network's lines are clean. -/
lemma isClean_of_mem_lines (h : l ∈ R.lines n) : Forwarders.IsClean l :=
  Forwarders.isClean_of_mem_scopedLines (R.newline n) h

/-- They have a slash. -/
lemma slash_mem_of_mem_lines (h : l ∈ R.lines n) : '/' ∈ l := by
  obtain ⟨s, -, rfl⟩ := List.mem_map.mp h
  exact Forwarders.slash_mem_scopedLine _ s

/-- They are about the network's domain. -/
lemma scope?_of_mem_lines (h : l ∈ R.lines n) : Forwarders.scope? l = some (R.domain n) := by
  obtain ⟨s, -, rfl⟩ := List.mem_map.mp h
  exact Forwarders.scope?_scopedLine (R.slash n) s

/-- A line leads to one network only. -/
lemma eq_of_mem_lines (hn : l ∈ R.lines n) (hp : l ∈ R.lines p) : n = p := by
  have h := scope?_of_mem_lines hn
  rw [scope?_of_mem_lines hp] at h
  exact R.injective (Option.some.inj h).symm

/-- What was written as the forwarders of a network. -/
lemma ofText_toText_lines (R : Roster) (n : Text) :
    Forwarders.ofText (Forwarders.toText (R.lines n)) = Text.sorted (R.lines n) :=
  Forwarders.ofText_toText fun _ hl => isClean_of_mem_lines hl

/-! ## Networks that know each other -/

/-- Lines that lead to all networks but one, and beside them to no network at all. -/
structure Knows (R : Roster) (v : Shelf) (n : Text) (ls : List Text) : Prop where
  /-- No line stands twice. -/
  nodup : ls.Nodup
  /-- A file can hold them. -/
  clean : ∀ l ∈ ls, Forwarders.IsClean l
  /-- Those for domains are the lines of the other networks. -/
  slash_iff : ∀ l, (l ∈ ls ∧ '/' ∈ l) ↔ ∃ p ≠ n, v.isNetwork p = true ∧ l ∈ R.lines p

/-- The networks know each other. -/
structure Meshed (R : Roster) (root : Path) (v : Shelf) : Prop where
  /-- Each publishes its own lines. -/
  own : ∀ n, v.isNetwork n = true →
    v.text? n ownServersName = some (Forwarders.toText (R.lines n))
  /-- Each forwards to all others. -/
  knows : ∀ n, v.isNetwork n = true → ∃ ls,
    v.text? n localServersName = some (Forwarders.toText ls) ∧ R.Knows v n ls
  /-- The system takes the paths of their files. -/
  admits : ∀ n, v.isNetwork n = true →
    Admits (root.fileOf n ownServersName) n ∧ Admits (root.fileOf n localServersName) n

/-- Without a network there is nothing to mesh. -/
lemma meshed_empty (R : Roster) (root : Path) : R.Meshed root .empty :=
  ⟨fun _ h => (Bool.false_ne_true h).elim, fun _ h => (Bool.false_ne_true h).elim,
    fun _ h => (Bool.false_ne_true h).elim⟩

section Meshed

variable {root : Path} {v v₁ v' : Shelf} {ls : List Text} {a : Attachment} {i : Instance}

/-- In a mesh, each network publishes its lines in order. -/
lemma Meshed.published (h : R.Meshed root v) (hn : v.isNetwork n = true) :
    v.published n = Text.sorted (R.lines n) := by
  unfold Shelf.published
  rw [h.own n hn]
  exact R.ofText_toText_lines n

/-- What is read from a file of lines that lead to all others. -/
lemma forwarders_eq (ht : v.text? n localServersName = some (Forwarders.toText ls))
    (h : ∀ l ∈ ls, Forwarders.IsClean l) : v.forwarders n = Text.sorted ls := by
  unfold Shelf.forwarders
  rw [ht]
  exact Forwarders.ofText_toText h

/-- Sorting does not matter to lines that lead to all others. -/
lemma Knows.sorted (h : R.Knows v n ls) : R.Knows v n (Text.sorted ls) := by
  refine ⟨(Text.sorted_perm ls).nodup_iff.mpr h.nodup, fun l hl => ?_, fun l => ?_⟩
  · exact h.clean l (Text.mem_sorted.mp hl)
  · rw [Text.mem_sorted]
    exact h.slash_iff l

/-- Only the networks that there are count. -/
lemma Knows.congr (h : R.Knows v n ls) (hv : v'.isNetwork = v.isNetwork) : R.Knows v' n ls :=
  ⟨h.nodup, h.clean, fun l => by rw [hv]; exact h.slash_iff l⟩

/-- None of the lines is for the network's own domain.

**Proof sketch.** A line with a slash is one of another network, and these have other domains. A
line without one has no scope. -/
lemma Knows.claims_eq_false (h : R.Knows v n ls) :
    Forwarders.claims ls (R.domain n) = false := by
  rw [← Bool.not_eq_true]
  unfold Forwarders.claims
  rw [List.any_eq_true]
  rintro ⟨l, hl, hs⟩
  have hscope : Forwarders.scope? l = some (R.domain n) := of_decide_eq_true hs
  by_cases hslash : '/' ∈ l
  · obtain ⟨p, hp, -, hlp⟩ := (h.slash_iff l).mp ⟨hl, hslash⟩
    rw [scope?_of_mem_lines hlp] at hscope
    exact hp (R.injective (Option.some.inj hscope))
  · rw [Forwarders.scope?_of_not_mem hslash] at hscope
    cases hscope

/-- Servers for everything beside the lines.

**Proof sketch.** Lines for everything hold no slash, so those with one are the same as before the
merge. -/
lemma Knows.merge_plain (h : R.Knows v n ls) {servers : List Text}
    (hs : ∀ s ∈ servers, Forwarders.IsPlainServer s) :
    R.Knows v n (Forwarders.merge ls (Forwarders.plainLines servers)).lines := by
  refine ⟨Forwarders.nodup_merge h.nodup _, fun l hl => ?_, fun l => ?_⟩
  · rcases Forwarders.mem_merge.mp hl with hl | hl
    · exact h.clean l hl
    · obtain ⟨s, hsm, rfl⟩ := List.mem_map.mp hl
      exact (hs s hsm).isClean_plainLine
  · rw [← h.slash_iff l, Forwarders.mem_merge]
    constructor
    · rintro ⟨hl | hl, hslash⟩
      · exact ⟨hl, hslash⟩
      · obtain ⟨s, hsm, rfl⟩ := List.mem_map.mp hl
        exact absurd hslash (hs s hsm).slash_not_mem_plainLine
    · rintro ⟨hl, hslash⟩
      exact ⟨.inl hl, hslash⟩

/-- Servers for everything added to a file of the lines. -/
lemma Knows.withPlain (h : R.Knows v n ls) {servers : List Text}
    (hs : ∀ s ∈ servers, Forwarders.IsPlainServer s) :
    ∃ ls', Forwarders.withPlain (Forwarders.toText ls) servers = Forwarders.toText ls' ∧
      R.Knows v n ls' := by
  unfold Forwarders.withPlain
  rw [Forwarders.ofText_toText h.clean]
  dsimp only
  split
  · exact ⟨_, rfl, h.sorted.merge_plain hs⟩
  · exact ⟨ls, rfl, h⟩

/-- A network that is new, or has lost its file, has servers for everything only. -/
lemma exists_withPlain_nil (R : Roster) {servers : List Text}
    (hs : ∀ s ∈ servers, Forwarders.IsPlainServer s) :
    ∃ ls, Forwarders.withPlain [] servers = Forwarders.toText ls ∧ ls.Nodup ∧
      (∀ l ∈ ls, Forwarders.IsClean l) ∧ ∀ l ∈ ls, '/' ∉ l := by
  have hknows : R.Knows .empty [] [] := by
    refine ⟨.nil, fun _ hl => ?_, fun l => by simp [Shelf.empty]⟩
    cases hl
  obtain ⟨ls, hls, hk⟩ := hknows.withPlain hs
  refine ⟨ls, hls, hk.nodup, hk.clean, fun l hl hslash => ?_⟩
  obtain ⟨p, -, hp, -⟩ := (hk.slash_iff l).mp ⟨hl, hslash⟩
  cases hp

/-! ## The operations -/

/-- The lines of a network made known to another one.

**Proof sketch.** A line with a slash is known afterwards if it was known before, and then it is
another network's, or if it is one of the lines that were merged in. The networks are those of
before and this one. -/
lemma Knows.merge_lines (h : R.Knows v p ls) (hpn : p ≠ n) (hn : v'.isNetwork n = true)
    (hother : ∀ q ≠ n, v'.isNetwork q = v.isNetwork q) :
    R.Knows v' p (Forwarders.merge ls (R.lines n)).lines := by
  refine ⟨Forwarders.nodup_merge h.nodup _, fun l hl => ?_, fun l => ?_⟩
  · rcases Forwarders.mem_merge.mp hl with hl | hl
    · exact h.clean l hl
    · exact isClean_of_mem_lines hl
  · rw [Forwarders.mem_merge]
    constructor
    · rintro ⟨hl | hl, hslash⟩
      · obtain ⟨q, hq, hnet, hlq⟩ := (h.slash_iff l).mp ⟨hl, hslash⟩
        refine ⟨q, hq, ?_, hlq⟩
        by_cases hqn : q = n
        · rw [hqn]
          exact hn
        · rw [hother q hqn]
          exact hnet
      · exact ⟨n, Ne.symm hpn, hn, hl⟩
    · rintro ⟨q, hq, hnet, hlq⟩
      refine ⟨?_, slash_mem_of_mem_lines hlq⟩
      by_cases hqn : q = n
      · rw [hqn] at hlq
        exact .inr hlq
      · rw [hother q hqn] at hnet
        exact .inl ((h.slash_iff l).mpr ⟨q, hq, hnet, hlq⟩).1

/-- The lines of a network taken back from another one.

**Proof sketch.** The lines that are left are those that were known and are not the network's; no
two networks share a line, so these are just the lines of the networks that are left. -/
lemma Knows.remove_lines (h : R.Knows v p ls) (hn : v'.isNetwork n = false)
    (hother : ∀ q ≠ n, v'.isNetwork q = v.isNetwork q) :
    R.Knows v' p (Forwarders.remove ls (R.lines n)).lines := by
  have hsub := Forwarders.remove_sublist ls (R.lines n)
  refine ⟨hsub.nodup h.nodup, fun l hl => h.clean l (hsub.subset hl), fun l => ?_⟩
  rw [Forwarders.mem_remove h.nodup]
  constructor
  · rintro ⟨⟨hl, hno⟩, hslash⟩
    obtain ⟨q, hq, hnet, hlq⟩ := (h.slash_iff l).mp ⟨hl, hslash⟩
    refine ⟨q, hq, ?_, hlq⟩
    rw [hother q]
    · exact hnet
    · rintro rfl
      exact hno hlq
  · rintro ⟨q, hq, hnet, hlq⟩
    have hqn : q ≠ n := by
      rintro rfl
      rw [hn] at hnet
      cases hnet
    rw [hother q hqn] at hnet
    obtain ⟨hl, hslash⟩ := (h.slash_iff l).mpr ⟨q, hq, hnet, hlq⟩
    exact ⟨⟨hl, fun hln => hqn (eq_of_mem_lines hlq hln)⟩, hslash⟩

/-- A file of lines that a revision has been applied to. If that changes nothing, the file is left
as it is, which comes to the same. -/
lemma text?_revise {names : List Text} {revision : Text → Forwarders.Revision}
    (ht : v.text? p localServersName = some (Forwarders.toText ls)) (hp : p ∈ names)
    (hrev : (revision p).changed = false → (revision p).lines = Text.sorted ls) :
    (v.revise names revision).text? p localServersName =
      some (Forwarders.toText (revision p).lines) := by
  by_cases hc : (revision p).changed = true
  · simp [Shelf.revise, hp, hc]
  · have hsorted : Text.sorted (Text.sorted ls) = Text.sorted ls :=
      Text.sorted_of_pairwise (Text.pairwise_sorted ls)
    rw [hrev (by simpa using hc)]
    unfold Forwarders.toText at ht ⊢
    rw [hsorted]
    simpa [Shelf.revise, hc] using ht

/-- **A pod detached** keeps the mesh: its network stays, or its lines are gone from all others.

**Proof sketch.** If pods are left, only the hosts file was written. If not, every other network
that is left was a sibling, and it knows the lines of all but the network that is gone, by
`Knows.remove_lines`. -/
theorem Meshed.detached (h : R.Meshed root v) (hfits : R.Fits a) {s : Settings} {binary : Path}
    (hd : v.Detached (s.instanceOf binary a) a v') : R.Meshed root v' := by
  rcases hd with ⟨t, rfl⟩ | ⟨names, hsib, rfl⟩
  · have hne : ∀ {f : Text}, f ≠ hostsName → ∀ p,
        (v.write a.network hostsName t).text? p f = v.text? p f :=
      fun hf p => Shelf.text?_write_of_ne v fun h => hf h.2
    refine ⟨fun p hp => ?_, fun p hp => ?_, h.admits⟩
    · exact (hne (by decide) p).trans (h.own p hp)
    · obtain ⟨ls, ht, hk⟩ := h.knows p hp
      exact ⟨ls, (hne (by decide) p).trans ht, hk.congr rfl⟩
  · have hmulti : (s.instanceOf binary a).multiDomain = true := hfits.multiDomain
    have hsib : Siblings v a.network names := hsib
    rw [if_pos hmulti]
    change R.Meshed root ((v.revise names fun p =>
      Forwarders.remove (v.forwarders p) (Forwarders.scopedLines a.domain a.servers)).removeNetwork
        a.network)
    rw [hfits.scopedLines]
    have hstays : ∀ p, ((v.revise names fun p => Forwarders.remove (v.forwarders p)
        (R.lines a.network)).removeNetwork a.network).isNetwork p = true →
        p ≠ a.network ∧ v.isNetwork p = true := by
      intro p hp
      simpa [Shelf.removeNetwork] using hp
    refine ⟨fun p hp => ?_, fun p hp => ?_, fun p hp => h.admits p (hstays p hp).2⟩
    · obtain ⟨hpn, hnet⟩ := hstays p hp
      have hne : ownServersName ≠ localServersName := by decide
      rw [Shelf.text?_removeNetwork_of_ne hpn, Shelf.text?_revise_of_ne hne]
      exact h.own p hnet
    · obtain ⟨hpn, hnet⟩ := hstays p hp
      obtain ⟨ls, ht, hk⟩ := h.knows p hnet
      have hmem : p ∈ names := (hsib.mem_iff p).mpr ⟨hnet, hpn⟩
      have hfor := forwarders_eq ht hk.clean
      refine ⟨(Forwarders.remove (v.forwarders p) (R.lines a.network)).lines, ?_, ?_⟩
      · rw [Shelf.text?_removeNetwork_of_ne hpn]
        refine text?_revise ht hmem fun hc => ?_
        rw [← hfor]
        exact Forwarders.lines_remove_of_unchanged hc
      · rw [hfor]
        refine hk.sorted.remove_lines (by simp [Shelf.removeNetwork]) fun q hq => ?_
        simp [Shelf.removeNetwork, hq]

/-- The forwarders of a network that a pod has been entered into lead to no network but others.

**Proof sketch.** A network that was there knows the lines of the others, and plain servers change
nothing in that. A network that was not there had no forwarders and holds plain servers only. -/
lemma Meshed.entered (h : R.Meshed root v) (he : v.Entered v₁ n a)
    (hnone : v.isNetwork n = false → v.text? n localServersName = none)
    (hplain : ∀ s ∈ a.defaultServers, Forwarders.IsPlainServer s) :
    ∃ ls, v₁.text? n localServersName = some (Forwarders.toText ls) ∧ ls.Nodup ∧
      (∀ l ∈ ls, Forwarders.IsClean l) ∧
      (∀ l ∈ ls, '/' ∈ l → ∃ p ≠ n, v.isNetwork p = true ∧ l ∈ R.lines p) ∧
      (v.isNetwork n = true → R.Knows v n ls) := by
  by_cases hn : v.isNetwork n = true
  · obtain ⟨ls, ht, hk⟩ := h.knows n hn
    obtain ⟨ls', hls', hk'⟩ := hk.withPlain hplain
    refine ⟨ls', ?_, hk'.nodup, hk'.clean, fun l hl hslash => ?_, fun _ => hk'⟩
    · rw [he.forwarders, ht, ← hls']
      rfl
    · exact (hk'.slash_iff l).mp ⟨hl, hslash⟩
  · obtain ⟨ls, hls, hnd, hclean, hslash⟩ := R.exists_withPlain_nil hplain
    refine ⟨ls, ?_, hnd, hclean, fun l hl hs => absurd hs (hslash l hl), fun hn' => absurd hn' hn⟩
    rw [he.forwarders, hnone (by simpa using hn), ← hls]
    rfl

/-- What a network learns from others when it is announced.

**Proof sketch.** What is known in the end was known before, or is published or known by a sibling.
By the mesh, the lines with a slash among these are lines of networks; the network's own are taken
out again, and those of each sibling are among them, since it publishes them. -/
lemma Meshed.knows_learnt (h : R.Meshed root v) {names known : List Text} {domain : Text}
    (he : v.Entered v₁ n a) (hnone : v.isNetwork n = false → v.text? n localServersName = none)
    (hplain : ∀ s ∈ a.defaultServers, Forwarders.IsPlainServer s)
    (hsib : Siblings v₁ n names)
    (hsight : Sighting root v₁ domain names (v₁.forwarders n) known) :
    R.Knows v₁ n (Forwarders.remove known (R.lines n)).lines := by
  obtain ⟨ls, ht, hnd, hclean, hslash, -⟩ := h.entered he hnone hplain
  have hfor : v₁.forwarders n = Text.sorted ls := forwarders_eq ht hclean
  have hknown : known.Nodup := by
    refine hsight.nodup ?_
    rw [hfor]
    exact (Text.sorted_perm ls).nodup_iff.mpr hnd
  -- a sibling is as it was before the pod was entered
  have hnet : ∀ p ∈ names, p ≠ n ∧ v.isNetwork p = true := by
    intro p hp
    obtain ⟨hpnet, hpn⟩ := (hsib.mem_iff p).mp hp
    rw [he.isNetwork_of_ne p hpn] at hpnet
    exact ⟨hpn, hpnet⟩
  have hpub : ∀ p ∈ names, ∀ l, l ∈ v₁.published p ↔ l ∈ R.lines p := by
    intro p hp l
    obtain ⟨hpn, hpnet⟩ := hnet p hp
    unfold Shelf.published
    rw [he.text_of_ne p hpn]
    exact (h.published hpnet ▸ Text.mem_sorted :)
  have hsaw : ∀ p ∈ names, ∃ ks, R.Knows v p ks ∧ ∀ l, l ∈ v₁.forwarders p ↔ l ∈ ks := by
    intro p hp
    obtain ⟨hpn, hpnet⟩ := hnet p hp
    obtain ⟨ks, hks, hk⟩ := h.knows p hpnet
    rw [← he.text_of_ne p hpn] at hks
    refine ⟨ks, hk, fun l => ?_⟩
    rw [forwarders_eq hks hk.clean]
    exact Text.mem_sorted
  have hcleans : ∀ l ∈ known, Forwarders.IsClean l := by
    intro l hl
    rcases (hsight.mem_known l).mp hl with hl | ⟨p, hp, hl | hl⟩
    · rw [hfor, Text.mem_sorted] at hl
      exact hclean l hl
    · exact isClean_of_mem_lines ((hpub p hp l).mp hl)
    · obtain ⟨ks, hk, hmem⟩ := hsaw p hp
      exact hk.clean l ((hmem l).mp hl)
  have hsub := Forwarders.remove_sublist known (R.lines n)
  refine ⟨hsub.nodup hknown, fun l hl => hcleans l (hsub.subset hl), fun l => ?_⟩
  rw [Forwarders.mem_remove hknown]
  constructor
  · rintro ⟨⟨hl, hno⟩, hs⟩
    rcases (hsight.mem_known l).mp hl with hl | ⟨p, hp, hl | hl⟩
    · rw [hfor, Text.mem_sorted] at hl
      obtain ⟨q, hq, hqnet, hlq⟩ := hslash l hl hs
      exact ⟨q, hq, (he.isNetwork_of_ne q hq).trans hqnet, hlq⟩
    · exact ⟨p, (hnet p hp).1, ((hsib.mem_iff p).mp hp).1, (hpub p hp l).mp hl⟩
    · obtain ⟨ks, hk, hmem⟩ := hsaw p hp
      obtain ⟨q, -, hqnet, hlq⟩ := (hk.slash_iff l).mp ⟨(hmem l).mp hl, hs⟩
      have hqn : q ≠ n := by
        rintro rfl
        exact hno hlq
      exact ⟨q, hqn, (he.isNetwork_of_ne q hqn).trans hqnet, hlq⟩
  · rintro ⟨p, hpn, hpnet, hlp⟩
    have hp : p ∈ names := (hsib.mem_iff p).mpr ⟨hpnet, hpn⟩
    refine ⟨⟨(hsight.mem_known l).mpr (.inr ⟨p, hp, .inl ((hpub p hp l).mpr hlp)⟩), fun hln => ?_⟩,
      slash_mem_of_mem_lines hlp⟩
    exact hpn (eq_of_mem_lines hlp hln)

/-- **A pod attached** keeps the mesh: its network was announced before, or has its lines added to
those of all others and theirs to its own.

**Proof sketch.** If the daemon ran, the network was there and knows what it knew. If not, the
network is announced: it publishes its lines, each sibling has them merged in, and what it has
learnt is what `Meshed.knows_learnt` tells. -/
theorem Meshed.attached (h : R.Meshed root v) (hfits : R.Fits a)
    (hplain : ∀ s ∈ a.defaultServers, Forwarders.IsPlainServer s)
    (hnone : v.isNetwork a.network = false → v.text? a.network localServersName = none)
    {s : Settings} {binary : Path} {state : ProcessState}
    (hstate : state ≠ .notRunning → v.isNetwork a.network = true)
    (ha : v.Attached root (s.instanceOf binary a) a state v') : R.Meshed root v' := by
  obtain ⟨v₁, he, hcase⟩ := ha
  have he : v.Entered v₁ a.network a := he
  have hmulti : (s.instanceOf binary a).multiDomain = true := hfits.multiDomain
  rcases hcase with ⟨hrun, rfl⟩ | ⟨-, -, names, known, hann, rfl⟩
  · -- the daemon ran, so the network is not new and only its own files are touched
    have hn := hstate (hrun hmulti)
    have hnet : v'.isNetwork = v.isNetwork := by
      funext p
      by_cases hp : p = a.network
      · rw [hp, he.isNetwork, hn]
      · exact he.isNetwork_of_ne p hp
    refine ⟨fun p hp => ?_, fun p hp => ?_, fun p hp => h.admits p (hnet ▸ hp)⟩
    · by_cases hpn : p = a.network
      · rw [hpn, he.own]
        exact h.own _ hn
      · rw [he.text_of_ne p hpn]
        exact h.own p (hnet ▸ hp)
    · by_cases hpn : p = a.network
      · subst hpn
        obtain ⟨ls, ht, -, -, -, hk⟩ := h.entered he hnone hplain
        exact ⟨ls, ht, (hk hn).congr hnet⟩
      · obtain ⟨ls, ht, hk⟩ := h.knows p (hnet ▸ hp)
        rw [he.text_of_ne p hpn]
        exact ⟨ls, ht, hk.congr hnet⟩
  · change R.Meshed root (Propagation.published v₁ a.network
      (Forwarders.scopedLines a.domain a.servers) names known)
    rw [hfits.scopedLines]
    have hsib : Siblings v₁ a.network names := hann.siblings
    refine ⟨fun p hp => ?_, fun p hp => ?_, fun p hp => ?_⟩
    · by_cases hpn : p = a.network
      · rw [hpn, text?_published_own]
      · have hne : ownServersName ≠ localServersName := by decide
        have hpnet : v.isNetwork p = true := (he.isNetwork_of_ne p hpn).symm.trans hp
        rw [text?_published_of_ne hpn, Shelf.text?_revise_of_ne hne, he.text_of_ne p hpn]
        exact h.own p hpnet
    · by_cases hpn : p = a.network
      · rw [hpn, text?_published_local]
        exact ⟨_, rfl, (h.knows_learnt he hnone hplain hsib hann.sighting).congr rfl⟩
      · have hpnet : v.isNetwork p = true := (he.isNetwork_of_ne p hpn).symm.trans hp
        obtain ⟨ls, ht, hk⟩ := h.knows p hpnet
        rw [← he.text_of_ne p hpn] at ht
        have hfor := forwarders_eq ht hk.clean
        refine ⟨(Forwarders.merge (v₁.forwarders p) (R.lines a.network)).lines, ?_, ?_⟩
        · rw [text?_published_of_ne hpn]
          refine text?_revise ht ((hsib.mem_iff p).mpr ⟨hp, hpn⟩) fun hc => ?_
          rw [← hfor]
          exact Forwarders.lines_merge_of_unchanged hc
        · rw [hfor]
          exact hk.sorted.merge_lines hpn he.isNetwork fun q hq => he.isNetwork_of_ne q hq
    · by_cases hpn : p = a.network
      · rw [hpn]
        exact ⟨hann.admits_own, hann.admits_local⟩
      · exact h.admits p ((he.isNetwork_of_ne p hpn).symm.trans hp)

end Meshed

/-- A move that keeps to a roster. -/
def Allows (R : Roster) : Move → Prop
  | .add a => R.Fits a ∧ ∀ s ∈ a.defaultServers, Forwarders.IsPlainServer s
  | .del a => R.Fits a
  | .kill _ => True

instance (R : Roster) (move : Move) : Decidable (R.Allows move) :=
  match move with
  | .add a =>
    inferInstanceAs (Decidable (R.Fits a ∧ ∀ s ∈ a.defaultServers, Forwarders.IsPlainServer s))
  | .del a => inferInstanceAs (Decidable (R.Fits a))
  | .kill _ => isTrue trivial

/-- A move of a run that the mesh is kept by: it keeps to the roster, it succeeds, and daemons that
are started write no file of a network but its pid file. -/
def Keeps (R : Roster) (m : Mesh) (base : Location) (h : Host) (move : Move) : Prop :=
  R.Allows move ∧ (m.perform move h).1 = .ok () ∧ Host.Tame base h (m.step h move)

instance (R : Roster) (m : Mesh) (base : Location) (h : Host) (move : Move) :
    Decidable (R.Keeps m base h move) :=
  inferInstanceAs (Decidable (_ ∧ _ ∧ _))

end Roster

/-! ## A roster of the small mesh -/

namespace Sample

/-- Short domains for the networks of the small mesh, others for all other networks. -/
def domain (n : Text) : Text :=
  if n = "a".toList then "x".toList
  else if n = "b".toList then "y".toList
  else 'z' :: List.replicate (Encodable.encode (n.map Char.toNat)) 'z'

/-- Different networks of the sample roster have different domains.

**Proof sketch.** The domains of the two named networks are different texts. Any other domain is as
long as the code of the name, and codes differ. -/
lemma domain_injective : Function.Injective domain := by
  have hmap : Function.Injective (List.map Char.toNat) :=
    List.map_injective_iff.mpr fun _ _ => Char.toNat_inj.mp
  have hcode : ∀ n p : Text, List.replicate (Encodable.encode (n.map Char.toNat)) 'z' =
      List.replicate (Encodable.encode (p.map Char.toNat)) 'z' → n = p := by
    intro n p h
    have hlength := congrArg List.length h
    rw [List.length_replicate, List.length_replicate] at hlength
    exact hmap (Encodable.encode_injective hlength)
  intro n p h
  unfold domain at h
  split_ifs at h with hn hp hp hn' hp hp hp hp
  · rw [hn, hp]
  · simp at h
  · simp at h
  · simp at h
  · rw [hn', hp]
  · simp at h
  · simp at h
  · simp at h
  · exact hcode n p (List.cons.inj h).2

/-- The networks of the small mesh. -/
def roster : Roster where
  domain := domain
  nameservers n := if n = "a".toList then [.v4 (octets 10 1 0 1)] else [.v4 (octets 10 2 0 1)]
  slash n := by
    unfold domain
    split_ifs <;> simp
  newline n := by
    unfold domain
    split_ifs <;> simp
  injective := domain_injective

/-- Two networks come up, the daemon of the first is killed and its network announced anew. -/
def meshMoves : List Move :=
  [.add (pod "a" "x" "p" (octets 10 1 0 1)), .add (pod "b" "y" "q" (octets 10 2 0 1)), .kill 101,
    .add (pod "a" "x" "r" (octets 10 1 0 1))]

end Sample

/-! ## Runs -/

section Runs

variable {m : Mesh} {R : Roster} {base : Location} {h : Host} {moves : List Move}

/-- Every move of such a run keeps the mesh.

**Proof sketch.** The move has succeeded, so an attachment has attached its pod and a detachment
has detached it, and `Meshed.attached` and `Meshed.detached` apply. A killed process changes no
file. -/
lemma Roster.Keeps.step {move : Move} {v : Shelf} (hs : m.Stores base v h)
    (hv : R.Meshed m.settings.rootDir v) (hk : R.Keeps m base h move) :
    ∃ v', m.Stores base v' (m.step h move) ∧ R.Meshed m.settings.rootDir v' := by
  obtain ⟨hallows, hok, ht⟩ := hk
  cases move with
  | add a =>
    obtain ⟨servers, hok⟩ := Mesh.perform_add_eq_ok_iff.mp hok
    obtain ⟨hfits, hplain⟩ := hallows
    rw [Mesh.step_add] at ht ⊢
    obtain ⟨binary, state, v', hatt, hk, hstate⟩ := hs.add_ok ht hok
    refine ⟨v', .inl hk, hv.attached hfits hplain (fun hn => hs.text?_eq_none hn _) ?_ hatt⟩
    intro hne
    have hruns : m.Runs base h a.network := by
      by_contra hno
      exact hne (hstate.mpr hno)
    exact hs.hasNetwork_iff.mp hruns.1
  | del a =>
    obtain ⟨binary, v', hdet, hk⟩ := hs.del_ok ht hok
    exact ⟨v', .inl hk, hv.detached hallows hdet⟩
  | kill pid => exact ⟨v, hs.kill pid, hv⟩

/-- The networks know each other after every run. -/
lemma Mesh.meshed_of_run (h₀ : m.StartsEmpty base h) (hrun : m.Along (R.Keeps m base) h moves) :
    ∃ v, m.Stores base v (m.play h moves) ∧ R.Meshed m.settings.rootDir v := by
  exact hrun.stores h₀ (R.meshed_empty _) fun _ _ _ hs hv hk => hk.step hs hv

/-- **The invariant of the mesh.** After any run from an empty root in which every attachment keeps
to a roster and every operation succeeds, each network there is publishes exactly its own lines,
and the forwarders of its daemon are sorted, none stands twice, and those for domains are the
lines that the other networks publish, none of which is for its own domain.

**Proof sketch.** By induction on the run with `ResolverMesh.Roster.Meshed` as invariant. An
attachment merges the network's lines into the forwarders of all others, which may hold them
already, and leaves the network with what the others publish or know, less its own lines. A
detachment takes exactly these lines back, since no two networks share one. -/
theorem mesh_invariant (h₀ : m.StartsEmpty base h) (hrun : m.Along (R.Keeps m base) h moves)
    {n : Text} (hn : (m.play h moves).disk.HasNetwork base n) :
    Forwarders.readLines (m.settings.rootDir.fileOf n ownServersName) (m.play h moves) =
        .ok (Text.sorted (R.lines n)) ∧
      ∃ ls, Forwarders.readLines (m.settings.rootDir.fileOf n localServersName)
          (m.play h moves) = .ok ls ∧ Text.sorted ls = ls ∧ ls.Nodup ∧
        (∀ l, (l ∈ ls ∧ '/' ∈ l) ↔ ∃ p ≠ n, (m.play h moves).disk.HasNetwork base p ∧
          ∃ os, Forwarders.readLines (m.settings.rootDir.fileOf p ownServersName)
            (m.play h moves) = .ok os ∧ l ∈ os) ∧
        Forwarders.claims ls (R.domain n) = false := by
  obtain ⟨v, hs, hv⟩ := Mesh.meshed_of_run h₀ hrun
  have hnv := hs.hasNetwork_iff.mp hn
  have hh := hs.holds hnv
  have hown : ∀ p, v.isNetwork p = true →
      Forwarders.readLines (m.settings.rootDir.fileOf p ownServersName) (m.play h moves) =
        .ok (Text.sorted (R.lines p)) := by
    intro p hp
    rw [← hv.published hp]
    exact hh.readLines_own_of_admits hp (hv.admits p hp).1
  obtain ⟨ls, ht, hk⟩ := hv.knows n hnv
  refine ⟨hown n hnv, Text.sorted ls, ?_, Text.sorted_of_pairwise (Text.pairwise_sorted ls),
    hk.sorted.nodup, fun l => ?_, hk.sorted.claims_eq_false⟩
  · rw [← Roster.forwarders_eq ht hk.clean]
    exact hh.readLines_local_of_admits hnv (hv.admits n hnv).2
  · rw [hk.sorted.slash_iff l]
    constructor
    · rintro ⟨p, hp, hpnet, hl⟩
      exact ⟨p, hp, hs.hasNetwork_iff.mpr hpnet, _, hown p hpnet, Text.mem_sorted.mpr hl⟩
    · rintro ⟨p, hp, hpnet, os, hos, hl⟩
      have hpv := hs.hasNetwork_iff.mp hpnet
      rw [hown p hpv] at hos
      exact ⟨p, hp, hpv, Text.mem_sorted.mp (Except.ok.inj hos ▸ hl)⟩

end Runs

/-- The invariant after a run in which a daemon was killed.

**Proof sketch.** The run is checked move by move, and the theorem gives what is read after it. -/
theorem mesh_invariant_of_killed :
    Sample.mesh.Along (Sample.roster.Keeps Sample.mesh Sample.base) (Sample.host [Sample.daemon])
        Sample.meshMoves ∧
      Forwarders.readLines (Sample.mesh.settings.rootDir.fileOf "a".toList ownServersName)
          (Sample.mesh.play (Sample.host [Sample.daemon]) Sample.meshMoves) =
        .ok ["server=/x/10.1.0.1".toList] := by
  obtain ⟨hrun, hn⟩ : Sample.mesh.Along (Sample.roster.Keeps Sample.mesh Sample.base)
        (Sample.host [Sample.daemon]) Sample.meshMoves ∧
      (Sample.mesh.play (Sample.host [Sample.daemon]) Sample.meshMoves).disk.HasNetwork
        Sample.base "a".toList := by decide +kernel
  have hlines : Text.sorted (Sample.roster.lines "a".toList) = ["server=/x/10.1.0.1".toList] := by
    decide +kernel
  have hread := (mesh_invariant (Sample.startsEmpty _) hrun hn).1
  rw [hlines] at hread
  exact ⟨hrun, hread⟩

end ResolverMesh
