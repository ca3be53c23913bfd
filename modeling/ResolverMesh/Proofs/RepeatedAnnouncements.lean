import ResolverMesh.Proofs.LinesTakenBack
import ResolverMesh.Proofs.SiblingsBriefed

set_option autoImplicit false
set_option relaxedAutoImplicit false

/-!
# Announcements made again and taken back

An announcement can be made again at any time. Wherever an earlier one has ended, whether it was
carried out or broke off on the way, the next one that succeeds leaves the same forwarders as if
there had been no other. The siblings that have been told already feed the network's own lines back
to it, and it leaves them out. Taking an announcement back leaves the siblings' forwarders as they
were before it, byte by byte, if they were in the form in which they are written.

## Main definitions

* `ResolverMesh.Shelf.IsKnown` — the lines that a look at the siblings can find.
* `ResolverMesh.Propagation.Advanced` — an announcement that was begun and may be carried out.

## Main results

* `ResolverMesh.Propagation.Advanced.text?_published` — what the next announcement writes.
* `ResolverMesh.Propagation.publish_converges` — announcements made again.
* `ResolverMesh.Propagation.withdraw_undoes_publish` — an announcement taken back.
-/

namespace ResolverMesh

open ResolverMesh.Action Disk

/-! ## What a network can learn -/

namespace Shelf

/-- A line is among the forwarders that a network uses, or another network publishes or uses
it. -/
def IsKnown (v : Shelf) (n l : Text) : Prop :=
  l ∈ v.forwarders n ∨
    ∃ p, v.isNetwork p = true ∧ p ≠ n ∧ (l ∈ v.published p ∨ l ∈ v.forwarders p)

/-- No line that networks publish or use ends in a carriage return. -/
def EndsPlainly (v : Shelf) : Prop :=
  ∀ p l, l ∈ v.published p ∨ l ∈ v.forwarders p → l.getLast? ≠ some '\r'

variable {v : Shelf}

/-- The forwarders that networks use are clean. -/
lemma EndsPlainly.isClean (hv : v.EndsPlainly) {p l : Text} (hl : l ∈ v.forwarders p) :
    Forwarders.IsClean l :=
  Forwarders.isClean_of_mem_ofText hl (hv p l (.inr hl))

/-- What a network can learn is clean. -/
lemma EndsPlainly.isClean_of_isKnown (hv : v.EndsPlainly) {n l : Text} (hl : v.IsKnown n l) :
    Forwarders.IsClean l := by
  rcases hl with hl | ⟨p, -, -, hl | hl⟩
  · exact hv.isClean hl
  · exact Forwarders.isClean_of_mem_ofText hl (hv p l (.inl hl))
  · exact hv.isClean hl

end Shelf

namespace Propagation

section Shelves

variable {root : Path} {v v' : Shelf} {i : Instance} {n : Text}
  {names names' known known' own : List Text}

/-- A look at the siblings finds all that there is to be learnt. -/
lemma Announced.mem_known_iff (ha : Announced root v i names known) {l : Text} :
    l ∈ known ↔ v.IsKnown i.network l := by
  rw [ha.sighting.mem_known, Shelf.IsKnown]
  simp only [ha.siblings.mem_iff, and_assoc]

/-- **What is learnt**: all that is known but the network's own lines. -/
lemma Announced.mem_learnt_iff (ha : Announced root v i names known)
    (hnd : (v.forwarders i.network).Nodup) (own : List Text) {l : Text} :
    l ∈ (Forwarders.remove known own).lines ↔ v.IsKnown i.network l ∧ l ∉ own := by
  rw [Forwarders.mem_remove (ha.sighting.nodup hnd), ha.mem_known_iff]

/-- No line is learnt twice. -/
lemma Announced.nodup_learnt (ha : Announced root v i names known)
    (hnd : (v.forwarders i.network).Nodup) (own : List Text) :
    (Forwarders.remove known own).lines.Nodup :=
  (ha.sighting.nodup hnd).sublist (Forwarders.remove_sublist known own)

/-! ## Announcements under way -/

/-- From networks `v`, an announcement of a network was begun and may be carried out: some siblings
have been told, and the network may have what there was to learn. -/
structure Advanced (v : Shelf) (n : Text) (own : List Text) (v' : Shelf) : Prop where
  /-- The networks are the same. -/
  networks : v'.isNetwork = v.isNetwork
  /-- Siblings publish what they did. -/
  proclaimed : ∀ p ≠ n, v'.text? p ownServersName = v.text? p ownServersName
  /-- The forwarders of a sibling are as they were, or have the lines that they lacked. -/
  told : ∀ p ≠ n, v'.text? p localServersName = v.text? p localServersName ∨
    v.isNetwork p = true ∧ (Forwarders.merge (v.forwarders p) own).changed = true ∧
      v'.text? p localServersName =
        some (Forwarders.toText (Forwarders.merge (v.forwarders p) own).lines)
  /-- Those of the network are as they were, or are what it has learnt. -/
  learnt : v'.text? n localServersName = v.text? n localServersName ∨
    ∃ ls : List Text, ls.Nodup ∧ (∀ l, l ∈ ls ↔ v.IsKnown n l ∧ l ∉ own) ∧
      v'.text? n localServersName = some (Forwarders.toText ls)

/-- Before it begins, an announcement has changed nothing. -/
lemma Advanced.refl (v : Shelf) (n : Text) (own : List Text) : Advanced v n own v :=
  ⟨rfl, fun _ _ => rfl, fun _ _ => .inl rfl, .inl rfl⟩

/-- Siblings told by revising their forwarders. -/
lemma told_of_revise (hn : ∀ p ∈ names, v.isNetwork p = true) (p : Text) :
    (v.revise names fun m => Forwarders.merge (v.forwarders m) own).text? p localServersName =
        v.text? p localServersName ∨
      v.isNetwork p = true ∧ (Forwarders.merge (v.forwarders p) own).changed = true ∧
        (v.revise names fun m => Forwarders.merge (v.forwarders m) own).text? p localServersName =
          some (Forwarders.toText (Forwarders.merge (v.forwarders p) own).lines) := by
  by_cases hc : p ∈ names ∧ (Forwarders.merge (v.forwarders p) own).changed = true
  · exact .inr ⟨hn p hc.1, hc.2, by simp [Shelf.revise, hc]⟩
  · exact .inl (by simp [Shelf.revise, hc])

/-- An announcement that broke off on the way.

**Proof sketch.** Field by field: the siblings' published files are not among the files written,
and what each sibling was told is what the revision of the shelf says. The network's own forwarders
are not touched, since it is none of its own siblings. -/
lemma advanced_of_brokenOff (hs : ∀ p ∈ names, v.isNetwork p = true ∧ p ≠ n) (t : Text) :
    Advanced v n own ((v.write n ownServersName t).revise names
      fun m => Forwarders.merge (v.forwarders m) own) where
  networks := rfl
  proclaimed p hp := by
    rw [Shelf.text?_revise_of_ne (by decide)]
    simp [Shelf.write, hp]
  told p hp := by
    have hsame : ((v.write n ownServersName t).revise names
        fun m => Forwarders.merge (v.forwarders m) own).text? p localServersName =
          (v.revise names fun m => Forwarders.merge (v.forwarders m) own).text? p
            localServersName := by
      simp [Shelf.revise, Shelf.write, hp]
    rw [hsame]
    exact told_of_revise (fun q hq => (hs q hq).1) p
  learnt := .inl (by
    have hn : n ∉ names := fun hm => (hs n hm).2 rfl
    have hne : localServersName ≠ ownServersName := by decide
    simp [Shelf.revise, Shelf.write, hn, hne])

/-- An announcement that was carried out. -/
lemma advanced_published (ha : Announced root v i names known)
    (hnd : (v.forwarders i.network).Nodup) (own : List Text) :
    Advanced v i.network own (published v i.network own names known) where
  networks := rfl
  proclaimed p hp := by
    rw [text?_published_of_ne hp, Shelf.text?_revise_of_ne (by decide)]
  told p hp := by
    rw [text?_published_of_ne hp]
    exact told_of_revise (fun q hq => ((ha.siblings.mem_iff q).mp hq).1) p
  learnt := .inr ⟨_, ha.nodup_learnt hnd own, fun l => ha.mem_learnt_iff hnd own,
    text?_published_local _ _ _ _⟩

section Again

variable (hadv : Advanced v n own v') (hown : ∀ l ∈ own, Forwarders.IsClean l)
  (hv : v.EndsPlainly)
include hadv hown hv

/-- The forwarders of a sibling, as they are read. -/
lemma Advanced.forwarders_of_ne {p : Text} (hp : p ≠ n) :
    v'.forwarders p = v.forwarders p ∨
      (Forwarders.merge (v.forwarders p) own).changed = true ∧
        v'.forwarders p = Text.sorted (Forwarders.merge (v.forwarders p) own).lines ∧
        v'.text? p localServersName =
          some (Forwarders.toText (Forwarders.merge (v.forwarders p) own).lines) := by
  rcases hadv.told p hp with h | ⟨-, hc, h⟩
  · exact .inl (by rw [Shelf.forwarders, h, Shelf.forwarders])
  · refine .inr ⟨hc, ?_, h⟩
    rw [Shelf.forwarders, h]
    exact Forwarders.ofText_toText
      (Forwarders.isClean_merge (fun l hl => hv.isClean hl) hown)

omit hown in
/-- The forwarders of the network, as they are read. -/
lemma Advanced.forwarders_self :
    v'.forwarders n = v.forwarders n ∨ ∃ ls : List Text, ls.Nodup ∧
      (∀ l, l ∈ ls ↔ v.IsKnown n l ∧ l ∉ own) ∧ v'.forwarders n = Text.sorted ls := by
  rcases hadv.learnt with h | ⟨ls, hnd, hmem, h⟩
  · exact .inl (by rw [Shelf.forwarders, h, Shelf.forwarders])
  · refine .inr ⟨ls, hnd, hmem, ?_⟩
    rw [Shelf.forwarders, h]
    exact Forwarders.ofText_toText
      fun l hl => hv.isClean_of_isKnown ((hmem l).mp hl).1

/-- **What there is to be learnt** is the same, but for the network's own lines.

**Proof sketch.** The published files are the same. A sibling's forwarders are the same up to lines
of the announcement itself, of which `l` is none. If the network has learnt already, it has learnt
no more than was known. -/
lemma Advanced.isKnown_iff {l : Text} (hl : l ∉ own) : v'.IsKnown n l ↔ v.IsKnown n l := by
  have hpublished : ∀ p ≠ n, v'.published p = v.published p := fun p hp => by
    rw [Shelf.published, hadv.proclaimed p hp, Shelf.published]
  have hsiblings : ∀ p ≠ n, l ∈ v'.forwarders p ↔ l ∈ v.forwarders p := by
    intro p hp
    rcases hadv.forwarders_of_ne hown hv hp with h | ⟨-, h, -⟩
    · rw [h]
    · rw [h, Text.mem_sorted, Forwarders.mem_merge]
      simp [hl]
  have hothers : (∃ p, v'.isNetwork p = true ∧ p ≠ n ∧
      (l ∈ v'.published p ∨ l ∈ v'.forwarders p)) ↔
        ∃ p, v.isNetwork p = true ∧ p ≠ n ∧ (l ∈ v.published p ∨ l ∈ v.forwarders p) := by
    refine exists_congr fun p => ?_
    rw [hadv.networks]
    refine and_congr_right fun _ => and_congr_right fun hp => ?_
    rw [hpublished p hp, hsiblings p hp]
  unfold Shelf.IsKnown
  rw [hothers]
  rcases hadv.forwarders_self hv with h | ⟨ls, -, hmem, h⟩
  · rw [h]
  · rw [h, Text.mem_sorted, hmem]
    -- what was learnt was known before
    exact ⟨fun h => h.elim (fun h => h.1) .inr, fun h => .inl ⟨h, hl⟩⟩

omit hown in
/-- The network's forwarders still have no line twice. -/
lemma Advanced.nodup_forwarders (hnd : (v.forwarders n).Nodup) : (v'.forwarders n).Nodup := by
  rcases hadv.forwarders_self hv with h | ⟨ls, hls, -, h⟩
  · rwa [h]
  · rw [h]
    exact (Text.sorted_perm ls).nodup_iff.mpr hls

/-- A sibling that was told once lacks nothing. -/
lemma Advanced.changed_merge {p : Text} (hp : p ≠ n)
    (hc : (Forwarders.merge (v'.forwarders p) own).changed = true) :
    v'.forwarders p = v.forwarders p := by
  rcases hadv.forwarders_of_ne hown hv hp with h | ⟨-, h, -⟩
  · exact h
  · obtain ⟨l, hl, hlack⟩ := Forwarders.changed_merge_iff.mp hc
    rw [h, Text.mem_sorted, Forwarders.mem_merge] at hlack
    exact absurd (.inr hl) hlack

end Again

/-- **The next announcement** that is carried out writes the same forwarders as the first one would
have, wherever an earlier one has ended.

**Proof sketch.** For the network itself, both results are the same lines once each in dictionary
order, so they are one text. For a sibling, its published file is not concerned. Its forwarders are
as before or were told already, and merging the same lines a second time changes nothing. -/
theorem Advanced.text?_published (hadv : Advanced v i.network own v')
    (hown : ∀ l ∈ own, Forwarders.IsClean l) (hv : v.EndsPlainly)
    (hnd : (v.forwarders i.network).Nodup) (ha : Announced root v i names known)
    (ha' : Announced root v' i names' known') {f : Text}
    (hf : f = ownServersName ∨ f = localServersName) (p : Text) :
    (published v' i.network own names' known').text? p f =
      (published v i.network own names known).text? p f := by
  by_cases hp : p = i.network
  · subst hp
    rcases hf with rfl | rfl
    · rw [text?_published_own, text?_published_own]
    · rw [text?_published_local, text?_published_local]
      -- both are in dictionary order, with the same lines once each
      have hnd' := hadv.nodup_forwarders hv hnd
      have hperm : (Forwarders.remove known' own).lines.Perm
          (Forwarders.remove known own).lines := by
        refine (List.perm_ext_iff_of_nodup (ha'.nodup_learnt hnd' own)
          (ha.nodup_learnt hnd own)).mpr fun l => ?_
        rw [ha'.mem_learnt_iff hnd', ha.mem_learnt_iff hnd]
        exact and_congr_left fun hl => hadv.isKnown_iff hown hv hl
      rw [Forwarders.toText, Text.sorted_eq_of_perm hperm, Forwarders.toText]
  · rw [text?_published_of_ne hp, text?_published_of_ne hp]
    rcases hf with rfl | rfl
    · rw [Shelf.text?_revise_of_ne (by decide), Shelf.text?_revise_of_ne (by decide),
        hadv.proclaimed p hp]
    · have hmem : p ∈ names' ↔ p ∈ names := by
        rw [ha'.siblings.mem_iff, ha.siblings.mem_iff, hadv.networks]
      rcases hadv.told p hp with h | ⟨hnet, hc, h⟩
      · have hsame : v'.forwarders p = v.forwarders p := by
          rw [Shelf.forwarders, h, Shelf.forwarders]
        simp only [Shelf.revise, hmem, hsame, h]
      · have hdone : (Forwarders.merge (v'.forwarders p) own).changed ≠ true := by
          intro hc'
          have hsame := hadv.changed_merge hown hv hp hc'
          obtain ⟨l, hl, hlack⟩ := Forwarders.changed_merge_iff.mp hc'
          refine hlack ?_
          rw [Shelf.forwarders, h]
          exact Forwarders.mem_ofText_toText (Forwarders.mem_merge.mpr (.inr hl)) (hown l hl)
        have hthere : p ∈ names := (ha.siblings.mem_iff p).mpr ⟨hnet, hp⟩
        simp [Shelf.revise, hdone, hthere, hc, h]

end Shelves

/-! ## Announcements made again -/

section Announcements

variable {s : Settings} {base : Location} {i : Instance} {servers : List Text}

/-- Forwarders for a domain are clean if they are single lines that do not end in a carriage
return. -/
lemma isClean_of_scopedLines {domain : Text}
    (hown : ∀ l ∈ Forwarders.scopedLines domain servers, '\n' ∉ l ∧ l.getLast? ≠ some '\r') :
    ∀ l ∈ Forwarders.scopedLines domain servers, Forwarders.IsClean l := by
  intro l hl
  obtain ⟨server, -, rfl⟩ := List.mem_map.mp hl
  exact ⟨List.ne_nil_of_mem (Forwarders.slash_mem_scopedLine domain server), (hown _ hl).1,
    (hown _ hl).2⟩

/-- **However an announcement ends**, it was begun or carried out, and there are no links.

**Proof sketch.** By the stage that it has ended in: carried out, not begun, or broken off once a
first part of the siblings was briefed. -/
theorem advanced_publish {h k : Host} {r : Except Fault Unit}
    (hl : h.disk.Linkless s.rootDir base) (hi : i.IsBelow s.rootDir)
    (hnd : ((h.disk.shelf base).forwarders i.network).Nodup)
    (hr : publish s i servers h = (r, k)) (ht : Host.Tame base h k) :
    k.disk.Linkless s.rootDir base ∧ Advanced (h.disk.shelf base) i.network
      (Forwarders.scopedLines i.domain servers) (k.disk.shelf base) := by
  rcases publish_stages hl hi rfl hr ht with ⟨names, known, w, x, y, hc, -, rfl⟩ |
    ⟨fault, -, rfl | ⟨names, done, w, hsib, hdone, hw, hb⟩⟩
  · have hl' : y.disk.Linkless s.rootDir base :=
      Host.Filed.linkless hc.learnt hc.briefed.linkless
    refine ⟨hl', ?_⟩
    change Advanced _ _ _ (y.disk.shelf base)
    rw [hc.shelf_eq]
    exact advanced_published hc.announced hnd _
  · exact ⟨hl, .refl _ _ _⟩
  · refine ⟨hb.linkless, ?_⟩
    rw [hb.shelf_eq, hw.shelf (by decide)]
    exact advanced_of_brokenOff (fun p hp => (hsib.mem_iff p).mp (hdone.subset hp)) _

/-- **A sibling that was told** lacks nothing after an announcement that was carried out.

**Proof sketch.** If the first announcement changed its file, the lines were written and are read
back, as they are clean. If not, it had them already. -/
lemma changed_merge_published {root : Path} {v : Shelf} {names known own : List Text}
    (ha : Announced root v i names known) (hown : ∀ l ∈ own, Forwarders.IsClean l) {p : Text}
    (hp : p ∈ names) :
    (Forwarders.merge ((published v i.network own names known).forwarders p) own).changed =
      false := by
  have hne := ((ha.siblings.mem_iff p).mp hp).2
  rw [Bool.eq_false_iff, Ne, Forwarders.changed_merge_iff, not_exists]
  rintro l ⟨hl, hlack⟩
  rw [Shelf.forwarders, text?_published_of_ne hne, Shelf.text?_revise_of_mem hp] at hlack
  by_cases hc : (Forwarders.merge (v.forwarders p) own).changed = true
  · rw [if_pos hc] at hlack
    exact hlack (Forwarders.mem_ofText_toText (Forwarders.mem_merge.mpr (.inr hl)) (hown l hl))
  · rw [if_neg hc] at hlack
    exact hc (Forwarders.changed_merge_iff.mpr ⟨l, hl, hlack⟩)

/-- **Announcements made again converge.** After an announcement from the same files that has ended
in any way, the next one that succeeds leaves the forwarders that one alone would have left. If the
earlier one was carried out, then the next one writes no file of a sibling, and no daemon is
signalled or started.

**Proof sketch.** The earlier announcement was begun or carried out (`advanced_publish`), and what
the next one writes is then the same (`Advanced.text?_published`). -/
theorem publish_converges {n domain : Text} {multi : Bool} {o h₁ k₁ h₂ k₂ h₃ k₃ : Host}
    {r : Except Fault Unit} (hi : s.resolve n domain multi o = .ok i)
    (hown : ∀ l ∈ Forwarders.scopedLines i.domain servers, '\n' ∉ l ∧ l.getLast? ≠ some '\r')
    (hl : h₁.disk.Linkless s.rootDir base) (hends : (h₁.disk.shelf base).EndsPlainly)
    (hnd : ((h₁.disk.shelf base).forwarders i.network).Nodup)
    (halone : publish s i servers h₁ = (.ok (), k₁)) (ht₁ : Host.Tame base h₁ k₁)
    (hstart : h₂.disk = h₁.disk) (hearly : publish s i servers h₂ = (r, k₂))
    (ht₂ : Host.Tame base h₂ k₂) (hrest : h₃.disk = k₂.disk)
    (hagain : publish s i servers h₃ = (.ok (), k₃)) (ht₃ : Host.Tame base h₃ k₃) :
    (∀ p f, f = ownServersName ∨ f = localServersName →
        k₃.disk.fileText base p f = k₁.disk.fileText base p f) ∧
      (r = .ok () → h₃.since k₃ =
        [.wroteFile (base ++ [Name.text i.network, .text ownServersName]),
          .wroteFile (base ++ [Name.text i.network, .text localServersName]),
          .logged (.propagated i.network i.domain 0)]) := by
  obtain ⟨hb, -⟩ := Settings.of_resolve_ok hi
  have hclean := isClean_of_scopedLines hown
  obtain ⟨hl₂, hadv⟩ := advanced_publish (hstart ▸ hl) hb (by rw [hstart]; exact hnd) hearly ht₂
  rw [hstart, ← hrest] at hadv
  rw [← hrest] at hl₂
  obtain ⟨-, names, known, ha, hk₁⟩ := shelf_publish hl hb halone ht₁
  obtain ⟨names', known', w', x', y', hc', rfl⟩ := carried_publish hl₂ hb hagain ht₃
  refine ⟨fun p f hf => ?_, ?_⟩
  · have hpid : f ≠ pidName := by
      rcases hf with rfl | rfl <;> decide
    change y'.disk.fileText base p f = _
    rw [← text?_shelf_eq hpid, ← text?_shelf_eq hpid, hc'.shelf_eq, hk₁]
    exact hadv.text?_published hclean hends hnd ha hc'.announced hf p
  · rintro rfl
    obtain ⟨-, names₂, known₂, ha₂, hshelf⟩ := shelf_publish (hstart ▸ hl) hb hearly ht₂
    rw [← hrest] at hshelf
    have hplan : briefings s w' (h₃.disk.shelf base) (Forwarders.scopedLines i.domain servers)
        names' = [] := by
      refine plan_eq_nil fun p hp => ?_
      rw [hshelf]
      refine changed_merge_published ha₂ hclean ((ha₂.siblings.mem_iff p).mpr ?_)
      have hmem := (hc'.announced.siblings.mem_iff p).mp hp
      rwa [hshelf, isNetwork_published] at hmem
    have happlied := hc'.applied
    rw [hplan] at happlied ⊢
    obtain ⟨-, rfl⟩ := Prod.mk.inj happlied
    have hjournal := Host.Filed.journal hc'.learnt
    rw [Host.Filed.journal hc'.proclaimed] at hjournal
    rw [Host.since, Host.record, hjournal]
    simp

end Announcements

end Propagation

/-- No line of the networks' forwarders ends in a carriage return, as the entries of the disk
show.

**Proof sketch.** Both files of a network are read from the disk, and a file that is read is an
entry. -/
lemma Disk.endsPlainly_of_entries {d : Disk} (base : Location)
    (h : ∀ x ∈ d.tree.entries, ∀ l ∈ Forwarders.ofText (x.2.text?.getD []),
      l.getLast? ≠ some '\r') : (d.shelf base).EndsPlainly := by
  have hfile : ∀ p f l, l ∈ Forwarders.ofText ((d.fileText base p f).getD []) →
      l.getLast? ≠ some '\r' := by
    intro p f l hl
    unfold fileText at hl
    cases he : d.tree.get? (base ++ [Name.text p, .text f]) with
    | none =>
      rw [he] at hl
      cases hl
    | some e =>
      rw [he] at hl
      exact h _ (FileTree.get?_eq_some_iff.mp he) l hl
  intro p l hl
  rw [published_shelf, forwarders_shelf] at hl
  exact hl.elim (hfile p _ l) (hfile p _ l)

namespace Sample

/-- The files of a network whose daemon runs. -/
def running (n : Text) (pid : Nat) : List (Text × Text × Content) :=
  [(n, configName, .text ("pid-file=/root/".toList ++ n ++ '/' :: pidName)),
    (n, pidName, .text (Launch.pidLine pid))]

/-- A network that knows of one sibling already, and two siblings whose daemons run. The runs of
the daemon's program go as listed. -/
def neighbours (outcomes : List Outcome) : Host :=
  { host outcomes with
    disk := stock ([("a".toList, localServersName, .text "server=/y/10.2.0.1\n".toList)] ++
      running "b".toList 7 ++ running "c".toList 8 ++
      [("b".toList, ownServersName, .text "server=/y/10.2.0.1\n".toList),
        ("b".toList, localServersName, .text "server=/u/10.4.0.1\nserver=/u/10.4.0.1\n".toList),
        ("c".toList, ownServersName, .text "server=/z/10.3.0.1\n".toList),
        ("c".toList, localServersName, .text "server=/y/10.2.0.1\n".toList)])
    processes := [⟨7, true⟩, ⟨8, true⟩]
    nextPid := 9 }

/-- The servers that are announced, one of them twice. -/
def addresses : List Text := ["10.1.0.2".toList, "10.1.0.1".toList, "10.1.0.2".toList]

/-- The host after an announcement that broke off when a daemon failed to start. -/
def brokenOff : Host :=
  (Propagation.publish mesh.settings announcing addresses (neighbours [daemon, failure, daemon])).2

end Sample

namespace Propagation

open Sample in
/-- An announcement whose second restart fails, made again. All siblings then hold what one
announcement alone would have left.

**Proof sketch.** What the theorem asks of the runs is computed at once. The disk of the host does
not depend on which launches fail. -/
theorem publish_converges_of_brokenOff :
    (publish mesh.settings announcing addresses (neighbours [daemon, failure, daemon])).1 =
        .error (.startFailure []) ∧
      ∀ p f, f = ownServersName ∨ f = localServersName →
        (publish mesh.settings announcing addresses brokenOff).2.disk.fileText base p f =
          (publish mesh.settings announcing addresses
            (neighbours [daemon])).2.disk.fileText base p f := by
  have hread : (((neighbours [daemon]).disk.find mesh.settings.rootDir).toOption.map Found.loc =
        some base ∧ (neighbours [daemon]).disk.isDirectory mesh.settings.rootDir = true) ∧
      (∀ x ∈ (neighbours [daemon]).disk.tree.entries, x.2.isLink = false) ∧
      (∀ x ∈ (neighbours [daemon]).disk.tree.entries, ∀ l ∈ Forwarders.ofText (x.2.text?.getD []),
        l.getLast? ≠ some '\r') ∧
      mesh.settings.resolve "a".toList "x".toList true (neighbours [daemon]) = .ok announcing ∧
      (∀ l ∈ Forwarders.scopedLines "x".toList addresses,
        '\n' ∉ l ∧ l.getLast? ≠ some '\r') ∧
      (((neighbours [daemon]).disk.shelf base).forwarders "a".toList).Nodup ∧
      ((publish mesh.settings announcing addresses (neighbours [daemon])).1 = .ok () ∧
        Host.Tame base (neighbours [daemon])
          (publish mesh.settings announcing addresses (neighbours [daemon])).2) ∧
      ((publish mesh.settings announcing addresses (neighbours [daemon, failure, daemon])).1 =
          .error (.startFailure []) ∧
        Host.Tame base (neighbours [daemon, failure, daemon]) brokenOff) ∧
      (publish mesh.settings announcing addresses brokenOff).1 = .ok () ∧
        Host.Tame base brokenOff
          (publish mesh.settings announcing addresses brokenOff).2 := by
    decide +kernel
  obtain ⟨hfind, hno, hends, hi, hown, hnd, ⟨halone, ht₁⟩, ⟨hearly, ht₂⟩, hagain, ht₃⟩ := hread
  have hdisk : (neighbours [daemon, failure, daemon]).disk = (neighbours [daemon]).disk := rfl
  have hbroken : (publish mesh.settings announcing addresses
      (neighbours [daemon, failure, daemon])).2 = brokenOff := rfl
  refine ⟨hearly, ?_⟩
  generalize neighbours [daemon] = h₁ at *
  generalize neighbours [daemon, failure, daemon] = h₂ at *
  generalize brokenOff = h₃ at *
  exact (publish_converges hi hown (.of_entries hfind hno) (endsPlainly_of_entries base hends) hnd
    (Prod.ext halone rfl) ht₁ hdisk (Prod.ext hearly hbroken) ht₂ rfl (Prod.ext hagain rfl) ht₃).1

/-! ## Announcements taken back -/

section Announcements

variable {s : Settings} {base : Location} {i : Instance} {servers : List Text}

/-- What an announcement has merged into a sibling's file is removed again.

**Proof sketch.** Between the two, the sibling holds its own lines with those of the announcement
merged in. If that was a change, removing them gives the canonical text back. If not, no line was
missing, so there were no lines to announce and there are none to remove. -/
lemma text?_revise_published {root : Path} {v v' : Shelf} {names names' known own : List Text}
    {p t : Text} (hv' : v' = published v i.network own names known)
    (ha : Announced root v i names known) (hown : ∀ l ∈ own, Forwarders.IsClean l)
    (htext : v.text? p localServersName = some t) (ht : Forwarders.IsCanonical t)
    (hnone : ∀ l ∈ own, l ∉ Forwarders.ofText t) (hp : p ∈ names) (hp' : p ∈ names') :
    (v'.revise names' fun q => Forwarders.remove (v'.forwarders q) own).text? p localServersName =
      some t := by
  have hne := ((ha.siblings.mem_iff p).mp hp).2
  have hold : v.forwarders p = Forwarders.ofText t := by
    rw [Shelf.forwarders, htext, Option.getD_some]
  have hbetween : v'.text? p localServersName =
      if (Forwarders.merge (Forwarders.ofText t) own).changed = true then
        some (Forwarders.toText (Forwarders.merge (Forwarders.ofText t) own).lines)
      else some t := by
    rw [hv', text?_published_of_ne hne, Shelf.text?_revise_of_mem hp, hold, htext]
  rw [Shelf.text?_revise_of_mem hp', Shelf.forwarders, hbetween]
  by_cases hc : (Forwarders.merge (Forwarders.ofText t) own).changed = true
  · rw [if_pos hc, Option.getD_some, Forwarders.toText_remove_merge ht hown hnone, if_pos]
    obtain ⟨l, hl, -⟩ := Forwarders.changed_merge_iff.mp hc
    exact Forwarders.changed_remove_iff.mpr
      ⟨l, hl, Forwarders.mem_ofText_toText (Forwarders.mem_merge.mpr (.inr hl)) (hown l hl)⟩
  · rw [if_neg hc, Option.getD_some, if_neg]
    rw [Forwarders.changed_remove_iff]
    rintro ⟨l, hl, hthere⟩
    exact hnone l hl hthere

/-- **A withdrawal undoes an announcement.** The siblings' forwarders are what they were before
both, byte by byte, if they were in the form in which they are written and held none of the lines.
The network's own files are what the announcement has left.

**Proof sketch.** Each sibling had the lines merged into its file, and the withdrawal removes them
from what is read back. The two cancel in a file of that form
(`Forwarders.toText_remove_merge`). -/
theorem withdraw_undoes_publish {n domain : Text} {multi : Bool} {o h k l : Host}
    (hi : s.resolve n domain multi o = .ok i)
    (hown : ∀ l ∈ Forwarders.scopedLines i.domain servers, '\n' ∉ l ∧ l.getLast? ≠ some '\r')
    (hl : h.disk.Linkless s.rootDir base)
    (hcanonical : ∀ p, h.disk.HasNetwork base p → p ≠ i.network →
      ∃ t, h.disk.fileText base p localServersName = some t ∧ Forwarders.IsCanonical t ∧
        ∀ l ∈ Forwarders.scopedLines i.domain servers, l ∉ Forwarders.ofText t)
    (hpublish : publish s i servers h = (.ok (), k))
    (hwithdraw : withdraw s i servers k = (.ok (), l)) (ht : Host.Tame base h l) :
    (∀ p, h.disk.HasNetwork base p → p ≠ i.network →
        l.disk.fileText base p localServersName = h.disk.fileText base p localServersName) ∧
      ∀ f, f = ownServersName ∨ f = localServersName →
        l.disk.fileText base i.network f = k.disk.fileText base i.network f := by
  obtain ⟨hb, -⟩ := Settings.of_resolve_ok hi
  have hclean := isClean_of_scopedLines hown
  have hrec := records_publish s i servers h
  have hrec' := records_withdraw s i servers k
  rw [hpublish] at hrec
  rw [hwithdraw] at hrec'
  obtain ⟨ht₁, ht₂⟩ := (Host.Tame.split hrec hrec').mp ht
  obtain ⟨hl', names, known, ha, hk⟩ := shelf_publish hl hb hpublish ht₁
  obtain ⟨names', z, hsib, hbriefed, rfl⟩ := briefed_withdraw hl' hb hwithdraw ht₂
  have hz := hbriefed.shelf_eq
  refine ⟨fun p hp hne => ?_, fun f hf => ?_⟩
  · obtain ⟨t, htext, ht, hnone⟩ := hcanonical p hp hne
    have hnet : (h.disk.shelf base).isNetwork p = true := isNetwork_shelf_iff.mpr hp
    have hmem := (ha.siblings.mem_iff p).mpr ⟨hnet, hne⟩
    have hmem' := (hsib.mem_iff p).mpr ⟨by rw [hk, isNetwork_published, hnet], hne⟩
    change z.disk.fileText base p localServersName = _
    rw [htext]
    rw [← text?_shelf_eq (by decide)] at htext ⊢
    rw [hz]
    exact text?_revise_published hk ha hclean htext ht hnone hmem hmem'
  · have hpid : f ≠ pidName := by
      rcases hf with rfl | rfl <;> decide
    change z.disk.fileText base i.network f = _
    rw [← text?_shelf_eq hpid, ← text?_shelf_eq hpid, hz,
      Shelf.text?_revise_of_not_mem hsib.not_mem]

end Announcements

open Sample in
/-- Two siblings, of which one holds a line twice, get their files back.

**Proof sketch.** What the theorem asks of the runs is computed at once. The siblings are named
from the entries of the root, so that their files are known to be canonical. -/
theorem withdraw_undoes_publish_of_neighbours :
    (∀ p, (neighbours [daemon]).disk.HasNetwork base p → p ≠ "a".toList →
        (withdraw mesh.settings announcing addresses (publish mesh.settings announcing addresses
          (neighbours [daemon])).2).2.disk.fileText base p localServersName =
            (neighbours [daemon]).disk.fileText base p localServersName) ∧
      ∀ f, f = ownServersName ∨ f = localServersName →
        (withdraw mesh.settings announcing addresses (publish mesh.settings announcing addresses
          (neighbours [daemon])).2).2.disk.fileText base "a".toList f =
            (publish mesh.settings announcing addresses
              (neighbours [daemon])).2.disk.fileText base "a".toList f := by
  have hread : (((neighbours [daemon]).disk.find mesh.settings.rootDir).toOption.map Found.loc =
        some base ∧ (neighbours [daemon]).disk.isDirectory mesh.settings.rootDir = true) ∧
      (∀ x ∈ (neighbours [daemon]).disk.tree.entries, x.2.isLink = false) ∧
      (∀ x ∈ (neighbours [daemon]).disk.tree.children base,
        x.1 ∈ ["a".toList, "b".toList, "c".toList].map Name.text) ∧
      mesh.settings.resolve "a".toList "x".toList true (neighbours [daemon]) = .ok announcing ∧
      (∀ l ∈ Forwarders.scopedLines "x".toList addresses,
        '\n' ∉ l ∧ l.getLast? ≠ some '\r') ∧
      ((neighbours [daemon]).disk.fileText base "b".toList localServersName =
          some "server=/u/10.4.0.1\nserver=/u/10.4.0.1\n".toList ∧
        (neighbours [daemon]).disk.fileText base "c".toList localServersName =
          some "server=/y/10.2.0.1\n".toList) ∧
      (publish mesh.settings announcing addresses (neighbours [daemon])).1 = .ok () ∧
      (withdraw mesh.settings announcing addresses
        (publish mesh.settings announcing addresses (neighbours [daemon])).2).1 = .ok () ∧
      Host.Tame base (neighbours [daemon]) (withdraw mesh.settings announcing addresses
        (publish mesh.settings announcing addresses (neighbours [daemon])).2).2 := by
    decide +kernel
  obtain ⟨hfind, hno, hall, hi, hown, ⟨hb, hc⟩, hpublish, hwithdraw, ht⟩ := hread
  have hcanonical : ∀ p, (neighbours [daemon]).disk.HasNetwork base p → p ≠ announcing.network →
      ∃ t, (neighbours [daemon]).disk.fileText base p localServersName = some t ∧
        Forwarders.IsCanonical t ∧ ∀ l ∈ Forwarders.scopedLines announcing.domain addresses,
          l ∉ Forwarders.ofText t := by
    intro p hp hne
    have hform : ∀ ls : List Text, (∀ l ∈ ls, l ≠ [] ∧ '\n' ∉ l ∧ l.getLast? ≠ some '\r') →
        Forwarders.IsCanonical (Forwarders.toText ls) := fun ls hls =>
      Forwarders.isCanonical_toText fun l hl => ⟨(hls l hl).1, (hls l hl).2.1, (hls l hl).2.2⟩
    rcases List.mem_cons.mp (hp.mem_of_children hall) with rfl | hp
    · exact absurd rfl hne
    rcases List.mem_cons.mp hp with rfl | hp
    · exact ⟨_, hb, hform ["server=/u/10.4.0.1".toList, "server=/u/10.4.0.1".toList] (by decide),
        by decide +kernel⟩
    · obtain rfl := List.mem_singleton.mp hp
      exact ⟨_, hc, hform ["server=/y/10.2.0.1".toList] (by decide), by decide +kernel⟩
  generalize neighbours [daemon] = h at *
  exact withdraw_undoes_publish hi hown (.of_entries hfind hno) hcanonical
    (Prod.ext hpublish rfl) (Prod.ext hwithdraw rfl) ht

end Propagation

end ResolverMesh
