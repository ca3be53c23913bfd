import ResolverMesh.Proofs.ForwarderRoundTrip

set_option autoImplicit false
set_option relaxedAutoImplicit false

/-!
# Servers for everything in one file

Servers for everything are added to a file of forwarders as a set is added to a bag: a line that is
there stays as often as it stands, and one that is not gets one copy, in whatever order the servers
come and however often. An addition that lacks nothing leaves the file alone, be it in order or not,
and any other one writes all of it in order. So two additions may take different ways through a file
that is not in order, and still they end in the same bytes: once a line was lacking, the last way is
to write the same bag of lines.

## Main definitions

* `ResolverMesh.Forwarders.serving` — what a file holds once servers are added to it.
* `ResolverMesh.Forwarders.UnionLaws` — two additions, in both orders.

## Main results

* `ResolverMesh.Forwarders.count_merge` — how often a line stands in a merge.
* `ResolverMesh.Forwarders.serving_serving` — two additions are one.
* `ResolverMesh.Forwarders.unionLaws` — any two additions to any file whose lines end plainly.
-/

namespace ResolverMesh

namespace Forwarders

variable {a b current incoming ls servers : List Text} {content : Option Text} {h : Host} {p : Path}

/-! ## Lines -/

/-- **How often a line stands in a merge**: as before if it stood there, and once if it is new.

**Proof sketch.** The bounds of `count_merge_le` and of the beginning that is kept meet, as the
line is in the merge just if it was there or came in. -/
theorem count_merge (current incoming : List Text) (x : Text) :
    (merge current incoming).lines.count x =
      if x ∈ current then current.count x else if x ∈ incoming then 1 else 0 := by
  have hle := count_merge_le current incoming x
  have hge := (prefix_merge current incoming).sublist.count_le x
  have hmem : 0 < (merge current incoming).lines.count x ↔ x ∈ current ∨ x ∈ incoming :=
    List.count_pos_iff.trans mem_merge
  have hpos : 0 < current.count x ↔ x ∈ current := List.count_pos_iff
  split
  · next hc =>
    have hcount := hpos.mpr hc
    omega
  · next hc =>
    have hzero : current.count x = 0 := List.count_eq_zero_of_not_mem hc
    split
    · next hi =>
      have hcount := hmem.mpr (.inr hi)
      omega
    · next hi =>
      have hnone := mt hmem.mp (not_or.mpr ⟨hc, hi⟩)
      omega

/-- A merge of lines that are there leaves the lines as they are. -/
lemma lines_merge_of_names (hall : ∀ l ∈ incoming, l ∈ current) :
    (merge current incoming).lines = current := by
  refine lines_merge_of_unchanged ?_
  rw [← Bool.not_eq_true, changed_merge_iff]
  rintro ⟨l, hl, hno⟩
  exact hno (hall l hl)

/-- A merge rearranged is the same file. -/
lemma toText_merge_congr {current' incoming' : List Text}
    (hcount : ∀ x, (merge current incoming).lines.count x =
      (merge current' incoming').lines.count x) :
    toText (merge current incoming).lines = toText (merge current' incoming').lines := by
  rw [toText, Text.sorted_eq_of_perm (List.perm_iff_count.mpr hcount), toText]

/-- The lines of two lists of servers, one after the other. -/
lemma plainLines_append (a b : List Text) : plainLines (a ++ b) = plainLines a ++ plainLines b :=
  List.map_append

/-! ## What the file holds -/

/-- The lines of a file that may be missing. -/
def linesOf (content : Option Text) : List Text :=
  ofText (content.getD [])

/-- A file names all servers already. -/
def Names (content : Option Text) (servers : List Text) : Prop :=
  ∀ l ∈ plainLines servers, l ∈ linesOf content

instance (content : Option Text) (servers : List Text) : Decidable (Names content servers) :=
  inferInstanceAs (Decidable (∀ l ∈ plainLines servers, l ∈ linesOf content))

/-- What a file holds once servers for everything are added to it. -/
def serving (content : Option Text) (servers : List Text) : Option Text :=
  if Names content servers then content
  else some (toText (merge (linesOf content) (plainLines servers)).lines)

/-- No line of a file ends in a carriage return once its own ending is taken off: such lines are
read back if they are written again. -/
def EndsPlainly (content : Option Text) : Prop :=
  ∀ l ∈ linesOf content, l.getLast? ≠ some '\r'

/-- A file names all of two lists just if it names all of each. -/
lemma names_append_iff : Names content (a ++ b) ↔ Names content a ∧ Names content b := by
  unfold Names
  rw [plainLines_append, List.forall_mem_append]

/-- The lines of a file that ends plainly are clean. -/
lemma EndsPlainly.isClean (hc : EndsPlainly content) : ∀ l ∈ linesOf content, IsClean l :=
  fun l hl => isClean_of_mem_ofText hl (hc l hl)

/-- Servers that are one line each. -/
def ArePlain (servers : List Text) : Prop :=
  ∀ s ∈ servers, '\n' ∉ s ∧ s.getLast? ≠ some '\r'

/-- So are those of plain servers. -/
lemma ArePlain.isClean (hs : ArePlain servers) : ∀ l ∈ plainLines servers, IsClean l := by
  intro l hl
  obtain ⟨s, hs', rfl⟩ := List.mem_map.mp hl
  exact isClean_plainLine (hs s hs').1 (hs s hs').2

/-- Two lists of plain servers make one. -/
lemma ArePlain.append (ha : ArePlain a) (hb : ArePlain b) : ArePlain (a ++ b) :=
  List.forall_mem_append.mpr ⟨ha, hb⟩

/-- The lines of a file that clean lines were written to are those, in order. -/
lemma linesOf_toText (hclean : ∀ l ∈ ls, IsClean l) :
    linesOf (some (toText ls)) = Text.sorted ls :=
  ofText_toText hclean

/-- The lines once servers are added are those of the merge. -/
lemma linesOf_serving_perm (hc : EndsPlainly content) (hs : ArePlain servers) :
    (linesOf (serving content servers)).Perm
      (merge (linesOf content) (plainLines servers)).lines := by
  unfold serving
  split
  · next hall => rw [lines_merge_of_names hall]
  · rw [linesOf_toText (isClean_merge hc.isClean hs.isClean)]
    exact Text.sorted_perm _

/-- A file that serves has its own lines and those of the servers. -/
lemma mem_linesOf_serving (hc : EndsPlainly content) (hs : ArePlain servers) {x : Text} :
    x ∈ linesOf (serving content servers) ↔ x ∈ linesOf content ∨ x ∈ plainLines servers := by
  rw [(linesOf_serving_perm hc hs).mem_iff, mem_merge]

/-- An addition to a file that lines were written to writes the merge, be it new or not.

**Proof sketch.** If nothing is new, the merge is the lines that there were. If something is, the
file is read back in order, and a merge with the same lines in another order writes the same text.
-/
lemma serving_toText (hclean : ∀ l ∈ ls, IsClean l) (servers : List Text) :
    serving (some (toText ls)) servers =
      some (toText (merge ls (plainLines servers)).lines) := by
  have hlines : linesOf (some (toText ls)) = Text.sorted ls := linesOf_toText hclean
  by_cases hall : Names (some (toText ls)) servers
  · have hsame : (merge ls (plainLines servers)).lines = ls := by
      refine lines_merge_of_names fun l hl => Text.mem_sorted.mp ?_
      rw [← hlines]
      exact hall l hl
    rw [serving, if_pos hall, hsame]
  · rw [serving, if_neg hall, hlines]
    refine congrArg some (toText_merge_congr fun x => ?_)
    simp only [count_merge, Text.mem_sorted, (Text.sorted_perm ls).count_eq]

/-- **Two additions are one**, of both lists of servers.

**Proof sketch.** If the first one lacks nothing, the second one decides. If it lacks a line, then
the file is in order from then on, and what the second one writes is the merge even if nothing is
new to it; a line stands in it as often as in the merge of both lists. -/
theorem serving_serving (hc : EndsPlainly content) (ha : ArePlain a) (b : List Text) :
    serving (serving content a) b = serving content (a ++ b) := by
  by_cases hall : Names content a
  · have hfirst : serving content a = content := if_pos hall
    have hboth : Names content (a ++ b) ↔ Names content b := by
      rw [names_append_iff, and_iff_right hall]
    rw [hfirst]
    by_cases hb : Names content b
    · rw [serving, if_pos hb, serving, if_pos (hboth.mpr hb)]
    · rw [serving, if_neg hb, serving, if_neg (mt hboth.mp hb)]
      refine congrArg some (toText_merge_congr fun x => ?_)
      have hx : x ∈ plainLines a → x ∈ linesOf content := hall x
      simp only [count_merge, plainLines_append, List.mem_append]
      by_cases hxc : x ∈ linesOf content
      · simp [hxc]
      · simp [hxc, mt hx hxc]
  · have hfirst : serving content a =
        some (toText (merge (linesOf content) (plainLines a)).lines) := if_neg hall
    have hboth : serving content (a ++ b) =
        some (toText (merge (linesOf content) (plainLines (a ++ b))).lines) :=
      if_neg fun hab => hall (names_append_iff.mp hab).1
    rw [hfirst, hboth, serving_toText (isClean_merge hc.isClean ha.isClean)]
    refine congrArg some (toText_merge_congr fun x => ?_)
    simp only [count_merge, mem_merge, plainLines_append, List.mem_append]
    by_cases hx : x ∈ linesOf content <;> by_cases hxa : x ∈ plainLines a <;> simp [hx, hxa]

/-- **The order of two additions** does not matter.

**Proof sketch.** Two additions are one addition of both lists. Whether that changes anything does
not depend on the order, nor does how often a line stands in the merge, and the file is sorted. -/
theorem serving_comm (hc : EndsPlainly content) (ha : ArePlain a) (hb : ArePlain b) :
    serving (serving content a) b = serving (serving content b) a := by
  have hswap : Names content (a ++ b) ↔ Names content (b ++ a) := by
    rw [names_append_iff, names_append_iff, and_comm]
  rw [serving_serving hc ha, serving_serving hc hb]
  by_cases hall : Names content (a ++ b)
  · rw [serving, if_pos hall, serving, if_pos (hswap.mp hall)]
  · rw [serving, if_neg hall, serving, if_neg (mt hswap.mpr hall)]
    refine congrArg some (toText_merge_congr fun x => ?_)
    simp only [count_merge, plainLines_append, List.mem_append, or_comm]

/-! ## The file on the disk -/

/-- An addition writes just what is new.

**Proof sketch.** A merge changes the lines just if the file does not name all of the servers. -/
lemma addPlain_eq (hread : Files.readIfThere p h = .ok content) (servers : List Text) :
    addPlain p servers h = if Names content servers then (.ok (), h)
      else writeLines p (merge (linesOf content) (plainLines servers)).lines h := by
  have hchanged : (merge (linesOf content) (plainLines servers)).changed = true ↔
      ¬ Names content servers := by
    rw [changed_merge_iff]
    simp [Names]
  unfold addPlain
  rw [Action.run_bind, Action.run_lift, readLines_of_readIfThere hread]
  dsimp only
  rw [← linesOf]
  by_cases hall : Names content servers
  · rw [if_neg (by simpa [hchanged] using hall), if_pos hall, Action.run_pure]
  · rw [if_pos (hchanged.mpr hall), if_neg hall]

/-- An addition that lacks nothing changes nothing. -/
lemma addPlain_of_names (hread : Files.readIfThere p h = .ok content)
    (hall : Names content servers) : addPlain p servers h = (.ok (), h) := by
  rw [addPlain_eq hread, if_pos hall]

/-- An addition at a path that takes a text succeeds. -/
lemma addPlain_of_isWritable (hw : h.disk.IsWritable p)
    (hread : Files.readIfThere p h = .ok content) (servers : List Text) :
    ∃ k, addPlain p servers h = (.ok (), k) ∧
      Files.readIfThere p k = .ok (serving content servers) ∧ k.disk.IsWritable p := by
  rw [addPlain_eq hread]
  unfold serving
  split
  · exact ⟨h, rfl, hread, hw⟩
  · exact writeLines_of_isWritable hw _

/-- An addition at a path that takes no text changes nothing. -/
lemma addPlain_of_not_isWritable (hw : ¬ h.disk.IsWritable p)
    (hread : Files.readIfThere p h = .ok content) (servers : List Text) :
    (addPlain p servers h).2 = h := by
  obtain ⟨e, he⟩ := Files.write_of_not_isWritable hw
  rw [addPlain_eq hread]
  split
  · rfl
  · rw [writeLines, he]

/-- The host after two additions at a path, the second one made even if the first one fails. -/
def afterBoth (p : Path) (a b : List Text) (h : Host) : Host :=
  (addPlain p b (addPlain p a h).2).2

/-- What two additions of servers `a` and `b` at a path make of a file with the given content, the
lines of which are `after` in the end. -/
structure UnionLaws (p : Path) (a b : List Text) (content : Option Text) (after : List Text)
    (h : Host) : Prop where
  /-- In both orders they leave the same file. -/
  alike : Files.readIfThere p (afterBoth p a b h) = Files.readIfThere p (afterBoth p b a h)
  /-- The file has the lines. -/
  reads : readLines p (afterBoth p a b h) = .ok after
  /-- A line that was there stands as often as before. -/
  kept : ∀ l ∈ linesOf content, after.count l = (linesOf content).count l
  /-- A line that was not there is a server's, and stands once. -/
  fresh : ∀ l ∈ after, l ∉ linesOf content → l ∈ plainLines (a ++ b) ∧ after.count l = 1
  /-- An addition that is repeated changes nothing. -/
  again : ∀ servers, servers = a ∨ servers = b →
    (addPlain p servers (afterBoth p a b h)).2 = afterBoth p a b h
  /-- Nor does one that lacks nothing at first. -/
  idle : ∀ servers, Names content servers → addPlain p servers h = (.ok (), h)
  /-- If the path takes a text, all of them succeed, and every server is there. -/
  succeeds : h.disk.IsWritable p →
    (addPlain p a h).1 = .ok () ∧ (addPlain p b (addPlain p a h).2).1 = .ok () ∧
      (∀ servers, servers = a ∨ servers = b →
        (addPlain p servers (afterBoth p a b h)).1 = .ok ()) ∧
      ∀ l ∈ plainLines (a ++ b), l ∈ after

/-- **Servers for everything are added as a set to a bag**: for any file that is read, or missing,
and any two lists of servers, if all lines end plainly.

**Proof sketch.** At a path that takes a text, two additions are one by `serving_serving`, and the
lines are those of a merge. At any other path no addition changes anything. -/
theorem unionLaws (hread : Files.readIfThere p h = .ok content) (hc : EndsPlainly content)
    (ha : ArePlain a) (hb : ArePlain b) : ∃ after, UnionLaws p a b content after h := by
  have hidle : ∀ servers, Names content servers → addPlain p servers h = (.ok (), h) :=
    fun servers => addPlain_of_names hread
  by_cases hw : h.disk.IsWritable p
  · obtain ⟨k, hk, hreadk, hwk⟩ := addPlain_of_isWritable hw hread a
    obtain ⟨x, hx, hreadx, -⟩ := addPlain_of_isWritable hwk hreadk b
    obtain ⟨l, hl, hreadl, hwl⟩ := addPlain_of_isWritable hw hread b
    obtain ⟨y, hy, hready, -⟩ := addPlain_of_isWritable hwl hreadl a
    have hxy : afterBoth p a b h = x ∧ afterBoth p b a h = y := by
      simp only [afterBoth, hk, hx, hl, hy, and_self]
    have hab : ArePlain (a ++ b) := ha.append hb
    have hperm := linesOf_serving_perm hc hab
    have hagain : ∀ servers, servers = a ∨ servers = b → addPlain p servers x = (.ok (), x) := by
      refine fun servers hs => addPlain_of_names hreadx fun m hm => ?_
      rw [serving_serving hc ha, mem_linesOf_serving hc hab, plainLines_append, List.mem_append]
      rcases hs with rfl | rfl
      · exact .inr (.inl hm)
      · exact .inr (.inr hm)
    refine ⟨linesOf (serving content (a ++ b)), ?_, ?_, fun m hm => ?_, fun m hm hno => ?_,
      fun servers hs => by rw [hxy.1, hagain servers hs], hidle, fun _ => ⟨by rw [hk],
        by rw [hk, hx], fun servers hs => by rw [hxy.1, hagain servers hs], fun m hm => ?_⟩⟩
    · rw [hxy.1, hxy.2, hreadx, hready, serving_comm hc ha hb]
    · rw [hxy.1, ← serving_serving hc ha]
      exact readLines_of_readIfThere hreadx
    · rw [hperm.count_eq, count_merge, if_pos hm]
    · have hnew := ((mem_linesOf_serving hc hab).mp hm).resolve_left hno
      refine ⟨hnew, ?_⟩
      rw [hperm.count_eq, count_merge, if_neg hno, if_pos hnew]
    · exact (mem_linesOf_serving hc hab).mpr (.inr hm)
  · have hnone : ∀ servers, (addPlain p servers h).2 = h :=
      addPlain_of_not_isWritable hw hread
    have hboth : ∀ c d, afterBoth p c d h = h := fun c d => by
      rw [afterBoth, hnone c, hnone d]
    refine ⟨linesOf content, by rw [hboth, hboth], ?_, fun _ _ => rfl,
      fun m hm hno => absurd hm hno, fun servers _ => ?_, hidle, fun hyes => absurd hyes hw⟩
    · rw [hboth]
      exact readLines_of_readIfThere hread
    · rw [hboth, hnone]

end Forwarders

namespace Sample

/-- A file of forwarders that is not in order, with a blank line and a line that stands twice. -/
def unsorted : Text := "server=9\n\nserver=1\nserver=9".toList

/-- The path of a file of forwarders. -/
def forwarders : Path := ⟨"/root/forwarders".toList⟩

/-- A host with that file. -/
def listing : Host := (Files.write forwarders unsorted (host [])).2

end Sample

namespace Forwarders

open Sample in
/-- A file with two lines that are not in order, one of which is added again.

**Proof sketch.** The conditions of the laws are computed for this file. -/
theorem unionLaws_of_unsorted : listing.disk.IsWritable forwarders ∧ ∃ after,
    UnionLaws forwarders ["1".toList, "8".toList] ["2".toList, "8".toList] (some unsorted) after
      listing := by
  have hfile : (listing.disk.openSpot forwarders).toOption.map Spot.takesFile = some true ∧
      Files.readIfThere forwarders listing = .ok (some unsorted) := by decide +kernel
  obtain ⟨hopen, hread⟩ := hfile
  refine ⟨Disk.isWritable_of_takesFile hopen, unionLaws hread ?_ ?_ ?_⟩
  · unfold EndsPlainly
    decide +kernel
  · unfold ArePlain
    decide
  · unfold ArePlain
    decide

end Forwarders

end ResolverMesh
