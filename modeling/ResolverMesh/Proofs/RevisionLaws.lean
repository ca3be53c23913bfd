import ResolverMesh.Proofs.DefaultServerFiles

set_option autoImplicit false
set_option relaxedAutoImplicit false

/-!
# The laws of merging and removing lines

Lists of forwarder lines are merged and removed by folds that look a line up in the list which they
are building. So a line that is repeated in the list to be merged, or stands in both lists, is
treated by what has been done before it is reached. This module says what comes of it in terms of
the two lists alone: which lines a merge adds and in which order, which copies of a line a removal
takes away, when the two undo one another, and that the order of two merges matters to the order of
the lines only.

## Main definitions

* `ResolverMesh.Forwarders.survivors` — the lines of a list less the first copies of others.
* `ResolverMesh.Forwarders.RevisionLaws` — what holds of a merge and a removal.

## Main results

* `ResolverMesh.Forwarders.exists_lines_merge` — the lines that a merge adds, in order.
* `ResolverMesh.Forwarders.lines_remove` — the copies that a removal leaves.
* `ResolverMesh.Forwarders.lines_remove_merge_iff` — when a removal undoes a merge.
* `ResolverMesh.Forwarders.revisionLaws` — any two lists.
-/

namespace ResolverMesh

namespace Forwarders

variable (current incoming outgoing : List Text)

/-! ## Merging -/

/-- Other lines come first in the same order behind one more line. -/
lemma pairwise_idxOf_cons {line : Text} {rest new : List Text} (hother : ∀ l ∈ new, line ≠ l)
    (h : new.Pairwise fun x y => rest.idxOf x < rest.idxOf y) :
    new.Pairwise fun x y => (line :: rest).idxOf x < (line :: rest).idxOf y := by
  refine h.imp_of_mem fun {x y} hx hy hlt => ?_
  rw [List.idxOf_cons_ne _ (hother x hx), List.idxOf_cons_ne _ (hother y hy)]
  exact Nat.succ_lt_succ hlt

/-- **The lines that a merge adds**: those that were lacking, in the order in which they come first,
hence once each.

**Proof sketch.** By induction on the lines to be merged, for any list they are merged into. A line
that is there adds nothing, and the lines added later are other ones, so they come first where they
came first without it. A line that is lacking is added at once, and it comes before all others. -/
theorem exists_lines_merge : ∃ new, (merge current incoming).lines = current ++ new ∧
    (∀ l, l ∈ new ↔ l ∈ incoming ∧ l ∉ current) ∧
    new.Pairwise fun x y => incoming.idxOf x < incoming.idxOf y := by
  have key : ∀ r : Revision, ∃ new, (incoming.foldl Revision.insert r).lines = r.lines ++ new ∧
      (∀ l, l ∈ new ↔ l ∈ incoming ∧ l ∉ r.lines) ∧
      new.Pairwise fun x y => incoming.idxOf x < incoming.idxOf y := by
    induction incoming with
    | nil => exact fun r => ⟨[], by simp⟩
    | cons line rest ih =>
      intro r
      obtain ⟨new, hlines, hmem, hord⟩ := ih (r.insert line)
      have hother : ∀ l ∈ new, line ≠ l := by
        rintro l hl rfl
        exact ((hmem _).mp hl).2 (Revision.mem_insert.mpr (.inr rfl))
      have hshift := pairwise_idxOf_cons hother hord
      rw [List.foldl_cons, hlines]
      by_cases hthere : line ∈ r.lines
      · have hsame : r.insert line = r := if_pos (by simpa using hthere)
        rw [hsame] at hmem ⊢
        refine ⟨new, rfl, fun l => ?_, hshift⟩
        rw [hmem, List.mem_cons]
        refine ⟨fun h => ⟨.inr h.1, h.2⟩, fun h => ⟨h.1.resolve_left ?_, h.2⟩⟩
        rintro rfl
        exact h.2 hthere
      · have hadd : (r.insert line).lines = r.lines ++ [line] := by
          unfold Revision.insert
          rw [if_neg (by simpa using hthere)]
        refine ⟨line :: new, by rw [hadd, ← List.append_cons], fun l => ?_,
          List.pairwise_cons.mpr ⟨fun l hl => ?_, hshift⟩⟩
        · rw [List.mem_cons, hmem, hadd, List.mem_append, List.mem_singleton, List.mem_cons]
          by_cases he : l = line
          · simp [he, hthere]
          · simp [he]
        · rw [List.idxOf_cons_self, List.idxOf_cons_ne _ (hother l hl)]
          exact Nat.succ_pos _
  exact key ⟨current, false⟩

/-- A merge says whether the lines are others than before. -/
lemma changed_merge_iff_ne : (merge current incoming).changed = true ↔
    (merge current incoming).lines ≠ current := by
  refine ⟨fun h heq => ?_, fun hne => ?_⟩
  · obtain ⟨l, hl, hno⟩ := changed_merge_iff.mp h
    exact hno (heq ▸ mem_merge.mpr (.inr hl))
  · by_contra h
    exact hne (lines_merge_of_unchanged (Bool.not_eq_true _ ▸ h))

/-- A merge of lines that are there is the list itself. -/
lemma merge_of_forall_mem (h : ∀ l ∈ incoming, l ∈ current) :
    merge current incoming = ⟨current, false⟩ := by
  have hlines := lines_merge_of_names h
  have hsame : (merge current incoming).changed = false := by
    rw [← Bool.not_eq_true, changed_merge_iff_ne]
    exact not_not_intro hlines
  calc merge current incoming
      = ⟨(merge current incoming).lines, (merge current incoming).changed⟩ := rfl
    _ = ⟨current, false⟩ := by rw [hlines, hsame]

/-- Two merges hold each line as often as they do in the other order. -/
lemma merge_merge_perm (a b : List Text) : (merge (merge current a).lines b).lines.Perm
    (merge (merge current b).lines a).lines := by
  refine List.perm_iff_count.mpr fun x => ?_
  simp only [count_merge, mem_merge]
  by_cases hc : x ∈ current
  · simp [hc]
  · simp only [hc, false_or, if_false]
    split_ifs <;> rfl

/-! ## Removing -/

/-- The lines of a list less the first copies of each line, one for each of its copies in another
list: a copy stays if as many copies as are to be removed stand before it. -/
def survivors : List Text :=
  (current.zipIdx.filter fun p => outgoing.count p.1 ≤ (current.take p.2).count p.1).map Prod.fst

/-- What survives of the lines behind a first one: it takes the place of one copy. -/
lemma map_filter_zipIdx_cons (line : Text) (rest : List Text) :
    (((rest.zipIdx 1).filter fun p =>
      outgoing.count p.1 ≤ ((line :: rest).take p.2).count p.1).map Prod.fst) =
      survivors rest (outgoing.erase line) := by
  unfold survivors
  rw [List.zipIdx_succ, List.filter_map, List.map_map]
  refine congrArg (List.map Prod.fst) (List.filter_congr fun ⟨x, k⟩ _ => decide_eq_decide.mpr ?_)
  change outgoing.count x ≤ ((line :: rest).take (k + 1)).count x ↔
    (outgoing.erase line).count x ≤ (rest.take k).count x
  rw [List.take_succ_cons, List.count_cons, List.count_erase]
  omega

/-- The survivors of a list with a first line. -/
lemma survivors_cons (line : Text) (rest : List Text) : survivors (line :: rest) outgoing =
    if line ∈ outgoing then survivors rest (outgoing.erase line)
    else line :: survivors rest outgoing := by
  have hfirst : (outgoing.count line ≤ ((line :: rest).take 0).count line) ↔ line ∉ outgoing := by
    rw [List.take_zero, List.count_nil, Nat.le_zero, List.count_eq_zero]
  rw [survivors, List.zipIdx_cons, List.filter_cons]
  simp only [decide_eq_true_eq, hfirst]
  by_cases hin : line ∈ outgoing
  · rw [if_neg (not_not_intro hin), if_pos hin]
    exact map_filter_zipIdx_cons outgoing line rest
  · rw [if_pos hin, if_neg hin, List.map_cons, map_filter_zipIdx_cons, List.erase_of_not_mem hin]

/-- **The copies that a removal leaves** are all but the first ones.

**Proof sketch.** A removal takes one first copy away after the other, which is the difference of
the two lists. By induction on the list: its first line is taken away just if it is to be removed,
and then it stands for one of the copies. -/
theorem lines_remove : (remove current outgoing).lines = survivors current outgoing := by
  have hdiff : (remove current outgoing).lines = current.diff outgoing := by
    have key : ∀ r : Revision, (outgoing.foldl Revision.erase r).lines =
        outgoing.foldl List.erase r.lines := by
      induction outgoing with
      | nil => exact fun _ => rfl
      | cons line rest ih =>
        intro r
        rw [List.foldl_cons, ih, Revision.lines_erase, List.foldl_cons]
    rw [List.diff_eq_foldl]
    exact key ⟨current, false⟩
  rw [hdiff]
  clear hdiff
  induction current generalizing outgoing with
  | nil => rw [List.nil_diff]; rfl
  | cons line rest ih => rw [List.cons_diff, survivors_cons, ih, ih]

example : (remove [['a'], ['b'], ['a'], ['c'], ['a']] [['a'], ['a'], ['d']]).lines =
    [['b'], ['c'], ['a']] := by decide

/-- A removal says whether the lines are others than before. -/
lemma changed_remove_iff_ne : (remove current outgoing).changed = true ↔
    (remove current outgoing).lines ≠ current := by
  refine ⟨fun h heq => ?_, fun hne => ?_⟩
  · exact Nat.lt_irrefl _ ((congrArg List.length heq) ▸ length_remove_lt h)
  · by_contra h
    exact hne (lines_remove_of_unchanged (Bool.not_eq_true _ ▸ h))

/-! ## Merging and removing -/

/-- Lines merged into others that they have nothing in common with are taken away again.

**Proof sketch.** Each line that the merge has added stands once, so its one copy is taken away.
What is left is a part of the old lines, and each of these stands in it as often as before. -/
lemma lines_remove_merge (hnone : ∀ l ∈ incoming, l ∉ current) :
    (remove (merge current incoming).lines incoming).lines = current := by
  obtain ⟨new, hlines, hnew, -⟩ := exists_lines_merge current incoming
  have hcount : ∀ x, (remove (merge current incoming).lines incoming).lines.count x =
      current.count x := by
    intro x
    rw [count_remove, count_merge]
    by_cases hin : x ∈ incoming
    · rw [if_neg (hnone x hin), if_pos hin, List.count_eq_zero_of_not_mem (hnone x hin)]
      exact Nat.sub_eq_zero_of_le (List.count_pos_iff.mpr hin)
    · rw [List.count_eq_zero_of_not_mem hin, Nat.sub_zero, if_neg hin, ite_eq_left_iff]
      exact fun hc => (List.count_eq_zero_of_not_mem hc).symm
  have hkept : ∀ x ∈ (remove (merge current incoming).lines incoming).lines, x ∉ incoming := by
    intro x hx hin
    rw [← List.count_pos_iff, hcount, List.count_pos_iff] at hx
    exact hnone x hin hx
  have hold : (merge current incoming).lines.filter (· ∉ incoming) = current := by
    rw [hlines, List.filter_append, List.filter_eq_self.mpr, List.filter_eq_nil_iff.mpr,
      List.append_nil]
    · exact fun l hl => by simpa using ((hnew l).mp hl).1
    · exact fun l hl => decide_eq_true fun hin => hnone l hin hl
  have hsub := (remove_sublist (merge current incoming).lines incoming).filter (· ∉ incoming)
  rw [hold, List.filter_eq_self.mpr fun x hx => decide_eq_true (hkept x hx)] at hsub
  exact hsub.eq_of_length (List.perm_iff_count.mpr hcount).length_eq

/-- **A removal undoes a merge** just if the two lists share no line: one that they share loses a
copy that stood before the merge.

**Proof sketch.** A line that both lists hold is not added by the merge, but a copy of it is
removed, so there is one less than before. -/
theorem lines_remove_merge_iff :
    (remove (merge current incoming).lines incoming).lines = current ↔
      ∀ l ∈ incoming, l ∉ current := by
  refine ⟨fun heq l hl hc => ?_, lines_remove_merge current incoming⟩
  have hless : (remove (merge current incoming).lines incoming).lines.count l =
      (merge current incoming).lines.count l - incoming.count l := count_remove _ _ l
  have hpos : 0 < incoming.count l := List.count_pos_iff.mpr hl
  have hthere : 0 < current.count l := List.count_pos_iff.mpr hc
  rw [heq, count_merge, if_pos hc] at hless
  omega

/-- What holds of a merge and a removal. -/
structure RevisionLaws : Prop where
  /-- A merge puts the lines that were lacking behind the others, each once, in the order in which
  they come first. -/
  merged : ∃ new, (merge current incoming).lines = current ++ new ∧
    (∀ l, l ∈ new ↔ l ∈ incoming ∧ l ∉ current) ∧
    new.Pairwise fun x y => incoming.idxOf x < incoming.idxOf y
  /-- It says whether the lines are others than before. -/
  merge_changed : (merge current incoming).changed = true ↔
    (merge current incoming).lines ≠ current
  /-- Merging again changes nothing. -/
  merged_again : merge (merge current incoming).lines incoming =
    ⟨(merge current incoming).lines, false⟩
  /-- A removal leaves a part of the lines in their order. -/
  sublist : (remove current incoming).lines.Sublist current
  /-- It takes away a copy for each copy to be removed, as long as there are any. -/
  count : ∀ x, (remove current incoming).lines.count x = current.count x - incoming.count x
  /-- The copies that it takes away are the first ones. -/
  removed : (remove current incoming).lines = survivors current incoming
  /-- It says whether the lines are others than before. -/
  remove_changed : (remove current incoming).changed = true ↔
    (remove current incoming).lines ≠ current
  /-- A removal undoes a merge just if no line was there before. -/
  undone : (remove (merge current incoming).lines incoming).lines = current ↔
    ∀ l ∈ incoming, l ∉ current
  /-- Two merges hold the same lines, each as often, in either order. -/
  reordered : ∀ other, (merge (merge current incoming).lines other).lines.Perm
    (merge (merge current other).lines incoming).lines

/-- **The laws of merging and removing** hold of any two lists, with whatever repeats.

**Proof sketch.** Each law is a lemma above: the order of what is added is told by first positions,
that of what stays by `survivors`, and all that concerns multiplicity by counting. -/
theorem revisionLaws : RevisionLaws current incoming where
  merged := exists_lines_merge current incoming
  merge_changed := changed_merge_iff_ne current incoming
  merged_again := merge_of_forall_mem _ _ fun _ hl => mem_merge.mpr (.inr hl)
  sublist := remove_sublist current incoming
  count := count_remove current incoming
  removed := lines_remove current incoming
  remove_changed := changed_remove_iff_ne current incoming
  undone := lines_remove_merge_iff current incoming
  reordered := merge_merge_perm current incoming

end Forwarders

end ResolverMesh
