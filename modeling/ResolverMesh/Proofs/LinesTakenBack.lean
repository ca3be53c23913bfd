import ResolverMesh.HostsFile
import ResolverMesh.Proofs.ForwarderLines

set_option autoImplicit false
set_option relaxedAutoImplicit false

/-!
# Lines taken back

What an attachment adds to the files of others and to the hosts file of its own network is taken
back exactly. Forwarders that were merged into a file and removed again leave the file as it was,
byte by byte, if it was in the form in which such files are written and held none of them before.
A hosts file that only one pod was entered into holds no line once that pod is taken out.

## Main definitions

* `ResolverMesh.Forwarders.IsCanonical` — the form in which files of forwarders are written.
* `ResolverMesh.HostsFile.EndsLine` — a text whose last line is ended.
* `ResolverMesh.HostsFile.IsOnlyOf` — a hosts file holds lines of one pod only.

## Main results

* `ResolverMesh.Forwarders.toText_remove_merge` — forwarders merged and removed again.
* `ResolverMesh.HostsFile.without_append` — a pod taken out of a text that was added to.
* `ResolverMesh.HostsFile.isOnlyOf_entry` — the lines that a pod is entered with are its own.
* `ResolverMesh.HostsFile.IsOnlyOf.without_eq_nil` — such a file without the pod.
-/

namespace ResolverMesh

/-! ## Forwarders -/

/-- Lists of the same lines are the same in dictionary order. -/
lemma Text.sorted_eq_of_perm {as bs : List Text} (h : as.Perm bs) : sorted as = sorted bs :=
  List.Perm.eq_of_pairwise (fun _ _ _ _ h₁ h₂ => le_antisymm h₁ h₂) (pairwise_sorted as)
    (pairwise_sorted bs) (((sorted_perm as).trans h).trans (sorted_perm bs).symm)

namespace Forwarders

/-- A text is a file of forwarders as it is written: clean lines in dictionary order, each ended
by a line feed. -/
def IsCanonical (t : Text) : Prop :=
  ∃ ls, t = Text.unlines ls ∧ ls.Pairwise (fun l m => Text.le l m = true) ∧ ∀ l ∈ ls, IsClean l

section Canonical

variable {t : Text} {current incoming own : List Text}

/-- A canonical file is written as it was from the lines that are read from it. -/
lemma IsCanonical.toText_ofText (ht : IsCanonical t) :
    toText (ofText t) = t ∧ ∀ l ∈ ofText t, IsClean l := by
  obtain ⟨ls, rfl, hsorted, hclean⟩ := ht
  have htext : Text.unlines ls = toText ls := by rw [toText, Text.sorted_of_pairwise hsorted]
  rw [htext, ofText_toText hclean, Text.sorted_of_pairwise hsorted]
  exact ⟨rfl, hclean⟩

/-- Clean lines are written in a canonical form. -/
lemma isCanonical_toText {ls : List Text} (h : ∀ l ∈ ls, IsClean l) : IsCanonical (toText ls) :=
  ⟨Text.sorted ls, rfl, Text.pairwise_sorted ls, fun l hl => h l (Text.mem_sorted.mp hl)⟩

/-- What is merged from clean lines is clean. -/
lemma isClean_merge (hcurrent : ∀ l ∈ current, IsClean l) (hincoming : ∀ l ∈ incoming, IsClean l) :
    ∀ l ∈ (merge current incoming).lines, IsClean l :=
  fun l hl => (mem_merge.mp hl).elim (hcurrent l) (hincoming l)

/-- A line that is not merged in stands as often as before.

**Proof sketch.** Induction on the lines that come in, none of which is the one that is counted. -/
lemma count_merge_of_not_mem {x : Text} (hx : x ∉ incoming) :
    (merge current incoming).lines.count x = current.count x := by
  unfold merge
  have key : ∀ r : Revision, (incoming.foldl Revision.insert r).lines.count x =
      r.lines.count x := by
    induction incoming with
    | nil => exact fun _ => rfl
    | cons line rest ih =>
      intro r
      have hline : x ≠ line := fun he => hx (by simp [he])
      have hinsert : (r.insert line).lines.count x = r.lines.count x := by
        unfold Revision.insert
        split
        · rfl
        · rw [List.count_append, List.count_singleton, if_neg (by simpa using Ne.symm hline),
            Nat.add_zero]
      rw [List.foldl_cons, ih (fun hm => hx (by simp [hm])), hinsert]
  exact key _

/-- **Lines merged and removed again**, of which none was there: the others are left, in whatever
order they are in between.

**Proof sketch.** Count each line. One that was merged in is there once and is removed at least
once. Any other is not concerned by either. -/
theorem remove_merge_perm (hnone : ∀ l ∈ own, l ∉ current) {between : List Text}
    (hbetween : between.Perm (merge current own).lines) :
    (remove between own).lines.Perm current := by
  refine List.perm_iff_count.mpr fun x => ?_
  rw [count_remove, hbetween.count_eq]
  by_cases hx : x ∈ own
  · -- it was not there, and is there at most once after the merge
    have hzero : current.count x = 0 := List.count_eq_zero_of_not_mem (hnone x hx)
    have hmerged := count_merge_le current own x
    have hown : 0 < own.count x := List.count_pos_iff.mpr hx
    omega
  · rw [count_merge_of_not_mem hx, List.count_eq_zero_of_not_mem hx, Nat.sub_zero]

/-- **Forwarders merged into a canonical file and removed again** leave it as it was.

**Proof sketch.** Between the two, the lines are sorted, which `remove_merge_perm` allows for. What
is left are the lines of the canonical file in some order, and it is written sorted. -/
theorem toText_remove_merge (ht : IsCanonical t) (hown : ∀ l ∈ own, IsClean l)
    (hnone : ∀ l ∈ own, l ∉ ofText t) :
    toText (remove (ofText (toText (merge (ofText t) own).lines)) own).lines = t := by
  obtain ⟨htext, hclean⟩ := ht.toText_ofText
  have hmerged := isClean_merge hclean hown
  have hperm := remove_merge_perm hnone (Text.sorted_perm (merge (ofText t) own).lines)
  calc toText (remove (ofText (toText (merge (ofText t) own).lines)) own).lines
      = toText (remove (Text.sorted (merge (ofText t) own).lines) own).lines := by
        rw [ofText_toText hmerged]
    _ = toText (ofText t) := by rw [toText, Text.sorted_eq_of_perm hperm, toText]
    _ = t := htext

end Canonical

end Forwarders

/-! ## Hosts files -/

namespace Text

/-- What is glued together from pieces of which the first is not empty. -/
lemma glue_ne_nil {c : Char} {w : Text} (hw : w ≠ []) (ws : List Text) :
    glue c (w :: ws) ≠ [] := by
  cases ws with
  | nil => exact hw
  | cons v vs => exact List.append_ne_nil_of_left_ne_nil hw _

/-- The fields before a blank, and those behind it. -/
lemma words_append {c : Char} (hc : isBlank c = true) (xs ys : Text) :
    words (xs ++ c :: ys) = words xs ++ words ys := by
  rw [words, pieces_append hc, List.filter_append]
  rfl

/-- A text without blanks is one field, if it is not empty. -/
lemma words_of_forall {w : Text} (hw : ∀ c ∈ w, isBlank c = false) (hne : w ≠ []) :
    words w = [w] := by
  rw [words, pieces_of_forall hw]
  simp [hne]

end Text

namespace Address

/-- An address is written without blanks. -/
lemma not_blank_of_mem_text {a : Address} {c : Char} (hc : c ∈ a.text) :
    Text.isBlank c = false := by
  have hdigit : ∀ d < 16, Text.isBlank (Nat.digitChar d) = false := by decide
  rcases isWritten_of_mem_text hc with rfl | rfl | ⟨d, hd, rfl⟩
  · decide
  · decide
  · exact hdigit d hd

/-- Octets are not written with nothing. -/
lemma dotted_ne_nil {octets : List UInt8} (h : octets ≠ []) : dotted octets ≠ [] := by
  obtain ⟨o, os, rfl⟩ := List.exists_cons_of_ne_nil h
  exact Text.glue_ne_nil Nat.toDigits_ne_nil _

/-- Neither are groups if a run of zeros is left out. -/
lemma compressed_ne_nil {groups : List UInt16} (h : groups ≠ []) : compressed groups ≠ [] := by
  unfold compressed
  dsimp only
  split
  · simp
  · obtain ⟨g, gs, rfl⟩ := List.exists_cons_of_ne_nil h
    exact Text.glue_ne_nil Nat.toDigits_ne_nil _

/-- An address is not written with nothing.

**Proof sketch.** Of the four octets or eight groups at least one is written. -/
lemma text_ne_nil (a : Address) : a.text ≠ [] := by
  cases a with
  | v4 octets =>
    refine dotted_ne_nil fun hnil => ?_
    have hlen := congrArg List.length hnil
    simp at hlen
  | v6 groups =>
    change groupsText groups.toList ≠ []
    unfold groupsText
    split
    · simp
    · refine compressed_ne_nil fun hnil => ?_
      have hlen := congrArg List.length hnil
      simp at hlen

end Address

namespace HostsFile

/-! ### Lines of many pods -/

section Lines

variable {t : Text}

/-- A text whose last line is ended, if it has one. -/
def EndsLine (t : Text) : Prop :=
  t = [] ∨ t.getLast? = some '\n'

/-- Lines that are written one after the other are ended. -/
lemma endsLine_unlines (ls : List Text) : EndsLine (Text.unlines ls) := by
  rcases List.eq_nil_or_concat ls with rfl | ⟨ks, l, rfl⟩
  · exact .inl rfl
  · right
    rw [List.concat_eq_append, Text.unlines_append, Text.unlines_cons, Text.unlines_nil,
      ← List.append_assoc, List.getLast?_concat]

/-- **A pod taken out of a text** behind which another one was put. -/
lemma without_append (ht : EndsLine t) (pod s : Text) :
    without pod (t ++ s) = without pod t ++ without pod s := by
  have hlines : Text.lines (t ++ s) = Text.lines t ++ Text.lines s := by
    rcases ht with rfl | hlast
    · rfl
    · obtain ⟨init, rfl⟩ := List.getLast?_eq_some_iff.mp hlast
      rw [List.append_assoc, List.singleton_append, Text.lines_append_newline]
  rw [without, hlines, List.filter_append, without, without]

/-- The lines that are left without a pod are read back as they were written, if no line ends in a
carriage return. -/
lemma lines_unlines_without (ht : ∀ l ∈ Text.lines t, l.getLast? ≠ some '\r') (pod : Text) :
    Text.lines (Text.unlines (without pod t)) = without pod t := by
  refine Text.lines_unlines fun l hl => ?_
  have hl' : l ∈ Text.lines t := List.mem_of_mem_filter hl
  exact ⟨Text.not_mem_of_mem_lines hl', ht l hl'⟩

end Lines

/-! ### Lines of one pod -/

/-- A hosts file holds lines of one pod, and no others. -/
def IsOnlyOf (pod t : Text) : Prop :=
  ∃ ls, t = Text.unlines ls ∧ ∀ l ∈ ls, '\n' ∉ l ∧ isOf pod (Text.dropReturn l) = true

section IsOnlyOf

variable {pod s t : Text}

/-- An empty text holds lines of the pod only. -/
lemma isOnlyOf_nil (pod : Text) : IsOnlyOf pod [] :=
  ⟨[], rfl, by simp⟩

/-- So do two texts of such lines, one after the other. -/
lemma IsOnlyOf.append (hs : IsOnlyOf pod s) (ht : IsOnlyOf pod t) : IsOnlyOf pod (s ++ t) := by
  obtain ⟨ks, rfl, hks⟩ := hs
  obtain ⟨ls, rfl, hls⟩ := ht
  refine ⟨ks ++ ls, (Text.unlines_append ks ls).symm, fun l hl => ?_⟩
  exact (List.mem_append.mp hl).elim (hks l) (hls l)

/-- **A hosts file of one pod** holds no line without it. -/
theorem IsOnlyOf.without_eq_nil (ht : IsOnlyOf pod t) : without pod t = [] := by
  obtain ⟨ls, rfl, hls⟩ := ht
  rw [without, Text.lines_unlines_of_newline fun l hl => (hls l hl).1, List.filter_eq_nil_iff]
  intro l hl
  obtain ⟨l', hl', rfl⟩ := List.mem_map.mp hl
  simp [(hls l' hl').2]

/-- A pod's name is the second field of its line, whatever stands behind a blank.

**Proof sketch.** The address is one word, and the tab ends it. The pod's name is the next word,
which ends with the line or at the blank. -/
lemma isOf_line (hne : pod ≠ []) (hblank : ∀ c ∈ pod, Text.isBlank c = false) (ip : Address)
    {rest : Text} (hrest : rest = [] ∨ ∃ c ys, rest = c :: ys ∧ Text.isBlank c = true) :
    isOf pod (ip.text ++ '\t' :: (pod ++ rest)) = true := by
  have hfirst : Text.words ip.text = [ip.text] :=
    Text.words_of_forall (fun c hc => Address.not_blank_of_mem_text hc) ip.text_ne_nil
  have hpod : Text.words pod = [pod] := Text.words_of_forall hblank hne
  unfold isOf podOf?
  rw [Text.words_append (by decide), hfirst]
  rcases hrest with rfl | ⟨c, ys, rfl, hc⟩
  · rw [List.append_nil, hpod]
    simp
  · rw [Text.words_append hc, hpod]
    simp

/-- **The lines that a pod is entered with** are its own, if its name is one word and its aliases
are on one line.

**Proof sketch.** The second field of each is the pod's name. A carriage return that is cut off at
the end of a line is that of an alias, since the name has no blanks. -/
theorem isOnlyOf_entry (hne : pod ≠ []) (hblank : ∀ c ∈ pod, Text.isBlank c = false)
    {aliases : List Text} (haliases : ∀ x ∈ aliases, '\n' ∉ x) (ips : List Address) :
    IsOnlyOf pod (entry pod aliases ips) := by
  refine ⟨ips.map (line pod aliases), rfl, fun l hl => ?_⟩
  obtain ⟨ip, -, rfl⟩ := List.mem_map.mp hl
  have hrest : ∀ zs, zs <+: aliases.flatMap (fun x => ' ' :: x) →
      zs = [] ∨ ∃ c ys, zs = c :: ys ∧ Text.isBlank c = true := by
    intro zs hzs
    cases zs with
    | nil => exact .inl rfl
    | cons c ys =>
      refine .inr ⟨c, ys, rfl, ?_⟩
      cases aliases with
      | nil => simp at hzs
      | cons x xs =>
        rw [List.flatMap_cons, List.cons_append, List.cons_prefix_cons] at hzs
        rw [hzs.1]
        decide
  have hline : line pod aliases ip =
      ip.text ++ '\t' :: (pod ++ aliases.flatMap (fun x => ' ' :: x)) := rfl
  rw [hline]
  constructor
  · have hnewline : Text.isBlank '\n' = true := by decide
    simp only [List.mem_append, List.mem_cons, List.mem_flatMap, not_or, not_exists, not_and]
    refine ⟨fun hm => ?_, by decide, fun hm => ?_, fun x hx => ⟨by decide, haliases x hx⟩⟩
    · rw [Address.not_blank_of_mem_text hm] at hnewline
      cases hnewline
    · rw [hblank _ hm] at hnewline
      cases hnewline
  · unfold Text.dropReturn
    split
    · next hend =>
      rcases List.eq_nil_or_concat (aliases.flatMap (fun x => ' ' :: x)) with hnil | ⟨zs, c, hzs⟩
      · -- the last character would be one of the pod's name
        rw [hnil, List.append_nil] at hend
        have hlast : pod.getLast? = some '\r' := by
          rw [List.getLast?_append] at hend
          cases pod with
          | nil => exact absurd rfl hne
          | cons c cs => simpa using hend
        have hreturn : Text.isBlank '\r' = false := hblank _ (List.mem_of_getLast? hlast)
        cases hreturn
      · rw [hzs, List.concat_eq_append, ← List.append_assoc, ← List.cons_append,
          ← List.append_assoc, List.dropLast_concat]
        refine isOf_line hne hblank ip (hrest zs ?_)
        rw [hzs, List.concat_eq_append]
        exact List.prefix_append _ _
    · exact isOf_line hne hblank ip (hrest _ (List.prefix_refl _))

end IsOnlyOf

end HostsFile

end ResolverMesh
