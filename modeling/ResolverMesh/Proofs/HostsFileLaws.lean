import Mathlib.Data.List.TakeWhile
import ResolverMesh.Proofs.HostsLedger
import ResolverMesh.Proofs.TextFiles

set_option autoImplicit false
set_option relaxedAutoImplicit false

/-!
# The laws of a hosts file

A pod is entered into a hosts file by text at its end, and taken out of it by reading the file
again, line by line and field by field. The two agree whatever the file holds, as long as its last
line is ended and the names are words: a pod taken out is gone as if it had not been entered, one
pod taken out and another one entered do not get in each other's way, and what is not the pod's
stays. Nothing is asked of the lines that others have put there: they may be blank, have one field,
or end in carriage returns.

## Main definitions

* `ResolverMesh.Text.IsSecondField` — a text is the second blank-separated field of a line.
* `ResolverMesh.HostsFile.IsKept` — a line stays when a pod is taken out.
* `ResolverMesh.HostsFile.Laws` — what holds of a pod entered and pods taken out.

## Main results

* `ResolverMesh.HostsFile.podOf?_eq_some_iff` — the pod that a line is for.
* `ResolverMesh.HostsFile.without_entry` — a pod taken out of the lines of a pod.
* `ResolverMesh.HostsFile.without_append_entry` — a pod entered and taken out again.
* `ResolverMesh.HostsFile.without_unlines_without` — a pod taken out twice.
* `ResolverMesh.HostsFile.laws` — any hosts file whose last line is ended.
-/

namespace ResolverMesh

/-! ## The second field of a line -/

namespace Text

/-- A text is not empty and holds no blank. -/
structure IsWord (w : Text) : Prop where
  /-- It is not empty. -/
  ne_nil : w ≠ []
  /-- It holds no blank. -/
  word : ∀ c ∈ w, isBlank c = false

/-- A text is the second field of a line: a word behind another one, between blanks or the ends of
the line. -/
def IsSecondField (l w : Text) : Prop :=
  ∃ before first gap rest, l = before ++ (first ++ (gap ++ (w ++ rest))) ∧
    (∀ c ∈ before, isBlank c = true) ∧ IsWord first ∧
    (gap ≠ [] ∧ ∀ c ∈ gap, isBlank c = true) ∧ IsWord w ∧ ∀ c ∈ rest.head?, isBlank c = true

/-- A blank in front does not matter to the fields. -/
lemma words_cons_of_blank {c : Char} (hc : isBlank c = true) (cs : Text) :
    words (c :: cs) = words cs :=
  words_append hc [] cs

/-- Blanks in front of a text do not matter to its fields. -/
lemma words_append_of_blanks {before : Text} (h : ∀ c ∈ before, isBlank c = true) (t : Text) :
    words (before ++ t) = words t := by
  induction before with
  | nil => rfl
  | cons c cs ih =>
    rw [List.cons_append, words_cons_of_blank (h c (by simp)), ih fun d hd => h d (by simp [hd])]

/-- A word before a blank, or at the end, is the first field. -/
lemma words_append_of_word {w rest : Text} (hw : IsWord w)
    (hrest : ∀ c ∈ rest.head?, isBlank c = true) : words (w ++ rest) = w :: words rest := by
  cases rest with
  | nil => rw [List.append_nil, words_of_forall hw.word hw.ne_nil]; rfl
  | cons c cs =>
    have hc : isBlank c = true := hrest c rfl
    rw [words_append hc, words_of_forall hw.word hw.ne_nil, words_cons_of_blank hc]
    rfl

/-- **The first field** stands behind blanks only, and ends at a blank or at the end.

**Proof sketch.** Blanks in front are taken off by induction. The field is then all that stands
before the next blank, and what is behind it has the other fields. -/
lemma words_eq_cons_iff {l w : Text} {ws : List Text} : words l = w :: ws ↔
    ∃ before rest, l = before ++ (w ++ rest) ∧ (∀ c ∈ before, isBlank c = true) ∧ IsWord w ∧
      (∀ c ∈ rest.head?, isBlank c = true) ∧ words rest = ws := by
  constructor
  · intro h
    induction l with
    | nil => cases h
    | cons c cs ih =>
      by_cases hc : isBlank c = true
      · rw [words_cons_of_blank hc] at h
        obtain ⟨before, rest, rfl, hbefore, hw, hrest, hws⟩ := ih h
        exact ⟨c :: before, rest, rfl, List.forall_mem_cons.mpr ⟨hc, hbefore⟩, hw, hrest, hws⟩
      · -- the field is all that stands before the next blank
        have hsplit := List.takeWhile_append_dropWhile (p := fun d => !isBlank d) (l := c :: cs)
        have hword : IsWord ((c :: cs).takeWhile fun d => !isBlank d) := by
          refine ⟨by simp [hc], fun d hd => ?_⟩
          simpa using List.mem_takeWhile_imp hd
        have hnext : ∀ d ∈ ((c :: cs).dropWhile fun d => !isBlank d).head?, isBlank d = true := by
          intro d hd
          have hno := List.head?_dropWhile_not (fun d => !isBlank d) (c :: cs)
          rw [Option.mem_def.mp hd] at hno
          simpa using hno
        rw [← hsplit, words_append_of_word hword hnext, List.cons.injEq] at h
        rw [h.1] at hsplit hword
        exact ⟨[], _, hsplit.symm, by simp, hword, hnext, h.2⟩
  · rintro ⟨before, rest, rfl, hbefore, hw, hrest, rfl⟩
    rw [words_append_of_blanks hbefore, words_append_of_word hw hrest]

end Text

namespace HostsFile

open Text (IsSecondField IsWord)

variable {pod q l s t : Text} {aliases : List Text} {ips : List Address} {content : Option Text}
  {p : Path} {h : Host}

/-- **The pod that a line is for** is its second field.

**Proof sketch.** The first two fields of a line are found by `Text.words_eq_cons_iff`. The gap
between them is not empty, as the first field would go on into the second one otherwise. -/
theorem podOf?_eq_some_iff : podOf? l = some pod ↔ IsSecondField l pod := by
  have hfields : podOf? l = some pod ↔ ∃ first ws, Text.words l = first :: pod :: ws := by
    unfold podOf?
    constructor
    · intro hsecond
      match hl : Text.words l with
      | [] => simp [hl] at hsecond
      | [_] => simp [hl] at hsecond
      | first :: second :: ws =>
        rw [hl] at hsecond
        cases hsecond
        exact ⟨first, ws, rfl⟩
    · rintro ⟨first, ws, hl⟩
      rw [hl]
      rfl
  rw [hfields]
  simp only [Text.words_eq_cons_iff]
  constructor
  · rintro ⟨first, ws, before, behind, rfl, hbefore, hfirst, hbehind, gap, rest, rfl, hgap, hpod,
      hrest, -⟩
    refine ⟨before, first, gap, rest, rfl, hbefore, hfirst, ⟨?_, hgap⟩, hpod, hrest⟩
    -- without a gap the pod's name would begin with a blank
    rintro rfl
    obtain ⟨c, cs, rfl⟩ := List.exists_cons_of_ne_nil hpod.ne_nil
    have hblank := hbehind c rfl
    rw [hpod.word c (by simp)] at hblank
    cases hblank
  · rintro ⟨before, first, gap, rest, rfl, hbefore, hfirst, ⟨hne, hgap⟩, hpod, hrest⟩
    refine ⟨first, _, before, _, rfl, hbefore, hfirst, fun c hc => ?_, gap, rest, rfl, hgap, hpod,
      hrest, rfl⟩
    obtain ⟨d, ds, rfl⟩ := List.exists_cons_of_ne_nil hne
    rw [Option.mem_some.mp hc] at hgap
    exact hgap c (by simp)

instance (w : Text) : Decidable (IsWord w) :=
  -- the test is on a list: to decide a statement on all characters goes through every one of them
  decidable_of_iff (w ≠ [] ∧ w.all (!Text.isBlank ·)) <| by
    simp only [List.all_eq_true, Bool.not_eq_true']
    exact ⟨fun h => ⟨h.1, h.2⟩, fun h => ⟨h.1, h.2⟩⟩

instance (l w : Text) : Decidable (IsSecondField l w) :=
  decidable_of_iff (podOf? l = some w) podOf?_eq_some_iff

/-! ## Lines that stay -/

/-- A line stays when a pod is taken out: it is not blank, and its second field is not the pod. -/
def IsKept (pod l : Text) : Prop :=
  (∃ c ∈ l, Text.isBlank c = false) ∧ ¬ IsSecondField l pod

instance (pod l : Text) : Decidable (IsKept pod l) :=
  inferInstanceAs (Decidable (_ ∧ _))

/-- The lines of a text without a pod are those that stay, in order. -/
lemma without_eq_filter (pod t : Text) :
    without pod t = (Text.lines t).filter fun l => IsKept pod l := by
  refine List.filter_congr fun l _ => ?_
  have hblank : isBlankLine l = false ↔ ∃ c ∈ l, Text.isBlank c = false := by
    simp [isBlankLine]
  have hof : isOf pod l = false ↔ ¬ IsSecondField l pod := by
    rw [isOf, decide_eq_false_iff_not, podOf?_eq_some_iff]
  rw [Bool.eq_iff_iff, Bool.and_eq_true, Bool.not_eq_true', Bool.not_eq_true', decide_eq_true_eq,
    hblank, hof, IsKept]

/-- A line that a pod is entered with. -/
def listing (pod : Text) (aliases : List Text) (ip : Address) : Listing where
  pod := pod
  line := line pod aliases ip

/-- **A pod taken out of the lines of a pod**: all of them go, or none.

**Proof sketch.** Every line of the entry is read as a line of the pod, so that all of them are
kept or none is. -/
lemma without_entry (hpod : IsWord pod) (haliases : ∀ x ∈ aliases, ∀ c ∈ x, Text.isBlank c = false)
    (ips : List Address) (q : Text) :
    without q (entry pod aliases ips) = if pod = q then [] else ips.map (line pod aliases) := by
  have hsound : ∀ x ∈ ips.map (listing pod aliases), x.IsSound := by
    intro x hx
    obtain ⟨ip, -, rfl⟩ := List.mem_map.mp hx
    exact isSound_line hpod.ne_nil hpod.word haliases ip
  have hentry : entry pod aliases ips =
      Text.unlines ((ips.map (listing pod aliases)).map Listing.line) := by
    rw [List.map_map]
    rfl
  rw [hentry, without_unlines hsound, List.filter_map]
  by_cases hq : pod = q
  · simp [listing, Function.comp_def, hq]
  · simp [listing, Function.comp_def, hq]

/-- **A pod entered and taken out** again: what is left is what is left without it. -/
lemma without_append_entry (ht : EndsLine t) (hpod : IsWord pod)
    (haliases : ∀ x ∈ aliases, ∀ c ∈ x, Text.isBlank c = false) (ips : List Address) :
    without pod (t ++ entry pod aliases ips) = without pod t := by
  rw [without_append ht, without_entry hpod haliases, if_pos rfl, List.append_nil]

/-- **A pod taken out around another one**: it makes no difference which comes first. -/
lemma unlines_without_append_entry (ht : EndsLine t) (hpod : IsWord pod)
    (haliases : ∀ x ∈ aliases, ∀ c ∈ x, Text.isBlank c = false) (ips : List Address)
    (hq : q ≠ pod) : Text.unlines (without q (t ++ entry pod aliases ips)) =
      Text.unlines (without q t) ++ entry pod aliases ips := by
  rw [without_append ht, without_entry hpod haliases, if_neg hq.symm, Text.unlines_append]
  rfl

/-- **A pod taken out twice** is out the first time, if no line ends in a carriage return. -/
lemma without_unlines_without (ht : ∀ l ∈ Text.lines t, l.getLast? ≠ some '\r') (pod : Text) :
    without pod (Text.unlines (without pod t)) = without pod t := by
  rw [without, lines_unlines_without ht, without, List.filter_filter]
  simp only [Bool.and_self]

/-! ## The file on the disk -/

/-- What a hosts file holds once a pod is taken out of it. -/
def contentWithout (pod : Text) (content : Option Text) : Option Text :=
  content.map fun t => Text.unlines (without pod t)

/-- What is left of a missing file is nothing. -/
lemma getD_contentWithout (pod : Text) (content : Option Text) :
    (contentWithout pod content).getD [] = Text.unlines (without pod (content.getD [])) := by
  cases content <;> rfl

/-- A pod is taken out of a missing file. -/
lemma removePod_of_none (hread : Files.readIfThere p h = .ok none) (pod : Text) :
    removePod p pod h = (.ok false, h) := by
  unfold removePod
  rw [Action.run_bind, Action.run_lift, hread]
  rfl

/-- A pod is taken out of a file at a path that takes a text.

**Proof sketch.** A missing file is left missing. One that is there is written with the lines that
are left, and then it is read as such. -/
lemma removePod_of_isWritable (hw : h.disk.IsWritable p)
    (hread : Files.readIfThere p h = .ok content) (pod : Text) :
    ∃ k, removePod p pod h = (.ok !(without pod (content.getD [])).isEmpty, k) ∧
      Files.readIfThere p k = .ok (contentWithout pod content) ∧ k.disk.IsWritable p := by
  cases content with
  | none => exact ⟨h, removePod_of_none hread pod, hread, hw⟩
  | some t =>
    obtain ⟨k, hwrite, hreadk, hwk⟩ := Files.write_of_isWritable hw (Text.unlines (without pod t))
    refine ⟨k, ?_, hreadk, hwk⟩
    unfold removePod
    rw [Action.run_bind, Action.run_lift, hread]
    dsimp only
    rw [Action.run_bind, hwrite]
    rfl

/-- At any other path nothing is changed. -/
lemma removePod_of_not_isWritable (hw : ¬ h.disk.IsWritable p)
    (hread : Files.readIfThere p h = .ok content) (pod : Text) : (removePod p pod h).2 = h := by
  obtain ⟨e, he⟩ := Files.write_of_not_isWritable hw
  cases content with
  | none => rw [removePod_of_none hread]
  | some t =>
    unfold removePod
    rw [Action.run_bind, Action.run_lift, hread]
    dsimp only
    rw [Action.run_bind, he]

/-- Being empty is being no list but the empty one. -/
lemma not_isEmpty_eq_decide (ls : List Text) : (!ls.isEmpty) = decide (ls ≠ []) := by
  cases ls <;> simp

/-- The lines of a hosts file, none if it is missing. -/
def linesAt (p : Path) : Query (List Text) := fun h =>
  (Files.readIfThere p h).map fun content => Text.lines (content.getD [])

/-- The lines at a path are those of what is read there, or none. -/
lemma linesAt_of_readIfThere (hread : Files.readIfThere p h = .ok content) :
    linesAt p h = .ok (Text.lines (content.getD [])) := by
  rw [linesAt, hread]
  rfl

/-- What holds of a hosts file with the given content, of a pod that is entered into it, and of any
pod that is taken out of it. -/
structure Laws (p : Path) (pod : Text) (aliases : List Text) (ips : List Address)
    (content : Option Text) (h : Host) : Prop where
  /-- A pod that is entered and taken out leaves the lines that are left without it. -/
  undone : ∃ ls, linesAt p (removePod p pod (append p pod aliases ips h).2).2 = .ok ls ∧
    linesAt p (removePod p pod h).2 = .ok ls
  /-- Whether any are left is told alike. -/
  answer : (removePod p pod (append p pod aliases ips h).2).1 = (removePod p pod h).1
  /-- The file is the same whether another pod is taken out before or after. -/
  commutes : ∀ q ≠ pod, Files.readIfThere p (removePod p q (append p pod aliases ips h).2).2 =
    Files.readIfThere p (append p pod aliases ips (removePod p q h).2).2
  /-- If the path takes a text, then a pod is entered. -/
  enters : h.disk.IsWritable p → (append p pod aliases ips h).1 = .ok ()
  /-- If it does, or if the file is missing, then a pod is taken out: exactly the lines that stay
  are kept, in order, and the answer is whether there are any. -/
  keeps : h.disk.IsWritable p ∨ content = none → ∀ q, ∃ kept k,
    kept = (Text.lines (content.getD [])).filter (fun l => IsKept q l) ∧
    removePod p q h = (.ok (decide (kept ≠ [])), k) ∧
    Files.readIfThere p k = .ok (content.map fun _ => Text.unlines kept)
  /-- If no line ends in a carriage return, then taking a pod out again changes nothing. -/
  twice : (∀ l ∈ Text.lines (content.getD []), l.getLast? ≠ some '\r') → ∀ q,
    (removePod p q (removePod p q h).2).1 = (removePod p q h).1 ∧
      Files.readIfThere p (removePod p q (removePod p q h).2).2 =
        Files.readIfThere p (removePod p q h).2

/-- **The laws of a hosts file** hold whatever it holds, if its last line is ended and the names
that are entered are words.

**Proof sketch.** Lines that are added behind an ended line are read by themselves, and the lines of
a pod are read back as such; so what is taken out of the whole is taken out of the two parts
(`without_append_entry`, `unlines_without_append_entry`). At a path that takes no text, nothing
changes. -/
theorem laws (hread : Files.readIfThere p h = .ok content) (hends : EndsLine (content.getD []))
    (hpod : IsWord pod) (haliases : ∀ x ∈ aliases, ∀ c ∈ x, Text.isBlank c = false)
    (ips : List Address) : Laws p pod aliases ips content h := by
  by_cases hw : h.disk.IsWritable p
  · obtain ⟨k, hk, hreadk, hwk⟩ :=
      Files.append_of_isWritable hw hread (entry pod aliases ips)
    have happend : append p pod aliases ips h = (.ok (), k) := hk
    have hself := without_append_entry hends hpod haliases ips
    obtain ⟨x, hx, hreadx, -⟩ := removePod_of_isWritable hw hread pod
    obtain ⟨y, hy, hready, -⟩ := removePod_of_isWritable hwk hreadk pod
    refine ⟨⟨Text.lines (Text.unlines (without pod (content.getD []))), ?_, ?_⟩, ?_,
      fun q hq => ?_, fun _ => by rw [happend], fun _ q => ?_, fun hplain q => ?_⟩
    · rw [happend, hy, linesAt_of_readIfThere hready, getD_contentWithout, Option.getD_some, hself]
    · rw [hx, linesAt_of_readIfThere hreadx, getD_contentWithout]
    · rw [happend, hy, hx, Option.getD_some, hself]
    · obtain ⟨l, hl, hreadl, hwl⟩ := removePod_of_isWritable hw hread q
      obtain ⟨m, hm, hreadm, -⟩ := removePod_of_isWritable hwk hreadk q
      obtain ⟨o, ho, hreado, -⟩ :=
        Files.append_of_isWritable hwl hreadl (entry pod aliases ips)
      have hthen : append p pod aliases ips l = (.ok (), o) := ho
      rw [happend, hm, hl, hthen, hreadm, hreado, getD_contentWithout, contentWithout,
        Option.map_some, unlines_without_append_entry hends hpod haliases ips hq]
    · obtain ⟨l, hl, hreadl, -⟩ := removePod_of_isWritable hw hread q
      refine ⟨_, l, (without_eq_filter q _), ?_, ?_⟩
      · rw [hl, not_isEmpty_eq_decide]
      · rw [hreadl]
        cases content <;> rfl
    · obtain ⟨l, hl, hreadl, hwl⟩ := removePod_of_isWritable hw hread q
      obtain ⟨m, hm, hreadm, -⟩ := removePod_of_isWritable hwl hreadl q
      have hsame := without_unlines_without hplain q
      rw [hl, hm, hreadm, hreadl, getD_contentWithout, hsame]
      refine ⟨rfl, ?_⟩
      cases content with
      | none => rfl
      | some t => exact congrArg (fun ls => Except.ok (some (Text.unlines ls))) hsame
  · obtain ⟨e, he⟩ := Files.append_of_not_isWritable hw
    have happend : (append p pod aliases ips h).2 = h := by rw [append, he]
    have hnone : ∀ q, (removePod p q h).2 = h := removePod_of_not_isWritable hw hread
    refine ⟨⟨Text.lines (content.getD []), ?_, ?_⟩, by rw [happend], fun q _ => ?_,
      fun hyes => absurd hyes hw, fun hmissing q => ?_, fun _ q => ?_⟩
    · rw [happend, hnone, linesAt_of_readIfThere hread]
    · rw [hnone, linesAt_of_readIfThere hread]
    · rw [happend, hnone, happend]
    · cases hmissing.resolve_left hw
      exact ⟨[], h, rfl, removePod_of_none hread q, hread⟩
    · rw [hnone, hnone]
      exact ⟨rfl, rfl⟩

end HostsFile

namespace Sample

/-- A hosts file with a line that ends in a carriage return, a blank line and one of one field. -/
def mixed : Text := "10.9.0.9\tb web\r\n\t\r\nalone\n".toList

/-- The path of a hosts file. -/
def hosts : Path := ⟨"/root/hosts".toList⟩

/-- A host with that file. -/
def mixing : Host := (Files.write hosts mixed (host [])).2

end Sample

namespace HostsFile

open Sample in
/-- A file with a line ended by a carriage return and a line feed, a blank line and a line of one
field, to which a pod is added. -/
theorem laws_of_mixed : mixing.disk.IsWritable hosts ∧
    Laws hosts "web".toList ["b".toList] [.v4 #v[10, 9, 0, 5]] (some mixed) mixing := by
  have hfile : (mixing.disk.openSpot hosts).toOption.map Spot.takesFile = some true ∧
      Files.readIfThere hosts mixing = .ok (some mixed) := by decide +kernel
  have hlast : EndsLine mixed := .inr (by decide)
  have halias : Text.IsWord "b".toList := by decide
  refine ⟨Disk.isWritable_of_takesFile hfile.1, laws hfile.2 hlast (by decide) ?_ _⟩
  intro x hx c hc
  rw [List.mem_singleton.mp hx] at hc
  exact halias.word c hc

end HostsFile

end ResolverMesh
