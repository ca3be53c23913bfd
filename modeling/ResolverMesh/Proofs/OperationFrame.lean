import ResolverMesh.Proofs.RequestFrame
import ResolverMesh.Proofs.Supervision

set_option autoImplicit false
set_option relaxedAutoImplicit false

/-!
# The frame of an operation

Whatever an operation on a network does, and however it ends, it makes, writes and removes nothing
but the root with the directories above it, the network's own directory, and the files of forwarders
of its siblings. These gain and lose lines of the network only, and a sibling's daemon is left alone
unless its file has been written with other lines.

## Main definitions

* `ResolverMesh.Forwarders.Conserves` — lines have changed by lines of a list only.
* `ResolverMesh.Host.Revised` — how the forwarders of siblings that were told have changed.
* `ResolverMesh.Mesh.PlainRoot` — no links below the root, and no process that two pid files name.
* `ResolverMesh.Mesh.KeptToFrame` — what an operation has left alone.

## Main results

* `ResolverMesh.Forwarders.Learnt.of_merge`, `ResolverMesh.Forwarders.Unlearnt.of_remove` — lines
  merged into a file, and removed from it.
* `ResolverMesh.Host.Revised.attachingKeeps`, `ResolverMesh.Host.Revised.detachingKeeps` — an
  attachment adds lines, and a detachment takes lines away.
* `ResolverMesh.operation_frame` — the operations keep to their frame.
-/

namespace ResolverMesh

open ResolverMesh.Action Disk

/-! ## Lines gained and lost -/

namespace Forwarders

/-- From one list of lines to another, none of which end in a carriage return, only lines of `own`
were gained or lost. -/
def Conserves (own before after : List Text) : Prop :=
  (∀ l ∈ before, l.getLast? ≠ some '\r') →
    (∀ l ∈ after, l.getLast? ≠ some '\r') ∧ ∀ l ∉ own, after.count l = before.count l

/-- A file has learnt lines of `own`, some of which it lacked. -/
structure Learnt (own before after : List Text) : Prop where
  /-- One was missing. -/
  lacked : ∃ l ∈ own, l ∉ before
  /-- None is missing any more. -/
  holds : ∀ l ∈ own, l ∈ after
  /-- Nothing else was changed. -/
  conserves : Conserves own before after

/-- A file has lost lines of `own`. -/
structure Unlearnt (own before after : List Text) : Prop where
  /-- There are fewer lines. -/
  fewer : after.length < before.length
  /-- Nothing else was changed. -/
  conserves : Conserves own before after

section Lines

variable {own before between after ls : List Text} {t : Text}

/-- Lines that stay as they are are conserved. -/
lemma Conserves.refl (own before : List Text) : Conserves own before before :=
  fun h => ⟨h, fun _ _ => rfl⟩

/-- Lines conserved in two stretches are conserved over both. -/
lemma Conserves.trans (h₁ : Conserves own before between) (h₂ : Conserves own between after) :
    Conserves own before after := by
  intro h
  obtain ⟨hbetween, hcount₁⟩ := h₁ h
  obtain ⟨hafter, hcount₂⟩ := h₂ hbetween
  exact ⟨hafter, fun l hl => (hcount₂ l hl).trans (hcount₁ l hl)⟩

/-- Lines that are written and read back.

**Proof sketch.** A line that is none of the own ones stands in the new file as often as in the old
one, so it was read from there. Clean lines are read back as they were written. -/
lemma Conserves.of_lines
    (hcount : ∀ l ∉ own, ls.count l = (ofText t).count l) (hown : ∀ l ∈ own, IsClean l) :
    Conserves own (ofText t) (ofText (toText ls)) := by
  intro hreturn
  have hclean : ∀ l ∈ ls, IsClean l := by
    intro l hl
    by_cases ho : l ∈ own
    · exact hown l ho
    · have hmem : l ∈ ofText t := by
        rw [← List.count_pos_iff, ← hcount l ho]
        exact List.count_pos_iff.mpr hl
      exact isClean_of_mem_ofText hmem (hreturn l hmem)
  rw [ofText_toText hclean]
  refine ⟨fun l hl => (hclean l (Text.mem_sorted.mp hl)).ending, fun l hl => ?_⟩
  rw [← hcount l hl]
  exact (Text.sorted_perm ls).count_eq l

/-- **Lines merged** into a file that lacks some of them. -/
theorem Learnt.of_merge (hown : ∀ l ∈ own, IsClean l)
    (hchanged : (merge (ofText t) own).changed = true) :
    Learnt own (ofText t) (ofText (toText (merge (ofText t) own).lines)) where
  lacked := changed_merge_iff.mp hchanged
  holds l hl := mem_ofText_toText (mem_merge.mpr (.inr hl)) (hown l hl)
  conserves := .of_lines (fun _ hl => count_merge_of_not_mem hl) hown

/-- No more lines are read back than were written. -/
lemma length_ofText_toText_le (h : ∀ l ∈ ls, '\n' ∉ l) :
    (ofText (toText ls)).length ≤ ls.length := by
  have hsorted : ∀ l ∈ Text.sorted ls, '\n' ∉ l := fun l hl => h l (Text.mem_sorted.mp hl)
  unfold ofText toText
  rw [Text.lines_unlines_of_newline hsorted]
  refine (List.length_filter_le ..).trans ?_
  rw [List.length_map, (Text.sorted_perm ls).length_eq]

/-- **Lines removed** from a file that has some of them. -/
theorem Unlearnt.of_remove (hown : ∀ l ∈ own, IsClean l)
    (hchanged : (remove (ofText t) own).changed = true) :
    Unlearnt own (ofText t) (ofText (toText (remove (ofText t) own).lines)) where
  fewer := by
    refine (length_ofText_toText_le fun l hl => ?_).trans_lt (length_remove_lt hchanged)
    exact (of_mem_ofText ((remove_sublist _ _).subset hl)).2
  conserves := by
    refine .of_lines (fun l hl => ?_) hown
    rw [count_remove, List.count_eq_zero_of_not_mem hl, Nat.sub_zero]

/-- So are lines that were unlearnt. -/
lemma Unlearnt.trans (h₁ : Unlearnt own before between) (h₂ : Unlearnt own between after) :
    Unlearnt own before after :=
  ⟨h₂.fewer.trans h₁.fewer, h₁.conserves.trans h₂.conserves⟩

end Lines

end Forwarders

/-! ## Siblings told -/

/-- From one host to a later one, the forwarders of the siblings of a network that were told have
changed as `R` says, unless a daemon has written into the file. -/
def Host.Revised (base : Location) (n : Text) (R : List Text → List Text → Prop) (h k : Host) :
    Prop :=
  ∀ p ≠ n, .toldOf base p ∈ h.since k →
    .pidWritten (base ++ [Name.text p, .text localServersName]) ∈ h.since k ∨
      R ((h.disk.shelf base).forwarders p) ((k.disk.shelf base).forwarders p)

namespace Host

/-- One effect has happened since it was recorded. -/
lemma since_record (h : Host) (e : Event) : h.since (h.record e) = [e] :=
  since_of_journal rfl

section Revised

variable {root : Path} {base : Location} {n p : Text} {R : List Text → List Text → Prop}
  {o h k l : Host}

/-- **A file of any network** is as it was, or it was written, by the operation or by a daemon, or
it is gone with the directory of the network.

**Proof sketch.** A place that has changed was touched by an effect within the frame. Of the
effects in it only three can touch a file below the root: a write there, a daemon's pid file, and
the removal of the directory that the file is in. -/
theorem Framed.get?_cases (hk : Framed root base n h k) (p f : Text) :
    k.disk.tree.get? (base ++ [Name.text p, .text f]) =
        h.disk.tree.get? (base ++ [Name.text p, .text f]) ∨
      .wroteFile (base ++ [Name.text p, .text f]) ∈ h.since k ∨
      .pidWritten (base ++ [Name.text p, .text f]) ∈ h.since k ∨
      p = n ∧ .removed (base ++ [Name.text n]) ∈ h.since k := by
  refine (hk.told _).imp_right fun ⟨e, he, htouch⟩ => ?_
  have hwithin := hk.within e he
  cases e with
  | madeDirectory loc =>
    cases hwithin
    cases List.append_cancel_left htouch
  | wroteFile loc =>
    cases htouch
    exact .inl he
  | pidWritten loc =>
    cases htouch
    exact .inr (.inl he)
  | removed loc =>
    cases hwithin
    obtain ⟨rest, hrest⟩ := htouch
    rw [List.append_assoc] at hrest
    have hcons := List.append_cancel_left hrest
    simp only [List.cons_append, List.nil_append, List.cons.injEq, Name.text.injEq] at hcons
    exact .inr (.inr ⟨hcons.1.symm, he⟩)
  | _ => exact htouch.elim

/-- **The files of a sibling** are as they were, apart from those that a daemon has written into,
and from the forwarders if it was told.

**Proof sketch.** By what the frame says of the place. A write into a sibling is one of its
forwarders, which was not told, and a removal is of the network's own directory. -/
theorem Framed.get?_sibling (hk : Framed root base n h k) (hp : p ≠ n) {f : Text}
    (hf : f = localServersName → .toldOf base p ∉ h.since k)
    (hpid : .pidWritten (base ++ [Name.text p, .text f]) ∉ h.since k) :
    k.disk.tree.get? (base ++ [Name.text p, .text f]) =
      h.disk.tree.get? (base ++ [Name.text p, .text f]) := by
  rcases hk.get?_cases p f with hsame | hw | hw | ⟨heq, -⟩
  · exact hsame
  · rcases hk.within _ hw with ⟨g, hloc⟩ | ⟨q, hq, -, hloc⟩
    · have hcons := List.append_cancel_left hloc
      simp only [List.cons.injEq, Name.text.injEq] at hcons
      exact absurd hcons.1 hp
    · have hcons := List.append_cancel_left hloc
      simp only [List.cons.injEq, Name.text.injEq, and_true] at hcons
      obtain ⟨rfl, rfl⟩ := hcons
      exact absurd hw (hf rfl)
  · exact absurd hw hpid
  · exact absurd heq hp

/-- The forwarders of a sibling that was not told. -/
lemma Framed.forwarders_sibling (hk : Framed root base n h k) (hp : p ≠ n)
    (hf : .toldOf base p ∉ h.since k) :
    .pidWritten (base ++ [Name.text p, .text localServersName]) ∈ h.since k ∨
      (k.disk.shelf base).forwarders p = (h.disk.shelf base).forwarders p := by
  by_cases hpid : .pidWritten (base ++ [Name.text p, .text localServersName]) ∈ h.since k
  · exact .inl hpid
  · refine .inr ?_
    rw [forwarders_shelf, forwarders_shelf, fileText, hk.get?_sibling hp (fun _ => hf) hpid]
    rfl

/-- What a sibling knows besides the lines of `own` is kept. -/
lemma Revised.conserves (hk : Revised base n R h k) (hf : Framed root base n h k) {own : List Text}
    (hR : ∀ before after, R before after → Forwarders.Conserves own before after) (hp : p ≠ n)
    (hpid : .pidWritten (base ++ [Name.text p, .text localServersName]) ∉ h.since k) :
    Forwarders.Conserves own ((h.disk.shelf base).forwarders p)
      ((k.disk.shelf base).forwarders p) := by
  by_cases htold : .toldOf base p ∈ h.since k
  · exact hR _ _ ((hk p hp htold).resolve_left hpid)
  · rw [(hf.forwarders_sibling hp htold).resolve_left hpid]
    exact .refl _ _

namespace Revised

/-- Nobody has been told, so nothing has been revised. -/
lemma refl (base : Location) (n : Text) (R : List Text → List Text → Prop) (h : Host) :
    Revised base n R h h := by
  intro p _ hp
  simp [since] at hp

/-- A stretch in which no sibling is told. -/
lemma extend (hk : Revised base n R h k) (hrec : h.journal <+: k.journal)
    (hl : Framed root base n k l) (hno : ∀ p ≠ n, .toldOf base p ∉ k.since l) :
    Revised base n R h l := by
  have hsince := since_append hrec hl.journal
  intro p hp htold
  rw [hsince, List.mem_append] at htold ⊢
  rcases hk p hp (htold.resolve_right (hno p hp)) with hpid | hR
  · exact .inl (.inl hpid)
  · rcases hl.forwarders_sibling hp (hno p hp) with hpid | hsame
    · exact .inl (.inr hpid)
    · exact .inr (hsame ▸ hR)

/-- **A sibling told** as `R` says.

**Proof sketch.** Other siblings have their forwarders as before, unless a daemon has written over
them. This one has the lines that it was told, and what was told to it before is followed by that.
-/
theorem apply (hk : Revised base n R h k) (hf : Framed root base n h k) {u : SiblingUpdate}
    (hu : u.sibling.IsBelow root) (hl : k.disk.Linkless root base)
    (hR : .pidWritten (base ++ [Name.text u.sibling.network, .text localServersName]) ∈ h.since k ∨
      R ((h.disk.shelf base).forwarders u.sibling.network)
        (Forwarders.ofText (Forwarders.toText u.lines))) :
    Revised base n R h (u.apply k).2 := by
  rcases hl.apply_cases hu with ⟨w, hr, hnet, hw⟩ | ⟨fault, hr⟩ <;> rw [hr]
  swap
  · exact hk
  have ht := u.sibling.supervisor.tended_restartIfRunning w
  generalize (u.sibling.supervisor.restartIfRunning w).2 = v at ht
  have hj := Host.Filed.journal hw
  have hsince : h.since v = h.since k ++ .toldOf base u.sibling.network :: w.since v := by
    rw [since_append (hf.journal.trans ⟨_, hj.symm⟩) ht.records,
      since_append hf.journal ⟨_, hj.symm⟩, since_of_journal hj, List.append_assoc]
    rfl
  have hleft : ∀ e ∈ h.since k, e ∈ h.since v := by
    intro e he
    rw [hsince]
    exact List.mem_append_left _ he
  intro p hp htold
  -- a daemon may have written over the forwarders on its start
  by_cases hpid : .pidWritten (base ++ [Name.text p, .text localServersName]) ∈ w.since v
  · exact .inl (by rw [hsince]; exact List.mem_append_right _ (List.mem_cons_of_mem _ hpid))
  have hsame : (v.disk.shelf base).forwarders p = Forwarders.ofText
      ((if p = u.sibling.network then some (Forwarders.toText u.lines)
        else k.disk.fileText base p localServersName).getD []) := by
    have hwrote := hw.fileText p localServersName
    simp only [and_true] at hwrote
    rw [forwarders_shelf, ← hwrote, fileText, ht.get?_of_not_mem hpid]
    rfl
  rw [hsame]
  by_cases hpu : p = u.sibling.network
  · rw [if_pos hpu, hpu]
    exact hR.imp_left (hleft _)
  · rw [if_neg hpu]
    have hold : .toldOf base p ∈ h.since k := by
      have hquiet : .toldOf base p ∉ w.since v := fun hmem => by cases ht.isDaemonic hmem
      rw [hsince] at htold
      simpa [Event.toldOf, hpu, hquiet] using htold
    exact (hk p hp hold).imp_left (hleft _)

end Revised

end Revised

/-! ## The lines of an attachment and of a detachment -/

section Lines

variable {m : Mesh} {base : Location} {i : Instance} {a : Attachment} {o h k : Host}

/-- The lines of a file of a network, as they are read.

**Proof sketch.** A file that is not there has no lines, be it that the network has none or that
there is no such network. -/
lemma lines_of_readLines {root : Path} {n f : Text} (hl : h.disk.Linkless root base)
    (hn : Settings.isNetworkName n = true) (hf : IsFileName f) {ls : List Text}
    (hr : Forwarders.readLines (root.fileOf n f) h = .ok ls) :
    h.disk.HasNetwork base n ∧ ls = Forwarders.ofText ((h.disk.fileText base n f).getD []) ∨
      ¬ h.disk.HasNetwork base n ∧ ls = [] := by
  unfold Forwarders.readLines at hr
  rw [Query.run_bind] at hr
  cases ht : Files.readIfThere (root.fileOf n f) h with
  | error fault => simp [ht] at hr
  | ok r =>
    rw [ht] at hr
    rcases hl.readIfThere_ok hn hf ht with ⟨hnet, rfl⟩ | ⟨hnet, rfl⟩
    · cases hf : h.disk.fileText base n f <;> rw [hf] at hr <;> cases hr <;>
        exact .inl ⟨hnet, rfl⟩
    · cases hr
      exact .inr ⟨hnet, rfl⟩

/-- The forwarders of a network, as they are read. -/
lemma forwarders_of_readLines {root : Path} {n : Text} (hl : h.disk.Linkless root base)
    (hn : Settings.isNetworkName n = true) {ls : List Text}
    (hr : Forwarders.readLines (root.fileOf n localServersName) h = .ok ls) :
    h.disk.HasNetwork base n ∧ ls = (h.disk.shelf base).forwarders n ∨
      ¬ h.disk.HasNetwork base n ∧ ls = [] :=
  lines_of_readLines hl hn isFileName_localServersName hr

/-- The siblings of an instance that were told have learnt the lines of an attachment. -/
def Taught (base : Location) (i : Instance) (a : Attachment) (h k : Host) : Prop :=
  Revised base i.network (fun before after => i.multiDomain = true ∧
    Forwarders.Learnt (Forwarders.scopedLines i.domain a.servers) before after) h k

/-- The siblings of an instance that were told have lost lines of an attachment. -/
def Untaught (base : Location) (i : Instance) (a : Attachment) (h k : Host) : Prop :=
  Revised base i.network (fun before after => i.multiDomain = true ∧
    Forwarders.Unlearnt (Forwarders.scopedLines i.domain a.servers) before after) h k

section Requests

variable (hi : i.IsBelow m.settings.rootDir)
  (hown : ∀ l ∈ Forwarders.scopedLines i.domain a.servers, Forwarders.IsClean l)

include hi hown

/-- A sibling that lacks a line has not been told by then.

**Proof sketch.** The survey has read forwarders that lack a line. If the sibling had been told
before, it would have them all. So its forwarders are those of the start, and the update merges
into these. -/
lemma Taught.of_surveyed (hk : Taught base i a h k)
    (hf : Framed m.settings.rootDir base i.network h k)
    (hl : k.disk.Linkless m.settings.rootDir base) (hmulti : i.multiDomain = true)
    {found : Propagation.Survey} (hfound : m.Surveyed i a k found) {u : SiblingUpdate}
    (hu : u ∈ found.updates) :
    .pidWritten (base ++ [Name.text u.sibling.network, .text localServersName]) ∈ h.since k ∨
      i.multiDomain = true ∧ Forwarders.Learnt (Forwarders.scopedLines i.domain a.servers)
        ((h.disk.shelf base).forwarders u.sibling.network)
        (Forwarders.ofText (Forwarders.toText u.lines)) := by
  obtain ⟨hb, hne, hnet, theirs, hread, hchanged, hlines⟩ := hfound.noted hl hi hu
  rw [hb.localServersFile] at hread
  obtain ⟨-, rfl⟩ | ⟨hno, -⟩ := forwarders_of_readLines hl hb.name hread
  swap
  · exact absurd hnet hno
  by_cases htold : .toldOf base u.sibling.network ∈ h.since k
  · refine (hk _ hne htold).imp_right fun ⟨_, hlearnt⟩ => ?_
    obtain ⟨l, hl, hlacks⟩ := Forwarders.changed_merge_iff.mp hchanged
    exact absurd (hlearnt.holds l hl) hlacks
  · refine (hf.forwarders_sibling hne htold).imp_right fun hsame => ⟨hmulti, ?_⟩
    rw [hlines, hsame]
    rw [hsame] at hchanged
    exact .of_merge hown hchanged

omit hi in
/-- Lines are taken from a sibling once more.

**Proof sketch.** If the sibling was told before, this is a further removal after the earlier ones.
If not, its forwarders are those of the start. -/
lemma Untaught.of_read (hk : Untaught base i a h k)
    (hf : Framed m.settings.rootDir base i.network h k)
    (hl : k.disk.Linkless m.settings.rootDir base) (hmulti : i.multiDomain = true)
    {j : Instance} (hj : j.IsBelow m.settings.rootDir) (hne : j.network ≠ i.network)
    {current : List Text} (hread : Forwarders.readLines j.localServersFile k = .ok current)
    (hchanged : (Forwarders.remove current
      (Forwarders.scopedLines i.domain a.servers)).changed = true) :
    .pidWritten (base ++ [Name.text j.network, .text localServersName]) ∈ h.since k ∨
      i.multiDomain = true ∧ Forwarders.Unlearnt (Forwarders.scopedLines i.domain a.servers)
        ((h.disk.shelf base).forwarders j.network) (Forwarders.ofText (Forwarders.toText
          (Forwarders.remove current (Forwarders.scopedLines i.domain a.servers)).lines)) := by
  rw [hj.localServersFile] at hread
  obtain ⟨-, rfl⟩ | ⟨-, rfl⟩ := forwarders_of_readLines hl hj.name hread
  swap
  · obtain ⟨l, -, hmem⟩ := Forwarders.changed_remove_iff.mp hchanged
    cases hmem
  have hlost := Forwarders.Unlearnt.of_remove hown hchanged
  by_cases htold : .toldOf base j.network ∈ h.since k
  · exact (hk _ hne htold).imp_right fun ⟨_, hold⟩ => ⟨hmulti, hold.trans hlost⟩
  · refine (hf.forwarders_sibling hne htold).imp_right fun hsame => ⟨hmulti, ?_⟩
    rw [← hsame]
    exact hlost

/-- **The requests of an attachment** teach siblings its lines.

**Proof sketch.** Only one request of an attachment tells a sibling, and its lines are those of the
survey with the network's own merged in. All others write files of the network itself or no file at
all. -/
theorem Taught.attachingKeeps (h : Host) : m.AttachingKeeps base i a
    fun k => Framed m.settings.rootDir base i.network h k ∧ Taught base i a h k := by
  have hframe := Framed.attachingKeeps m base a h hi
  have hstep := fun k => Framed.attachingKeeps m base a k hi
  refine ⟨fun {k} hk => ?_, fun {k l} hk hl hp => ?_, fun {k l f c} hk hl hnet hputs hw => ?_,
    fun {s k found u} hmulti hs hls hfound hu hrec hk hl => ?_,
    fun {s k l found} hs hls hfound hrec hk hl hnet hw => ?_, fun {k} hk hl => ?_⟩
  · refine ⟨hframe.call hk.1, hk.2.extend hk.1.journal ((hstep k).call (.refl ..)) fun p _ => ?_⟩
    simp [since_record]
  · refine ⟨hframe.opened hk.1 hl hp,
      hk.2.extend hk.1.journal ((hstep k).opened (.refl ..) hl hp) fun p _ => ?_⟩
    rw [since_of_journal (Opened.journal hp)]
    simp
  · refine ⟨hframe.filed hk.1 hl hnet hputs hw,
      hk.2.extend hk.1.journal ((hstep k).filed (.refl ..) hl hnet hputs hw) fun p hp => ?_⟩
    rw [since_of_journal hw.journal]
    simp [hp]
  · have hlearnt := (hs.2.of_surveyed hi hown hs.1 hls hmulti hfound hu).imp_left
      (mem_since_mono hs.1.journal hrec)
    exact ⟨hframe.told hmulti hs.1 hls hfound hu hrec hk.1 hl,
      hk.2.apply hk.1 (hfound.noted hls hi hu).1 hl hlearnt⟩
  · have hwrote := (Framed.refl m.settings.rootDir base i.network k).filed (by decide)
      (.inl ⟨_, rfl⟩) hw
    refine ⟨hframe.learnt hs.1 hls hfound hrec hk.1 hl hnet hw,
      hk.2.extend hk.1.journal (hwrote.record rfl trivial) fun p hp => ?_⟩
    have hj : (l.record (.logged (.propagated i.network i.domain found.updates.length))).journal =
        k.journal ++ [Event.toldOf base i.network,
          .logged (.propagated i.network i.domain found.updates.length)] := by
      rw [Host.record, Host.Filed.journal hw, List.append_assoc]
      rfl
    rw [since_of_journal hj]
    simp [hp]
  · refine ⟨hframe.hup hk.1 hl, hk.2.extend hk.1.journal ((hstep k).hup (.refl ..) hl)
      fun p _ htold => ?_⟩
    cases (i.supervisor.tended_hup k).isDaemonic htold

/-- **The requests of a detachment** take its lines from siblings.

**Proof sketch.** Only one request of a detachment tells a sibling, and the lines that are left are
those read on the same host, less the network's own. All others write files of the network itself
or none. -/
theorem Untaught.detachingKeeps (h : Host) : m.DetachingKeeps base i a
    (fun k => Framed m.settings.rootDir base i.network h k ∧ Untaught base i a h k)
    fun k => Framed m.settings.rootDir base i.network h k ∧ Untaught base i a h k := by
  have hframe := Framed.detachingKeeps m base a h hi
  have hstep := fun k => Framed.detachingKeeps m base a k hi
  have hlog : ∀ {k entry}, (Framed m.settings.rootDir base i.network h k ∧
      Untaught base i a h k) → (∀ n d c, entry ≠ .propagated n d c) →
      Framed m.settings.rootDir base i.network h (k.record (.logged entry)) ∧
        Untaught base i a h (k.record (.logged entry)) := by
    intro k entry hk he
    refine ⟨hframe.log hk.1 he,
      hk.2.extend hk.1.journal ((hstep k).log (.refl ..) he) fun p _ => ?_⟩
    simp [since_record]
  refine ⟨fun {k} hk => ?_, hlog, fun {k l t} hk hl hnet hread hw => ?_,
    fun {k j current} hmulti hk hl hj hne hread hchanged => ?_, fun {k} hk hl => ?_,
    fun {k} hk hl => ?_, fun {k l} hk hl hr => ?_, id, hlog⟩
  · refine ⟨hframe.call hk.1, hk.2.extend hk.1.journal ((hstep k).call (.refl ..)) fun p _ => ?_⟩
    simp [since_record]
  · refine ⟨hframe.delisted hk.1 hl hnet hread hw,
      hk.2.extend hk.1.journal ((hstep k).delisted (.refl ..) hl hnet hread hw) fun p hp => ?_⟩
    rw [since_of_journal (Filed.journal hw)]
    simp [hp]
  · exact ⟨hframe.withdrawn hmulti hk.1 hl hj hne hread hchanged,
      hk.2.apply hk.1 hj hl (hk.2.of_read hown hk.1 hl hmulti hj hne hread hchanged)⟩
  · refine ⟨hframe.hup hk.1 hl, hk.2.extend hk.1.journal ((hstep k).hup (.refl ..) hl)
      fun p _ htold => ?_⟩
    cases (i.supervisor.tended_hup k).isDaemonic htold
  · refine ⟨hframe.stop hk.1 hl, hk.2.extend hk.1.journal ((hstep k).stop (.refl ..) hl)
      fun p _ htold => ?_⟩
    cases (i.supervisor.tended_stop k).isDaemonic htold
  · refine ⟨hframe.removed hk.1 hl hr,
      hk.2.extend hk.1.journal ((hstep k).removed (.refl ..) hl hr) fun p _ => ?_⟩
    rw [since_of_journal (Removed.journal hr)]
    simp

end Requests

end Lines

end Host

/-! ## The operations -/

/-- From one host to a later one, the files are those that there were. -/
lemma Host.Prepared.file_iff {h k : Host} (hp : h.Prepared k) {loc : Location} {id : Nat}
    {x : Bool} {c : Content} : k.disk.tree.get? loc = some (.file id x c) ↔
      h.disk.tree.get? loc = some (.file id x c) := by
  rcases hp.tree loc with hsame | ⟨hnone, id', mode, hd⟩
  · rw [hsame]
  · rw [hnone, hd]
    simp

/-- What is prepared for the root leaves the files of networks as they are. -/
lemma Host.Prepared.fileText {h k : Host} (hp : h.Prepared k) (base : Location) (n f : Text) :
    k.disk.fileText base n f = h.disk.fileText base n f := by
  unfold Disk.fileText
  rcases hp.tree (base ++ [Name.text n, .text f]) with hsame | ⟨hnone, id', mode, hd⟩
  · rw [hsame]
  · rw [hnone, hd]
    rfl

namespace Mesh

/-- A host on which an operation may be done: the root, once it is made if it is missing, has no
links below it, no live process is named by two pid files, and the next pid is not in use. -/
structure PlainRoot (m : Mesh) (base : Location) (h : Host) : Prop where
  /-- There are no links below the root. -/
  linkless : (Files.makeDirectories LockGuard.rootMode m.settings.rootDir h).1 = .ok () →
    (m.withRoot h).disk.Linkless m.settings.rootDir base
  /-- Pid files share no live process. -/
  unshared : ∀ n p (pid : Nat), h.isAlive pid = true → h.disk.NamesPid base n pid →
    h.disk.NamesPid base p pid → n = p
  /-- Live processes have pids that were given. -/
  given : ∀ pid : Nat, h.isAlive pid = true → pid < h.nextPid

/-- From a host `h` to a host `k`, an operation for an attachment has kept to its frame. The host
`mid` stands where what is done gives way to its undoing. What daemons write when they start is
left aside. -/
structure KeptToFrame (m : Mesh) (base : Location) (a : Attachment) (h mid k : Host) : Prop where
  /-- Each change of the disk has left an effect at its place. -/
  told : ∀ loc, k.disk.tree.get? loc = h.disk.tree.get? loc ∨ ∃ e ∈ h.since k, e.Touches loc
  /-- Directories were made where nothing was, for the root and those above it, and for the
  network. -/
  made : ∀ loc, .madeDirectory loc ∈ h.since k → loc = base ++ [Name.text a.network] ∨
    h.disk.tree.get? loc = none ∧ ∃ p ∈ m.settings.rootDir :: m.settings.rootDir.ancestors,
      (m.withRoot h).disk.Leads p loc
  /-- Files of the network were written, and the forwarders of other networks. -/
  wrote : ∀ loc, .wroteFile loc ∈ h.since k → (∃ f, loc = base ++ [Name.text a.network, .text f]) ∨
    ∃ p ≠ a.network, (m.withRoot h).disk.HasNetwork base p ∧
      loc = base ++ [Name.text p, .text localServersName]
  /-- The directory of the network was removed. -/
  removed : ∀ loc, .removed loc ∈ h.since k → loc = base ++ [Name.text a.network]
  /-- The other files of other networks are what they were. -/
  files : ∀ p ≠ a.network, ∀ f ≠ localServersName,
    .pidWritten (base ++ [Name.text p, .text f]) ∉ h.since k → ∀ id x c,
      k.disk.tree.get? (base ++ [Name.text p, .text f]) = some (.file id x c) ↔
        h.disk.tree.get? (base ++ [Name.text p, .text f]) = some (.file id x c)
  /-- The forwarders of other networks are what they were, if the network is not known to them. -/
  unknown : a.multiDomain = false → ∀ p ≠ a.network,
    .pidWritten (base ++ [Name.text p, .text localServersName]) ∉ h.since k → ∀ id x c,
      k.disk.tree.get? (base ++ [Name.text p, .text localServersName]) = some (.file id x c) ↔
        h.disk.tree.get? (base ++ [Name.text p, .text localServersName]) = some (.file id x c)
  /-- They have gained or lost lines of the attachment only. -/
  conserves : ∀ p ≠ a.network,
    .pidWritten (base ++ [Name.text p, .text localServersName]) ∉ h.since k →
      Forwarders.Conserves (Forwarders.scopedLines a.domain a.servers)
        ((h.disk.shelf base).forwarders p) ((k.disk.shelf base).forwarders p)
  /-- The daemon of another network was signalled or started only if its forwarders were written
  with other lines, by what was done or by its undoing. -/
  daemons : ∀ p ≠ a.network, Settings.isNetworkName p = true →
    (∃ (pid : Nat) (signal : Int), h.isAlive pid = true ∧ h.disk.NamesPid base p pid ∧
        .signalled pid signal ∈ h.since k) ∨
      (∃ command, .launched command ∈ h.since k ∧ Launch.IsFor m.settings.rootDir p command) →
    .toldOf base p ∈ h.since k ∧
      (.pidWritten (base ++ [Name.text p, .text localServersName]) ∈ h.since k ∨
        (mid.disk.shelf base).forwarders p ≠ (h.disk.shelf base).forwarders p ∨
        (k.disk.shelf base).forwarders p ≠ (mid.disk.shelf base).forwarders p)

namespace KeptToFrame

variable {m : Mesh} {base : Location} {a : Attachment} {i : Instance} {h mid k : Host}

/-- Nothing was done. -/
lemma refl (m : Mesh) (base : Location) (a : Attachment) (h : Host) :
    m.KeptToFrame base a h h h := by
  have hnone : h.since h = [] := by simp [Host.since]
  refine ⟨fun _ => .inl rfl, ?_, ?_, ?_, fun _ _ _ _ _ _ _ _ => .rfl,
    fun _ _ _ _ _ _ _ => .rfl, fun _ _ _ => .refl _ _, ?_⟩ <;> simp [hnone]

section Framed

variable {root : Path} {n p : Text} {w : Host} {paths : List Path}

/-- What happened in making the root is told apart from the rest. -/
lemma mem_since_of_raised (hw : h.Raised paths w) (hrec : w.journal <+: k.journal) {e : Event}
    (he : e ∈ h.since k) (hmade : ∀ loc, e ≠ .madeDirectory loc) : e ∈ w.since k := by
  rw [Host.since_append hw.prepared.records hrec, List.mem_append] at he
  refine he.resolve_left fun he => ?_
  obtain ⟨loc, rfl, -⟩ := hw.made e he
  exact hmade loc rfl

/-- **A daemon signalled or started** is that of a sibling that was told.

**Proof sketch.** A daemon that is signalled was named by a pid file, or started since; one that
was alive before has its pid from the network's pid file, and no two networks share a living
daemon. A program that is run names one network only. In both cases the frame says that the network
was told. -/
lemma told_of_daemon (hh : m.PlainRoot base h) (hw : h.Raised paths w)
    (hf : Host.Framed m.settings.rootDir base n w k)
    (hleads : ∀ command, .launched command ∈ w.since k → w.disk.Leads m.settings.rootDir base)
    (hp : p ≠ n) (hname : Settings.isNetworkName p = true)
    (hevent : (∃ (pid : Nat) (signal : Int), h.isAlive pid = true ∧ h.disk.NamesPid base p pid ∧
        .signalled pid signal ∈ h.since k) ∨
      ∃ command, .launched command ∈ h.since k ∧ Launch.IsFor m.settings.rootDir p command) :
    .toldOf base p ∈ w.since k := by
  have hrest := hw.prepared.rest
  rcases hevent with ⟨pid, signal, hlive, hnames, hs⟩ | ⟨command, hc, hfor⟩
  · have hgiven : pid < w.nextPid := by
      rw [hrest]
      exact hh.given pid hlive
    rcases hf.signalled pid signal (mem_since_of_raised hw hf.journal hs (by simp)) with
      hlater | ⟨q, ⟨t, ht, hpid⟩, htold⟩
    · omega
    · rw [hw.prepared.fileText] at ht
      have hqp : q = p := hh.unshared q p pid hlive ⟨t, ht, hpid⟩ hnames
      exact hqp ▸ htold.resolve_left (hqp ▸ hp)
  · have hc' := mem_since_of_raised hw hf.journal hc (by simp)
    obtain ⟨q, hq, hfor', htold⟩ := hf.launched command hc'
    have hqp : q = p := Launch.IsFor.unique (hleads command hc') hname hq hfor hfor'
    exact hqp ▸ htold.resolve_left (hqp ▸ hp)

/-- A sibling that was told has learnt lines, or lost some.

**Proof sketch.** A sibling is told in the attachment or in its cleanup. It was told because its
daemon's pid file was written, or because it learnt or lost a line, and then its lines are other
ones. -/
lemma revised_of_told (htaught : Host.Taught base i a w mid)
    (huntaught : Host.Untaught base i a mid k) (hmid : w.since k = w.since mid ++ mid.since k)
    (hp : p ≠ i.network) (htold : .toldOf base p ∈ w.since k) :
    .pidWritten (base ++ [Name.text p, .text localServersName]) ∈ w.since k ∨
      i.multiDomain = true ∧
        ((mid.disk.shelf base).forwarders p ≠ (w.disk.shelf base).forwarders p ∨
          (k.disk.shelf base).forwarders p ≠ (mid.disk.shelf base).forwarders p) := by
  rw [hmid, List.mem_append] at htold ⊢
  rcases htold with htold | htold
  · rcases htaught p hp htold with hpid | ⟨hmulti, hlearnt⟩
    · exact .inl (.inl hpid)
    · obtain ⟨l, hl, hlacks⟩ := hlearnt.lacked
      exact .inr ⟨hmulti, .inl fun hsame => hlacks (hsame ▸ hlearnt.holds l hl)⟩
  · rcases huntaught p hp htold with hpid | ⟨hmulti, hlost⟩
    · exact .inl (.inr hpid)
    · exact .inr ⟨hmulti, .inr fun hsame => absurd (hsame ▸ hlost.fewer) (lt_irrefl _)⟩

end Framed

/-- **An operation on an instance** that began once the root was made.

**Proof sketch.** The frame of the operation is read clause by clause from the frames of its two
parts, in which the effects are split. Making the root before them changes no file and tells
nobody. -/
theorem of_framed (hh : m.PlainRoot base h) {binary : Path}
    (hf : Host.Framed m.settings.rootDir base a.network (m.withRoot h) k)
    (hleads : ∀ command, .launched command ∈ (m.withRoot h).since k →
      (m.withRoot h).disk.Leads m.settings.rootDir base)
    (hfmid : Host.Framed m.settings.rootDir base a.network (m.withRoot h) mid)
    (hmidf : Host.Framed m.settings.rootDir base a.network mid k)
    (htaught : Host.Taught base (m.settings.instanceOf binary a) a (m.withRoot h) mid)
    (huntaught : Host.Untaught base (m.settings.instanceOf binary a) a mid k) :
    m.KeptToFrame base a h mid k := by
  have hw := m.raised_withRoot h
  have hsince := Host.since_append hw.prepared.records hf.journal
  have hmid := Host.since_append hfmid.journal hmidf.journal
  have hnew : ∀ e ∈ (m.withRoot h).since k, e ∈ h.since k := fun _ =>
    Host.mem_since_of_suffix hw.prepared.records hf.journal
  have hshelf : ∀ p, ((m.withRoot h).disk.shelf base).forwarders p =
      (h.disk.shelf base).forwarders p := fun p => by
    rw [forwarders_shelf, forwarders_shelf, hw.prepared.fileText]
  have hsame : ∀ p ≠ a.network, ∀ f,
      (f = localServersName → .toldOf base p ∉ (m.withRoot h).since k) →
      .pidWritten (base ++ [Name.text p, .text f]) ∉ h.since k → ∀ id x c,
        k.disk.tree.get? (base ++ [Name.text p, .text f]) = some (.file id x c) ↔
          h.disk.tree.get? (base ++ [Name.text p, .text f]) = some (.file id x c) := by
    intro p hp f htold hpid id x c
    rw [hf.get?_sibling hp htold fun hmem => hpid (hnew _ hmem)]
    exact hw.prepared.file_iff
  refine ⟨fun loc => ?_, fun loc hloc => ?_, fun loc hloc => ?_, fun loc hloc => ?_,
    fun p hp f hne hpid => hsame p hp f (fun heq => absurd heq hne) hpid,
    fun hno p hp hpid => hsame p hp _ (fun _ htold => ?_) hpid, fun p hp hpid => ?_,
    fun p hp hname hevent => ?_⟩
  · rcases hf.told loc with hk | ⟨e, he, htouch⟩
    · rw [hk]
      exact (hw.told loc).imp_right fun hmade => ⟨.madeDirectory loc,
        Host.mem_since_mono hw.prepared.records hf.journal hmade, rfl⟩
    · exact .inr ⟨e, hnew e he, htouch⟩
  · rw [hsince, List.mem_append] at hloc
    rcases hloc with hloc | hloc
    · obtain ⟨loc', heq, hrest⟩ := hw.made _ hloc
      cases heq
      exact .inr hrest
    · exact .inl (hf.within _ hloc)
  · exact hf.within _ (mem_since_of_raised hw hf.journal hloc (by simp))
  · exact hf.within _ (mem_since_of_raised hw hf.journal hloc (by simp))
  · -- a sibling is told only where the network is to be known
    rcases revised_of_told htaught huntaught hmid hp htold with hpid' | ⟨hyes, -⟩
    · exact hpid (hnew _ hpid')
    · exact absurd (hno.symm.trans hyes) (by decide)
  · have hpid' : .pidWritten (base ++ [Name.text p, .text localServersName]) ∉
        (m.withRoot h).since mid ++ mid.since k := hmid ▸ fun hmem => hpid (hnew _ hmem)
    rw [List.mem_append, not_or] at hpid'
    rw [← hshelf]
    have hgained := htaught.conserves hfmid (fun _ _ h => h.2.conserves) hp hpid'.1
    exact hgained.trans (huntaught.conserves hmidf (fun _ _ h => h.2.conserves) hp hpid'.2)
  · have htold := told_of_daemon hh hw hf hleads hp hname hevent
    refine ⟨hnew _ htold, ?_⟩
    rw [← hshelf]
    rcases revised_of_told htaught huntaught hmid hp htold with hpid | ⟨-, hne⟩
    · exact .inl (hnew _ hpid)
    · exact .inr hne

/-- **An operation on an attachment's instance**, under the lock or not begun. The first action is
done, and the second one undoes what it has left.

**Proof sketch.** Either the action is not begun, and nothing has happened but that the root was
made; or both run on the same host under the lock, and their frames are joined by `of_framed`. -/
theorem of_attended (hh : m.PlainRoot base h) {first whole : Instance → Action Unit}
    (hfirst : ∀ i w, m.IsFor i a → w.disk.Linkless m.settings.rootDir base →
      Host.Framed m.settings.rootDir base i.network w (first i w).2 ∧
        Host.Taught base i a w (first i w).2)
    (hwhole : ∀ i w, m.IsFor i a → w.disk.Linkless m.settings.rootDir base →
      Host.Framed m.settings.rootDir base i.network w (whole i w).2 ∧
        Host.Framed m.settings.rootDir base i.network (first i w).2 (whole i w).2 ∧
        Host.Untaught base i a (first i w).2 (whole i w).2) :
    m.KeptToFrame base a h (m.attended a first h).2 (m.attended a whole h).2 := by
  rcases m.attended_cases a h with ⟨fault, k, hk, hrun⟩ | ⟨hopen, binary, ids, hb, hrun⟩
  · rw [hrun first, hrun whole]
    rcases hk with rfl | rfl
    · exact .refl m base a _
    · have hnone : (m.withRoot h).since (m.withRoot h) = [] := by simp [Host.since]
      have hsame := Host.Framed.refl m.settings.rootDir base a.network (m.withRoot h)
      have hnobody : Host.Taught base (m.settings.instanceOf ⟨[]⟩ a) a (m.withRoot h)
          (m.withRoot h) := Host.Revised.refl _ _ _ _
      exact .of_framed hh hsame (by simp [hnone]) hsame hsame hnobody (Host.Revised.refl _ _ _ _)
  · obtain ⟨ids₁, hrun₁⟩ := hrun first
    obtain ⟨ids₂, hrun₂⟩ := hrun whole
    have hl := hh.linkless hopen
    have hfor : m.IsFor (m.settings.instanceOf binary a) a := ⟨hb, rfl, rfl⟩
    obtain ⟨hf₁, htaught⟩ := hfirst _ { m.withRoot h with held := ids } hfor hl
    obtain ⟨hf, hf₂, huntaught⟩ := hwhole _ { m.withRoot h with held := ids } hfor hl
    rw [hrun₁, hrun₂]
    exact .of_framed hh (hf.held (m.withRoot h).held ids₂) (fun _ _ => hl.leads)
      (hf₁.held (m.withRoot h).held ids₁) (hf₂.held ids₁ ids₂) htaught huntaught

/-- Nothing was done before the undoing began. -/
lemma of_idle (hk : m.KeptToFrame base a h mid k)
    (hmid : ∀ p, (mid.disk.shelf base).forwarders p = (h.disk.shelf base).forwarders p) :
    m.KeptToFrame base a h h k := by
  refine { hk with daemons := fun p hp hname hevent => ?_ }
  obtain ⟨htold, hne⟩ := hk.daemons p hp hname hevent
  rw [hmid p] at hne
  exact ⟨htold, hne.imp_right fun hor => .inr (hor.resolve_left fun hno => hno rfl)⟩

end KeptToFrame

end Mesh

section Operations

variable {m : Mesh} {base : Location} {a : Attachment} {h : Host}

/-- What has been made of the root holds the same forwarders.

**Proof sketch.** All that happens is that the root is made and the lock is taken, which concerns
no file. -/
lemma Mesh.forwarders_attended_pure (m : Mesh) (base : Location) (a : Attachment) (h : Host)
    (p : Text) : ((m.attended a (fun _ => (pure () : Action Unit)) h).2.disk.shelf base).forwarders
      p = (h.disk.shelf base).forwarders p := by
  have hroot : ((m.withRoot h).disk.shelf base).forwarders p =
      (h.disk.shelf base).forwarders p := by
    rw [forwarders_shelf, forwarders_shelf]
    exact congrArg (fun t => Forwarders.ofText (t.getD []))
      ((Files.prepared_makeDirectories _ _ h).fileText base p localServersName)
  rcases m.attended_cases a h with ⟨fault, k, hk, hrun⟩ | ⟨-, binary, ids, -, hrun⟩
  · rw [hrun]
    rcases hk with rfl | rfl
    · rfl
    · exact hroot
  · obtain ⟨ids', hrun'⟩ := hrun fun _ => (pure () : Action Unit)
    rw [hrun']
    exact hroot

/-- **The frame of every operation.** However it ends, an operation for an attachment whose domain
has no line feed changes nothing on the disk but the root with the directories above it, the
directory of its network, and the forwarders of other networks. These gain and lose lines of the
attachment only, and the daemon of another network is signalled or started only if its forwarders
have been written with other lines.

**Proof sketch.** The requests of an attachment teach siblings and those of a detachment take the
lines back, within the frame. An attachment that fails is undone from where it stands. A check
changes nothing. -/
theorem operation_frame (hh : m.PlainRoot base h) (hd : '\n' ∉ a.domain) :
    m.KeptToFrame base a h (m.attended a (m.provision · a) h).2 (m.add a h).2 ∧
      m.KeptToFrame base a h h (m.del a h).2 ∧ m.KeptToFrame base a h h (m.check a h).2 := by
  have hown : ∀ i, m.IsFor i a → ∀ l ∈ Forwarders.scopedLines i.domain a.servers,
      Forwarders.IsClean l := by
    intro i hi l hl
    rw [hi.domain] at hl
    exact Forwarders.isClean_of_mem_scopedLines hd hl
  have hattach : ∀ i w, m.IsFor i a → w.disk.Linkless m.settings.rootDir base →
      (m.provision i a w).2.disk.Linkless m.settings.rootDir base ∧
        Host.Framed m.settings.rootDir base i.network w (m.provision i a w).2 ∧
        Host.Taught base i a w (m.provision i a w).2 := fun i w hi hl =>
    (Host.Taught.attachingKeeps hi.below (hown i hi) w).keeps_provision hi.below w
      ⟨hl, .refl .., Host.Revised.refl _ _ _ w⟩
  refine ⟨?_, ?_, ?_⟩
  · rw [m.snd_add]
    refine .of_attended hh (fun i w hi hl => (hattach i w hi hl).2) fun i w hi hl => ?_
    obtain ⟨hl', hf, -⟩ := hattach i w hi hl
    exact ⟨(Host.Framed.detachingKeeps m base a w hi.below).keeps_provisionOrUndo hi.below
        ⟨hl', hf⟩,
      (Host.Untaught.detachingKeeps hi.below (hown i hi) _).keeps_provisionOrUndo hi.below
        ⟨hl', .refl .., Host.Revised.refl _ _ _ _⟩⟩
  · rw [m.del_eq]
    have hkept : m.KeptToFrame base a h (m.attended a (fun _ => (pure () : Action Unit)) h).2
        (m.attended a (m.cleanUp · a) h).2 := by
      refine .of_attended hh (fun i w _ _ => ⟨.refl .., Host.Revised.refl _ _ _ w⟩)
        fun i w hi hl => ?_
      have hdetached := (Host.Untaught.detachingKeeps hi.below (hown i hi) w).keeps_cleanUp
        hi.below ⟨hl, .refl .., Host.Revised.refl _ _ _ w⟩
      exact ⟨hdetached.1, hdetached⟩
    exact hkept.of_idle (m.forwarders_attended_pure base a h)
  · rw [m.check_eq]
    exact .refl m base a h

end Operations

/-- A host with one network, whose daemon runs.

**Proof sketch.** The host has no links, its processes have pids that were given, and its only
network is the one that the pid file of the daemon is in. -/
lemma Sample.plainRoot_settled : Sample.mesh.PlainRoot Sample.base Sample.settled := by
  have hgiven : ∀ p ∈ Sample.settled.processes, p.pid < Sample.settled.nextPid := by decide +kernel
  have hlinkless := Sample.linkless_settled
  have hb := @Sample.eq_of_get?_settled
  generalize Sample.settled = h at *
  obtain ⟨id, mode, hfind⟩ := hlinkless.leads
  have hroot : Sample.mesh.withRoot h = h :=
    congrArg Prod.snd (Files.makeDirectories_of_find hfind LockGuard.rootMode)
  have hname : ∀ n pid, h.disk.NamesPid Sample.base n pid → n = "b".toList := by
    rintro n pid ⟨t, ht, -⟩
    unfold fileText at ht
    cases he : h.disk.tree.get? (Sample.base ++ [Name.text n, .text pidName]) with
    | none => simp [he] at ht
    | some e => exact hb he
  refine ⟨fun _ => by rw [hroot]; exact hlinkless, fun n p pid _ hn hp => ?_, fun pid hlive => ?_⟩
  · rw [hname n pid hn, hname p pid hp]
  · obtain ⟨q, hq, -, rfl⟩ := Host.isAlive_iff.mp hlive
    exact hgiven q hq

/-- A pod of another network cannot be attached, for want of a daemon: the sibling is told of its
lines and then loses them again. -/
theorem operation_frame_of_startFailure :
    (Sample.mesh.add Sample.failingPod Sample.settled).1 = .error (.startFailure []) ∧
      .toldOf Sample.base "b".toList ∈ Sample.settled.since Sample.undone ∧
      Sample.mesh.KeptToFrame Sample.base Sample.failingPod Sample.settled
        (Sample.mesh.attended Sample.failingPod (Sample.mesh.provision · Sample.failingPod)
          Sample.settled).2 Sample.undone := by
  have hread : (Sample.mesh.add Sample.failingPod Sample.settled).1 = .error (.startFailure []) ∧
      .toldOf Sample.base "b".toList ∈ Sample.settled.since Sample.undone := by decide +kernel
  exact ⟨hread.1, hread.2, (operation_frame Sample.plainRoot_settled (by decide)).1⟩

end ResolverMesh
