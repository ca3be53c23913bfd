import ResolverMesh.Proofs.RequestFrame

set_option autoImplicit false
set_option relaxedAutoImplicit false

/-!
# Requests on paths that the system takes

The requests that take a network down fail only where the system does not take a path. It takes
the paths of a network's directory and of its pid file if it takes that of the hosts file, whose
name is the longest of the three.

## Main results

* `ResolverMesh.Disk.Admits.directory`, `ResolverMesh.Disk.Admits.file` — a path that is taken if a
  longer one is.
* `ResolverMesh.Supervisor.stop_ok` — the daemon stopped.
* `ResolverMesh.Disk.Linkless.removeIfThere_ok` — the directory removed.
-/

namespace ResolverMesh

open ResolverMesh.Action Disk Propagation

/-! ## Paths of a network -/

/-- The size of a text adds up. -/
lemma Text.utf8Size_append (s t : Text) : utf8Size (s ++ t) = utf8Size s + utf8Size t := by
  induction s with
  | nil => simp [utf8Size]
  | cons c s ih =>
    unfold utf8Size at ih ⊢
    rw [List.cons_append, List.foldr_cons, ih, List.foldr_cons, Nat.add_assoc]

/-- Plain names are put after one and the same beginning of a path. -/
lemma Path.exists_text_join (p : Path) : ∃ s, p.text <+: s ∧
    ∀ name, IsPlain name → (p.join name).text = s ++ name := by
  by_cases hp : p.text = [] ∨ p.endsInSlash = true
  · refine ⟨p.text, List.prefix_refl _, fun name hname => ?_⟩
    unfold join
    rw [if_neg hname.head?_ne, if_pos hp]
  · refine ⟨p.text ++ ['/'], List.prefix_append _ _, fun name hname => ?_⟩
    unfold join
    rw [if_neg hname.head?_ne, if_neg hp]
    simp

namespace Disk

variable {root p q : Path} {n f g : Text}

/-- A path is admitted if a longer one is that starts with it.

**Proof sketch.** The refusals of a path are for a NUL character, for no text at all and for its
length. The shorter path gives no reason for any of them. -/
lemma Admits.mono (ha : Admits p n) (hq : q.text ≠ [])
    (hnul : Path.hasNul p.text = false → Path.hasNul q.text = false)
    (hsize : Text.utf8Size q.text ≤ Text.utf8Size p.text) : Admits q n := by
  obtain ⟨hr, hn⟩ := ha
  refine ⟨?_, hn⟩
  unfold refusal? at hr ⊢
  split at hr
  · cases hr
  · next hp =>
    rw [if_neg (by rw [hnul (by simpa using hp)]; decide), if_neg hq]
    split at hr
    · cases hr
    · split at hr
      · cases hr
      · rw [if_neg (by omega)]

/-- The directory of a network, if one of its files is.

**Proof sketch.** The text of the directory's path begins that of the file's path, so it has no
more characters in it and is no longer. -/
lemma Admits.directory (ha : Admits (root.fileOf n f) n) (hn : Path.IsPlain n)
    (hf : Path.IsPlain f) : Admits (root.join n) n := by
  obtain ⟨s, ⟨rest, hs⟩, hjoin⟩ := (root.join n).exists_text_join
  have htext : (root.fileOf n f).text = (root.join n).text ++ (rest ++ f) := by
    rw [Path.fileOf, hjoin f hf, ← hs, List.append_assoc]
  refine ha.mono (Path.text_join_ne_nil root hn) (fun hnul => ?_) ?_ <;> rw [htext] at *
  · unfold Path.hasNul at hnul ⊢
    rw [List.any_append, Bool.or_eq_false_iff] at hnul
    exact hnul.1
  · rw [Text.utf8Size_append]
    omega

/-- Another file of the network, if its name is no longer.

**Proof sketch.** Both paths begin with the same text, that of the directory and a slash, and end
in the file names, so the length and the characters of these decide. -/
lemma Admits.file (ha : Admits (root.fileOf n f) n) (hf : Path.IsPlain f) (hg : Path.IsPlain g)
    (hnul : Path.hasNul g = false) (hsize : Text.utf8Size g ≤ Text.utf8Size f) :
    Admits (root.fileOf n g) n := by
  obtain ⟨s, -, hjoin⟩ := (root.join n).exists_text_join
  have hf' : (root.fileOf n f).text = s ++ f := hjoin f hf
  have hg' : (root.fileOf n g).text = s ++ g := hjoin g hg
  refine ha.mono (Path.text_join_ne_nil _ hg) (fun hnul' => ?_) ?_ <;> rw [hf', hg'] at *
  · unfold Path.hasNul at hnul hnul' ⊢
    rw [List.any_append, Bool.or_eq_false_iff] at hnul' ⊢
    exact ⟨hnul'.1, hnul⟩
  · rw [Text.utf8Size_append, Text.utf8Size_append]
    omega

end Disk

/-! ## The daemon stopped and the directory removed -/

section Requests

variable {root : Path} {base : Location} {n : Text} {h : Host} {i : Instance}

/-- A pid is no less than one. -/
lemma PidFile.pos_of_ofText {t : Text} {pid : Nat} (h : ofText t = .pid pid) : 0 < pid := by
  unfold ofText at h
  split at h
  · next n hn =>
    cases h
    have hle := (Option.filter_eq_some_iff.mp hn).2
    simp only [decide_eq_true_eq] at hle
    omega
  · cases h

/-- A process that is gone takes no signals. -/
lemma Signal.send_of_dead {pid : Nat} {signal : Int} (hpos : 0 < pid)
    (hdead : h.isAlive pid = false) : send pid signal h = (.error (.processGone pid), h) := by
  unfold send refusal
  rw [if_neg (by omega)]
  simp [hdead]

/-- What a pid file tells, if the system takes the path. -/
lemma Disk.InOrder.read_pidFile {d : Disk} (ho : d.InOrder root base)
    (hn : Settings.isNetworkName n = true) (ha : Admits (root.fileOf n pidName) n)
    (hnet : d.HasNetwork base n) : PidFile.read d (root.fileOf n pidName) =
      (d.fileText base n pidName).elim .missing PidFile.ofText := by
  unfold PidFile.read
  rcases ho.readText_file hn isFileName_pidName with ⟨-, hr⟩ | ⟨hno, -⟩
  · rw [hr]
    cases d.fileText base n pidName <;> rfl
  · exact absurd ⟨ha, hnet⟩ hno

/-- **A daemon is stopped** if the system takes the path of its pid file. No process that the file
names lives after that.

**Proof sketch.** By what the pid file holds. Without a file, with a text that is no pid, and with
the pid of a dead process there is nothing to do, and no process that it names lives. A live
process is killed. -/
theorem Supervisor.stop_ok (ho : h.disk.InOrder root base) (hi : i.IsBelow root)
    (ha : Admits (root.fileOf i.network pidName) i.network)
    (hnet : h.disk.HasNetwork base i.network) : ∃ k, i.supervisor.stop h = (.ok (), k) ∧
      k.disk = h.disk ∧
        ∀ pid, h.disk.NamesPid base i.network pid → k.isAlive pid = false := by
  have hread := ho.read_pidFile hi.name ha hnet
  rw [← hi.pidFile] at hread
  cases ht : h.disk.fileText base i.network pidName with
  | none =>
    rw [ht] at hread
    refine ⟨h, ?_, rfl, fun pid ⟨t, ht', _⟩ => ?_⟩
    · unfold stop
      rw [run_bind, run_ask, hread]
      rfl
    · rw [ht] at ht'
      cases ht'
  | some t =>
    rw [ht] at hread
    have hnames : ∀ pid, h.disk.NamesPid base i.network pid → PidFile.ofText t = .pid pid := by
      rintro pid ⟨t', ht', hpid⟩
      rw [ht] at ht'
      cases ht'
      exact hpid
    cases hparse : PidFile.parsePid? (Text.trim t) with
    | none =>
      have htext : PidFile.ofText t = .corrupt (Text.trim t) := by
        unfold PidFile.ofText
        rw [hparse]
      refine ⟨h.record (.logged (.corruptPidFile i.supervisor.pidFile (Text.trim t))), ?_, rfl,
        fun pid hpid => ?_⟩
      · unfold stop
        rw [run_bind, run_ask, hread, Option.elim_some, htext]
        rfl
      · cases htext.symm.trans (hnames pid hpid)
    | some n =>
      have htext : PidFile.ofText t = .pid n := by
        unfold PidFile.ofText
        rw [hparse]
      rw [Option.elim_some, htext] at hread
      have hsame : ∀ pid, h.disk.NamesPid base i.network pid → pid = n := fun pid hpid => by
        cases htext.symm.trans (hnames pid hpid)
        rfl
      by_cases hacc : Signal.accepts h n = true
      · refine ⟨_, stop_of_accepts hread hacc, rfl, fun pid hpid => ?_⟩
        rw [hsame pid hpid]
        exact h.isAlive_stopped n
      · -- the process is gone already
        have hdead : h.isAlive n = false := by
          rw [← Bool.not_eq_true]
          exact fun hl => hacc (Signal.accepts_iff.mpr ⟨PidFile.pos_of_ofText htext, hl⟩)
        refine ⟨h, ?_, rfl, fun pid hpid => by rw [hsame pid hpid, hdead]⟩
        unfold stop
        rw [run_bind, run_ask, hread]
        dsimp only
        rw [run_bind, run_attempt]
        rw [Signal.send_of_dead (PidFile.pos_of_ofText htext) hdead]
        rfl

/-- **The directory of a network is removed** if the system takes its path.

**Proof sketch.** The walk to the directory is not refused, and ends at it. So the removal
succeeds. -/
theorem Disk.Linkless.removeIfThere_ok (hl : h.disk.Linkless root base)
    (hn : Settings.isNetworkName n = true) (ha : Admits (root.join n) n)
    (hnet : h.disk.HasNetwork base n) : (Files.removeIfThere (root.join n) h).1 = .ok () ∧
      h.Removed (Files.removeIfThere (root.join n) h).2 (base ++ [Name.text n]) := by
  obtain ⟨hsteps, habs, htext, hlook⟩ := hl.leads.path_network hn
  obtain ⟨id, mode, hdir⟩ := hnet
  obtain ⟨-, hwalk⟩ := (hl.walk_names [] hsteps habs htext hn (by simp)).resolve_right
    fun hno => hno.1 ha
  have hgone : h.disk.removeAll (root.join n) = .ok ⟨base ++ [Name.text n],
      ⟨h.disk.tree.removeAt (base ++ [Name.text n]), h.disk.workDir, h.disk.nextId⟩⟩ := by
    unfold removeAll lookUp
    rw [hlook, hwalk, FileTree.landing, hdir]
  unfold Files.removeIfThere
  rw [run_bind, run_attempt]
  unfold Files.removeAll onDisk
  dsimp only
  rw [hgone]
  exact ⟨rfl, rfl⟩

end Requests

end ResolverMesh
