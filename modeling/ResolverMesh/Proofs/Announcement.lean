import Mathlib.Data.List.Dedup
import ResolverMesh.Proofs.RepeatedAnnouncements
import ResolverMesh.Proofs.RestartedSiblings

set_option autoImplicit false
set_option relaxedAutoImplicit false

/-!
# What an announcement leaves behind

An announcement that succeeds leaves three kinds of files: the network's own forwarders, the
siblings' forwarders with what they lacked, and what the network has learnt of its siblings. This
module says which lines are read back from each, how often each stands, and in which order, and
which daemons were killed on the way.

## Main definitions

* `ResolverMesh.Propagation.Spread` — the outcome of an announcement.

## Main results

* `ResolverMesh.Forwarders.merge_perm` — the lines of a merge, with their multiplicity.
* `ResolverMesh.Propagation.publish_spreads` — an announcement that succeeds has that outcome.
-/

namespace ResolverMesh

open ResolverMesh.Action Disk

/-- **The lines of a merge**: those that there were, as often as they stood, and one copy of each
that was lacking.

**Proof sketch.** Count each line. One that was lacking is there once after the merge. Any other is
there as often as before. -/
theorem Forwarders.merge_perm (current incoming : List Text) :
    (merge current incoming).lines.Perm
      (current ++ (incoming.filter fun l => l ∉ current).dedup) := by
  refine List.perm_iff_count.mpr fun x => ?_
  have hle := count_merge_le current incoming x
  have hge := (prefix_merge current incoming).sublist.count_le x
  have hmem := @mem_merge current incoming x
  have hnew : x ∈ (incoming.filter fun l => l ∉ current).dedup ↔ x ∈ incoming ∧ x ∉ current := by
    rw [List.mem_dedup, List.mem_filter, decide_eq_true_eq]
  rw [List.count_append]
  by_cases hlack : x ∈ incoming ∧ x ∉ current
  · have hpos : 0 < (merge current incoming).lines.count x :=
      List.count_pos_iff.mpr (hmem.mpr (.inr hlack.1))
    rw [List.count_eq_one_of_mem (List.nodup_dedup _) (hnew.mpr hlack)]
    rw [List.count_eq_zero_of_not_mem hlack.2] at hle ⊢
    omega
  · rw [List.count_eq_zero_of_not_mem (mt hnew.mp hlack), Nat.add_zero]
    by_cases hcurrent : x ∈ current
    · have hpos : 0 < current.count x := List.count_pos_iff.mpr hcurrent
      omega
    · have hnone : x ∉ (merge current incoming).lines := fun hx =>
        (hmem.mp hx).elim hcurrent fun hincoming => hlack ⟨hincoming, hcurrent⟩
      rw [List.count_eq_zero_of_not_mem hnone, List.count_eq_zero_of_not_mem hcurrent]

namespace Propagation

/-- From a host `h` to a host `k`, a network has made its forwarders `own` known. -/
structure Spread (m : Mesh) (base : Location) (i : Instance) (own : List Text) (h k : Host) :
    Prop where
  /-- Its own file holds them in dictionary order. -/
  proclaimed : Forwarders.readLines i.ownServersFile k = .ok (Text.sorted own)
  /-- A sibling that lacked one has its old lines and one copy of each that it lacked, in dictionary
  order. -/
  told : ∀ p, (h.disk.shelf base).Lacks i.network own p →
    Forwarders.readLines (m.settings.rootDir.fileOf p localServersName) k =
      .ok (Text.sorted ((h.disk.shelf base).forwarders p ++
        (own.filter fun l => l ∉ (h.disk.shelf base).forwarders p).dedup))
  /-- What the network knew, and what its siblings publish and knew, is what it uses now, less its
  own lines: in dictionary order and once each. -/
  learnt : ∃ ls, Forwarders.readLines i.localServersFile k = .ok ls ∧
    ls.Pairwise (fun a b => Text.le a b = true) ∧ ls.Nodup ∧
    ∀ l, l ∈ ls ↔ (h.disk.shelf base).IsKnown i.network l ∧ l ∉ own
  /-- No other file of a network is touched, pid files left out. -/
  kept : ∀ p f, f ≠ pidName → ¬ (p = i.network ∧ (f = ownServersName ∨ f = localServersName)) →
    ¬ ((h.disk.shelf base).Lacks i.network own p ∧ f = localServersName) →
    k.disk.tree.get? (base ++ [Name.text p, .text f]) =
      h.disk.tree.get? (base ++ [Name.text p, .text f])
  /-- Of the processes that lived, those are killed that siblings ran as that lacked a line. -/
  killed : ∀ pid : Nat, h.isAlive pid = true → (k.isAlive pid = false ↔
    ∃ p, (h.disk.shelf base).Lacks i.network own p ∧ m.stateOf h p = .running pid)
  /-- They were sent the signal that kills, and no others of them were signalled. -/
  signalled : ∀ (pid : Nat) (signal : Int), h.isAlive pid = true →
    (.signalled pid signal ∈ h.since k ↔ signal = Signal.terminate ∧
      ∃ p, (h.disk.shelf base).Lacks i.network own p ∧ m.stateOf h p = .running pid)
  /-- The daemon of each sibling that was killed has been started again. -/
  renewed : ∀ p pid, (h.disk.shelf base).Lacks i.network own p → m.stateOf h p = .running pid →
    Host.Renewed m.settings.rootDir p pid h k

section Spread

variable {m : Mesh} {base : Location} {i : Instance} {servers names known own : List Text}
  {h k w x y : Host}

/-- Files that an announcement does not write are as they were.

**Proof sketch.** Follow the file through the three stages: it is none of the network's own two,
and if it is the forwarders of a sibling, that sibling lacks no line, so its update is not in the
plan. -/
lemma Carried.kept {s : Settings} (hc : Carried s base i own h names known w x y) {p f : Text}
    (hf : f ≠ pidName) (hself : ¬ (p = i.network ∧ (f = ownServersName ∨ f = localServersName)))
    (hsibling : ¬ ((h.disk.shelf base).Lacks i.network own p ∧ f = localServersName)) :
    y.disk.tree.get? (base ++ [Name.text p, .text f]) =
      h.disk.tree.get? (base ++ [Name.text p, .text f]) := by
  have hne : ∀ g, g = ownServersName ∨ g = localServersName →
      base ++ [Name.text p, .text f] ≠ base ++ [Name.text i.network, .text g] := by
    intro g hg heq
    simp only [List.append_cancel_left_eq, List.cons.injEq, Name.text.injEq, and_true] at heq
    exact hself ⟨heq.1, heq.2 ▸ hg⟩
  obtain ⟨-, -, -, hlearnt⟩ := Host.Filed.get? hc.learnt
  obtain ⟨-, -, -, hproclaimed⟩ := Host.Filed.get? hc.proclaimed
  rw [hlearnt _ (hne _ (.inr rfl)), hc.briefed.kept p f hf fun hloc hp => ?_,
    hproclaimed _ (hne _ (.inl rfl))]
  obtain ⟨hnet, hpn⟩ := (hc.announced.siblings.mem_iff p).mp hp
  rw [Bool.eq_false_iff]
  exact fun hchanged =>
    hsibling ⟨⟨hnet, hpn, Forwarders.changed_merge_iff.mp hchanged⟩, hloc⟩

/-- **What an announcement leaves behind.** If it succeeds, the files and the daemons are as told.

**Proof sketch.** What the files hold is told by `shelf_publish`, and the lines are read back since
all of them are clean. Which files are left alone is read off the stages of the announcement, and
which daemons are restarted is `restarted_publish`. -/
theorem publish_spreads {n domain : Text} {multi : Bool} {o : Host}
    (hi : m.settings.resolve n domain multi o = .ok i)
    (hown : ∀ l ∈ Forwarders.scopedLines i.domain servers, '\n' ∉ l ∧ l.getLast? ≠ some '\r')
    (hl : h.disk.Linkless m.settings.rootDir base) (hends : (h.disk.shelf base).EndsPlainly)
    (hnd : ((h.disk.shelf base).forwarders i.network).Nodup) (ho : Host.OwnsPids base h)
    (hr : publish m.settings i servers h = (.ok (), k))
    (hf : Host.Faithful m.settings.rootDir base h k) :
    Spread m base i (Forwarders.scopedLines i.domain servers) h k := by
  obtain ⟨hb, -⟩ := Settings.of_resolve_ok hi
  have hclean := isClean_of_scopedLines hown
  have hrestarted := restarted_publish hl hb ho hr hf
  obtain ⟨names, known, w, x, y, hc, hk⟩ := carried_publish hl hb hr hf.tame
  have hdisk : k.disk = y.disk := by
    rw [hk]
    rfl
  have hl' : k.disk.Linkless m.settings.rootDir base := hrestarted.linkless
  have ha := hc.announced
  have hshelf : k.disk.shelf base = published (h.disk.shelf base) i.network
      (Forwarders.scopedLines i.domain servers) names known := by
    rw [hdisk, hc.shelf_eq]
  have hread : ∀ p f t, Settings.isNetworkName p = true → IsFileName f → f ≠ pidName →
      (h.disk.shelf base).isNetwork p = true → Admits (m.settings.rootDir.fileOf p f) p →
      (k.disk.shelf base).text? p f = some t →
      Forwarders.readLines (m.settings.rootDir.fileOf p f) k = .ok (Forwarders.ofText t) := by
    intro p f t hp hname hpid hnet hadmits htext
    rw [text?_shelf_eq hpid] at htext
    exact Forwarders.readLines_of_fileText hl' hp hname
      ((hrestarted.networks p).mpr (isNetwork_shelf_iff.mp hnet)) hadmits htext
  refine ⟨?_, fun p hp => ?_, ?_, fun p f hpid hself hsibling => ?_, fun pid hlive => ?_,
    fun pid signal hlive => hrestarted.signalled pid (ho.given pid hlive) signal,
    hrestarted.renewed⟩
  · rw [hb.ownServersFile, hread _ _ _ hb.name isFileName_ownServersName (by decide) ha.isNetwork
      ha.admits_own (by rw [hshelf, text?_published_own]), Forwarders.ofText_toText hclean]
  · obtain ⟨hnet, hne, hlack⟩ := hp
    have hmem := (ha.siblings.mem_iff p).mpr ⟨hnet, hne⟩
    have hmerged := Forwarders.isClean_merge (fun l => hends.isClean (p := p)) hclean
    rw [hread _ _ _ (hc.proper p hmem) isFileName_localServersName (by decide) hnet
      (ha.sighting.admits p hmem).2 (by
        rw [hshelf, text?_published_of_ne hne, Shelf.text?_revise_of_mem hmem,
          if_pos (Forwarders.changed_merge_iff.mpr hlack)]),
      Forwarders.ofText_toText hmerged, Text.sorted_eq_of_perm (Forwarders.merge_perm _ _)]
  · refine ⟨_, hb.localServersFile ▸ hread _ _ _ hb.name isFileName_localServersName (by decide)
      ha.isNetwork ha.admits_local (by rw [hshelf, text?_published_local]), ?_⟩
    have hlearnt : ∀ l ∈ (Forwarders.remove known
        (Forwarders.scopedLines i.domain servers)).lines, Forwarders.IsClean l := fun l hl =>
      hends.isClean_of_isKnown ((ha.mem_learnt_iff hnd _).mp hl).1
    rw [Forwarders.ofText_toText hlearnt]
    refine ⟨Text.pairwise_sorted _, (Text.sorted_perm _).nodup_iff.mpr (ha.nodup_learnt hnd _),
      fun l => ?_⟩
    rw [Text.mem_sorted, ha.mem_learnt_iff hnd]
  · rw [hdisk]
    exact hc.kept hpid hself hsibling
  · rw [← Bool.not_eq_true, hrestarted.alive pid (ho.given pid hlive)]
    simp [hlive]

end Spread

end Propagation

namespace Sample

/-- Two siblings whose daemons run, one of which has been told already. -/
def informed : Host :=
  (Files.write ⟨"/root/c/local-servers.conf".toList⟩
    "server=/x/10.1.0.1\nserver=/x/10.1.0.2\n".toList (neighbours [daemon])).2

/-- The host after the announcement. -/
def spread : Host := (Propagation.publish mesh.settings announcing addresses informed).2

/-- No program but the daemon's of the other sibling is run, and no pid file but that of its network
is written. -/
def concernsOther : Event → Bool
  | .began command => command[3]? = some "--conf-file=/root/b/dnsmasq.conf".toList
  | .pidWritten loc => loc = base ++ [Name.text "b".toList, .text pidName]
  | _ => true

/-- A network with a pid file is one of the two siblings.

**Proof sketch.** The entries of the disk show that only the two siblings have pid files, and what
those hold. So a network with a given pid is one of the two, and so is its process. -/
lemma ownsPids_informed : informed.OwnsPids base := by
  have hread : (∀ p ∈ informed.processes, p.pid < informed.nextPid) ∧
      (∀ x ∈ informed.disk.tree.entries, x.1.loc.getLast? = some (.text pidName) →
        x.1.loc = base ++ [Name.text "b".toList, .text pidName] ∨
          x.1.loc = base ++ [Name.text "c".toList, .text pidName]) ∧
      informed.disk.fileText base "b".toList pidName = some (Launch.pidLine 7) ∧
      informed.disk.fileText base "c".toList pidName = some (Launch.pidLine 8) := by
    decide +kernel
  obtain ⟨hgiven, honly, hb, hc⟩ := hread
  generalize informed = h at *
  have hname : ∀ n pid, h.disk.NamesPid base n pid →
      n = "b".toList ∧ pid = 7 ∨ n = "c".toList ∧ pid = 8 := by
    rintro n pid ⟨t, ht, hpid⟩
    have hplace : n = "b".toList ∨ n = "c".toList := by
      unfold fileText at ht
      obtain ⟨e, he, -⟩ := Option.bind_eq_some_iff.mp ht
      obtain ⟨x, hx, hloc⟩ := FileTree.exists_of_get? he
      have hplace := honly x hx (by rw [hloc]; simp)
      rw [hloc] at hplace
      simpa using hplace
    rcases hplace with rfl | rfl
    · rw [hb] at ht
      cases ht
      exact .inl ⟨rfl, PidFile.eq_of_ofText_pidLine hpid⟩
    · rw [hc] at ht
      cases ht
      exact .inr ⟨rfl, PidFile.eq_of_ofText_pidLine hpid⟩
  refine ⟨fun n p pid _ hn hp => ?_, fun pid hlive => ?_⟩
  · rcases hname n pid hn with ⟨rfl, rfl⟩ | ⟨rfl, rfl⟩ <;>
      rcases hname p _ hp with ⟨rfl, hpid⟩ | ⟨rfl, hpid⟩
    · rfl
    · cases hpid
    · cases hpid
    · rfl
  · obtain ⟨q, hq, -, rfl⟩ := Host.isAlive_iff.mp hlive
    exact hgiven q hq

end Sample

namespace Propagation

open Sample in
/-- One sibling lacks the line and its daemon is restarted. The other one has it already and keeps
its process.

**Proof sketch.** What the theorem asks of the sample host is computed at once. The launch on the
way is faithful, since the only pid file written is that of the sibling restarted. -/
theorem publish_spreads_of_informed :
    Spread mesh base announcing (Forwarders.scopedLines "x".toList addresses) informed spread ∧
      mesh.stateOf informed "b".toList = .running 7 ∧ spread.isAlive 7 = false ∧
      mesh.stateOf informed "c".toList = .running 8 ∧ spread.isAlive 8 = true := by
  have hread : ((informed.disk.find mesh.settings.rootDir).toOption.map Found.loc = some base ∧
        informed.disk.isDirectory mesh.settings.rootDir = true) ∧
      (∀ x ∈ informed.disk.tree.entries, x.2.isLink = false) ∧
      (∀ x ∈ informed.disk.tree.entries, ∀ l ∈ Forwarders.ofText (x.2.text?.getD []),
        l.getLast? ≠ some '\r') ∧
      mesh.settings.resolve "a".toList "x".toList true informed = .ok announcing ∧
      (∀ l ∈ Forwarders.scopedLines "x".toList addresses,
        '\n' ∉ l ∧ l.getLast? ≠ some '\r') ∧
      ((informed.disk.shelf base).forwarders "a".toList).Nodup ∧
      ((publish mesh.settings announcing addresses informed).1 = .ok () ∧
        Host.Tame base informed spread ∧ ∀ e ∈ informed.since spread, concernsOther e = true) ∧
      mesh.stateOf informed "b".toList = .running 7 ∧ spread.isAlive 7 = false ∧
      mesh.stateOf informed "c".toList = .running 8 ∧ spread.isAlive 8 = true := by
    decide +kernel
  obtain ⟨hfind, hno, hends, hi, hown, hnd, ⟨hok, htame, hother⟩, hstates⟩ := hread
  have hpids := ownsPids_informed
  have hspread : (publish mesh.settings announcing addresses informed).2 = spread := rfl
  generalize informed = h at *
  generalize spread = k at *
  have hfaithful : Host.Faithful mesh.settings.rootDir base h k := by
    refine ⟨htame, fun command pid n f hin => ?_⟩
    have hbegan := hother (.began command) (hin.subset (by simp))
    have hwritten := hother (.pidWritten (base ++ [Name.text n, .text f])) (hin.subset (by simp))
    have hplace : n = "b".toList ∧ f = pidName := by simpa [concernsOther] using hwritten
    rw [hplace.1]
    exact (of_decide_eq_true hbegan).trans (by decide +kernel)
  exact ⟨publish_spreads hi hown (.of_entries hfind hno) (endsPlainly_of_entries base hends) hnd
    hpids (Prod.ext hok hspread) hfaithful, hstates⟩

end Propagation

end ResolverMesh
