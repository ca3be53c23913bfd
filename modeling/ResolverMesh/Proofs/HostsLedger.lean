import ResolverMesh.Proofs.LinesTakenBack
import ResolverMesh.Proofs.Runs

set_option autoImplicit false
set_option relaxedAutoImplicit false

/-!
# The ledger of the pods

What the hosts files of all networks come to, without any file: a ledger has one list of lines per
network, and knows of each line which pod it was entered for. A pod that is added gets one line per
address at the end of its network's list, and a pod that is deleted loses exactly its lines. The
files on the disk keep in step with the ledger, although a hosts file is only appended to as text,
and read back by its blank-separated fields.

## Main definitions

* `ResolverMesh.Ledger`, `ResolverMesh.Ledger.step` — the abstract machine.
* `ResolverMesh.Attachment.IsRegistrable` — a pod whose lines can be told from those of others.
* `ResolverMesh.Ledger.Refined` — the networks are those of a ledger.

## Main results

* `ResolverMesh.HostsFile.without_unlines` — a pod's lines taken out of a hosts file.
* `ResolverMesh.Mesh.cleanUp_delists` — what a detachment does to the hosts files.
* `ResolverMesh.hosts_files_refine_ledger` — the hosts files after any run.
-/

namespace ResolverMesh

open ResolverMesh.Action Disk Propagation

/-! ## The abstract machine -/

/-- A line of a hosts file, with the pod that it was entered for. -/
structure Listing where
  /-- The pod. -/
  pod : Text
  /-- The line. -/
  line : Text
  deriving DecidableEq, Repr

/-- The lines of a pod: each has an address, a tab, and the names of the pod. -/
def Attachment.listings (a : Attachment) : List Listing :=
  a.containerIps.map fun ip =>
    ⟨a.podName, ip.text ++ '\t' :: Text.glue ' ' (a.podName :: a.aliases)⟩

/-- The lines of the pods, network by network. -/
structure Ledger where
  /-- The lines of a network, in the order in which they were entered. -/
  lines : Text → List Listing

namespace Ledger

/-- No pods. -/
def empty : Ledger where
  lines _ := []

/-- The ledger with other lines for a network. -/
def set (L : Ledger) (n : Text) (xs : List Listing) : Ledger where
  lines p := if p = n then xs else L.lines p

/-- A network's lines once they are set. -/
@[simp]
lemma lines_set_self (L : Ledger) (n : Text) (xs : List Listing) : (L.set n xs).lines n = xs :=
  if_pos rfl

/-- The lines of other networks stay. -/
lemma lines_set_of_ne (L : Ledger) {n p : Text} (hp : p ≠ n) (xs : List Listing) :
    (L.set n xs).lines p = L.lines p :=
  if_neg hp

/-- One move on the ledger. A pod that is added is listed last in its network, and one that is
deleted loses its lines there. -/
def step (L : Ledger) : Move → Ledger
  | .add a => L.set a.network (L.lines a.network ++ a.listings)
  | .del a => L.set a.network ((L.lines a.network).filter fun x => x.pod ≠ a.podName)
  | .kill _ => L

/-- The ledger after a run. -/
def play (L : Ledger) (moves : List Move) : Ledger :=
  moves.foldl step L

/-- The lines of a network as text, each ended by a line feed. -/
def text (L : Ledger) (n : Text) : Text :=
  Text.unlines ((L.lines n).map Listing.line)

end Ledger

/-! ## Lines and their pods -/

/-- A line is read back from a file as it is, and as a line of its pod. -/
structure Listing.IsSound (x : Listing) : Prop where
  /-- It is one line. -/
  newline : '\n' ∉ x.line
  /-- Nothing is cut off at its end. -/
  ending : x.line.getLast? ≠ some '\r'
  /-- It is not blank. -/
  nonblank : HostsFile.isBlankLine x.line = false
  /-- Its second field is the pod's name. -/
  isOf : HostsFile.isOf x.pod x.line = true

/-- A pod whose lines can be told from those of others: its name is one word, its aliases hold no
blanks, and it has an address. -/
structure Attachment.IsRegistrable (a : Attachment) : Prop where
  /-- The name is not empty. -/
  ne_nil : a.podName ≠ []
  /-- The name holds no blanks. -/
  word : ∀ c ∈ a.podName, Text.isBlank c = false
  /-- The aliases hold no blanks. -/
  aliases : ∀ x ∈ a.aliases, ∀ c ∈ x, Text.isBlank c = false
  /-- There is an address. -/
  addresses : a.containerIps ≠ []

instance (a : Attachment) : Decidable a.IsRegistrable :=
  -- the tests are on lists: to decide a statement on all characters goes through every one of them
  decidable_of_iff (a.podName ≠ [] ∧ a.podName.all (!Text.isBlank ·) ∧
      a.aliases.all (·.all (!Text.isBlank ·)) ∧ a.containerIps ≠ []) <| by
    simp only [List.all_eq_true, Bool.not_eq_true']
    exact ⟨fun h => ⟨h.1, h.2.1, h.2.2.1, h.2.2.2⟩, fun h => ⟨h.1, h.2, h.3, h.4⟩⟩

namespace HostsFile

/-- The names of a pod are written with a blank between neighbours. -/
lemma names_eq_glue (pod : Text) (aliases : List Text) :
    names pod aliases = Text.glue ' ' (pod :: aliases) := by
  unfold names
  induction aliases generalizing pod with
  | nil => simp [Text.glue]
  | cons x xs ih => rw [Text.glue, ← ih, List.flatMap_cons, List.cons_append]

/-- The only blanks of a pod's line are those that it is put together with.

**Proof sketch.** By the part of the line that the blank stands in: neither the address nor a name
holds one. -/
lemma eq_of_mem_line {pod : Text} {aliases : List Text} {ip : Address} {c : Char}
    (hpod : ∀ c ∈ pod, Text.isBlank c = false)
    (haliases : ∀ x ∈ aliases, ∀ c ∈ x, Text.isBlank c = false)
    (hc : c ∈ line pod aliases ip) (hblank : Text.isBlank c = true) : c = '\t' ∨ c = ' ' := by
  unfold line names at hc
  simp only [List.mem_append, List.mem_cons, List.mem_flatMap] at hc
  rcases hc with hc | rfl | hc | ⟨x, hx, rfl | hc⟩
  · rw [Address.not_blank_of_mem_text hc] at hblank
    cases hblank
  · exact .inl rfl
  · rw [hpod c hc] at hblank
    cases hblank
  · exact .inr rfl
  · rw [haliases x hx c hc] at hblank
    cases hblank

/-- A line that is a pod's is no other pod's. -/
lemma isOf_iff_of_isOf {pod q l : Text} (h : isOf pod l = true) : isOf q l = true ↔ pod = q := by
  simp only [isOf, decide_eq_true_eq] at h ⊢
  rw [h, Option.some_inj]

/-- **A pod's lines taken out** of a hosts file: exactly those that were entered for it.

**Proof sketch.** The text is read as the lines that it was put together from. Of each it is known
whose it is, and that it is not blank. -/
theorem without_unlines {xs : List Listing} (hxs : ∀ x ∈ xs, x.IsSound) (pod : Text) :
    without pod (Text.unlines (xs.map Listing.line)) =
      (xs.filter fun x => x.pod ≠ pod).map Listing.line := by
  have hlines : Text.lines (Text.unlines (xs.map Listing.line)) = xs.map Listing.line := by
    refine Text.lines_unlines fun l hl => ?_
    obtain ⟨x, hx, rfl⟩ := List.mem_map.mp hl
    exact ⟨(hxs x hx).newline, (hxs x hx).ending⟩
  have hkept : ∀ x ∈ xs, (!isBlankLine x.line && !isOf pod x.line) = decide (x.pod ≠ pod) := by
    intro x hx
    rw [(hxs x hx).nonblank, Bool.not_false, Bool.true_and, decide_not, ← Bool.eq_iff_iff.mpr
      ((isOf_iff_of_isOf (q := pod) (hxs x hx).isOf).trans decide_eq_true_iff.symm)]
  rw [without, hlines, List.filter_map]
  exact congrArg _ (List.filter_congr hkept)

end HostsFile

/-- The lines that a pod is entered with are those of the ledger. -/
lemma Attachment.entry_eq (a : Attachment) :
    HostsFile.entry a.podName a.aliases a.containerIps =
      Text.unlines (a.listings.map Listing.line) := by
  have hline : ∀ ip, HostsFile.line a.podName a.aliases ip =
      ip.text ++ '\t' :: Text.glue ' ' (a.podName :: a.aliases) := by
    intro ip
    rw [HostsFile.line, HostsFile.names_eq_glue]
  unfold HostsFile.entry listings
  rw [List.map_map]
  exact congrArg Text.unlines (List.map_congr_left fun ip _ => hline ip)

/-- A line that is entered for a pod is read back as a line of the pod.

**Proof sketch.** The blanks of the line are the tab and the spaces that it is written with, so it
holds no line feed and no carriage return at its end. It begins with the address, which is not
blank, and its second field is the pod's name. -/
lemma HostsFile.isSound_line {pod : Text} {aliases : List Text} (hne : pod ≠ [])
    (hpod : ∀ c ∈ pod, Text.isBlank c = false)
    (haliases : ∀ x ∈ aliases, ∀ c ∈ x, Text.isBlank c = false) (ip : Address) :
    (⟨pod, line pod aliases ip⟩ : Listing).IsSound := by
  have hblanks : ∀ c ∈ line pod aliases ip, Text.isBlank c = true → c = '\t' ∨ c = ' ' :=
    fun c hc => eq_of_mem_line hpod haliases hc
  refine ⟨fun hn => ?_, fun hr => ?_, ?_, ?_⟩
  · have hfeed := hblanks '\n' hn (by decide)
    exact absurd hfeed (by decide)
  · have hreturn := hblanks '\r' (List.mem_of_getLast? hr) (by decide)
    exact absurd hreturn (by decide)
  · -- an address comes first, and it is not written with nothing
    obtain ⟨c, cs, hc⟩ := List.exists_cons_of_ne_nil ip.text_ne_nil
    have hfirst : Text.isBlank c = false := by
      refine Address.not_blank_of_mem_text (a := ip) ?_
      rw [hc]
      exact List.mem_cons_self
    unfold isBlankLine line
    rw [hc, List.cons_append, List.all_cons, hfirst, Bool.false_and]
  · refine isOf_line hne hpod ip ?_
    cases aliases with
    | nil => exact .inl rfl
    | cons y ys => exact .inr ⟨' ', _, rfl, by decide⟩

/-- They are read back as lines of the pod. -/
lemma Attachment.IsRegistrable.isSound {a : Attachment} (h : a.IsRegistrable) :
    ∀ x ∈ a.listings, x.IsSound := by
  intro x hx
  obtain ⟨ip, -, rfl⟩ := List.mem_map.mp hx
  rw [← HostsFile.names_eq_glue]
  exact HostsFile.isSound_line h.ne_nil h.word h.aliases ip

/-! ## What a detachment does to the hosts files -/

/-- The networks once a pod has been taken out of one of them: the hosts file is left with the
lines of others, or there are none and the network is gone. -/
structure Shelf.Delisted (v v' : Shelf) (n pod : Text) : Prop where
  /-- Other networks stay. -/
  isNetwork_of_ne : ∀ p ≠ n, v'.isNetwork p = v.isNetwork p
  /-- So do their hosts files. -/
  hosts_of_ne : ∀ p ≠ n, v'.text? p hostsName = v.text? p hostsName
  /-- Lines are left, or the network is gone. -/
  left : (∃ t, v.text? n hostsName = some t ∧ HostsFile.without pod t ≠ [] ∧
      v'.isNetwork n = v.isNetwork n ∧
      v'.text? n hostsName = some (Text.unlines (HostsFile.without pod t))) ∨
    (∀ t, v.text? n hostsName = some t → HostsFile.without pod t = []) ∧ v'.isNetwork n = false

section Delisted

variable {root : Path} {base : Location} {m : Mesh} {i : Instance} {h h₁ : Host} {v v₁ : Shelf}

/-- Lines are left. -/
lemma Shelf.TakenOut.delisted {n pod : Text} (h : v.TakenOut n pod true v₁) :
    v.Delisted v₁ n pod := by
  rcases h with ⟨-, hleft, -⟩ | ⟨t, ht, hleft, rfl⟩
  · cases hleft
  · refine ⟨fun _ _ => rfl, fun p hp => Shelf.text?_write_of_ne v fun hf => hp hf.1,
      .inl ⟨t, ht, by simpa using hleft, rfl, Shelf.text?_write_self v _ _ _⟩⟩

/-- None is left, and the network is removed, whatever happens to the forwarders.

**Proof sketch.** Forwarders are no hosts file, so other networks are as they were. The network is
gone, and so was every line but the pod's. -/
lemma Shelf.TakenOut.delisted_of_removed {n pod : Text} (h : v.TakenOut n pod false v₁)
    (names : List Text) (revision : Text → Forwarders.Revision) :
    v.Delisted ((v₁.revise names revision).removeNetwork n) n pod := by
  have hne : hostsName ≠ localServersName := by decide
  have hsame : ∀ p ≠ n, v₁.isNetwork p = v.isNetwork p ∧
      v₁.text? p hostsName = v.text? p hostsName := by
    intro p hp
    rcases h with ⟨-, -, rfl⟩ | ⟨t, -, -, rfl⟩
    · exact ⟨rfl, rfl⟩
    · exact ⟨rfl, Shelf.text?_write_of_ne v fun hf => hp hf.1⟩
  refine ⟨fun p hp => ?_, fun p hp => ?_, .inr ⟨fun t ht => ?_, ?_⟩⟩
  · rw [← (hsame p hp).1]
    simp [Shelf.removeNetwork, Shelf.revise, hp]
  · rw [Shelf.text?_removeNetwork_of_ne hp, Shelf.text?_revise_of_ne hne, (hsame p hp).2]
  · rcases h with ⟨hnone, -, -⟩ | ⟨t', ht', hleft, -⟩
    · rw [ht] at hnone
      cases hnone
    · rw [ht] at ht'
      cases ht'
      simpa using hleft.symm
  · simp [Shelf.removeNetwork]

/-- **A pod detached** that is left in no hosts file.

**Proof sketch.** The pod is taken out. If others are left, the daemon's reading leaves the files
as they are; if not, the network is taken down, which removes it. -/
theorem Mesh.cleanUp_delists (m : Mesh) (hs : m.settings.rootDir = root) (hi : i.IsBelow root)
    (a : Attachment) :
    (m.cleanUp i a).Meets base (Host.Holds root base v)
      (fun _ k => ∃ v', v.Delisted v' i.network a.podName ∧ k.Holds root base v')
      (fun _ _ => True) := by
  refine ⟨m.records_cleanUp i a, fun h hh ht => ?_⟩
  refine ⟨?_, fun _ _ => trivial⟩
  rw [cleanUp_eq, run_bind] at ht ⊢
  rcases (m.takeOut_ends hi a hh).cases with ⟨left, k, hr, v₁, hout, he⟩ | ⟨fault, k, hr, -, -⟩
  · rw [hr] at ht ⊢
    dsimp only at ht ⊢
    intro u hu
    cases left with
    | true =>
      rw [if_pos rfl] at ht hu ⊢
      have hhup := (i.supervisor.serves_hup v₁).after he.holds he.edits.journal_prefix ht
      exact ⟨v₁, hout.delisted, hhup.1 u hu⟩
    | false =>
      rw [if_neg (by simp)] at ht hu ⊢
      have hdown := (m.tearDown_meets hs hi a).after he.holds he.edits.journal_prefix ht
      obtain ⟨names, -, hk⟩ := hdown.1 u hu
      refine ⟨_, ?_, hk⟩
      split
      · exact hout.delisted_of_removed names _
      · have hdel := hout.delisted_of_removed [] fun _ => ⟨[], false⟩
        rw [Shelf.revise_nil] at hdel
        exact hdel
  · rw [hr]
    intro u hu
    cases hu

/-- **A pod deleted** that is left in no hosts file.

**Proof sketch.** The request was resolved and the lock taken, as the operation has succeeded. What
the cleanup does under the lock is told by `Mesh.cleanUp_delists`. -/
theorem Mesh.Stores.del_delists {a : Attachment} (hs : m.Stores base v h)
    (ht : Host.Tame base h (m.del a h).2) (hok : (m.del a h).1 = .ok ()) :
    ∃ v', v.Delisted v' a.network a.podName ∧ (m.del a h).2.Holds m.settings.rootDir base v' := by
  obtain ⟨h₁, hopen, hh₁, -⟩ := hs.opens
  unfold del at ht hok ⊢
  rw [run_bind, run_lift] at ht hok ⊢
  rcases m.resolve_eq a h with ⟨binary, hi, hb, -⟩ | ⟨fault, hf, -⟩
  · rw [hi] at ht hok ⊢
    dsimp only at ht hok ⊢
    have hbody : ∀ ids, (m.cleanUp (m.settings.instanceOf binary a) a).Meets base
        (· = { h₁ with held := ids })
        (fun _ k => ∃ v', v.Delisted v' a.network a.podName ∧
          k.Holds m.settings.rootDir base v')
        (fun _ _ => True) := by
      intro ids
      refine (m.cleanUp_delists rfl hb a).mono ?_ (fun _ _ hq => hq) fun _ _ he => he
      rintro k rfl
      exact hh₁.of_disk rfl
    have hlocked := locked_meets hopen hbody
      (fun _ k ids ⟨v', hdel, hk⟩ => ⟨v', hdel, hk.of_disk rfl⟩) (fun _ _ _ _ => trivial)
      fun _ _ => trivial
    exact (hlocked.holds h rfl ht).1 () hok
  · rw [hf] at hok
    cases hok

end Delisted

/-! ## The files in step with the ledger -/

/-- The networks are those of a ledger: there are those that have a line, and the hosts file of each
has exactly its lines. -/
structure Ledger.Refined (L : Ledger) (v : Shelf) : Prop where
  /-- A network is there just if it has a line. -/
  isNetwork : ∀ n, v.isNetwork n = true ↔ L.lines n ≠ []
  /-- Its hosts file has its lines. -/
  hosts : ∀ n, L.lines n ≠ [] → v.text? n hostsName = some (L.text n)
  /-- The lines are read back as they are. -/
  sound : ∀ n, ∀ x ∈ L.lines n, x.IsSound

/-- A pod that is added can be registered. -/
def Move.IsRegistrable : Move → Prop
  | .add a => a.IsRegistrable
  | .del _ => True
  | .kill _ => True

instance (move : Move) : Decidable move.IsRegistrable :=
  match move with
  | .add a => inferInstanceAs (Decidable a.IsRegistrable)
  | .del _ => isTrue trivial
  | .kill _ => isTrue trivial

/-- A move of a run that the ledger is kept in: its pod can be registered, it succeeds, and daemons
that are started write no file of a network but its pid file. -/
def Mesh.Lists (m : Mesh) (base : Location) (h : Host) (move : Move) : Prop :=
  move.IsRegistrable ∧ (m.perform move h).1 = .ok () ∧ Host.Tame base h (m.step h move)

instance (m : Mesh) (base : Location) (h : Host) (move : Move) : Decidable (m.Lists base h move) :=
  inferInstanceAs (Decidable (_ ∧ _ ∧ _))

namespace Sample

/-- Two pods join a network, and one with the name of the first joins another one and leaves. -/
def listedMoves : List Move :=
  [.add (pod "a" "x" "p" (octets 10 1 0 1)), .add (pod "a" "x" "q" (octets 10 1 0 1)),
    .add (pod "b" "y" "p" (octets 10 2 0 1)), .del (pod "b" "y" "p" (octets 10 2 0 1))]

end Sample

section Runs

variable {m : Mesh} {base : Location} {h : Host} {v v' : Shelf} {L : Ledger} {a : Attachment}
  {moves : List Move}

namespace Ledger

/-- Without networks there are no lines. -/
lemma refined_empty : empty.Refined .empty :=
  ⟨fun _ => by simp [empty, Shelf.empty], fun _ hn => absurd rfl hn, fun _ _ hx => by cases hx⟩

/-- One network with other lines.

**Proof sketch.** Network by network: the one whose lines are set is told by the hypotheses, and
any other one is as before on both sides. -/
lemma Refined.set {n : Text} {xs : List Listing} (hL : L.Refined v)
    (hsame : ∀ p ≠ n, v'.isNetwork p = v.isNetwork p ∧ v'.text? p hostsName = v.text? p hostsName)
    (hnet : v'.isNetwork n = true ↔ xs ≠ [])
    (hhosts : xs ≠ [] → v'.text? n hostsName = some (Text.unlines (xs.map Listing.line)))
    (hsound : ∀ x ∈ xs, x.IsSound) : (L.set n xs).Refined v' := by
  refine ⟨fun p => ?_, fun p hp => ?_, fun p x hx => ?_⟩ <;> by_cases hpn : p = n
  · rw [hpn, lines_set_self]
    exact hnet
  · rw [(hsame p hpn).1, L.lines_set_of_ne hpn]
    exact hL.isNetwork p
  · rw [hpn, lines_set_self] at hp
    rw [hpn, text, lines_set_self]
    exact hhosts hp
  · rw [L.lines_set_of_ne hpn] at hp
    rw [(hsame p hpn).2, text, L.lines_set_of_ne hpn]
    exact hL.hosts p hp
  · rw [hpn, lines_set_self] at hx
    exact hsound x hx
  · rw [L.lines_set_of_ne hpn] at hx
    exact hL.sound p x hx

/-- **A pod added** is listed last.

**Proof sketch.** Entering the pod adds its lines at the end of the hosts file, and announcing the
network leaves hosts files alone. A network that was not there had no hosts file, and no lines in
the ledger. -/
theorem Refined.attached {root : Path} {i : Instance} {state : ProcessState} (hL : L.Refined v)
    (ha : a.IsRegistrable) (hi : i.network = a.network)
    (hnone : v.isNetwork a.network = false → v.text? a.network hostsName = none)
    (hatt : v.Attached root i a state v') : (L.step (.add a)).Refined v' := by
  have hlocal : hostsName ≠ localServersName := by decide
  have hown : hostsName ≠ ownServersName := by decide
  obtain ⟨v₁, he, hv'⟩ := hatt
  rw [hi] at he hv'
  -- announcing the network is no matter of hosts files
  have hsame : ∀ p, v'.isNetwork p = v₁.isNetwork p ∧
      v'.text? p hostsName = v₁.text? p hostsName := by
    intro p
    rcases hv' with ⟨-, rfl⟩ | ⟨-, -, names, known, -, rfl⟩
    · exact ⟨rfl, rfl⟩
    · refine ⟨rfl, ?_⟩
      unfold Propagation.published
      rw [Shelf.text?_write_of_ne _ fun hf => hlocal hf.2, Shelf.text?_revise_of_ne hlocal,
        Shelf.text?_write_of_ne _ fun hf => hown hf.2]
  have hlisted : L.lines a.network ++ a.listings ≠ [] := by
    refine List.append_ne_nil_of_right_ne_nil _ fun hnil => ha.addresses ?_
    exact List.map_eq_nil_iff.mp hnil
  have hbefore : (v.text? a.network hostsName).getD [] = L.text a.network := by
    by_cases hn : L.lines a.network = []
    · have hgone : v.isNetwork a.network = false := by
        rw [← Bool.not_eq_true, hL.isNetwork]
        exact fun hne => hne hn
      rw [hnone hgone, Option.getD_none, text, hn]
      rfl
    · rw [hL.hosts _ hn, Option.getD_some]
  refine hL.set (fun p hp => ?_) ?_ (fun _ => ?_) fun x hx => ?_
  · rw [(hsame p).1, (hsame p).2]
    exact ⟨he.isNetwork_of_ne p hp, he.text_of_ne p hp _⟩
  · rw [(hsame _).1]
    exact ⟨fun _ => hlisted, fun _ => he.isNetwork⟩
  · rw [(hsame _).2, he.hosts, hbefore, a.entry_eq, List.map_append, Text.unlines_append]
    rfl
  · exact (List.mem_append.mp hx).elim (hL.sound _ x) (ha.isSound x)

/-- **A pod deleted** loses its lines, and the last of them takes the network with it.

**Proof sketch.** What is left of the hosts file are the lines of the ledger that are not the
pod's, since each line is read back as its pod's. If none is left, the network is gone in both. -/
theorem Refined.delisted (hL : L.Refined v) (hdel : v.Delisted v' a.network a.podName) :
    (L.step (.del a)).Refined v' := by
  rw [step]
  generalize hxs : (L.lines a.network).filter (fun x => x.pod ≠ a.podName) = xs
  -- what the file is left with are the lines that the ledger is left with
  have hkept : L.lines a.network ≠ [] → ∀ t, v.text? a.network hostsName = some t →
      HostsFile.without a.podName t = xs.map Listing.line := by
    intro hn t ht
    rw [hL.hosts _ hn] at ht
    rw [← Option.some.inj ht, text, HostsFile.without_unlines (hL.sound _), hxs]
  have hleft : (v'.isNetwork a.network = true ↔ xs ≠ []) ∧ (xs ≠ [] →
      v'.text? a.network hostsName = some (Text.unlines (xs.map Listing.line))) := by
    by_cases hn : L.lines a.network = []
    · have hnil : xs = [] := by
        rw [← hxs, hn]
        rfl
      have hgone : v'.isNetwork a.network = false := by
        rcases hdel.left with ⟨t, -, -, hsame, -⟩ | ⟨-, hgone⟩
        · rw [hsame, ← Bool.not_eq_true, hL.isNetwork]
          exact fun hne => hne hn
        · exact hgone
      simp [hgone, hnil]
    · rcases hdel.left with ⟨t, ht, hne, hsame, htext⟩ | ⟨hall, hgone⟩
      · rw [hkept hn t ht] at hne htext
        have hxs' : xs ≠ [] := fun hnil => hne (by rw [hnil]; rfl)
        rw [hsame, (hL.isNetwork a.network).mpr hn]
        exact ⟨⟨fun _ => hxs', fun _ => rfl⟩, fun _ => htext⟩
      · have hnone := hall _ (hL.hosts _ hn)
        rw [hkept hn _ (hL.hosts _ hn), List.map_eq_nil_iff] at hnone
        simp [hgone, hnone]
  refine hL.set (fun p hp => ⟨hdel.isNetwork_of_ne p hp, hdel.hosts_of_ne p hp⟩) hleft.1 hleft.2 ?_
  intro x hx
  rw [← hxs] at hx
  exact hL.sound _ x (List.mem_of_mem_filter hx)

/-- One move on the disk is one move on the ledger.

**Proof sketch.** An attachment that has succeeded has appended its lines, and a detachment has
taken them out. A kill changes neither the disk nor the ledger. -/
theorem Refined.step {move : Move} (hL : L.Refined v) (hs : m.Stores base v h)
    (hmove : m.Lists base h move) :
    ∃ v', m.Stores base v' (m.step h move) ∧ (L.step move).Refined v' := by
  obtain ⟨hlistable, hok, ht⟩ := hmove
  cases move with
  | add a =>
    obtain ⟨servers, hok⟩ := Mesh.perform_add_eq_ok_iff.mp hok
    rw [Mesh.step_add] at ht ⊢
    obtain ⟨binary, state, v', hatt, hk, -⟩ := hs.add_ok ht hok
    exact ⟨v', .inl hk, hL.attached hlistable rfl (fun hn => hs.text?_eq_none hn _) hatt⟩
  | del a =>
    obtain ⟨v', hdel, hk⟩ := hs.del_delists ht hok
    exact ⟨v', .inl hk, hL.delisted hdel⟩
  | kill pid => exact ⟨v, hs.kill pid, hL⟩

/-- A run on the disk is a run on the ledger. -/
theorem Refined.play (hL : L.Refined v) (hs : m.Stores base v h)
    (hrun : m.Along (m.Lists base) h moves) :
    ∃ v', m.Stores base v' (m.play h moves) ∧ (L.play moves).Refined v' := by
  induction moves generalizing h v L with
  | nil => exact ⟨v, hs, hL⟩
  | cons move moves ih =>
    obtain ⟨v₁, hs₁, hL₁⟩ := hL.step hs hrun.1
    exact ih hL₁ hs₁ hrun.2

end Ledger

/-- **The hosts files refine the ledger.** After any run from an empty root in which every pod that
is added can be registered and every operation succeeds, there are exactly the networks that have a
line in the ledger, and the hosts file of each is its lines in order, each ended by a line feed.

**Proof sketch.** By induction on the run with `ResolverMesh.Ledger.Refined` as invariant. An
attachment appends what the ledger lists. A detachment writes the lines of the file that are neither
blank nor the pod's by their second field, and the second field of a line in the ledger is the name
that it was entered for, since neither names nor aliases hold blanks. -/
theorem hosts_files_refine_ledger (h₀ : m.StartsEmpty base h)
    (hrun : m.Along (m.Lists base) h moves) (n : Text) :
    ((m.play h moves).disk.HasNetwork base n ↔ (Ledger.empty.play moves).lines n ≠ []) ∧
      ((Ledger.empty.play moves).lines n ≠ [] →
        (m.play h moves).disk.fileText base n hostsName =
          some ((Ledger.empty.play moves).text n)) := by
  obtain ⟨v, hs, hL⟩ := Ledger.refined_empty.play (.inr ⟨rfl, h₀⟩) hrun
  refine ⟨hs.hasNetwork_iff.trans (hL.isNetwork n), fun hn => ?_⟩
  rw [← hL.hosts n hn, ← hs.shelf_eq]
  exact (text?_shelf_eq (by decide) n).symm

end Runs

/-- The hosts files after a run in which one network has two pods and another has lost its only
one.

**Proof sketch.** The ledger is played on the moves alone, and the theorem carries its lines over
to the disk. -/
theorem hosts_files_refine_ledger_of_deleted :
    Sample.mesh.Along (Sample.mesh.Lists Sample.base) (Sample.host [Sample.daemon])
        Sample.listedMoves ∧
      (Sample.mesh.play (Sample.host [Sample.daemon]) Sample.listedMoves).disk.fileText Sample.base
          "a".toList hostsName = some "10.9.0.5\tp\n10.9.0.5\tq\n".toList ∧
      ¬ (Sample.mesh.play (Sample.host [Sample.daemon]) Sample.listedMoves).disk.HasNetwork
          Sample.base "b".toList := by
  have hrun : Sample.mesh.Along (Sample.mesh.Lists Sample.base) (Sample.host [Sample.daemon])
      Sample.listedMoves := by decide +kernel
  have hlines : (Ledger.empty.play Sample.listedMoves).lines "a".toList =
      [⟨"p".toList, "10.9.0.5\tp".toList⟩, ⟨"q".toList, "10.9.0.5\tq".toList⟩] := by
    decide +kernel
  have hgone : (Ledger.empty.play Sample.listedMoves).lines "b".toList = [] := by decide +kernel
  have hfirst := hosts_files_refine_ledger (Sample.startsEmpty _) hrun "a".toList
  have hsecond := hosts_files_refine_ledger (Sample.startsEmpty _) hrun "b".toList
  refine ⟨hrun, ?_, fun hb => hsecond.1.mp hb hgone⟩
  rw [hfirst.2 (by rw [hlines]; simp), Ledger.text, hlines]
  rfl

end ResolverMesh
