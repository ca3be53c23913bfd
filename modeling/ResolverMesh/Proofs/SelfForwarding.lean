import ResolverMesh.Proofs.MeshInvariant

set_option autoImplicit false
set_option relaxedAutoImplicit false

/-!
# Networks that forward to themselves

No daemon should forward the questions about its own domain. When a network is announced it learns
what its siblings know, and among that may be its own lines: those that it publishes now are taken
out again, but a line for a nameserver that it had before is not. So no network forwards to itself
just as long as no attachment lets a network learn such a line from a sibling.

## Main definitions

* `ResolverMesh.Zones` — the domains of the networks.
* `ResolverMesh.Zones.Outward` — no network forwards to itself.
* `ResolverMesh.Mesh.Relearns` — an attachment lets a network learn a line of its own.

## Main results

* `ResolverMesh.Zones.Outward.attached_iff`, `ResolverMesh.Zones.Outward.detached` — the two
  operations.
* `ResolverMesh.no_self_forwarding_iff` — when no network of a run forwards to itself.
-/

namespace ResolverMesh

open Disk Propagation

/-- The domains of the networks: each belongs to one network. -/
structure Zones where
  /-- The domain of a network. -/
  domain : Text → Text
  /-- No domain holds a slash. -/
  slash : ∀ n, '/' ∉ domain n
  /-- No domain holds a line feed. -/
  newline : ∀ n, '\n' ∉ domain n
  /-- No two networks have the same domain. -/
  injective : Function.Injective domain

/-- The domains of a roster, without its nameservers. -/
def Roster.zones (R : Roster) : Zones :=
  ⟨R.domain, R.slash, R.newline, R.injective⟩

/-- A daemon is not running, and a sibling of its network knows a line for the network's domain
that is none of those of the attachment. -/
def Mesh.Relearns (m : Mesh) (base : Location) (h : Host) : Move → Prop
  | .add a => ¬ m.Runs base h a.network ∧ ∃ p ≠ a.network, h.disk.HasNetwork base p ∧
      ∃ l ∈ (h.disk.shelf base).forwarders p, Forwarders.scope? l = some a.domain ∧
        l ∉ Forwarders.scopedLines a.domain a.servers
  | _ => False

/-! ## What lines claim -/

namespace Forwarders

/-- A server for everything has neither a slash nor a line feed. -/
def IsUpstream (s : Text) : Prop :=
  '/' ∉ s ∧ '\n' ∉ s

instance (s : Text) : Decidable (IsUpstream s) :=
  inferInstanceAs (Decidable (_ ∧ _))

section Claims

variable {servers : List Text} {d e t : Text}

/-- Lines for everything hold no slash and no line feed. -/
lemma not_mem_plainLine {s : Text} (hs : IsUpstream s) {c : Char} (hc : c = '/' ∨ c = '\n') :
    c ∉ plainLine s := by
  have hkey : c ∉ "server=".toList := by rcases hc with rfl | rfl <;> decide
  unfold plainLine
  rw [List.mem_append]
  rintro (hm | hm)
  · exact hkey hm
  · rcases hc with rfl | rfl
    · exact hs.1 hm
    · exact hs.2 hm

/-- Lines for everything claim nothing. -/
lemma claims_plainLines (hs : ∀ s ∈ servers, IsUpstream s) :
    claims (plainLines servers) d = false := by
  refine claims_eq_false_of_not_mem (fun l hl => ?_) d
  obtain ⟨s, hsm, rfl⟩ := List.mem_map.mp hl
  exact not_mem_plainLine (hs s hsm) (.inl rfl)

/-- Lines for a domain claim no other one. -/
lemma claims_scopedLines_of_ne (hd : '/' ∉ d) (he : e ≠ d) :
    claims (scopedLines d servers) e = false := by
  rw [← Bool.not_eq_true, claims_scopedLines hd]
  exact fun h => he h.2

/-- Servers for everything do not add to what a file claims.

**Proof sketch.** The file is written anew only if servers are new. What is read back of it then
claims what was claimed and what the servers' lines claim, which is nothing. -/
lemma claims_withPlain (hs : ∀ s ∈ servers, IsUpstream s) :
    claims (ofText (withPlain t servers)) d = claims (ofText t) d := by
  unfold withPlain
  dsimp only
  split
  · rw [claims_ofText_toText, claims_merge, claims_plainLines hs, Bool.or_false]
    intro l hl
    rcases mem_merge.mp hl with hl | hl
    · exact (of_mem_ofText hl).2
    · obtain ⟨s, hsm, rfl⟩ := List.mem_map.mp hl
      exact not_mem_plainLine (hs s hsm) (.inr rfl)
  · rfl

end Claims

end Forwarders

namespace Zones

/-- No network forwards the questions about its own domain. -/
def Outward (Z : Zones) (v : Shelf) : Prop :=
  ∀ n, v.isNetwork n = true → Forwarders.claims (v.forwarders n) (Z.domain n) = false

/-- Without networks none forwards to itself. -/
lemma outward_empty (Z : Zones) : Z.Outward .empty :=
  fun _ hn => (Bool.false_ne_true hn).elim

/-- An attachment for the domain of its network, which is made known to the others. -/
structure Fits (Z : Zones) (a : Attachment) : Prop where
  /-- The domain is that of the network. -/
  domain : a.domain = Z.domain a.network
  /-- The network is made known to the others. -/
  multiDomain : a.multiDomain = true

instance (Z : Zones) (a : Attachment) : Decidable (Z.Fits a) :=
  decidable_of_iff (a.domain = Z.domain a.network ∧ a.multiDomain = true)
    ⟨fun h => ⟨h.1, h.2⟩, fun h => ⟨h.1, h.2⟩⟩

section Operations

variable {Z : Zones} {root : Path} {v v₁ v' : Shelf} {n p : Text} {a : Attachment}
  {names known : List Text}

/-- The lines of an attachment hold no line feed. -/
lemma Fits.newline (hfits : Z.Fits a) {l : Text}
    (hl : l ∈ Forwarders.scopedLines a.domain a.servers) : '\n' ∉ l := by
  refine (Forwarders.isClean_of_mem_scopedLines ?_ hl).newline
  rw [hfits.domain]
  exact Z.newline _

/-- What a network forwards to that a pod has been entered into: servers for everything are added
at most. -/
lemma claims_entered (he : v.Entered v₁ n a)
    (hplain : ∀ s ∈ a.defaultServers, Forwarders.IsUpstream s) (d : Text) :
    Forwarders.claims (v₁.forwarders n) d = Forwarders.claims (v.forwarders n) d := by
  unfold Shelf.forwarders
  rw [he.forwarders]
  exact Forwarders.claims_withPlain hplain

/-- A network that has no file of forwarders, or none for itself in it. -/
lemma Outward.claims_eq_false (h : Z.Outward v)
    (hfiles : v.isNetwork n = false → v.text? n localServersName = none) :
    Forwarders.claims (v.forwarders n) (Z.domain n) = false := by
  cases hn : v.isNetwork n with
  | true => exact h n hn
  | false =>
    unfold Shelf.forwarders
    rw [hfiles hn]
    rfl

/-- What a sibling forwards to once the lines of an attachment have been made known to it.

**Proof sketch.** The lines of the attachment are for another domain, so merging them in does not
change which domains are claimed. A file that is not revised holds what it held. -/
lemma claims_published_of_ne (hfits : Z.Fits a) (hp : p ∈ names) (hne : p ≠ a.network) :
    Forwarders.claims ((Propagation.published v a.network
        (Forwarders.scopedLines a.domain a.servers) names known).forwarders p) (Z.domain p) =
      Forwarders.claims (v.forwarders p) (Z.domain p) := by
  have hown : Forwarders.claims (Forwarders.scopedLines a.domain a.servers) (Z.domain p) =
      false := by
    refine Forwarders.claims_scopedLines_of_ne ?_ ?_ <;> rw [hfits.domain]
    · exact Z.slash _
    · exact fun he => hne (Z.injective he)
  have hrevised : (Propagation.published v a.network (Forwarders.scopedLines a.domain a.servers)
      names known).forwarders p = (v.revise names fun q => Forwarders.merge (v.forwarders q)
        (Forwarders.scopedLines a.domain a.servers)).forwarders p := by
    unfold Shelf.forwarders
    rw [text?_published_of_ne hne]
    rfl
  rw [hrevised, forwarders_revise_of_mem hp]
  split
  · rw [Forwarders.claims_ofText_toText, Forwarders.claims_merge, hown, Bool.or_false]
    intro l hl
    rcases Forwarders.mem_merge.mp hl with hl | hl
    · exact (Forwarders.of_mem_ofText hl).2
    · exact hfits.newline hl
  · rfl

/-- **What a network has learnt for itself** when it is announced: the lines for its domain that a
sibling knows and that are none of its own.

**Proof sketch.** A line for the own domain that has been learnt was not there before and is none
of its own. So a sibling published it or knew it. The first would have stopped the announcement. -/
lemma claims_published_self_iff (hfits : Z.Fits a)
    (hnone : Forwarders.claims (v.forwarders a.network) (Z.domain a.network) = false)
    (hsight : Sighting root v a.domain names (v.forwarders a.network) known) :
    Forwarders.claims ((Propagation.published v a.network
        (Forwarders.scopedLines a.domain a.servers) names known).forwarders a.network)
          (Z.domain a.network) = true ↔
      ∃ p ∈ names, ∃ l ∈ v.forwarders p, Forwarders.scope? l = some a.domain ∧
        l ∉ Forwarders.scopedLines a.domain a.servers := by
  have hfor : (Propagation.published v a.network (Forwarders.scopedLines a.domain a.servers)
      names known).forwarders a.network = Forwarders.ofText (Forwarders.toText
        (Forwarders.remove known (Forwarders.scopedLines a.domain a.servers)).lines) := by
    unfold Shelf.forwarders
    rw [text?_published_local]
    rfl
  have hnewline : ∀ l ∈ known, '\n' ∉ l := by
    intro l hl
    rcases (hsight.mem_known l).mp hl with hl | ⟨p, -, hl | hl⟩ <;>
      exact (Forwarders.of_mem_ofText hl).2
  rw [hfor, Forwarders.claims_ofText_toText fun l hl =>
    hnewline l ((Forwarders.remove_sublist _ _).subset hl), Forwarders.claims_iff, ← hfits.domain]
  rw [← hfits.domain, ← Bool.not_eq_true, Forwarders.claims_iff] at hnone
  constructor
  · rintro ⟨l, hl, hscope⟩
    have hlearnt := (Forwarders.remove_sublist _ _).subset hl
    have hnew : l ∉ v.forwarders a.network := fun hm => hnone ⟨l, hm, hscope⟩
    rcases (hsight.mem_known l).mp hlearnt with hm | ⟨p, hp, hm | hm⟩
    · exact absurd hm hnew
    · -- a sibling that publishes such a line would have stopped the attachment
      have hclaims : Forwarders.claims (v.published p) a.domain = true :=
        Forwarders.claims_iff.mpr ⟨l, hm, hscope⟩
      rw [hsight.unclaimed p hp] at hclaims
      cases hclaims
    · refine ⟨p, hp, l, hm, hscope, fun hown => ?_⟩
      -- the line was learnt once, so that no copy would be left
      have hcount := hsight.count_le l
      have hpos := List.count_pos_iff.mpr hown
      rw [List.count_eq_zero_of_not_mem hnew] at hcount
      rw [← List.count_pos_iff, Forwarders.count_remove] at hl
      omega
  · rintro ⟨p, hp, l, hm, hscope, hown⟩
    refine ⟨l, ?_, hscope⟩
    exact (Forwarders.mem_remove_of_not_mem hown).mpr
      ((hsight.mem_known l).mpr (.inr ⟨p, hp, .inr hm⟩))

/-- **A pod attached** keeps the networks from forwarding to themselves, just if its network does
not learn a line of its own.

**Proof sketch.** Entering the pod changes no file but the network's own, and that by plain servers
only. If there is no announcement, that is all. Otherwise `claims_published_of_ne` speaks of the
siblings, and `claims_published_self_iff` of the network. -/
theorem Outward.attached_iff (h : Z.Outward v) (hfits : Z.Fits a)
    (hplain : ∀ s ∈ a.defaultServers, Forwarders.IsUpstream s)
    (hfiles : v.isNetwork a.network = false → v.text? a.network localServersName = none)
    {s : Settings} {binary : Path} {state : ProcessState}
    (ha : v.Attached root (s.instanceOf binary a) a state v') :
    Z.Outward v' ↔ ¬ (state = .notRunning ∧ ∃ p ≠ a.network, v.isNetwork p = true ∧
      ∃ l ∈ v.forwarders p, Forwarders.scope? l = some a.domain ∧
        l ∉ Forwarders.scopedLines a.domain a.servers) := by
  obtain ⟨v₁, he, hcase⟩ := ha
  have he : v.Entered v₁ a.network a := he
  have hfor : ∀ p ≠ a.network, v₁.forwarders p = v.forwarders p := by
    intro p hp
    unfold Shelf.forwarders
    rw [he.text_of_ne p hp]
  have hself : Forwarders.claims (v₁.forwarders a.network) (Z.domain a.network) = false := by
    rw [claims_entered he hplain]
    exact h.claims_eq_false hfiles
  have hentered : Z.Outward v₁ := by
    intro p hp
    by_cases hpa : p = a.network
    · rw [hpa]
      exact hself
    · rw [hfor p hpa]
      rw [he.isNetwork_of_ne p hpa] at hp
      exact h p hp
  have hmulti : (s.instanceOf binary a).multiDomain = true := hfits.multiDomain
  rcases hcase with ⟨hrun, rfl⟩ | ⟨-, hstate, names, known, hann, rfl⟩
  · exact ⟨fun _ hlearns => hrun hmulti hlearns.1, fun _ => hentered⟩
  · change Z.Outward (Propagation.published v₁ a.network
      (Forwarders.scopedLines a.domain a.servers) names known) ↔ _
    have hsib : Siblings v₁ a.network names := hann.siblings
    have hlearns := claims_published_self_iff hfits hself hann.sighting
    have hthere : (∃ p ∈ names, ∃ l ∈ v₁.forwarders p, Forwarders.scope? l = some a.domain ∧
          l ∉ Forwarders.scopedLines a.domain a.servers) ↔
        ∃ p ≠ a.network, v.isNetwork p = true ∧ ∃ l ∈ v.forwarders p,
          Forwarders.scope? l = some a.domain ∧
            l ∉ Forwarders.scopedLines a.domain a.servers := by
      constructor
      · rintro ⟨p, hp, l, hl⟩
        obtain ⟨hpnet, hpa⟩ := (hsib.mem_iff p).mp hp
        rw [he.isNetwork_of_ne p hpa] at hpnet
        rw [hfor p hpa] at hl
        exact ⟨p, hpa, hpnet, l, hl⟩
      · rintro ⟨p, hpa, hpnet, l, hl⟩
        rw [← he.isNetwork_of_ne p hpa] at hpnet
        rw [← hfor p hpa] at hl
        exact ⟨p, (hsib.mem_iff p).mpr ⟨hpnet, hpa⟩, l, hl⟩
    rw [← hthere, ← hlearns]
    constructor
    · rintro hout ⟨-, hclaims⟩
      rw [hout a.network he.isNetwork] at hclaims
      cases hclaims
    · intro hno p hp
      by_cases hpa : p = a.network
      · rw [hpa, ← Bool.not_eq_true]
        exact fun hclaims => hno ⟨hstate, hclaims⟩
      · rw [claims_published_of_ne hfits ((hsib.mem_iff p).mpr ⟨hp, hpa⟩) hpa]
        exact hentered p hp

/-- **A pod detached** lets no network forward to itself: lines are taken away, and no more.

**Proof sketch.** Removing lines leaves a part of them, which claims no more domains. A network
that is gone has no files. -/
theorem Outward.detached (h : Z.Outward v) {i : Instance} (hd : v.Detached i a v') :
    Z.Outward v' := by
  rcases hd with ⟨t, rfl⟩ | ⟨names, hsib, rfl⟩
  · intro p hp
    unfold Shelf.forwarders
    rw [Shelf.text?_write_of_ne v fun he => absurd he.2 (by decide)]
    exact h p hp
  · have hrevised : Z.Outward (v.revise names fun q => Forwarders.remove (v.forwarders q)
        (Forwarders.scopedLines i.domain a.servers)) := by
      intro p hp
      by_cases hmem : p ∈ names
      · rw [forwarders_revise_of_mem hmem]
        have hsub := Forwarders.remove_sublist (v.forwarders p)
          (Forwarders.scopedLines i.domain a.servers)
        split
        · rw [Forwarders.claims_ofText_toText fun l hl =>
            (Forwarders.of_mem_ofText (hsub.subset hl)).2]
          have hnone := h p hp
          rw [← Bool.not_eq_true, Forwarders.claims_iff] at hnone ⊢
          exact fun ⟨l, hl, hscope⟩ => hnone ⟨l, hsub.subset hl, hscope⟩
        · exact h p hp
      · rw [forwarders_revise_of_not_mem hmem]
        exact h p hp
    have hbefore : Z.Outward (if i.multiDomain then v.revise names fun q =>
        Forwarders.remove (v.forwarders q) (Forwarders.scopedLines i.domain a.servers) else v) := by
      split
      · exact hrevised
      · exact h
    generalize (if i.multiDomain then v.revise names fun q =>
      Forwarders.remove (v.forwarders q) (Forwarders.scopedLines i.domain a.servers) else v) = w
      at hbefore ⊢
    intro p hp
    obtain ⟨hpi, hpnet⟩ : p ≠ i.network ∧ w.isNetwork p = true := by
      simpa [Shelf.removeNetwork] using hp
    unfold Shelf.forwarders
    rw [Shelf.text?_removeNetwork_of_ne hpi]
    exact hbefore p hpnet

end Operations

/-! ## Runs -/

/-- A move that keeps to the domains, with servers for everything that a line can name. -/
def Allows (Z : Zones) : Move → Prop
  | .add a => Z.Fits a ∧ ∀ s ∈ a.defaultServers, Forwarders.IsUpstream s
  | .del a => Z.Fits a
  | .kill _ => True

instance (Z : Zones) (move : Move) : Decidable (Z.Allows move) :=
  match move with
  | .add a =>
    inferInstanceAs (Decidable (Z.Fits a ∧ ∀ s ∈ a.defaultServers, Forwarders.IsUpstream s))
  | .del a => inferInstanceAs (Decidable (Z.Fits a))
  | .kill _ => isTrue trivial

/-- A move that keeps to the domains and succeeds, where daemons that are started write no file of
a network but its pid file. The nameservers may be others each time. -/
def Plays (Z : Zones) (m : Mesh) (base : Location) (h : Host) (move : Move) : Prop :=
  Z.Allows move ∧ (m.perform move h).1 = .ok () ∧ Host.Tame base h (m.step h move)

instance (Z : Zones) (m : Mesh) (base : Location) (h : Host) (move : Move) :
    Decidable (Z.Plays m base h move) :=
  inferInstanceAs (Decidable (_ ∧ _ ∧ _))

end Zones

namespace Sample

/-- A pod with another nameserver for the domain of its network. -/
def renumberedPod : Attachment := pod "a" "x" "r" (octets 10 1 0 9)

/-- The daemon of a network is killed, and the network announced anew with another nameserver. -/
def renumberedMoves : List Move :=
  [.add (pod "a" "x" "p" (octets 10 1 0 1)), .add (pod "b" "y" "q" (octets 10 2 0 1)), .kill 101,
    .add renumberedPod]

end Sample

section Runs

variable {m : Mesh} {Z : Zones} {base : Location} {h : Host} {v : Shelf} {moves : List Move}

/-- **A move of such a run** after which no network forwards to itself: one that does not let a
network learn a line of its own.

**Proof sketch.** An attachment has entered its pod and announced it as `Outward.attached_iff`
asks. A detachment takes lines away, and a kill changes no file. -/
theorem Mesh.Stores.outward_iff (hs : m.Stores base v h) (hv : Z.Outward v) {move : Move}
    (hplays : Z.Plays m base h move) :
    Z.Outward ((m.step h move).disk.shelf base) ↔ ¬ m.Relearns base h move := by
  obtain ⟨hallows, hok, ht⟩ := hplays
  cases move with
  | add a =>
    obtain ⟨servers, hok⟩ := Mesh.perform_add_eq_ok_iff.mp hok
    obtain ⟨hfits, hplain⟩ := hallows
    rw [Mesh.step_add] at ht ⊢
    obtain ⟨binary, state, v', hatt, hk, hstate⟩ := hs.add_ok ht hok
    unfold Relearns
    dsimp only
    simp only [hk.shelf_eq, hs.shelf_eq, hs.hasNetwork_iff, ← hstate]
    exact hv.attached_iff hfits hplain (fun hn => hs.text?_eq_none hn _) hatt
  | del a =>
    obtain ⟨binary, v', hdet, hk⟩ := hs.del_ok ht hok
    rw [Mesh.step_del, hk.shelf_eq]
    exact ⟨fun _ hfalse => hfalse, fun _ => hv.detached hdet⟩
  | kill pid =>
    rw [(hs.kill pid).shelf_eq]
    exact ⟨fun _ hfalse => hfalse, fun _ => hv⟩

/-- **No network forwards to itself**, after every move of a run from an empty root in which each
network keeps its domain and every operation succeeds, just as long as no attachment of the run
lets a network learn a line of its own: its daemon is not running, and a sibling knows a line for
its domain that the attachment does not bring.

**Proof sketch.** By induction on the run. A network that is announced learns what its siblings
know and takes the lines of the attachment out again, of which it has learnt one copy each. What is
left for its own domain are the other lines that a sibling knows for it. -/
theorem no_self_forwarding_iff (h₀ : m.StartsEmpty base h)
    (hrun : m.Along (Z.Plays m base) h moves) :
    m.Along (fun k move => Z.Outward ((m.step k move).disk.shelf base)) h moves ↔
      m.Along (fun k move => ¬ m.Relearns base k move) h moves := by
  refine hrun.iff_of_step (I := fun k => ∃ v, m.Stores base v k ∧ Z.Outward v) ?_
    ⟨_, .inr ⟨rfl, h₀⟩, Z.outward_empty⟩
  rintro k move ⟨v, hs, hv⟩ hplays
  obtain ⟨v', hs', -⟩ := hs.step move hplays.2.2
  refine ⟨hs.outward_iff hv hplays, fun hq => ⟨v', hs', ?_⟩⟩
  rw [← hs'.shelf_eq]
  exact hq

/-- A network that is announced with another nameserver learns its old line from a sibling.

**Proof sketch.** At the move that attaches with another nameserver, the daemon does not run and
the sibling knows the old line. This is what the run theorem excludes. -/
theorem no_self_forwarding_iff_of_renumbered :
    Sample.mesh.Along (Sample.roster.zones.Plays Sample.mesh Sample.base)
        (Sample.host [Sample.daemon]) Sample.renumberedMoves ∧
      ¬ Sample.mesh.Along (fun k move => Sample.roster.zones.Outward
          ((Sample.mesh.step k move).disk.shelf Sample.base))
        (Sample.host [Sample.daemon]) Sample.renumberedMoves := by
  -- all that is read off the run, so that it is made once
  have hread : Sample.mesh.Along (fun k move =>
      Sample.roster.zones.Plays Sample.mesh Sample.base k move ∧
        (move = .add Sample.renumberedPod →
          Sample.mesh.stateOf k Sample.renumberedPod.network = .notRunning ∧
            k.disk.HasNetwork Sample.base "b".toList ∧
            "server=/x/10.1.0.1".toList ∈ (k.disk.shelf Sample.base).forwarders "b".toList))
      (Sample.host [Sample.daemon]) Sample.renumberedMoves := by decide +kernel
  have hrun : Sample.mesh.Along (Sample.roster.zones.Plays Sample.mesh Sample.base)
      (Sample.host [Sample.daemon]) Sample.renumberedMoves :=
    hread.of_invariant (I := fun _ => True) (fun _ _ _ hmove => ⟨trivial, hmove.1⟩) trivial
  have hother : "server=/x/10.1.0.1".toList ∉ Forwarders.scopedLines
      Sample.renumberedPod.domain Sample.renumberedPod.servers := by decide +kernel
  refine ⟨hrun, fun houtward => ?_⟩
  obtain ⟨-, -, -, hno, -⟩ :=
    (no_self_forwarding_iff (Sample.startsEmpty _) hrun).mp houtward
  obtain ⟨-, -, -, ⟨-, hfacts⟩, -⟩ := hread
  obtain ⟨hstate, hb, hline⟩ := hfacts rfl
  exact hno ⟨fun hruns => hruns.2 hstate, _, by decide, hb, _, hline, by decide +kernel, hother⟩

end Runs

end ResolverMesh
