import ResolverMesh.Proofs.Runs

set_option autoImplicit false
set_option relaxedAutoImplicit false

/-!
# Domains claimed by one network each

A network claims the domains of the forwarders that it publishes. The claim of an attachment is
written before the siblings are asked, and whether a rejected attachment takes it back depends on
what its undoing does: as long as other pods of the network are left, the claim stays. So no two
networks claim a domain just as long as no rejected claim is left behind.

## Main definitions

* `ResolverMesh.Shelf.Claims`, `ResolverMesh.Shelf.UniqueDomains` — a network claims a domain, and
  no other does.
* `ResolverMesh.Mesh.LeavesClaim` — an attachment leaves a rejected claim behind.

## Main results

* `ResolverMesh.Mesh.Stores.uniqueDomains_step` — a move that leaves no rejected claim.
* `ResolverMesh.Mesh.Stores.leavesClaim_iff` — when a rejected attachment leaves one.
* `ResolverMesh.unique_domains_iff` — when no two networks of a run claim a domain.
-/

namespace ResolverMesh

open Disk Propagation

/-- A network publishes a forwarder for a domain. -/
def Shelf.Claims (v : Shelf) (n domain : Text) : Prop :=
  v.isNetwork n = true ∧ Forwarders.claims (v.published n) domain = true

instance (v : Shelf) (n domain : Text) : Decidable (v.Claims n domain) :=
  inferInstanceAs (Decidable (_ ∧ _))

/-- No two networks claim a domain. -/
def Shelf.UniqueDomains (v : Shelf) : Prop :=
  ∀ n p domain, v.Claims n domain → v.Claims p domain → n = p

/-- An attachment that is made has a domain that a line can be for. -/
def Move.HasProperDomain : Move → Prop
  | .add a => '/' ∉ a.domain ∧ '\n' ∉ a.domain
  | _ => True

instance (move : Move) : Decidable move.HasProperDomain :=
  match move with
  | .add _ => inferInstanceAs (Decidable (_ ∧ _))
  | .del _ | .kill _ => isTrue trivial

/-- An attachment fails, and leaves its network with a claim that was another network's before. -/
def Mesh.LeavesClaim (m : Mesh) (base : Location) (h : Host) : Move → Prop
  | .add a => (∃ fault, (m.add a h).1 = .error fault) ∧
      ((m.add a h).2.disk.shelf base).Claims a.network a.domain ∧
      ∃ p ≠ a.network, (h.disk.shelf base).Claims p a.domain
  | _ => False

section Claims

variable {m : Mesh} {base : Location} {h : Host} {v v' : Shelf} {n p d : Text} {a : Attachment}

/-- Other networks claim what they claimed. -/
lemma Shelf.Evolves.claims_iff {written : Text → Prop} (he : v.Evolves v' n written)
    (hp : p ≠ n) : v'.Claims p d ↔ v.Claims p d := by
  unfold Shelf.Claims Shelf.published
  rw [he.isNetwork p hp, he.own_of_ne p hp]

/-- The network itself claims what it claimed, or what has been written.

**Proof sketch.** By what happened to its published file: it is gone and claims nothing, or it is
as before, or it holds what has been written. In the second case the network was there before, as
it had a file. -/
lemma Shelf.Evolves.claims {written : Text → Prop} (he : v.Evolves v' n written)
    (hfiles : v.isNetwork n = false → v.text? n ownServersName = none)
    (hc : v'.Claims n d) : v.Claims n d ∨ ∃ t, v'.text? n ownServersName = some t ∧ written t := by
  have hnil : ∀ {w : Shelf}, w.text? n ownServersName = none →
      Forwarders.claims (w.published n) d = false := by
    intro w hw
    unfold Shelf.published
    rw [hw]
    rfl
  rcases he.own with hown | hown | hown
  · rw [Shelf.Claims, hnil hown] at hc
    cases hc.2
  · left
    have hclaims : Forwarders.claims (v.published n) d = true := by
      have hc := hc.2
      unfold Shelf.published at hc ⊢
      rwa [hown] at hc
    refine ⟨?_, hclaims⟩
    by_contra hnet
    rw [hnil (hfiles (by simpa using hnet))] at hclaims
    cases hclaims
  · exact .inr hown

/-- What an attachment has written claims its domain, if it names any address. -/
lemma Attachment.claims_ownText (hslash : '/' ∉ a.domain) (hline : '\n' ∉ a.domain)
    (ht : v.text? n ownServersName = some (a.ownText a.domain)) :
    Forwarders.claims (v.published n) d = true ↔ a.nameservers ≠ [] ∧ d = a.domain := by
  unfold Shelf.published Attachment.ownText Attachment.servers at *
  rw [ht]
  exact Forwarders.claims_ofText_scopedLines hslash hline a.nameservers d

/-- **An attachment that leaves no rejected claim** does not claim what another network claims.

**Proof sketch.** If it succeeds and has written a claim, it has looked at all siblings, and none
of them claimed the domain. If it fails with a claim written, that claim is a rejected one. -/
theorem Mesh.Stores.not_claims_add (hs : m.Stores base v h)
    (ht : Host.Tame base h (m.add a h).2) (hslash : '/' ∉ a.domain) (hline : '\n' ∉ a.domain)
    (hno : ¬ m.LeavesClaim base h (.add a)) (hu : v.UniqueDomains) (hp : p ≠ a.network)
    (hclaims : v.Claims p d) :
    ¬ ((m.add a h).2.disk.shelf base).Claims a.network d := by
  intro hc
  have hfiles : v.isNetwork a.network = false → v.text? a.network ownServersName = none :=
    fun hn => hs.text?_eq_none hn _
  cases hr : (m.add a h).1 with
  | ok servers =>
    obtain ⟨binary, state, v', hatt, hk, -⟩ := hs.add_ok ht hr
    rw [hk.shelf_eq] at hc
    obtain ⟨v₁, he, ⟨-, rfl⟩ | ⟨-, -, names, known, hann, rfl⟩⟩ := hatt
    · -- the network's own forwarders are what they were
      rcases (he.evolves (fun _ => False)).claims hfiles hc with hold | ⟨t, -, hfalse⟩
      · exact hp (hu _ _ _ hclaims hold)
      · exact hfalse
    · have htext := text?_published_own (v := v₁) a.network
        (Forwarders.scopedLines a.domain a.servers) names known
      obtain ⟨-, rfl⟩ := (Attachment.claims_ownText hslash hline htext).mp hc.2
      have hmem : p ∈ names := by
        refine (hann.siblings.mem_iff p).mpr ⟨?_, hp⟩
        rw [he.isNetwork_of_ne p hp]
        exact hclaims.1
      have hunclaimed : Forwarders.claims (v₁.published p) a.domain = false :=
        hann.sighting.unclaimed p hmem
      rw [he.published hp, hclaims.2] at hunclaimed
      cases hunclaimed
  | error fault =>
    obtain ⟨v', hs', hev⟩ := hs.add_error ht hr
    have hleft := hc
    rw [hs'.shelf_eq] at hc
    rcases hev.claims hfiles hc with hold | ⟨t, htext, rfl⟩
    · exact hp (hu _ _ _ hclaims hold)
    · obtain ⟨-, rfl⟩ := (Attachment.claims_ownText hslash hline htext).mp hc.2
      refine hno ⟨⟨fault, hr⟩, hleft, p, hp, ?_⟩
      rw [hs.shelf_eq]
      exact hclaims

/-- **A move that leaves no rejected claim** keeps the domains claimed by one network each.

**Proof sketch.** By the move, and by which of the two networks is the one that moves. Two others
claim what they claimed. If the one that moves claims a domain that another one has, an attachment
has collided there, and what it has left is the rejected claim that is excluded. -/
theorem Mesh.Stores.uniqueDomains_step (hs : m.Stores base v h) {move : Move}
    (ht : Host.Tame base h (m.step h move)) (hdom : move.HasProperDomain)
    (hno : ¬ m.LeavesClaim base h move) (hu : v.UniqueDomains) :
    ((m.step h move).disk.shelf base).UniqueDomains := by
  obtain ⟨v', hs', hrew⟩ := hs.step move ht
  have hshelf := hs'.shelf_eq
  intro n p d hn hp
  cases move with
  | add a =>
    have hev : v.Evolves v' a.network (· = a.ownText a.domain) := hrew
    rw [step_add] at ht hshelf hn hp
    have hnew : ∀ q, q ≠ a.network → v.Claims q d →
        ¬ ((m.add a h).2.disk.shelf base).Claims a.network d :=
      fun q hq hclaims => hs.not_claims_add ht hdom.1 hdom.2 hno hu hq hclaims
    by_cases hna : n = a.network
    · by_cases hpa : p = a.network
      · rw [hna, hpa]
      · rw [hna] at hn
        rw [hshelf] at hp
        exact absurd hn (hnew p hpa ((hev.claims_iff hpa).mp hp))
    · have hold : v.Claims n d := by
        rw [hshelf] at hn
        exact (hev.claims_iff hna).mp hn
      by_cases hpa : p = a.network
      · rw [hpa] at hp
        exact absurd hp (hnew n hna hold)
      · rw [hshelf] at hp
        exact hu n p d hold ((hev.claims_iff hpa).mp hp)
  | del a =>
    have hev : v.Evolves v' a.network (fun _ => False) := hrew
    have hold : ∀ q, v'.Claims q d → v.Claims q d := by
      intro q hq
      by_cases hqa : q = a.network
      · subst hqa
        rcases hev.claims (fun hn => hs.text?_eq_none hn _) hq with hold | ⟨t, -, hfalse⟩
        · exact hold
        · exact hfalse.elim
      · exact (hev.claims_iff hqa).mp hq
    rw [hshelf] at hn hp
    exact hu n p d (hold n hn) (hold p hp)
  | kill pid =>
    have hsame : v' = v := hrew
    rw [hshelf, hsame] at hn hp
    exact hu n p d hn hp

/-- A rejected claim that is left behind is another network's as well.

**Proof sketch.** The other network claims the domain after the move as it did before, and so does
the one that was rejected. -/
lemma Mesh.Stores.not_uniqueDomains (hs : m.Stores base v h) {move : Move}
    (ht : Host.Tame base h (m.step h move)) (hleft : m.LeavesClaim base h move) :
    ¬ ((m.step h move).disk.shelf base).UniqueDomains := by
  intro hu
  cases move with
  | add a =>
    obtain ⟨⟨fault, hr⟩, hclaims, p, hp, hother⟩ := hleft
    rw [step_add] at ht hu
    obtain ⟨v', hs', hev⟩ := hs.add_error ht hr
    rw [hs'.shelf_eq] at hclaims hu
    rw [hs.shelf_eq, ← hev.claims_iff hp] at hother
    exact hp (hu _ _ _ hother hclaims)
  | del a => exact hleft
  | kill pid => exact hleft

/-- What a rejected attachment leaves: its network is gone, or still publishes what the attachment
has written.

**Proof sketch.** The collision is found once the own file is written. The undoing then ends in a
detachment that keeps the file or removes the network, or it fails and keeps the published files. -/
lemma Mesh.Stores.collision_left (hs : m.Stores base v h) (ht : Host.Tame base h (m.add a h).2)
    (hc : m.chain.KnowsNoDomains) {fault : Fault} (hf : (m.add a h).1 = .error fault)
    (hcol : fault.isDomainCollision = true) :
    ∃ v', (m.add a h).2.Holds m.settings.rootDir base v' ∧ (v'.isNetwork a.network = true →
      v'.text? a.network ownServersName = some (a.ownText a.domain)) := by
  obtain ⟨-, binary, k₁, -, hb, hcollided, hundone⟩ := hs.add_collision ht hc hf hcol
  obtain ⟨v₁, -, hk₁⟩ := hcollided.holds
  have hk₁ : k₁.Holds m.settings.rootDir base
      (v₁.write a.network ownServersName (a.ownText a.domain)) := hk₁
  have hspec := (m.cleanUp_meets rfl hb a).holds k₁ hk₁
    (hundone.tame hcollided.edits.journal_prefix ht)
  have hself := Shelf.text?_write_self v₁ a.network ownServersName (a.ownText a.domain)
  cases hr : (m.cleanUp (m.settings.instanceOf binary a) a k₁).1 with
  | ok u =>
    obtain ⟨v', hdet, hk⟩ := hspec.1 u hr
    refine ⟨v', hk.of_disk hundone.1, fun hnet => ?_⟩
    rcases hdet with ⟨s, rfl⟩ | ⟨names, -, rfl⟩
    · rw [Shelf.text?_write_of_ne _ fun h => absurd h.2 (by decide)]
      exact hself
    · simp [Shelf.removeNetwork, Settings.instanceOf] at hnet
  | error second =>
    obtain ⟨v', hkeeps, hk⟩ := hspec.2 second hr
    refine ⟨v', hk.of_disk hundone.1, fun _ => ?_⟩
    rw [hkeeps.own]
    exact hself

/-- **A rejected attachment leaves its claim** just if it has nameservers and its network is still
there.

**Proof sketch.** A network that is left publishes what the attachment has written, and that claims
the domain just if a server is named. The network that it collided with has the claim as well. -/
theorem Mesh.Stores.leavesClaim_iff (hs : m.Stores base v h)
    (ht : Host.Tame base h (m.add a h).2) (hslash : '/' ∉ a.domain) (hline : '\n' ∉ a.domain)
    (hc : m.chain.KnowsNoDomains) {fault : Fault} (hf : (m.add a h).1 = .error fault)
    (hcol : fault.isDomainCollision = true) :
    m.LeavesClaim base h (.add a) ↔
      a.nameservers ≠ [] ∧ (m.add a h).2.disk.HasNetwork base a.network := by
  obtain ⟨v', hk, hown⟩ := hs.collision_left ht hc hf hcol
  obtain ⟨-, binary, k₁, -, -, hcollided, -⟩ := hs.add_collision ht hc hf hcol
  obtain ⟨p, hpnet, hp, hpclaims⟩ := hcollided.claimed
  unfold LeavesClaim
  dsimp only
  rw [hk.shelf_eq, hs.shelf_eq, ← isNetwork_shelf_iff, hk.shelf_eq]
  constructor
  · rintro ⟨-, ⟨hnet, hclaims⟩, -⟩
    exact ⟨((Attachment.claims_ownText hslash hline (hown hnet)).mp hclaims).1, hnet⟩
  · rintro ⟨hne, hnet⟩
    have hclaims := (Attachment.claims_ownText hslash hline (hown hnet)).mpr ⟨hne, rfl⟩
    exact ⟨⟨fault, hf⟩, ⟨hnet, hclaims⟩, p, hp, hpnet, hpclaims⟩

/-! ## Runs -/

/-- A network joins without a domain that others know, and is rejected later with one that is
claimed already. -/
def Sample.rejectedMoves : List Move :=
  [.add (pod "a" "x" "p" (octets 10 1 0 1)),
    .add { pod "b" "y" "q" (octets 10 2 0 1) with multiDomain := false },
    .add (pod "b" "x" "r" (octets 10 2 0 1))]

/-- A move of a run with any outcome: domains are proper, and daemons that are started write no
file of a network but its pid file. -/
def Mesh.Plays (m : Mesh) (base : Location) (h : Host) (move : Move) : Prop :=
  move.HasProperDomain ∧ Host.Tame base h (m.step h move)

instance (m : Mesh) (base : Location) (h : Host) (move : Move) :
    Decidable (m.Plays base h move) :=
  inferInstanceAs (Decidable (_ ∧ _))

/-- No two networks of a run claim a domain, from a state on in which none do, just as long as no
rejected claim is left. -/
lemma Mesh.Stores.along_uniqueDomains_iff {moves : List Move} (hs : m.Stores base v h)
    (hu : v.UniqueDomains) (hrun : m.Along (m.Plays base) h moves) :
    m.Along (fun k move => ((m.step k move).disk.shelf base).UniqueDomains) h moves ↔
      m.Along (fun k move => ¬ m.LeavesClaim base k move) h moves := by
  refine hrun.iff_of_step (I := fun k => ∃ v, m.Stores base v k ∧ v.UniqueDomains) ?_ ⟨v, hs, hu⟩
  rintro k move ⟨v, hs, hu⟩ ⟨hdom, ht⟩
  obtain ⟨v', hs', -⟩ := hs.step move ht
  refine ⟨⟨fun hq hleft => hs.not_uniqueDomains ht hleft hq, fun hno =>
    hs.uniqueDomains_step ht hdom hno hu⟩, fun hq => ⟨v', hs', ?_⟩⟩
  rw [← hs'.shelf_eq]
  exact hq

/-- **Domains are claimed by one network each**, after every move of a run from an empty root,
just as long as no attachment of the run leaves a rejected claim. An attachment that is rejected
since another network claims its domain leaves one just if it has nameservers and its network is
still there.

**Proof sketch.** By induction on the run. A rejected claim that is left is claimed twice at once.
Otherwise only an attachment writes a claim, and one that succeeds has looked at all siblings. -/
theorem unique_domains_iff {moves : List Move} (h₀ : m.StartsEmpty base h)
    (hrun : m.Along (m.Plays base) h moves) :
    (m.Along (fun k move => ((m.step k move).disk.shelf base).UniqueDomains) h moves ↔
        m.Along (fun k move => ¬ m.LeavesClaim base k move) h moves) ∧
      (m.chain.KnowsNoDomains → m.Along (fun k move => ∀ a fault, move = .add a →
        (m.add a k).1 = .error fault → fault.isDomainCollision = true →
          (m.LeavesClaim base k move ↔
            a.nameservers ≠ [] ∧ (m.add a k).2.disk.HasNetwork base a.network)) h moves) := by
  have hs : m.Stores base .empty h := .inr ⟨rfl, h₀⟩
  have hempty : Shelf.empty.UniqueDomains := fun _ _ _ hn => (Bool.false_ne_true hn.1).elim
  refine ⟨hs.along_uniqueDomains_iff hempty hrun, fun hc => ?_⟩
  refine @Mesh.Along.of_invariant m _ _ (fun k => ∃ v, m.Stores base v k) ?_ h moves hrun ⟨_, hs⟩
  rintro k move ⟨v, hs⟩ ⟨hdom, ht⟩
  obtain ⟨v', hs', -⟩ := hs.step move ht
  refine ⟨⟨v', hs'⟩, ?_⟩
  rintro a fault rfl hf hcol
  rw [Mesh.step_add] at ht
  exact hs.leavesClaim_iff ht hdom.1 hdom.2 hc hf hcol

/-- A rejected claim that is left, since another pod of the network is. -/
theorem unique_domains_iff_of_rejected :
    Sample.mesh.Along (Sample.mesh.Plays Sample.base) (Sample.host [.quiet])
        Sample.rejectedMoves ∧
      ¬ Sample.mesh.Along (fun k move =>
          ((Sample.mesh.step k move).disk.shelf Sample.base).UniqueDomains)
        (Sample.host [.quiet]) Sample.rejectedMoves := by
  have hrun : Sample.mesh.Along (Sample.mesh.Plays Sample.base) (Sample.host [.quiet])
      Sample.rejectedMoves := by decide +kernel
  refine ⟨hrun, fun hunique => ?_⟩
  obtain ⟨-, -, hno, -⟩ := (unique_domains_iff (Sample.startsEmpty _) hrun).1.mp hunique
  refine hno ⟨⟨.domainCollision "x".toList "a".toList, ?_⟩, ?_, "a".toList, by decide, ?_⟩ <;>
    decide +kernel

end Claims

end ResolverMesh
