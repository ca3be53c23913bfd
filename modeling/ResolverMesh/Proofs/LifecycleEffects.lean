import ResolverMesh.Proofs.PropagationEffects

set_option autoImplicit false
set_option relaxedAutoImplicit false

/-!
# What the operations do to the root

Attaching and detaching a pod, seen from what the networks hold. An attachment first enters the
pod into its own network, which no daemon takes part in; then the network's forwarders are made
known, unless its daemon runs; then its daemon reads its files. Whatever fails on the way, no
other network's own forwarders are touched.

## Main definitions

* `ResolverMesh.Mesh.enter`, `ResolverMesh.Mesh.announce` — the first two parts of an attachment.
* `ResolverMesh.Shelf.Entered` — the networks once a pod has been entered.
* `ResolverMesh.Shelf.Registers` — what becomes of the hosts file and the configuration by then.
* `ResolverMesh.Shelf.Evolves` — what an operation on one network leaves alone.

## Main results

* `ResolverMesh.Mesh.provision_eq` — an attachment is its three parts.
* `ResolverMesh.Mesh.enter_ends` — a pod entered.
* `ResolverMesh.Mesh.provision_meets` — a pod entered and its network announced.
* `ResolverMesh.Mesh.cleanUp_meets` — a pod taken out of its network.
-/

namespace ResolverMesh

open ResolverMesh.Action Disk Propagation

/-! ## What one operation leaves alone -/

/-- From one state to a later one, other networks stay and their own forwarders with them. What
the network at hand has in its own file is gone, or as it was, or `written`. -/
structure Shelf.Evolves (v v' : Shelf) (n : Text) (written : Text → Prop) : Prop where
  /-- Other networks stay. -/
  isNetwork : ∀ p ≠ n, v'.isNetwork p = v.isNetwork p
  /-- So do their own forwarders. -/
  own_of_ne : ∀ p ≠ n, v'.text? p ownServersName = v.text? p ownServersName
  /-- The network's own file. -/
  own : v'.text? n ownServersName = none ∨
    v'.text? n ownServersName = v.text? n ownServersName ∨
    ∃ t, v'.text? n ownServersName = some t ∧ written t

namespace Shelf.Evolves

variable {v v₁ v₂ : Shelf} {n : Text} {written : Text → Prop}

/-- A shelf that stays as it is evolves. -/
lemma refl (v : Shelf) (n : Text) (written : Text → Prop) : v.Evolves v n written :=
  ⟨fun _ _ => rfl, fun _ _ => rfl, .inr (.inl rfl)⟩

/-- Two shelves that evolve into each other, one after the other. -/
lemma trans (h₁ : v.Evolves v₁ n written) (h₂ : v₁.Evolves v₂ n written) :
    v.Evolves v₂ n written := by
  refine ⟨fun m hm => (h₂.isNetwork m hm).trans (h₁.isNetwork m hm),
    fun m hm => (h₂.own_of_ne m hm).trans (h₁.own_of_ne m hm), ?_⟩
  rcases h₂.own with h | h | h
  · exact .inl h
  · rw [h]
    exact h₁.own
  · exact .inr (.inr h)

/-- Another file than that of the own forwarders written. -/
lemma write_of_ne {f : Text} (hf : f ≠ ownServersName) (p s : Text) :
    v.Evolves (v.write p f s) n written := by
  have hne : ∀ q, (v.write p f s).text? q ownServersName = v.text? q ownServersName :=
    fun _ => Shelf.text?_write_of_ne v fun h => hf h.2.symm
  exact ⟨fun _ _ => rfl, fun q _ => hne q, .inr (.inl (hne n))⟩

/-- The network's own forwarders written. -/
lemma write_own {s : Text} (hs : written s) : v.Evolves (v.write n ownServersName s) n written :=
  ⟨fun _ _ => rfl, fun _ hm => Shelf.text?_write_of_ne v fun h => hm h.1,
    .inr (.inr ⟨s, Shelf.text?_write_self v n ownServersName s, hs⟩)⟩

/-- Forwarders revised. -/
lemma revise (names : List Text) (revision : Text → Forwarders.Revision) :
    v.Evolves (v.revise names revision) n written :=
  have hne : ownServersName ≠ localServersName := by decide
  ⟨fun _ _ => rfl, fun m _ => Shelf.text?_revise_of_ne hne m,
    .inr (.inl (Shelf.text?_revise_of_ne hne n))⟩

/-- The network removed. -/
lemma removeNetwork : v.Evolves (v.removeNetwork n) n written := by
  refine ⟨fun m hm => ?_, fun m hm => ?_, .inl ?_⟩
  · simp [Shelf.removeNetwork, hm]
  · simp [Shelf.removeNetwork, hm]
  · simp [Shelf.removeNetwork]

end Shelf.Evolves

/-- From one state to a later one, all networks stay, and their own forwarders with them. -/
structure Shelf.KeepsOwn (v v' : Shelf) : Prop where
  /-- The networks stay. -/
  isNetwork : v'.isNetwork = v.isNetwork
  /-- So do their own forwarders. -/
  own : ∀ p, v'.text? p ownServersName = v.text? p ownServersName

namespace Shelf.KeepsOwn

variable {v v₁ v₂ : Shelf}

/-- A shelf keeps what it publishes if it stays as it is. -/
lemma refl (v : Shelf) : v.KeepsOwn v := ⟨rfl, fun _ => rfl⟩

/-- What is published is kept over two changes that keep it. -/
lemma trans (h₁ : v.KeepsOwn v₁) (h₂ : v₁.KeepsOwn v₂) : v.KeepsOwn v₂ :=
  ⟨h₂.isNetwork.trans h₁.isNetwork, fun p => (h₂.own p).trans (h₁.own p)⟩

/-- Another file than that of the own forwarders written. -/
lemma write_of_ne {f : Text} (hf : f ≠ ownServersName) (n s : Text) :
    v.KeepsOwn (v.write n f s) :=
  ⟨rfl, fun _ => Shelf.text?_write_of_ne v fun h => hf h.2.symm⟩

/-- Forwarders revised. -/
lemma revise (names : List Text) (revision : Text → Forwarders.Revision) :
    v.KeepsOwn (v.revise names revision) :=
  ⟨rfl, fun p => Shelf.text?_revise_of_ne (by decide) p⟩

/-- A shelf that keeps what is published evolves, for any network. -/
lemma evolves (h : v.KeepsOwn v₁) (n : Text) (written : Text → Prop) : v.Evolves v₁ n written :=
  ⟨fun p _ => congrFun h.isNetwork p, fun p _ => h.own p, .inr (.inl (h.own n))⟩

/-- What the networks publish is the same. -/
lemma published (h : v.KeepsOwn v₁) (p : Text) : v₁.published p = v.published p := by
  unfold Shelf.published
  rw [h.own]

end Shelf.KeepsOwn

/-! ## A pod entered -/

/-- Forwarders for everything added to a file's text, which is left as it is if it has them. -/
def Forwarders.withPlain (t : Text) (servers : List Text) : Text :=
  let merged := merge (ofText t) (plainLines servers)
  if merged.changed then toText merged.lines else t

/-- No servers change nothing. -/
lemma Forwarders.withPlain_nil (t : Text) : withPlain t [] = t := rfl

/-- The networks once a pod has been entered into its own: its directory is there, it is listed
last in the hosts file, and its servers are among the forwarders. -/
structure Shelf.Entered (v v' : Shelf) (n : Text) (a : Attachment) : Prop where
  /-- Other networks stay. -/
  isNetwork_of_ne : ∀ p ≠ n, v'.isNetwork p = v.isNetwork p
  /-- The network is there. -/
  isNetwork : v'.isNetwork n = true
  /-- Other networks' files stay. -/
  text_of_ne : ∀ p ≠ n, ∀ f, v'.text? p f = v.text? p f
  /-- So do the network's own forwarders. -/
  own : v'.text? n ownServersName = v.text? n ownServersName
  /-- The pod is listed last. -/
  hosts : v'.text? n hostsName = some ((v.text? n hostsName).getD [] ++
    HostsFile.entry a.podName a.aliases a.containerIps)
  /-- Its servers are among the forwarders. -/
  forwarders : v'.text? n localServersName =
    some (Forwarders.withPlain ((v.text? n localServersName).getD []) a.defaultServers)

/-- From one state to a later one, a text may have been put at the end of a network's hosts file.
That is done only once the network has a configuration, and where the system takes the path of the
file. -/
structure Shelf.Registers (root : Path) (v : Shelf) (n s : Text) (v' : Shelf) : Prop where
  /-- The hosts files and configurations of other networks stay. -/
  others : ∀ p ≠ n, v'.text? p hostsName = v.text? p hostsName ∧
    v'.text? p configName = v.text? p configName
  /-- A configuration of the network stays. -/
  config : ∀ c, v.text? n configName = some c → v'.text? n configName = some c
  /-- Its hosts file stays, or it has the text at its end. -/
  hosts : v'.text? n hostsName = v.text? n hostsName ∨
    Admits (root.fileOf n hostsName) n ∧ (∃ c, v'.text? n configName = some c) ∧
      v'.text? n hostsName = some ((v.text? n hostsName).getD [] ++ s)

namespace Mesh

variable (m : Mesh) (i : Instance) (a : Attachment)

/-- The first part of an attachment: the network's directory is made, and the pod and its servers
are entered into its files. -/
def enter : Action Unit := do
  Files.makeDirectories instanceMode i.dir
  i.ensureConfigFile a.interface
  m.chain.call (.ensure a.interface)
  HostsFile.append i.hostsFile a.podName a.aliases a.containerIps
  unless a.defaultServers.isEmpty do
    Forwarders.addPlain i.localServersFile a.defaultServers

/-- The second part of an attachment: the network's forwarders are made known, unless its daemon
runs. -/
def announce : Action Unit := fun h =>
  if i.multiDomain = true ∧ i.supervisor.stateOn h = .notRunning then
    Propagation.publish m.settings i a.servers h
  else (.ok (), h)

/-- The network's forwarders are made known if its daemon turns out not to run. -/
lemma announce_eq : m.announce i a = if i.multiDomain then do
      unless ← i.supervisor.isRunning do
        Propagation.publish m.settings i a.servers
    else pure () := by
  funext h
  unfold announce
  by_cases hm : i.multiDomain = true
  · simp only [hm, true_and, if_true]
    rw [run_bind]
    cases hs : i.supervisor.stateOn h <;> simp [Supervisor.isRunning, hs]
  · simp [hm]

/-- **An attachment** is its two parts, after which the daemon reads its files.

**Proof sketch.** By whether there are servers and whether the network is made known. In each case
both sides are the same requests in a row. -/
theorem provision_eq : m.provision i a = (do
    m.enter i a
    m.announce i a
    i.supervisor.hup) := by
  have hrun : ∀ b : Bool, ((if b = true then pure () else
      Propagation.publish m.settings i a.servers) >>= fun _ => i.supervisor.hup) =
        if b = true then i.supervisor.hup else
          Propagation.publish m.settings i a.servers >>= fun _ => i.supervisor.hup := by
    intro b
    cases b <;> simp
  rw [announce_eq]
  unfold provision enter
  simp only [bind_assoc]
  by_cases hs : a.defaultServers.isEmpty = true <;> by_cases hm : i.multiDomain = true <;>
    simp [hs, hm, hrun]

end Mesh

/-- A network's directory is edited without its daemon, and its own forwarders are kept. -/
structure Host.Edited (root : Path) (base : Location) (n : Text) (h : Host) (v : Shelf) (k : Host)
    (v' : Shelf) : Prop where
  /-- What the networks hold afterwards. -/
  holds : k.Holds root base v'
  /-- Nothing else is changed. -/
  edits : h.Edits base n k
  /-- The network's own forwarders are kept. -/
  own : v'.text? n ownServersName = v.text? n ownServersName

/-- A hook that does not report a domain claimed twice, of which it cannot know. -/
def ChainHook.KnowsNoDomains (c : ChainHook) : Prop :=
  ∀ past request fault, c.refusal past request = some fault → fault.isDomainCollision = false

section Enter

variable {root : Path} {base : Location} {n : Text} {h k l : Host} {v v₁ v₂ : Shelf}

namespace Host.Edited

/-- Nothing has been edited. -/
lemma refl (hh : h.Holds root base v) (n : Text) : Edited root base n h v h v :=
  ⟨hh, .refl base n h, rfl⟩

/-- Edits of one network, one after the other. -/
lemma trans (h₁ : Edited root base n h v k v₁) (h₂ : Edited root base n k v₁ l v₂) :
    Edited root base n h v l v₂ :=
  ⟨h₂.holds, h₁.edits.trans h₂.edits, h₂.own.trans h₁.own⟩

/-- An effect that changes nothing. -/
lemma record (hh : h.Holds root base v) {e : Event} (he : e.isQuiet = true) :
    Edited root base n h v (h.record e) v :=
  ⟨hh.of_disk rfl, .record he, rfl⟩

/-- Other networks and their files stay. -/
lemma of_ne (he : Edited root base n h v k v₁) (hh : h.Holds root base v) {p : Text}
    (hp : p ≠ n) : v₁.isNetwork p = v.isNetwork p ∧ ∀ f, v₁.text? p f = v.text? p f := by
  rw [← he.holds.shelf_eq, ← hh.shelf_eq]
  exact ⟨he.edits.isNetwork_of_ne hp, he.edits.text?_of_ne hp⟩

/-- A shelf evolves when only one network is edited, and that keeps what it publishes. -/
lemma evolves (he : Edited root base n h v k v₁) (hh : h.Holds root base v)
    (written : Text → Prop) : v.Evolves v₁ n written :=
  ⟨fun _ hp => (he.of_ne hh hp).1, fun _ hp => (he.of_ne hh hp).2 _, .inr (.inl he.own)⟩

end Host.Edited

/-- The directory of a network made.

**Proof sketch.** The directory is there, or it is made directly under the root, or that fails. A
new one adds an empty network to the shelf. -/
lemma Files.makeDirectories_ends (hh : h.Holds root base v)
    (hn : Settings.isNetworkName n = true) (mode : Nat) :
    (Files.makeDirectories mode (root.join n)).Ends h
      (fun _ k => ∃ v', Host.Edited root base n h v k v' ∧ v'.isNetwork n = true ∧
        ∀ f, v'.text? n f = v.text? n f)
      (fun fault k => Host.Edited root base n h v k v ∧ fault.isDomainCollision = false) := by
  unfold Ends
  rcases hh.inOrder.linkless.makeDirectories_network hn mode with
    ⟨hm, hnet⟩ | ⟨hok, hp⟩ | ⟨-, e, hm⟩
  · rw [hm]
    refine ⟨v, .refl hh n, ?_, fun _ => rfl⟩
    rw [← hh.shelf_eq]
    exact isNetwork_shelf_iff.mpr hnet
  · rw [show Files.makeDirectories mode (root.join n) h =
      (.ok (), (Files.makeDirectories mode (root.join n) h).2) from Prod.ext hok rfl]
    refine ⟨v.addNetwork n, ⟨⟨hp.inOrder hh.inOrder hn, ?_⟩, hp.edits, rfl⟩, ?_, fun _ => rfl⟩
    · rw [hp.shelf, hh.shelf_eq]
    · simp [Shelf.addNetwork]
  · rw [hm]
    exact ⟨.refl hh n, rfl⟩

/-- A file of a network that is created with a text if it is missing.

**Proof sketch.** The file is found just if it holds a text, which then stays. Otherwise it is
written, unless that fails, and the shelf says what it holds. -/
lemma ensureFile_ends {f : Text} (hh : h.Holds root base v)
    (hn : Settings.isNetworkName n = true) (hnet : v.isNetwork n = true) (hf : IsFileName f)
    (hpid : f ≠ pidName) (hown : f ≠ ownServersName) (s : Text) :
    Ends (Files.ensure (root.fileOf n f) s) h
      (fun _ k => ∃ v', Host.Edited root base n h v k v' ∧ v'.isNetwork n = true ∧
        v'.text? n f = some ((v.text? n f).getD s) ∧
        ∀ g ≠ f, v'.text? n g = v.text? n g)
      (fun fault k => Host.Edited root base n h v k v ∧ fault.isDomainCollision = false) := by
  have hhas : h.disk.HasNetwork base n := by
    rw [← isNetwork_shelf_iff, hh.shelf_eq]
    exact hnet
  have htext : v.text? n f = h.disk.fileText base n f := by
    rw [← hh.shelf_eq]
    exact text?_shelf_eq hpid n
  unfold Ends Files.ensure
  rw [run_bind, run_lift]
  unfold Files.isThere
  dsimp only
  rcases hh.inOrder.isThere_file hn hf with ⟨ht, t, hs⟩ | ⟨ht, hno⟩
  · rw [ht, htext, hs]
    exact ⟨v, .refl hh n, hnet, by rw [htext, hs]; rfl, fun _ _ => rfl⟩
  · rw [ht]
    rw [if_neg (by simp)]
    rcases hh.write hn hf hpid s with ⟨k, hw, hk, he, -, ha⟩ | ⟨-, e, hw⟩
    · rw [hw]
      have hnone : v.text? n f = none := by
        rw [htext]
        exact hno.resolve_right fun hno => hno ⟨ha, hhas⟩
      refine ⟨v.write n f s, ⟨hk, he, Shelf.text?_write_of_ne v fun h => hown h.2.symm⟩, hnet,
        ?_, fun g hg => Shelf.text?_write_of_ne v fun h => hg h.2⟩
      rw [hnone]
      exact Shelf.text?_write_self v n f s
    · rw [hw]
      exact ⟨.refl hh n, rfl⟩

/-- A network's configuration, and the file of forwarders that it names.

**Proof sketch.** Two files are ensured by `ensureFile_ends`, first the forwarders and then the
configuration. Neither touches the other or the hosts file. -/
lemma Instance.ensureConfigFile_ends {i : Instance} (hh : h.Holds root base v)
    (hi : i.IsBelow root) (hnet : v.isNetwork i.network = true) (interface : Text) :
    (i.ensureConfigFile interface).Ends h
      (fun _ k => ∃ v', Host.Edited root base i.network h v k v' ∧
        v'.isNetwork i.network = true ∧ v'.text? i.network localServersName =
          some ((v.text? i.network localServersName).getD []) ∧
        v'.text? i.network configName = some ((v.text? i.network configName).getD
          (Text.unlines (i.configLines interface))) ∧
        v'.text? i.network hostsName = v.text? i.network hostsName)
      (fun fault k => (∃ v', Host.Edited root base i.network h v k v' ∧
        v'.text? i.network configName = v.text? i.network configName ∧
        v'.text? i.network hostsName = v.text? i.network hostsName) ∧
        fault.isDomainCollision = false) := by
  rw [ensureConfigFile_eq, hi.localServersFile, hi.configFile]
  have hlocal := ensureFile_ends hh hi.name hnet isFileName_localServersName (by decide)
    (by decide) []
  refine .bind (hlocal.mono (fun _ _ hq => hq) fun _ _ he => ⟨⟨v, he.1, rfl, rfl⟩, he.2⟩) ?_
  rintro _ k ⟨v₁, he₁, hnet₁, htext, hothers⟩
  have hconfig := ensureFile_ends he₁.holds hi.name hnet₁ isFileName_configName (by decide)
    (by decide) (Text.unlines (i.configLines interface))
  refine hconfig.mono ?_ fun _ _ he =>
    ⟨⟨v₁, he₁.trans he.1, hothers _ (by decide), hothers _ (by decide)⟩, he.2⟩
  rintro _ l ⟨v₂, he₂, hnet₂, hconfig₂, hothers₂⟩
  refine ⟨v₂, he₁.trans he₂, hnet₂, ?_, ?_, ?_⟩
  · rw [hothers₂ _ (by decide), htext]
  · rw [hconfig₂, hothers _ (by decide)]
  · rw [hothers₂ _ (by decide), hothers _ (by decide)]

/-- A request to the forwarding chain hook.

**Proof sketch.** The call is an effect that no file shows, and the hook answers afterwards. -/
lemma ChainHook.call_ends (c : ChainHook) (hh : h.Holds root base v) (n : Text)
    (request : ChainCall) :
    (c.call request).Ends h (fun _ k => Host.Edited root base n h v k v)
      (fun fault k => Host.Edited root base n h v k v ∧
        (c.KnowsNoDomains → fault.isDomainCollision = false)) := by
  have he : Host.Edited root base n h v (h.record (.chain request)) v := .record hh rfl
  unfold Ends call
  rw [run_bind, run_ask]
  dsimp only
  rw [run_bind, run_record]
  dsimp only
  cases hr : c.refusal h.chainCalls request with
  | none => exact he
  | some fault => exact ⟨he, fun hc => hc _ _ _ hr⟩

/-- A pod added at the end of a network's hosts file.

**Proof sketch.** What is written is the text that was there with the entry after it; a missing
file held nothing. -/
lemma HostsFile.append_ends (hh : h.Holds root base v) (hn : Settings.isNetworkName n = true)
    (pod : Text) (aliases : List Text) (ips : List Address) :
    (append (root.fileOf n hostsName) pod aliases ips).Ends h
      (fun _ k => Admits (root.fileOf n hostsName) n ∧ Host.Edited root base n h v k
        (v.write n hostsName ((v.text? n hostsName).getD [] ++ entry pod aliases ips)))
      (fun fault k => Host.Edited root base n h v k v ∧ fault.isDomainCollision = false) := by
  have htext : v.text? n hostsName = h.disk.fileText base n hostsName := by
    rw [← hh.shelf_eq]
    exact text?_shelf_eq (by decide) n
  unfold Ends append
  rcases hh.inOrder.files_append hn isFileName_hostsName (entry pod aliases ips) with
    ⟨ha, hnet, hok, hw⟩ | ⟨-, e, hw⟩
  · rw [show Files.append (root.fileOf n hostsName) (entry pod aliases ips) h =
      (.ok (), (Files.append (root.fileOf n hostsName) (entry pod aliases ips) h).2) from
        Prod.ext hok rfl]
    refine ⟨ha, ⟨hw.inOrder hh.inOrder hnet, ?_⟩, hw.edits (by decide),
      Shelf.text?_write_of_ne v fun h => absurd h.2 (by decide)⟩
    rw [hw.shelf (by decide), hh.shelf_eq, htext]
  · rw [hw]
    exact ⟨.refl hh n, rfl⟩

/-- Servers for everything added to a network's forwarders.

**Proof sketch.** The lines that are read are those of the file's text. They are written back only
if the merge has changed them, and in both cases the file holds `withPlain`. -/
lemma Forwarders.addPlain_ends (hh : h.Holds root base v) (hnet : v.isNetwork n = true)
    {t : Text} (ht : v.text? n localServersName = some t) (servers : List Text) :
    (addPlain (root.fileOf n localServersName) servers).Ends h
      (fun _ k => ∃ v', Host.Edited root base n h v k v' ∧ v'.isNetwork = v.isNetwork ∧
        v'.text? n localServersName = some (withPlain t servers) ∧
        ∀ f ≠ localServersName, v'.text? n f = v.text? n f)
      (fun fault k => Host.Edited root base n h v k v ∧ fault.isDomainCollision = false) := by
  have hn := hh.isNetworkName hnet
  unfold Ends addPlain
  rw [run_bind, run_lift]
  rcases hh.readLines_local hnet with ⟨-, hr⟩ | ⟨e, hr⟩
  · have hread : v.forwarders n = ofText t := by
      unfold Shelf.forwarders
      rw [ht]
      rfl
    rw [hr, hread]
    unfold withPlain writeLines
    dsimp only
    by_cases hc : (merge (ofText t) (plainLines servers)).changed = true
    · simp only [if_pos hc]
      rcases hh.write hn isFileName_localServersName (by decide)
          (toText (merge (ofText t) (plainLines servers)).lines)
          with ⟨k, hw, hk, he, -⟩ | ⟨-, e, hw⟩
      · rw [hw]
        exact ⟨_, ⟨hk, he, Shelf.text?_write_of_ne v fun h => absurd h.2 (by decide)⟩, rfl,
          Shelf.text?_write_self v n _ _,
          fun f hf => Shelf.text?_write_of_ne v fun h => hf h.2⟩
      · rw [hw]
        exact ⟨.refl hh n, rfl⟩
    · simp only [if_neg hc]
      exact ⟨v, .refl hh n, rfl, ht, fun _ _ => rfl⟩
  · rw [hr]
    exact ⟨.refl hh n, rfl⟩

/-- **A pod entered** into its network, in which no daemon takes part.

**Proof sketch.** The steps are followed in order, each from the shelf that the one before it has
left: the directory, the configuration, the hook, the hosts file, and the servers for everything.
Each edits the network alone, so whatever fails, other networks are as before; and a failure can
come only before the hosts file is written or after it. -/
theorem Mesh.enter_ends (m : Mesh) {i : Instance} (a : Attachment) (hh : h.Holds root base v)
    (hi : i.IsBelow root) :
    (m.enter i a).Ends h
      (fun _ k => Admits (root.fileOf i.network hostsName) i.network ∧
        ∃ v', v.Entered v' i.network a ∧ Host.Edited root base i.network h v k v' ∧
          v.Registers root i.network (HostsFile.entry a.podName a.aliases a.containerIps) v')
      (fun fault k => (∃ v', Host.Edited root base i.network h v k v' ∧
          v.Registers root i.network (HostsFile.entry a.podName a.aliases a.containerIps) v') ∧
        (m.chain.KnowsNoDomains → fault.isDomainCollision = false)) := by
  -- whatever is edited, the files of other networks stay
  have hregisters : ∀ {l : Host} {v' : Shelf}, Host.Edited root base i.network h v l v' →
      (∀ c, v.text? i.network configName = some c → v'.text? i.network configName = some c) →
      (v'.text? i.network hostsName = v.text? i.network hostsName ∨
        Admits (root.fileOf i.network hostsName) i.network ∧
          (∃ c, v'.text? i.network configName = some c) ∧
          v'.text? i.network hostsName = some ((v.text? i.network hostsName).getD [] ++
            HostsFile.entry a.podName a.aliases a.containerIps)) →
      v.Registers root i.network (HostsFile.entry a.podName a.aliases a.containerIps) v' :=
    fun he hconfig hhosts =>
      ⟨fun p hp => ⟨(he.of_ne hh hp).2 _, (he.of_ne hh hp).2 _⟩, hconfig, hhosts⟩
  unfold enter
  rw [hi.dir, hi.hostsFile, hi.localServersFile]
  refine .bind ((Files.makeDirectories_ends hh hi.name instanceMode).mono (fun _ _ hq => hq)
    fun _ _ he => ⟨⟨v, he.1, hregisters he.1 (fun _ => id) (.inl rfl)⟩, fun _ => he.2⟩) ?_
  rintro _ k₁ ⟨v₁, he₁, hnet₁, htext₁⟩
  refine .bind ((Instance.ensureConfigFile_ends he₁.holds hi hnet₁ a.interface).mono
    (fun _ _ hq => hq) fun _ _ he => ?_) ?_
  · obtain ⟨⟨v', he', hconfig, hhosts⟩, hf⟩ := he
    rw [htext₁] at hconfig hhosts
    exact ⟨⟨v', he₁.trans he', hregisters (he₁.trans he') (fun c hc => hconfig.trans hc)
      (.inl hhosts)⟩, fun _ => hf⟩
  rintro _ k₂ ⟨v₂, he₂, hnet₂, hlocal₂, hconfig₂, hhosts₂⟩
  rw [htext₁] at hlocal₂ hconfig₂ hhosts₂
  have he₂' := he₁.trans he₂
  have hkept₂ : ∀ c, v.text? i.network configName = some c →
      v₂.text? i.network configName = some c := by
    intro c hc
    rw [hconfig₂, hc]
    rfl
  refine .bind ((m.chain.call_ends he₂.holds i.network (.ensure a.interface)).mono
    (fun _ _ hq => hq) fun _ _ he => ⟨⟨v₂, he₂'.trans he.1, hregisters (he₂'.trans he.1) hkept₂
      (.inl hhosts₂)⟩, he.2⟩) ?_
  intro _ k₃ he₃
  have he₃' := he₂'.trans he₃
  refine .bind ((HostsFile.append_ends he₃.holds hi.name a.podName a.aliases a.containerIps).mono
    (fun _ _ hq => hq) fun _ _ he => ⟨⟨v₂, he₃'.trans he.1, hregisters (he₃'.trans he.1) hkept₂
      (.inl hhosts₂)⟩, fun _ => he.2⟩) ?_
  rintro _ k₄ ⟨ha, he₄⟩
  have he₄' := he₃'.trans he₄
  generalize hv₄ : v₂.write i.network hostsName
    ((v₂.text? i.network hostsName).getD [] ++
      HostsFile.entry a.podName a.aliases a.containerIps) = v₄ at he₄ he₄'
  have hnet₄ : v₄.isNetwork i.network = true := by rw [← hv₄]; exact hnet₂
  have hhosts₄ : v₄.text? i.network hostsName = some ((v.text? i.network hostsName).getD [] ++
      HostsFile.entry a.podName a.aliases a.containerIps) := by
    rw [← hv₄, Shelf.text?_write_self, hhosts₂]
  have hlocal₄ : v₄.text? i.network localServersName =
      some ((v.text? i.network localServersName).getD []) := by
    rw [← hv₄, Shelf.text?_write_of_ne v₂ fun h => absurd h.2 (by decide), hlocal₂]
  have hconfig₄ : v₄.text? i.network configName = v₂.text? i.network configName := by
    rw [← hv₄, Shelf.text?_write_of_ne v₂ fun h => absurd h.2 (by decide)]
  -- what the last request adds is all that is missing
  have hlisted : ∀ {l : Host} {v' : Shelf}, Host.Edited root base i.network h v l v' →
      (∀ f ≠ localServersName, v'.text? i.network f = v₄.text? i.network f) →
      v.Registers root i.network (HostsFile.entry a.podName a.aliases a.containerIps) v' := by
    intro l v' he hothers
    have hconfig := (hothers configName (by decide)).trans hconfig₄
    exact hregisters he (fun c hc => hconfig.trans (hkept₂ c hc))
      (.inr ⟨ha, ⟨_, hconfig.trans hconfig₂⟩, (hothers hostsName (by decide)).trans hhosts₄⟩)
  have hentered : ∀ {l : Host} {v' : Shelf}, Host.Edited root base i.network h v l v' →
      v'.isNetwork i.network = true → v'.text? i.network hostsName = v₄.text? i.network hostsName →
      v'.text? i.network localServersName = some (Forwarders.withPlain
        ((v.text? i.network localServersName).getD []) a.defaultServers) →
      v.Entered v' i.network a := by
    intro l v' he hnet hhosts hlocal
    exact ⟨fun p hp => (he.of_ne hh hp).1, hnet, fun p hp => (he.of_ne hh hp).2, he.own,
      hhosts.trans hhosts₄, hlocal⟩
  split
  · next hempty =>
    rw [List.isEmpty_iff] at hempty
    refine ⟨ha, v₄, hentered he₄' hnet₄ rfl ?_, he₄', hlisted he₄' fun _ _ => rfl⟩
    rw [hlocal₄, hempty, Forwarders.withPlain_nil]
  · refine (Forwarders.addPlain_ends he₄.holds hnet₄ hlocal₄ a.defaultServers).mono ?_ ?_
    · rintro _ l ⟨v', he, hnet, hlocal, hothers⟩
      exact ⟨ha, v', hentered (he₄'.trans he) (by rw [hnet]; exact hnet₄)
        (hothers _ (by decide)) hlocal, he₄'.trans he, hlisted (he₄'.trans he) hothers⟩
    · rintro fault l ⟨he, hf⟩
      exact ⟨⟨v₄, he₄'.trans he, hlisted (he₄'.trans he) fun _ _ => rfl⟩, fun _ => hf⟩

end Enter

/-! ## A pod attached -/

section Provision

variable {root : Path} {base : Location} {i : Instance} {a : Attachment} {h k : Host}
  {v v₁ v' : Shelf}

/-- The forwarders to its network for a domain that an attachment publishes, as text. -/
def Attachment.ownText (a : Attachment) (domain : Text) : Text :=
  Forwarders.toText (Forwarders.scopedLines domain a.servers)

/-- The networks once a pod has been attached to one of them, whose daemon was in a given state
before. If it ran, the network is not announced. -/
def Shelf.Attached (root : Path) (v : Shelf) (i : Instance) (a : Attachment)
    (state : ProcessState) (v' : Shelf) : Prop :=
  ∃ v₁, v.Entered v₁ i.network a ∧
    ((i.multiDomain = true → state ≠ .notRunning) ∧ v' = v₁ ∨
      i.multiDomain = true ∧ state = .notRunning ∧ ∃ names known,
        Announced root v₁ i names known ∧ v' = Propagation.published v₁ i.network
          (Forwarders.scopedLines i.domain a.servers) names known)

/-- An attachment from a host `h` has been stopped on a host `k` by another network that claims
the domain. No sibling and no daemon was touched. -/
structure Collided (root : Path) (base : Location) (v : Shelf) (i : Instance) (a : Attachment)
    (h k : Host) : Prop where
  /-- The network was to be announced. -/
  multiDomain : i.multiDomain = true
  /-- Its daemon did not run. -/
  state : i.supervisor.stateOn h = .notRunning
  /-- Another network claims the domain. -/
  claimed : ∃ p, v.isNetwork p = true ∧ p ≠ i.network ∧
    Forwarders.claims (v.published p) i.domain = true
  /-- Only the network's directory was changed. -/
  edits : h.Edits base i.network k
  /-- The system takes the path of the hosts file. -/
  admits_hosts : Admits (root.fileOf i.network hostsName) i.network
  /-- The pod is entered, and the network's own forwarders are written. -/
  holds : ∃ v₁, v.Entered v₁ i.network a ∧
    k.Holds root base (v₁.write i.network ownServersName (a.ownText i.domain))

/-- What holds after an attachment has failed, before it is undone. -/
structure ProvisionFailed (root : Path) (base : Location) (v : Shelf) (c : ChainHook)
    (i : Instance) (a : Attachment) (h : Host) (fault : Fault) (k : Host) : Prop where
  /-- Other networks' own forwarders are left alone. -/
  holds : ∃ v', v.Evolves v' i.network (· = a.ownText i.domain) ∧ k.Holds root base v'
  /-- A domain claimed twice is found at the siblings. -/
  collision : c.KnowsNoDomains → fault.isDomainCollision = true → Collided root base v i a h k

/-- Entering a pod lets the shelf evolve. -/
lemma Shelf.Entered.evolves (he : v.Entered v₁ i.network a) (written : Text → Prop) :
    v.Evolves v₁ i.network written :=
  ⟨he.isNetwork_of_ne, fun p hp => he.text_of_ne p hp _, .inr (.inl he.own)⟩

/-- What another network publishes is what it published. -/
lemma Shelf.Entered.published (he : v.Entered v₁ i.network a) {p : Text} (hp : p ≠ i.network) :
    v₁.published p = v.published p := by
  unfold Shelf.published
  rw [he.text_of_ne p hp]

/-- A network published. -/
lemma Shelf.evolves_published (v : Shelf) (n : Text) (own names known : List Text) :
    v.Evolves (Propagation.published v n own names known) n (· = Forwarders.toText own) :=
  have hne : localServersName ≠ ownServersName := by decide
  have hown : v.Evolves (v.write n ownServersName (Forwarders.toText own)) n
      (· = Forwarders.toText own) := .write_own rfl
  (hown.trans (.revise names _)).trans (.write_of_ne hne _ _)

/-- So does attaching it, which may also write what its network publishes. -/
lemma Shelf.Attached.evolves {state : ProcessState} (h : v.Attached root i a state v') :
    v.Evolves v' i.network (· = a.ownText i.domain) := by
  obtain ⟨v₁, he, ⟨-, rfl⟩ | ⟨-, -, names, known, -, rfl⟩⟩ := h
  · exact he.evolves _
  · exact (he.evolves _).trans (Shelf.evolves_published _ _ _ _ _)

/-- A failure on the way of publishing, seen from before the pod was entered.

**Proof sketch.** The shelf that publishing has left evolves from the one that the pod was entered
into, and that one from the first. Entering the pod does not concern the network that it collided
with. -/
lemma ProvisionFailed.of_publishFailed {c : ChainHook} {k₁ : Host} {fault : Fault}
    (ha : Admits (root.fileOf i.network hostsName) i.network) (he : v.Entered v₁ i.network a)
    (hed : h.Edits base i.network k₁) (hmulti : i.multiDomain = true)
    (hstate : i.supervisor.stateOn h = .notRunning)
    (hf : PublishFailed root base v₁ i (Forwarders.scopedLines i.domain a.servers) k₁ fault k) :
    ProvisionFailed root base v c i a h fault k := by
  constructor
  · rcases hf.holds with hk | ⟨names, -, hk⟩
    · exact ⟨v₁, he.evolves _, hk⟩
    · have hown : v₁.Evolves (v₁.write i.network ownServersName (a.ownText i.domain)) i.network
          (· = a.ownText i.domain) := .write_own rfl
      exact ⟨_, (he.evolves _).trans (hown.trans (.revise names _)), hk⟩
  · intro _ hcol
    obtain ⟨hk, hed', p, hpnet, hp, hclaims⟩ := hf.collision hcol
    rw [he.published hp] at hclaims
    rw [he.isNetwork_of_ne p hp] at hpnet
    exact ⟨hmulti, hstate, ⟨p, hpnet, hp, hclaims⟩, hed.trans hed', ha, v₁, he, hk⟩

/-- **A pod attached**: it is entered, and the network announced unless its daemon ran. If that
fails, what other networks publish is left alone.

**Proof sketch.** After the pod was entered, the pid file is as before, so whether the network is
announced depends on the host at first. If it is, the failure of the publication is one of the
attachment, and so is that of the daemon's reading afterwards; the shelf has evolved up to there. -/
theorem Mesh.provision_meets (m : Mesh) (hs : m.settings.rootDir = root) (hi : i.IsBelow root)
    (a : Attachment) (hh : h.Holds root base v) :
    (m.provision i a).Meets base (· = h)
      (fun _ k => ∃ v', v.Attached root i a (i.supervisor.stateOn h) v' ∧ k.Holds root base v')
      (ProvisionFailed root base v m.chain i a h) := by
  refine ⟨m.records_provision i a, ?_⟩
  rintro h rfl ht
  rw [provision_eq, run_bind] at ht ⊢
  rcases (m.enter_ends a hh hi).cases with
    ⟨_, k₁, hr, ha, v₁, he, hed, -⟩ | ⟨fault, k₁, hr, hed, hf⟩
  · rw [hr] at ht ⊢
    dsimp only at ht ⊢
    have hstate : i.supervisor.stateOn k₁ = i.supervisor.stateOn h :=
      Supervisor.stateOn_congr hh.inOrder hed.holds.inOrder hi.name hi.pidFile hed.edits
    -- what remains is a run of its own, from the host that the pod has been entered on
    have hrest : ∀ {x : Action Unit}, (do m.announce i a; i.supervisor.hup) k₁ = x k₁ →
        x.Meets base (· = k₁)
          (fun _ k => ∃ v', v.Attached root i a (i.supervisor.stateOn h) v' ∧
            k.Holds root base v')
          (ProvisionFailed root base v m.chain i a h) →
        (∀ u, ((do m.announce i a; i.supervisor.hup) k₁).1 = .ok u → ∃ v',
          v.Attached root i a (i.supervisor.stateOn h) v' ∧
            ((do m.announce i a; i.supervisor.hup) k₁).2.Holds root base v') ∧
        ∀ fault, ((do m.announce i a; i.supervisor.hup) k₁).1 = .error fault →
          ProvisionFailed root base v m.chain i a h fault
            ((do m.announce i a; i.supervisor.hup) k₁).2 := by
      intro x hx hmeets
      rw [hx] at ht ⊢
      exact hmeets.after rfl hed.edits.journal_prefix ht
    have hhup : ∀ {v' : Shelf}, v.Attached root i a (i.supervisor.stateOn h) v' →
        i.supervisor.hup.Meets base (Host.Holds root base v')
          (fun _ k => ∃ v', v.Attached root i a (i.supervisor.stateOn h) v' ∧
            k.Holds root base v')
          (ProvisionFailed root base v m.chain i a h) := by
      intro v' hatt
      refine (i.supervisor.serves_hup v').mono (fun _ hq => hq) (fun _ _ hq => ⟨v', hatt, hq⟩) ?_
      rintro fault k ⟨hk, hf⟩
      exact ⟨⟨v', hatt.evolves, hk⟩, fun _ hcol => by rw [hf] at hcol; cases hcol⟩
    by_cases hskip : i.multiDomain = true ∧ i.supervisor.stateOn k₁ = .notRunning
    · have hrun : m.announce i a k₁ = Propagation.publish m.settings i a.servers k₁ := by
        unfold announce
        rw [if_pos hskip]
      rw [hstate] at hskip
      refine hrest (x := do Propagation.publish m.settings i a.servers; i.supervisor.hup) ?_ ?_
      · rw [run_bind, run_bind, hrun]
      · have hpublish := publish_meets hs hi hed.holds a.servers
        refine .bind (hpublish.mono (fun _ hq => hq) (fun _ _ hq => hq) fun _ _ hfail => ?_) ?_
        · exact .of_publishFailed ha he hed.edits hskip.1 hskip.2 hfail
        · intro _
          refine ⟨i.supervisor.records_hup, ?_⟩
          rintro k ⟨names, known, hann, hk⟩ hkt
          exact (hhup ⟨v₁, he, .inr ⟨hskip.1, hskip.2, names, known, hann, rfl⟩⟩).holds k hk hkt
    · have hrun : m.announce i a k₁ = (.ok (), k₁) := by
        unfold announce
        rw [if_neg hskip]
      rw [hstate] at hskip
      refine hrest (x := i.supervisor.hup) ?_ ?_
      · rw [run_bind, hrun]
      · refine (hhup ⟨v₁, he, .inl ⟨fun hm hn => hskip ⟨hm, hn⟩, rfl⟩⟩).mono ?_
          (fun _ _ hq => hq) fun _ _ he => he
        rintro k rfl
        exact hed.holds
  · obtain ⟨v', hed, -⟩ := hed
    rw [hr]
    refine of_error ?_
    exact ⟨⟨v', hed.evolves hh _, hed.holds⟩, fun hc hcol => by rw [hf hc] at hcol; cases hcol⟩

end Provision

/-! ## A pod detached -/

/-- The first part of a detachment: the forwarding chain is dropped, and the pod is taken out of
the hosts file. The answer is whether any pod is left. -/
def Mesh.takeOut (m : Mesh) (i : Instance) (a : Attachment) : Action Bool := do
  m.dropChain a
  HostsFile.removePod i.hostsFile a.podName

/-- **A detachment** is its first part, after which the daemon reads its files if pods are left,
and the network is taken down if not. -/
theorem Mesh.cleanUp_eq (m : Mesh) (i : Instance) (a : Attachment) : m.cleanUp i a = (do
    if ← m.takeOut i a then
      i.supervisor.hup
    else
      m.tearDown i a) := by
  unfold cleanUp takeOut
  rw [bind_assoc]

section CleanUp

variable {root : Path} {base : Location} {i : Instance} {a : Attachment} {h k : Host}
  {v v' : Shelf}

/-- The networks once a pod has been taken out of the hosts file of one of them, which is then
written anew, if it is there. -/
def Shelf.TakenOut (v : Shelf) (n pod : Text) (left : Bool) (v' : Shelf) : Prop :=
  v.text? n hostsName = none ∧ left = false ∧ v' = v ∨
    ∃ t, v.text? n hostsName = some t ∧ left = !(HostsFile.without pod t).isEmpty ∧
      v' = v.write n hostsName (Text.unlines (HostsFile.without pod t))

/-- The networks once a pod has been detached from one of them: other pods are left, or the
network is gone, and its forwarders with it. -/
def Shelf.Detached (v : Shelf) (i : Instance) (a : Attachment) (v' : Shelf) : Prop :=
  (∃ s, v' = v.write i.network hostsName s) ∨
    ∃ names, Siblings v i.network names ∧ v' = (if i.multiDomain then v.revise names fun m =>
        Forwarders.remove (v.forwarders m) (Forwarders.scopedLines i.domain a.servers)
      else v).removeNetwork i.network

/-- What other networks publish is left alone. -/
lemma Shelf.Detached.evolves (h : v.Detached i a v') (written : Text → Prop) :
    v.Evolves v' i.network written := by
  rcases h with ⟨s, rfl⟩ | ⟨names, -, rfl⟩
  · exact .write_of_ne (by decide) _ _
  · refine .trans ?_ .removeNetwork
    split
    · exact .revise names _
    · exact .refl v _ _

/-- Taking a pod out keeps what networks publish. -/
lemma Shelf.TakenOut.keepsOwn {n pod : Text} {left : Bool} (h : v.TakenOut n pod left v') :
    v.KeepsOwn v' := by
  rcases h with ⟨-, -, rfl⟩ | ⟨t, -, -, rfl⟩
  · exact .refl v'
  · exact .write_of_ne (by decide) _ _

/-- A hook that fails to remove a chain is only logged. -/
lemma Mesh.dropChain_ends (m : Mesh) (a : Attachment) (hh : h.Holds root base v) (n : Text) :
    (m.dropChain a).Ends h (fun _ k => Host.Edited root base n h v k v) (fun _ _ => False) := by
  unfold Ends dropChain
  rw [run_bind, run_attempt]
  rcases (m.chain.call_ends hh n (.remove a.interface)).cases with
    ⟨_, k, hr, he⟩ | ⟨fault, k, hr, he, -⟩
  · rw [hr]
    exact he
  · rw [hr]
    exact he.trans (.record he.holds rfl)

/-- **A pod taken out** of its network, in which no daemon takes part.

**Proof sketch.** The hook's failure is only logged. The hosts file is read; where it is missing,
nothing is written, and where it holds a text, that is written without the pod's lines. -/
theorem Mesh.takeOut_ends (m : Mesh) (hi : i.IsBelow root) (a : Attachment)
    (hh : h.Holds root base v) :
    (m.takeOut i a).Ends h
      (fun left k => ∃ v', v.TakenOut i.network a.podName left v' ∧
        Host.Edited root base i.network h v k v')
      (fun _ k => Host.Edited root base i.network h v k v ∧
        ¬ (Admits (root.fileOf i.network hostsName) i.network ∧
          v.isNetwork i.network = true)) := by
  unfold takeOut
  refine .bind ((m.dropChain_ends a hh i.network).mono (fun _ _ hq => hq) fun _ _ he => he.elim)
    fun _ k he => ?_
  have htext : v.text? i.network hostsName = k.disk.fileText base i.network hostsName := by
    rw [← he.holds.shelf_eq]
    exact text?_shelf_eq (by decide) i.network
  unfold Ends HostsFile.removePod
  rw [hi.hostsFile, run_bind, run_lift]
  rcases he.holds.inOrder.readIfThere_file hi.name isFileName_hostsName with
    ⟨-, hr⟩ | ⟨hno, e, hr⟩
  · rw [hr, ← htext]
    cases ht : v.text? i.network hostsName with
    | none => exact ⟨v, .inl ⟨ht, rfl, rfl⟩, he⟩
    | some t =>
      dsimp only
      rw [run_bind]
      rcases he.holds.write hi.name isFileName_hostsName (by decide)
          (Text.unlines (HostsFile.without a.podName t)) with
          ⟨l, hw, hl, he', -⟩ | ⟨hno, e, hw⟩
      · rw [hw]
        refine ⟨_, .inr ⟨t, ht, rfl, rfl⟩, he.trans ⟨hl, he', ?_⟩⟩
        exact Shelf.text?_write_of_ne v fun h => absurd h.2 (by decide)
      · rw [hw]
        exact ⟨he, hno⟩
  · rw [hr]
    refine ⟨he, ?_⟩
    rw [← he.holds.shelf_eq, isNetwork_shelf_iff]
    exact hno

/-- What is removed with a network need not be written before. -/
lemma Shelf.removeNetwork_write (v : Shelf) (n f s : Text) :
    (v.write n f s).removeNetwork n = v.removeNetwork n := by
  ext m g x
  · rfl
  · by_cases hm : m = n
    · simp [removeNetwork, hm]
    · simp [removeNetwork, text?_write, hm]

/-- A network that is not there has nothing to be removed.

**Proof sketch.** A network that is not there has no files, so that taking it away changes no entry
of the shelf. -/
lemma Host.Holds.removeNetwork_of_not (hh : h.Holds root base v) {n : Text}
    (hn : v.isNetwork n = false) : v.removeNetwork n = v := by
  have hnone : ∀ f, v.text? n f = none := by
    rw [← hh.shelf_eq] at hn ⊢
    exact hh.inOrder.tidy.text?_eq_none hn
  ext m f x
  · by_cases hm : m = n
    · simp [Shelf.removeNetwork, hm, hn]
    · simp [Shelf.removeNetwork, hm]
  · by_cases hm : m = n
    · simp [Shelf.removeNetwork, hm, hnone]
    · simp [Shelf.removeNetwork, hm]

/-- The directory of a network removed.

**Proof sketch.** The directory is removed with all that is in it, or was not there, or cannot be
removed. The second leaves the shelf as it is, since there was no such network. -/
lemma Files.removeIfThere_meets (hi : i.IsBelow root) :
    (Files.removeIfThere i.dir).Meets base (Host.Holds root base v)
      (fun _ k => k.Holds root base (v.removeNetwork i.network))
      (fun _ k => k.Holds root base v) := by
  refine ⟨Files.records_removeIfThere _, fun h hh _ => ?_⟩
  rw [hi.dir]
  rcases hh.inOrder.linkless.removeIfThere_network hi.name with
    ⟨hok, hr⟩ | ⟨hr, -, hno⟩ | ⟨e, hr⟩
  · refine ⟨fun _ _ => ⟨hr.inOrder hh.inOrder, ?_⟩, fun _ hf => ?_⟩
    · rw [hr.shelf, hh.shelf_eq]
    · rw [hok] at hf
      cases hf
  · have hnet : v.isNetwork i.network = false := by
      rw [← Bool.not_eq_true, ← hh.shelf_eq, isNetwork_shelf_iff]
      exact not_hasNetwork_of_get?_eq_none hno
    rw [hr, hh.removeNetwork_of_not hnet]
    exact ⟨fun _ _ => hh, fun _ _ => hh⟩
  · rw [hr]
    exact of_error hh

/-- **A network taken down**: its lines are withdrawn from all others if it was announced, and it
is gone; or that has failed on the way.

**Proof sketch.** After the withdrawal the shelf is the revised one; stopping the daemon leaves it
so, and removing the directory takes the network from it. A network that keeps to itself withdraws
nothing. -/
theorem Mesh.tearDown_meets (m : Mesh) (hs : m.settings.rootDir = root) (hi : i.IsBelow root)
    (a : Attachment) :
    (m.tearDown i a).Meets base (Host.Holds root base v)
      (fun _ k => ∃ names, Siblings v i.network names ∧ k.Holds root base
        ((if i.multiDomain then v.revise names fun m =>
          Forwarders.remove (v.forwarders m) (Forwarders.scopedLines i.domain a.servers)
        else v).removeNetwork i.network))
      (fun _ k => ∃ names, k.Holds root base (v.revise names fun m =>
        Forwarders.remove (v.forwarders m) (Forwarders.scopedLines i.domain a.servers))) := by
  have hrest : ∀ w : Shelf, Meets base (Host.Holds root base w) i.demolish
      (fun _ k => k.Holds root base (w.removeNetwork i.network))
      (fun _ k => k.Holds root base w) := by
    intro w
    refine .bind ((i.supervisor.serves_stop w).mono (fun _ hq => hq) (fun _ _ hq => hq)
      fun _ _ he => he.1) fun _ => ?_
    refine .bind (Files.removeIfThere_meets hi) fun _ => .log fun k hk => ?_
    exact hk.of_disk rfl
  rw [tearDown_eq_demolish]
  split
  · refine .bind ((withdraw_meets hs hi a.servers).mono (fun _ hq => hq) (fun _ _ hq => hq) ?_)
      fun _ => ⟨(hrest v).records, ?_⟩
    · rintro fault k ⟨⟨names, -, hk⟩, -⟩
      exact ⟨names, hk⟩
    · rintro k ⟨names, hsib, hk⟩ ht
      obtain ⟨hok, herr⟩ := (hrest _).holds k hk ht
      exact ⟨fun u hu => ⟨names, hsib, hok u hu⟩, fun fault hf => ⟨names, herr fault hf⟩⟩
  · refine ⟨(hrest v).records, fun h hh ht => ?_⟩
    obtain ⟨names, -, hsib⟩ := exists_siblings hs hh hi.name
    obtain ⟨hok, herr⟩ := (hrest v).holds h hh ht
    refine ⟨fun u hu => ⟨names, hsib, hok u hu⟩, fun fault hf => ⟨[], ?_⟩⟩
    rw [Shelf.revise_nil]
    exact herr fault hf

/-- The networks while their lines are withdrawn do not depend on the hosts file.

**Proof sketch.** The forwarders are read from another file, and the revision writes another file
than the hosts. -/
lemma Shelf.revise_write_hosts (v : Shelf) (n s : Text) (names own : List Text) :
    (v.write n hostsName s).revise names
        (fun m => Forwarders.remove ((v.write n hostsName s).forwarders m) own) =
      (v.revise names fun m => Forwarders.remove (v.forwarders m) own).write n hostsName s := by
  have hne : localServersName ≠ hostsName := by decide
  have hfor : ∀ m, (v.write n hostsName s).forwarders m = v.forwarders m := by
    intro m
    unfold Shelf.forwarders
    rw [Shelf.text?_write_of_ne v fun h => hne h.2]
  ext m f x
  · rfl
  · simp only [revise, hfor, text?_write]
    by_cases hf : f = localServersName
    · simp [hf, hne]
    · simp [hf]

/-- **A pod detached**: other pods are left, or the network is taken down. If that fails, all
networks are still there and publish what they did.

**Proof sketch.** The pod is taken out first. If others are left, their daemon reads its files
again, which serves the shelf; if not, the network is taken down. In both cases only the own files
are edited before. -/
theorem Mesh.cleanUp_meets (m : Mesh) (hs : m.settings.rootDir = root) (hi : i.IsBelow root)
    (a : Attachment) :
    (m.cleanUp i a).Meets base (Host.Holds root base v)
      (fun _ k => ∃ v', v.Detached i a v' ∧ k.Holds root base v')
      (fun _ k => ∃ v', v.KeepsOwn v' ∧ k.Holds root base v') := by
  refine ⟨m.records_cleanUp i a, fun h hh ht => ?_⟩
  rw [cleanUp_eq, run_bind] at ht ⊢
  rcases (m.takeOut_ends hi a hh).cases with ⟨left, k, hr, v₁, hout, he⟩ | ⟨fault, k, hr, he, -⟩
  · rw [hr] at ht ⊢
    dsimp only at ht ⊢
    cases left with
    | true =>
      rw [if_pos rfl] at ht ⊢
      obtain ⟨hok, herr⟩ :=
        (i.supervisor.serves_hup v₁).after he.holds he.edits.journal_prefix ht
      refine ⟨fun u hu => ⟨v₁, ?_, hok u hu⟩, fun fault hf => ?_⟩
      · rcases hout with ⟨-, hleft, -⟩ | ⟨t, -, -, hv⟩
        · cases hleft
        · exact .inl ⟨_, hv⟩
      · exact ⟨v₁, hout.keepsOwn, (herr fault hf).1⟩
    | false =>
      rw [if_neg (by simp)] at ht ⊢
      have hdown := @tearDown_meets root base i v₁ m hs hi a
      obtain ⟨hok, herr⟩ := hdown.after he.holds he.edits.journal_prefix ht
      refine ⟨fun u hu => ?_, fun fault hf => ?_⟩
      · obtain ⟨names, hsib, hk⟩ := hok u hu
        rcases hout with ⟨-, -, rfl⟩ | ⟨t, -, -, rfl⟩
        · exact ⟨_, .inr ⟨names, hsib, rfl⟩, hk⟩
        · refine ⟨_, .inr ⟨names, ⟨hsib.nodup, hsib.mem_iff, hsib.ordered⟩, rfl⟩, ?_⟩
          rw [Shelf.revise_write_hosts, ← apply_ite (fun w : Shelf =>
            w.write i.network hostsName _), Shelf.removeNetwork_write] at hk
          exact hk
      · obtain ⟨names, hk⟩ := herr fault hf
        exact ⟨_, hout.keepsOwn.trans (.revise names _), hk⟩
  · rw [hr]
    exact of_error ⟨v, .refl v, he.holds⟩

end CleanUp

end ResolverMesh
