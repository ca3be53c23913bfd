import ResolverMesh.Proofs.DaemonRuns
import ResolverMesh.Proofs.LinesTakenBack
import ResolverMesh.Proofs.RequestsAnywhere

set_option autoImplicit false
set_option relaxedAutoImplicit false

/-!
# A first attachment under way

While the first pod of a network is attached, the network's directory fills with files, and the
siblings get the network's forwarders one after the other. Nothing else is changed, except for the
pid files of siblings whose daemons are restarted. This module says so of every state that an
attachment, or the undoing of one, passes through, in a root that may hold anything but links.

## Main definitions

* `ResolverMesh.Action.Preserves` — with tame daemons, an action keeps a property.
* `ResolverMesh.Mesh.Unaware` — a root in which no sibling knows of an attachment.
* `ResolverMesh.Mesh.Ready` — the host on which the network's directory has just been made.
* `ResolverMesh.Mesh.Underway` — a host on which an attachment goes on from there.

## Main results

* `ResolverMesh.Mesh.Underway.put` — a text put where an attachment may put one.
* `ResolverMesh.Mesh.preserves_apply` — a sibling that is told of the network.
* `ResolverMesh.Mesh.preserves_announce`, `ResolverMesh.Mesh.preserves_outfit` — the parts of an
  attachment.
-/

namespace ResolverMesh

open ResolverMesh.Action Disk

/-! ## Properties that tame daemons do not break -/

/-- An action only adds to the journal, and with tame daemons it keeps a property of the host,
however it ends. -/
structure Action.Preserves {α : Type} (base : Location) (I : Host → Prop) (x : Action α) :
    Prop where
  /-- It only adds to the journal. -/
  records : Records x
  /-- It keeps the property. -/
  keeps : ∀ h, I h → Host.Tame base h (x h).2 → I (x h).2

namespace Action

section Preserves

variable {α β : Type} {base : Location} {I : Host → Prop} {x : Action α}

/-- A result alone preserves everything. -/
lemma preserves_pure (a : α) : Preserves base I (pure a) :=
  ⟨records_pure a, fun _ hh _ => hh⟩

/-- So does a failure. -/
lemma preserves_throw (fault : Fault) : Preserves base I (throw fault : Action α) :=
  ⟨records_throw fault, fun _ hh _ => hh⟩

/-- A query preserves everything. -/
lemma preserves_ask (q : Query α) : Preserves base I (ask q) :=
  ⟨records_ask q, fun _ hh _ => hh⟩

/-- So does a query that an action asks on the way. -/
lemma preserves_lift (q : Query α) : Preserves base I (liftM q : Action α) :=
  ⟨records_lift q, fun _ hh _ => hh⟩

/-- An action that is attempted preserves what it preserves by itself. -/
lemma Preserves.attempt (hx : Preserves base I x) : Preserves base I (attempt x) :=
  ⟨hx.records.attempt, hx.keeps⟩

/-- Two actions, one after the other, preserve what both do: daemons that are tame throughout are
so during each of them.

**Proof sketch.** If the first action ends with a fault, that is all. Otherwise the stretch is tame
just if both of its parts are, and each action keeps what it is to keep on its own part. -/
lemma Preserves.bind {f : α → Action β} (hx : Preserves base I x)
    (hf : ∀ a, Preserves base I (f a)) : Preserves base I (x >>= f) := by
  refine ⟨hx.records.bind fun a => (hf a).records, fun h hh ht => ?_⟩
  have hrec := hx.records h
  have hk := hx.keeps h hh
  rw [run_bind] at ht ⊢
  rcases hr : x h with ⟨fault | a, k⟩
  · rw [hr] at hk ht
    exact hk ht
  · rw [hr] at hrec hk ht
    obtain ⟨ht₁, ht₂⟩ := (Host.Tame.split hrec ((hf a).records k)).mp ht
    exact (hf a).keeps k (hk ht₁) ht₂

/-- An action that goes on from the answer to a query, on the same host. -/
lemma Preserves.bind_lift {q : Query α} {f : α → Action β} (hrec : ∀ a, Records (f a))
    (hf : ∀ h a, I h → q h = .ok a → Preserves base I (f a)) :
    Preserves base I (liftM q >>= f) := by
  refine ⟨(records_lift q).bind hrec, fun h hh ht => ?_⟩
  rw [run_bind, run_lift] at ht ⊢
  cases hq : q h with
  | error fault => exact hh
  | ok a =>
    rw [hq] at ht
    exact (hf h a hh hq).keeps h hh ht

/-- A file put in place preserves what is preserved when it is written. -/
lemma Preserves.ensure {p : Path} {s : Text} (hw : Preserves base I (Files.write p s)) :
    Preserves base I (Files.ensure p s) := by
  refine .bind (preserves_lift _) fun there => ?_
  split
  · exact preserves_pure _
  · exact hw

end Preserves

end Action

/-! ## What an attachment changes -/

/-- What happened up to a host has happened up to a later one. -/
lemma Host.mem_since_mono {o k l : Host} {e : Event} (hk : o.journal <+: k.journal)
    (hl : k.journal <+: l.journal) (he : e ∈ o.since k) : e ∈ o.since l := by
  rw [since_append hk hl]
  exact List.mem_append_left _ he

/-- What happened after a later host happened after an earlier one. -/
lemma Host.mem_since_of_suffix {o k l : Host} {e : Event} (hk : o.journal <+: k.journal)
    (hl : k.journal <+: l.journal) (he : e ∈ k.since l) : e ∈ o.since l := by
  rw [since_append hk hl]
  exact List.mem_append_right _ he

/-- From a host `o` to a later one, a daemon has written its pid at a place, which is not that of
another file of a network. -/
structure Host.HasPidAt (base : Location) (o k : Host) (loc : Location) : Prop where
  /-- A daemon wrote there. -/
  mem : .pidWritten loc ∈ o.since k
  /-- It is no other file of a network. -/
  tame : (Event.pidWritten loc).IsTame base
  /-- There is a file of text. -/
  file : ∃ id x s, k.disk.tree.get? loc = some (.file id x (.text s))

/-- The place of a pid file is the same on a later host, or seen from an earlier one. -/
lemma Host.HasPidAt.mono {base loc : Location} {o o' k k' : Host} (hp : o.HasPidAt base k loc)
    (hsince : ∀ e ∈ o.since k, e ∈ o'.since k')
    (hsame : k'.disk.tree.get? loc = k.disk.tree.get? loc) : o'.HasPidAt base k' loc :=
  ⟨hsince _ hp.mem, hp.tame, by rw [hsame]; exact hp.file⟩

/-- From a host `o` to a later one, lines were merged into the forwarders of a network. -/
structure Host.HasMerged (base : Location) (own : List Text) (o k : Host) (p : Text) : Prop where
  /-- The network was there. -/
  network : o.disk.HasNetwork base p
  /-- The file is the same, and holds the lines that it held with those merged in. -/
  text : ∃ id x t,
    o.disk.tree.get? (base ++ [Name.text p, .text localServersName]) = some (.file id x (.text t)) ∧
      k.disk.tree.get? (base ++ [Name.text p, .text localServersName]) = some (.file id x
        (.text (Forwarders.toText (Forwarders.merge (Forwarders.ofText t) own).lines)))

/-- A network's pid file is none of its other files. -/
lemma Event.IsTame.ne {base : Location} {loc : Location} {p f : Text}
    (h : (Event.pidWritten loc).IsTame base) (hf : f ≠ pidName) :
    loc ≠ base ++ [Name.text p, .text f] :=
  fun he => hf (h p f he)

/-- A pod whose lines in a hosts file are found again: its name is one word, and its aliases are on
one line. -/
structure Attachment.IsListable (a : Attachment) : Prop where
  /-- The pod has a name. -/
  ne_nil : a.podName ≠ []
  /-- The name has no blanks. -/
  word : ∀ c ∈ a.podName, Text.isBlank c = false
  /-- The aliases hold no line feeds. -/
  aliases : ∀ x ∈ a.aliases, '\n' ∉ x

/-- A text that could not be written has changed nothing. -/
lemma Files.eq_of_write_error {p : Path} {s : Text} {h k : Host} {fault : Fault}
    (hr : write p s h = (.error fault, k)) : k = h := by
  unfold write onDisk at hr
  dsimp only at hr
  split at hr
  · cases hr
    rfl
  · cases hr

namespace Mesh

/-- The network's directory is filled. -/
def outfit (m : Mesh) (i : Instance) (a : Attachment) : Action Unit := do
  i.ensureConfigFile a.interface
  m.chain.call (.ensure a.interface)
  HostsFile.append i.hostsFile a.podName a.aliases a.containerIps
  unless a.defaultServers.isEmpty do
    Forwarders.addPlain i.localServersFile a.defaultServers

/-- **An attachment** makes the network's directory, and goes on there. -/
theorem provision_eq_outfit (m : Mesh) (i : Instance) (a : Attachment) : m.provision i a = (do
    Files.makeDirectories instanceMode i.dir
    m.outfit i a
    m.announce i a
    i.supervisor.hup) := by
  rw [provision_eq]
  unfold enter outfit
  simp only [bind_assoc]

/-- The lines that an attachment makes known to the siblings. -/
abbrev ownLines (a : Attachment) : List Text :=
  Forwarders.scopedLines a.domain a.servers

/-- A root without links, none of whose networks but that of an attachment knows of it. -/
structure Unaware (m : Mesh) (base : Location) (a : Attachment) (h : Host) : Prop where
  /-- The root leads to a directory without links below. -/
  linkless : h.disk.Linkless m.settings.rootDir base
  /-- The forwarders of each sibling are as they are written, and hold none of the lines. -/
  siblings : ∀ p ≠ a.network, h.disk.HasNetwork base p → ∃ t,
    h.disk.fileText base p localServersName = some t ∧ Forwarders.IsCanonical t ∧
      ∀ l ∈ ownLines a, l ∉ Forwarders.ofText t

/-- A host on which the directory of a network has just been made, or could not be made, and no
pod was entered into it. -/
structure Ready (m : Mesh) (base : Location) (a : Attachment) (o : Host) : Prop
    extends m.Unaware base a o where
  /-- There is no hosts file. -/
  hosts : ∀ id x c, o.disk.tree.get? (base ++ [Name.text a.network, .text hostsName]) ≠
    some (.file id x c)
  /-- If the directory's path is one that the system takes, something is there. -/
  seated : Admits (m.settings.rootDir.join a.network) a.network →
    ∃ e, o.disk.tree.get? (base ++ [Name.text a.network]) = some e

/-- From a host `o`, a pod is being attached to a network. The siblings that satisfy `touched` may
have been told of it. -/
structure Underway (m : Mesh) (base : Location) (a : Attachment) (touched : Text → Prop)
    (o k : Host) : Prop where
  /-- The journal is only added to. -/
  journal : o.journal <+: k.journal
  /-- The current directory is the same. -/
  workDir : k.disk.workDir = o.disk.workDir
  /-- Nothing is gone. -/
  grows : o.disk.tree.Grows k.disk.tree
  /-- The root leads to a directory without links below. -/
  linkless : k.disk.Linkless m.settings.rootDir base
  /-- Outside the network's directory, pid files were written and siblings told. -/
  elsewhere : ∀ loc, ¬ base ++ [Name.text a.network] <+: loc →
    k.disk.tree.get? loc = o.disk.tree.get? loc ∨ o.HasPidAt base k loc ∨
      ∃ p, loc = base ++ [Name.text p, .text localServersName] ∧ touched p ∧
        o.HasMerged base (ownLines a) k p
  /-- The hosts file holds lines of the pod only. -/
  hosts : ∀ id x c, k.disk.tree.get? (base ++ [Name.text a.network, .text hostsName]) =
    some (.file id x c) → ∃ t, c = .text t ∧ HostsFile.IsOnlyOf a.podName t

variable {m : Mesh} {base : Location} {a : Attachment} {touched : Text → Prop} {o k l : Host}

/-- Only the disk matters to that. -/
lemma Unaware.of_disk (hh : m.Unaware base a o) (hd : k.disk = o.disk) : m.Unaware base a k :=
  ⟨by rw [hd]; exact hh.linkless, by rw [hd]; exact hh.siblings⟩

/-- An attachment that has only made its directory is under way. -/
lemma Ready.underway (ho : m.Ready base a o) : m.Underway base a touched o o :=
  ⟨List.prefix_refl _, rfl, .refl _, ho.linkless, fun _ _ => .inl rfl,
    fun id x c he => absurd he (ho.hosts id x c)⟩

namespace Underway

/-- Nothing is changed on the disk. -/
lemma of_disk (hk : m.Underway base a touched o k) (hd : l.disk = k.disk)
    (hj : k.journal <+: l.journal) : m.Underway base a touched o l := by
  refine ⟨hk.journal.trans hj, by rw [hd]; exact hk.workDir, by rw [hd]; exact hk.grows,
    by rw [hd]; exact hk.linkless, fun loc hloc => ?_, by rw [hd]; exact hk.hosts⟩
  rcases hk.elsewhere loc hloc with hsame | hpid | ⟨p, hp, ht, hnet, htext⟩
  · exact .inl (by rw [hd]; exact hsame)
  · exact .inr (.inl (hpid.mono (fun _ => Host.mem_since_mono hk.journal hj) (by rw [hd])))
  · exact .inr (.inr ⟨p, hp, ht, hnet, by rw [hd]; exact htext⟩)

/-- More siblings may have been told. -/
lemma mono {touched' : Text → Prop} (hk : m.Underway base a touched o k)
    (ht : ∀ p, touched p → touched' p) : m.Underway base a touched' o k := by
  refine ⟨hk.journal, hk.workDir, hk.grows, hk.linkless, fun loc hloc => ?_, hk.hosts⟩
  rcases hk.elsewhere loc hloc with hsame | hpid | ⟨p, hp, htouched, hmerged⟩
  · exact .inl hsame
  · exact .inr (.inl hpid)
  · exact .inr (.inr ⟨p, hp, ht p htouched, hmerged⟩)

/-- **A text put** in the place of a file or of nothing, where an attachment may put one. A sibling
need not have been told any more if it is put in the place of its forwarders.

**Proof sketch.** Each place outside the network's directory is this one or another. Of this one it
is assumed what it holds now. At another the tree is as before, so what was there is there still; a
sibling whose forwarders are another file is told as before. -/
theorem put {touched' : Text → Prop} {loc : Location} {id : Nat} {x : Bool} {s : Text}
    (hk : m.Underway base a touched o k) (hj : k.journal <+: l.journal)
    (hw : l.disk.workDir = k.disk.workDir)
    (ht : l.disk.tree = k.disk.tree.put loc (.file id x (.text s)))
    (halike : ∀ old, k.disk.tree.get? loc = some old → Entry.Alike old (.file id x (.text s)))
    (htouched : ∀ p, touched p → base ++ [Name.text p, .text localServersName] ≠ loc → touched' p)
    (helse : ¬ base ++ [Name.text a.network] <+: loc →
      l.disk.tree.get? loc = o.disk.tree.get? loc ∨ o.HasPidAt base l loc ∨
        ∃ p, loc = base ++ [Name.text p, .text localServersName] ∧ touched' p ∧
          o.HasMerged base (ownLines a) l p)
    (hhosts : loc = base ++ [Name.text a.network, .text hostsName] →
      HostsFile.IsOnlyOf a.podName s) : m.Underway base a touched' o l := by
  have hgrows : k.disk.tree.Grows l.disk.tree := by
    rw [ht]
    exact .put halike
  have hself : l.disk.tree.get? loc = some (.file id x (.text s)) := by
    rw [ht, FileTree.get?_put, if_pos rfl]
  have hother : ∀ loc' ≠ loc, l.disk.tree.get? loc' = k.disk.tree.get? loc' := by
    intro loc' hne
    rw [ht, FileTree.get?_put, if_neg hne]
  refine ⟨hk.journal.trans hj, hw.trans hk.workDir, hk.grows.trans hgrows,
    hk.linkless.of_put ht hw hgrows rfl, fun loc' hloc => ?_, fun id' x' c he => ?_⟩
  · by_cases hne : loc' = loc
    · rw [hne]
      exact helse (hne ▸ hloc)
    · rcases hk.elsewhere loc' hloc with hsame | hpid | ⟨p, hp, htold, hnet, htext⟩
      · exact .inl ((hother _ hne).trans hsame)
      · exact .inr (.inl (hpid.mono (fun _ => Host.mem_since_mono hk.journal hj)
          (hother _ hne)))
      · rw [hp] at hne
        refine .inr (.inr ⟨p, hp, htouched p htold hne, hnet, ?_⟩)
        rw [hother _ hne]
        exact htext
  · by_cases hne : base ++ [Name.text a.network, .text hostsName] = loc
    · rw [hne, hself] at he
      cases he
      exact ⟨s, rfl, hhosts hne.symm⟩
    · rw [hother _ hne] at he
      exact hk.hosts id' x' c he

/-- The siblings are those that there were.

**Proof sketch.** Places outside the network's directory have changed in files only. What was a
directory is still one, since entries keep their kind. -/
lemma hasNetwork_iff (hk : m.Underway base a touched o k) {p : Text} (hp : p ≠ a.network) :
    k.disk.HasNetwork base p ↔ o.disk.HasNetwork base p := by
  constructor
  · rintro ⟨id, mode, hd⟩
    have hloc : ¬ base ++ [Name.text a.network] <+: base ++ [Name.text p] := by
      simpa using Ne.symm hp
    rcases hk.elsewhere _ hloc with hsame | ⟨-, -, id', x, s, hfile⟩ | ⟨q, hq, -⟩
    · exact ⟨id, mode, hsame.symm.trans hd⟩
    · rw [hd] at hfile
      cases hfile
    · simp at hq
  · rintro ⟨id, mode, hd⟩
    obtain ⟨e, he, ha⟩ := hk.grows _ _ hd
    exact ⟨id, mode, by rw [he, ha.of_directory]⟩

/-- What the forwarders of a sibling are: as they were, or with the lines merged in.

**Proof sketch.** The file is outside the network's directory, so the state under way says what it
holds: the same as on the host that was ready, or the merged lines. It is no pid file by its name.
-/
lemma local_cases (hk : m.Underway base a touched o k) (ho : m.Ready base a o) {p : Text}
    (hp : p ≠ a.network) (hnet : o.disk.HasNetwork base p) :
    ∃ id x t, o.disk.tree.get? (base ++ [Name.text p, .text localServersName]) =
        some (.file id x (.text t)) ∧ Forwarders.IsCanonical t ∧
      (∀ l ∈ ownLines a, l ∉ Forwarders.ofText t) ∧
      (k.disk.tree.get? (base ++ [Name.text p, .text localServersName]) =
          some (.file id x (.text t)) ∨
        touched p ∧ k.disk.tree.get? (base ++ [Name.text p, .text localServersName]) =
          some (.file id x (.text (Forwarders.toText
            (Forwarders.merge (Forwarders.ofText t) (ownLines a)).lines)))) := by
  obtain ⟨t, ht, hcanonical, hnone⟩ := ho.siblings p hp hnet
  obtain ⟨e, he, htext⟩ := Option.bind_eq_some_iff.mp ht
  obtain ⟨id, x, s, rfl⟩ := Entry.exists_of_text?_isSome (by rw [htext]; rfl)
  obtain rfl : s = t := Option.some.inj htext
  refine ⟨id, x, s, he, hcanonical, hnone, ?_⟩
  have hloc : ¬ base ++ [Name.text a.network] <+:
      base ++ [Name.text p, .text localServersName] := by
    simpa using Ne.symm hp
  rcases hk.elsewhere _ hloc with hsame | hpid | ⟨q, hq, htold, -, id', x', t', ho', hk'⟩
  · exact .inl (hsame.trans he)
  · exact absurd rfl (hpid.tame.ne (by decide))
  · obtain rfl : p = q := by simpa using hq
    rw [he] at ho'
    cases ho'
    exact .inr ⟨htold, hk'⟩

/-- The lines that are read from the forwarders of a sibling.

**Proof sketch.** The sibling has its directory still, so that a missing file is ruled out and its
text is read. -/
lemma readLines_local (hk : m.Underway base a touched o k) {i : Instance}
    (hi : i.IsBelow m.settings.rootDir) (hp : i.network ≠ a.network)
    (hnet : o.disk.HasNetwork base i.network) {id : Nat} {x : Bool} {t : Text}
    (hfile : k.disk.tree.get? (base ++ [Name.text i.network, .text localServersName]) =
      some (.file id x (.text t))) {ls : List Text}
    (hr : Forwarders.readLines i.localServersFile k = .ok ls) : ls = Forwarders.ofText t := by
  unfold Forwarders.readLines at hr
  rw [hi.localServersFile, Query.run_bind] at hr
  cases hread : Files.readIfThere (m.settings.rootDir.fileOf i.network localServersName) k with
  | error fault =>
    rw [hread] at hr
    cases hr
  | ok r =>
    rcases hk.linkless.readIfThere_ok hi.name isFileName_localServersName hread with
      ⟨-, rfl⟩ | ⟨hno, -⟩
    · rw [hread, fileText, hfile] at hr
      cases hr
      rfl
    · exact absurd ((hk.hasNetwork_iff hp).mpr hnet) hno

end Underway

/-! ## Files of the network -/

/-- An attachment's instance: the network's directory is that of the root, and the lines of the
instance are those of the attachment. -/
structure IsFor (m : Mesh) (i : Instance) (a : Attachment) : Prop where
  /-- It is below the root. -/
  below : i.IsBelow m.settings.rootDir
  /-- It is the network's. -/
  network : i.network = a.network
  /-- So is the domain. -/
  domain : i.domain = a.domain

section Requests

variable {f : Text} {i : Instance}

/-- A line of the log changes no file. -/
lemma preserves_log (entry : LogEntry) :
    Preserves base (m.Underway base a touched o) (log entry) :=
  ⟨records_log entry, fun _ hk _ => hk.of_disk rfl (List.prefix_append _ _)⟩

/-- A call of the hook changes no file. -/
lemma preserves_call (request : ChainCall) :
    Preserves base (m.Underway base a touched o) (m.chain.call request) := by
  refine .bind (preserves_ask _) fun past => .bind ?_ fun _ => ?_
  · exact ⟨records_record _, fun _ hk _ => hk.of_disk rfl (List.prefix_append _ _)⟩
  · split
    · exact preserves_pure _
    · exact preserves_throw _

/-- A file of the network is written, which is another one than its hosts file or holds lines of
the pod only.

**Proof sketch.** The write lands at the file's own place in the network's directory, where an
attachment may put what it likes, its hosts file apart. -/
lemma preserves_onFile (hi : m.IsFor i a) (hf : IsFileName f) {update : Option Content → Content}
    (hupdate : ∀ k id x old, m.Underway base a touched o k →
      k.disk.tree.get? (base ++ [Name.text a.network, .text f]) = old.map (.file id x ·) →
        ∃ s, update old = .text s ∧ (f = hostsName → HostsFile.IsOnlyOf a.podName s)) :
    Preserves base (m.Underway base a touched o)
      (onDisk (·.write (m.settings.rootDir.fileOf i.network f) update) .wroteFile) := by
  refine ⟨records_onDisk _ _, fun k hk _ => ?_⟩
  unfold onDisk
  dsimp only
  cases hw : k.disk.write (m.settings.rootDir.fileOf i.network f) update with
  | error e => exact hk
  | ok c =>
    obtain ⟨hloc, hdir, id, x, old, htree, hold⟩ := hk.linkless.write_ok hi.below.name hf hw
    rw [hi.network] at hloc htree hold
    obtain ⟨s, hs, hhosts⟩ := hupdate k id x old hk hold
    rw [hs] at htree
    refine hk.put (List.prefix_append _ _) hdir htree (fun e he => ?_) (fun _ hp _ => hp)
      (fun hout => ?_) fun he => ?_
    · rw [hold] at he
      obtain ⟨c, -, rfl⟩ := Option.map_eq_some_iff.mp he
      rfl
    · exact absurd (by simp) hout
    · exact hhosts (by simpa using he)

/-- A file of the network may be written, its hosts file apart. -/
lemma preserves_write (hi : m.IsFor i a) (hf : IsFileName f) (hne : f ≠ hostsName) (s : Text) :
    Preserves base (m.Underway base a touched o)
      (Files.write (m.settings.rootDir.fileOf i.network f) s) :=
  preserves_onFile hi hf fun _ _ _ _ _ _ => ⟨s, rfl, fun he => absurd he hne⟩

/-- Its file of forwarders may be written. -/
lemma preserves_writeLocal (hi : m.IsFor i a) (s : Text) :
    Preserves base (m.Underway base a touched o) (Files.write i.localServersFile s) := by
  rw [hi.below.localServersFile]
  exact preserves_write hi isFileName_localServersName (by decide) s

/-- The files of its daemon may be written where they are missing. -/
lemma preserves_ensureConfigFile (hi : m.IsFor i a) (interface : Text) :
    Preserves base (m.Underway base a touched o) (i.ensureConfigFile interface) := by
  rw [Instance.ensureConfigFile_eq]
  refine .bind (.ensure (preserves_writeLocal hi _)) fun _ => .ensure ?_
  rw [hi.below.configFile]
  exact preserves_write hi isFileName_configName (by decide) _

/-- Default servers may be added to its forwarders. -/
lemma preserves_addPlain (hi : m.IsFor i a) (servers : List Text) :
    Preserves base (m.Underway base a touched o)
      (Forwarders.addPlain i.localServersFile servers) := by
  refine .bind (preserves_lift _) fun current => ?_
  dsimp only
  split
  · exact preserves_writeLocal hi _
  · exact preserves_pure _

/-- The pod is entered into the hosts file.

**Proof sketch.** The entry is only the pod's, whether it begins the file or stands behind what is
there. -/
lemma preserves_append (hi : m.IsFor i a) (ha : a.IsListable) :
    Preserves base (m.Underway base a touched o)
      (HostsFile.append i.hostsFile a.podName a.aliases a.containerIps) := by
  have hentry := HostsFile.isOnlyOf_entry ha.ne_nil ha.word ha.aliases a.containerIps
  unfold HostsFile.append
  rw [hi.below.hostsFile]
  refine preserves_onFile hi isFileName_hostsName fun k id x old hk hold => ?_
  cases old with
  | none => exact ⟨_, rfl, fun _ => hentry⟩
  | some c =>
    obtain ⟨t, rfl, ht⟩ := hk.hosts id x c hold
    exact ⟨_, rfl, fun _ => ht.append hentry⟩

/-- **A network's files**, once its directory is there. -/
theorem preserves_outfit (hi : m.IsFor i a) (ha : a.IsListable) :
    Preserves base (m.Underway base a touched o) (m.outfit i a) := by
  refine .bind (preserves_ensureConfigFile hi _) fun _ => .bind (preserves_call _) fun _ =>
    .bind (preserves_append hi ha) fun _ => ?_
  split
  · exact preserves_pure _
  · exact preserves_addPlain hi _

end Requests

/-! ## Daemons -/

section Daemons

variable (s : Supervisor)

/-- A daemon started writes its pid file, and nothing else.

**Proof sketch.** Only a start that leaves a daemon behind changes a file. The effect of the pid
file's writing is recorded after the host that was ready, and it is tame, so its place is one where
a pid file may have been put. -/
lemma preserves_start : Preserves base (m.Underway base a touched o) s.start := by
  refine ⟨s.records_start, fun k hk ht => ?_⟩
  rcases s.start_cases k with ⟨fault, hr | hr⟩ | ⟨hr, -⟩ | ⟨pidFile, c, hr, -, hc⟩ <;>
    rw [hr] at ht ⊢
  · exact hk.of_disk rfl (List.prefix_append _ _)
  · exact hk.of_disk rfl ⟨_, (List.append_assoc _ _ _).symm⟩
  · exact hk.of_disk rfl (((List.prefix_append _ _).trans (List.prefix_append _ _)).trans
      (List.prefix_append _ _))
  · generalize hl : ((k.launching s.command).leftBehind c).record
      (.logged (.startedDaemon s.configFile)) = l at ht ⊢
    have hj : l.journal = k.journal ++ [Event.launched s.command, .began s.command,
        .daemonStarted k.nextPid, .pidWritten c.loc, .logged (.startedDaemon s.configFile)] := by
      rw [← hl]
      change ((k.launching s.command).leftBehind c).journal ++ _ = _
      rw [k.journal_leftBehind, List.append_assoc]
      rfl
    have hdisk : l.disk = c.disk := by
      rw [← hl]
      rfl
    have hprefix : k.journal <+: l.journal := ⟨_, hj.symm⟩
    have hmem : .pidWritten c.loc ∈ k.since l := by
      rw [Host.since_of_journal hj]
      simp
    have htame := ht _ hmem
    obtain ⟨hdir, id, x, htree, halike⟩ := writeText_ok hc
    rw [← hdisk] at hdir htree
    have hself : l.disk.tree.get? c.loc =
        some (.file id x (.text (Launch.pidLine k.nextPid))) := by
      rw [htree, FileTree.get?_put, if_pos rfl]
    have hsince := Host.mem_since_of_suffix hk.journal hprefix hmem
    exact hk.put hprefix hdir htree halike (fun _ hp _ => hp)
      (fun _ => .inr (.inl ⟨hsince, htame, id, x, _, hself⟩))
      fun he => absurd he (htame.ne (by decide))

/-- A daemon may be stopped, which changes no file.

**Proof sketch.** By whether the process named takes the signal. If not, the stop ends with nothing
done, with a fault, or with a message. -/
lemma preserves_stop : Preserves base (m.Underway base a touched o) s.stop := by
  refine ⟨s.records_stop, fun k hk _ => hk.of_disk ?_ (s.records_stop k)⟩
  by_cases hacc : ∃ p : Nat, PidFile.read k.disk s.pidFile = .pid p ∧ Signal.accepts k p = true
  · obtain ⟨p, hr, ha⟩ := hacc
    rw [Supervisor.stop_of_accepts hr ha]
    rfl
  · rcases s.stop_of_not_accepts hacc with hr | ⟨fault, hr⟩ | ⟨entry, hr⟩
    · rw [hr]
    · rw [hr]
    · rw [hr]
      rfl

/-- A daemon may be told to read its files again.

**Proof sketch.** A signal touches no file, and where the daemon is gone or does not take the
signal, it is started. -/
lemma preserves_hup : Preserves base (m.Underway base a touched o) s.hup := by
  have hsend : ∀ pid signal, Preserves base (m.Underway base a touched o)
      (Signal.send pid signal) := fun pid signal =>
    ⟨Signal.records_send pid signal, fun k hk _ =>
      hk.of_disk (Signal.disk_send pid signal k) (Signal.records_send pid signal k)⟩
  refine .bind (preserves_ask _) fun state => ?_
  cases state with
  | notRunning => exact preserves_start s
  | running n =>
    refine .bind (hsend _ _).attempt fun sent => ?_
    split
    · exact preserves_pure _
    · exact preserves_start s
    · exact preserves_throw _

/-- A daemon that runs may be restarted.

**Proof sketch.** By the state of the daemon, and by whether it outlives the signal, which is only
logged. -/
lemma preserves_restartIfRunning :
    Preserves base (m.Underway base a touched o) s.restartIfRunning := by
  refine .bind (preserves_ask _) fun state => ?_
  cases state with
  | notRunning => exact preserves_pure _
  | running n =>
    refine .bind (preserves_stop s) fun _ => .bind (preserves_ask _) fun b => ?_
    dsimp only
    split
    · exact .bind (preserves_log _) fun _ => preserves_start s
    · exact preserves_start s

end Daemons

/-! ## Siblings -/

section Siblings

variable {i : Instance}

/-- An update tells a sibling of the attachment: it merges the lines into what the sibling's
forwarders were. -/
structure Tells (m : Mesh) (base : Location) (a : Attachment) (o : Host) (u : SiblingUpdate) :
    Prop where
  /-- It is of a network below the root. -/
  below : u.sibling.IsBelow m.settings.rootDir
  /-- The network is another one. -/
  ne : u.sibling.network ≠ a.network
  /-- It is there. -/
  network : o.disk.HasNetwork base u.sibling.network
  /-- What its file holds afterwards. -/
  text : ∀ t, o.disk.fileText base u.sibling.network localServersName = some t →
    Forwarders.toText u.lines =
      Forwarders.toText (Forwarders.merge (Forwarders.ofText t) (ownLines a)).lines

/-- **The forwarders of a sibling written anew**, with the lines merged in or without them. In the
second case the sibling need not have been told any more.

**Proof sketch.** The sibling's forwarders are a file by `local_cases`, which has kept its
identity. The write puts the text into that very file, and the text is one of the two that a
sibling may have. -/
theorem Underway.write_local (hk : m.Underway base a touched o k) (ho : m.Ready base a o)
    (hi : i.IsBelow m.settings.rootDir) (hp : i.network ≠ a.network)
    (hnet : o.disk.HasNetwork base i.network) {s t : Text} {touched' : Text → Prop}
    (ht : o.disk.fileText base i.network localServersName = some t)
    (hs : s = t ∨ touched' i.network ∧
      s = Forwarders.toText (Forwarders.merge (Forwarders.ofText t) (ownLines a)).lines)
    (htouched : ∀ p, touched p → p ≠ i.network → touched' p)
    (hr : Files.write i.localServersFile s k = (.ok (), l)) :
    m.Underway base a touched' o l := by
  obtain ⟨id, x, t', hfile, -, -, hcases⟩ := hk.local_cases ho hp hnet
  obtain rfl : t' = t := by
    rw [fileText, hfile] at ht
    exact Option.some.inj ht
  have hwas : ∃ c, k.disk.tree.get? (base ++ [Name.text i.network, .text localServersName]) =
      some (.file id x c) := by
    rcases hcases with hsame | ⟨-, hmerged⟩
    · exact ⟨_, hsame⟩
    · exact ⟨_, hmerged⟩
  rw [hi.localServersFile] at hr
  unfold Files.write onDisk at hr
  dsimp only at hr
  cases hw : k.disk.writeText (m.settings.rootDir.fileOf i.network localServersName) s with
  | error e =>
    rw [hw] at hr
    cases hr
  | ok c =>
    rw [hw] at hr
    cases hr
    obtain ⟨hloc, hdir, id', x', old, htree, hold⟩ :=
      hk.linkless.write_ok hi.name isFileName_localServersName hw
    -- it is the same file as before
    obtain ⟨c', hc'⟩ := hwas
    rw [hc'] at hold
    obtain ⟨c'', -, heq⟩ := Option.map_eq_some_iff.mp hold.symm
    obtain ⟨rfl, rfl, -⟩ := Entry.file.inj heq
    have hself : c.disk.tree.get? (base ++ [Name.text i.network, .text localServersName]) =
        some (.file id' x' (.text s)) := by
      rw [htree, FileTree.get?_put, if_pos rfl]
    refine hk.put (List.prefix_append _ _) hdir htree (fun e he => ?_) (fun p htold hne => ?_)
      (fun _ => ?_) fun he => ?_
    · rw [hc'] at he
      cases he
      rfl
    · exact htouched p htold fun heq => hne (by rw [heq])
    · rcases hs with rfl | ⟨htold, rfl⟩
      · exact .inl (hself.trans hfile.symm)
      · exact .inr (.inr ⟨i.network, rfl, htold, hnet, id', x', t', hfile, hself⟩)
    · have hne : localServersName ≠ hostsName := by decide
      simp [hne] at he

/-- **A sibling is told**, and its daemon is restarted if it runs.

**Proof sketch.** A write that fails leaves the host as it is. One that succeeds has written what
the sibling may be told, and then its daemon is restarted. -/
theorem preserves_apply (ho : m.Ready base a o) {u : SiblingUpdate} (hu : m.Tells base a o u)
    (htold : touched u.sibling.network) :
    Preserves base (m.Underway base a touched o) u.apply := by
  refine .bind ⟨records_onDisk _ _, fun k hk _ => ?_⟩ fun _ => preserves_restartIfRunning _
  obtain ⟨t, ht, -⟩ := ho.siblings _ hu.ne hu.network
  rcases hr : Forwarders.writeLines u.sibling.localServersFile u.lines k with ⟨fault | v, l⟩
  · obtain rfl := Files.eq_of_write_error hr
    exact hk
  · exact hk.write_local ho hu.below hu.ne hu.network ht (.inr ⟨htold, hu.text t ht⟩)
      (fun _ hp _ => hp) hr

/-- Siblings may be told one after the other, by induction on the updates. -/
lemma preserves_applyAll (ho : m.Ready base a o) (htold : ∀ p, touched p)
    {us : List SiblingUpdate} (hus : ∀ u ∈ us, m.Tells base a o u) :
    Preserves base (m.Underway base a touched o) (Propagation.applyAll us) := by
  induction us with
  | nil => exact preserves_pure _
  | cons u us ih =>
    exact .bind (preserves_apply ho (hus u (by simp)) (htold _)) fun _ =>
      ih fun v hv => hus v (by simp [hv])

/-- The lines of an attachment can be read from a file again. -/
lemma isClean_ownLines (hd : '\n' ∉ a.domain) : ∀ l ∈ ownLines a, Forwarders.IsClean l :=
  fun _ hl => Forwarders.isClean_of_mem_scopedLines hd hl

/-- An update that was noted tells a sibling of the attachment. A sibling that has been told
before lacks no line.

**Proof sketch.** The survey has read the sibling's forwarders. Either they are those that it had
at first, and the update is what is merged into them, or they hold the lines already, and then no
update is noted. -/
lemma Underway.tells_of_noted (hk : m.Underway base a touched o k) (ho : m.Ready base a o)
    (hd : '\n' ∉ a.domain) {names : List Text}
    (hnames : ∀ p ∈ names, p ≠ a.network ∧ o.disk.HasNetwork base p) {u : SiblingUpdate}
    (hu : Propagation.Noted m.settings (ownLines a) names k u) : m.Tells base a o u := by
  obtain ⟨hne, hnet⟩ := hnames _ hu.mem
  obtain ⟨theirs, hread, hchanged, hlines⟩ := hu.lines
  obtain ⟨id, x, t, hfile, -, -, hsame | ⟨-, hmerged⟩⟩ := hk.local_cases ho hne hnet
  · refine ⟨hu.below, hne, hnet, fun t' ht' => ?_⟩
    rw [fileText, hfile] at ht'
    obtain rfl : t = t' := Option.some.inj ht'
    rw [hlines, hk.readLines_local hu.below hne hnet hsame hread]
  · obtain ⟨l, hl, hno⟩ := Forwarders.changed_merge_iff.mp hchanged
    refine absurd ?_ hno
    rw [hk.readLines_local hu.below hne hnet hmerged hread]
    exact Forwarders.mem_ofText_toText (Forwarders.mem_merge.mpr (.inr hl))
      (isClean_ownLines hd l hl)

/-- The siblings that are listed. -/
lemma Underway.mem_siblings_iff (hk : m.Underway base a touched o k) (hi : m.IsFor i a)
    {names : List Text} (hr : m.settings.siblings i.dir k = .ok names) {p : Text} :
    p ∈ names ↔ p ≠ a.network ∧ o.disk.HasNetwork base p := by
  obtain ⟨names', hr', -, hmem, -⟩ := hk.linkless.leads.siblings hi.below.name rfl
  rw [← hi.below.dir, hr] at hr'
  cases hr'
  rw [hmem, hi.network, and_comm]
  exact and_congr_right fun hp => hk.hasNetwork_iff hp

/-- The network may be published.

**Proof sketch.** The network's own file is one that may be written. The siblings that are listed
were there on the host that was ready, and the updates noted for them merge in the network's lines
and no others, so all of them may be applied. -/
lemma preserves_publish (ho : m.Ready base a o) (hi : m.IsFor i a) (hd : '\n' ∉ a.domain)
    (htold : ∀ p, touched p) :
    Preserves base (m.Underway base a touched o)
      (Propagation.publish m.settings i a.servers) := by
  unfold Propagation.publish Forwarders.writeLines
  dsimp only
  rw [hi.below.ownServersFile, hi.domain]
  refine .bind (preserves_write hi isFileName_ownServersName (by decide) _) fun _ =>
    .bind (preserves_lift _) fun current => .bind_lift ?_ fun k names hk hnames => ?_
  · intro names
    refine .bind (records_lift _) fun found => .bind (Propagation.records_applyAll _) fun _ =>
      .bind (records_onDisk _ _) fun _ => records_log _
  have hmem : ∀ p ∈ names, p ≠ a.network ∧ o.disk.HasNetwork base p :=
    fun p hp => (hk.mem_siblings_iff hi hnames).mp hp
  refine .bind_lift ?_ fun k' found hk' hfound => ?_
  · intro found
    exact .bind (Propagation.records_applyAll _) fun _ => .bind (records_onDisk _ _) fun _ =>
      records_log _
  have hnoted := Propagation.noted_of_survey hfound (fun _ hp => hp) (by simp)
  exact .bind (preserves_applyAll ho htold fun u hu => hk'.tells_of_noted ho hd hmem (hnoted u hu))
    fun _ => .bind (preserves_writeLocal hi _) fun _ => preserves_log _

/-- **The network made known to its siblings**, if it is one that they may be told of. -/
theorem preserves_announce (ho : m.Ready base a o) (hi : m.IsFor i a) (hd : '\n' ∉ a.domain)
    (htold : i.multiDomain = true → ∀ p, touched p) :
    Preserves base (m.Underway base a touched o) (m.announce i a) := by
  rw [announce_eq]
  split
  · next hmulti =>
    refine .bind (preserves_lift _) fun running => ?_
    split
    · exact preserves_pure _
    · exact preserves_publish ho hi hd (htold hmulti)
  · exact preserves_pure _

end Siblings

end Mesh

end ResolverMesh
