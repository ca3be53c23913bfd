import ResolverMesh.Proofs.AdmittedRequests
import ResolverMesh.Proofs.AnnouncementPlan
import ResolverMesh.Proofs.DaemonRuns
import ResolverMesh.Proofs.TextFiles

set_option autoImplicit false
set_option relaxedAutoImplicit false

/-!
# The configuration of a daemon, read back

The configuration of a daemon is put together from texts that are not escaped: the path of the
network's directory, its domain and an interface. They stand behind an equals sign each, on lines of
their own, so whatever they hold but line feeds, no setting is added by it and none is lost. This
module reads a configuration line by line, by a reader of its own, and says which settings it finds:
those that tell the instance, once each.

The configuration is written into a directory that holds none. Whether it can be is a matter of the
length of the path alone, since the system takes none that is longer than
`ResolverMesh.Disk.longestPath`.

## Main definitions

* `ResolverMesh.DaemonConfig.settings`, `ResolverMesh.DaemonConfig.valuesOf` — the settings that a
  text holds, and the values that it gives a key.
* `ResolverMesh.DaemonConfig.Tells` — a text tells an instance and an interface.

## Main results

* `ResolverMesh.DaemonConfig.settings_configLines` — the settings of an instance.
* `ResolverMesh.DaemonConfig.tells_configLines` — they tell the instance and the interface.
* `ResolverMesh.Instance.ensureConfigFile_of_fresh`,
  `ResolverMesh.Instance.ensureConfigFile_of_tooLong`,
  `ResolverMesh.Instance.isRefused_of_ensureConfigFile` — a configuration written, or refused.
* `ResolverMesh.Instance.configured_of_resolved` — the instance of any network.
-/

namespace ResolverMesh

open ResolverMesh.Action Disk

/-! ## Reading a configuration -/

namespace Text

/-- Lines that are written one after the other are the pieces between line feeds, and nothing is
behind the last one. -/
lemma pieces_unlines {ls : List Text} (h : ∀ l ∈ ls, '\n' ∉ l) :
    pieces (· == '\n') (unlines ls) = ls ++ [[]] := by
  induction ls with
  | nil => rfl
  | cons l ls ih =>
    rw [unlines_cons, pieces_append (by simp), pieces_of_not_mem (h l (by simp)),
      ih fun m hm => h m (by simp [hm])]
    rfl

end Text

namespace DaemonConfig

/-- What a line sets: the key before its first equals sign, and the value behind it, if there is
one. -/
def settingOf (l : Text) : String × Option Text :=
  (.ofList (l.takeWhile (· ≠ '=')), (l.dropWhile (· ≠ '=')).tail?)

/-- The settings of some lines, one for each that is no comment. -/
def settingsOf (ls : List Text) : List (String × Option Text) :=
  (ls.filter fun l => l.head? ≠ some '#').map settingOf

/-- The settings that a text holds, which stand on lines of their own. -/
def settings (t : Text) : List (String × Option Text) :=
  settingsOf (Text.pieces (· == '\n') t)

/-- The values that a text gives a key, one for each line that sets it. -/
def valuesOf (t : Text) (key : String) : List (Option Text) :=
  ((settings t).filter fun setting => setting.1 = key).map Prod.snd

/-- A text gives a key one value, and gives it once. -/
def Gives (t : Text) (key : String) (value : Text) : Prop :=
  valuesOf t key = [some value]

/-- A text tells an instance and an interface: each setting of them is there once, and those of a
domain are there only if there is one. -/
structure Tells (t : Text) (i : Instance) (interface : Text) : Prop where
  /-- The file for the pid. -/
  pidFile : Gives t "pid-file" i.pidFile.text
  /-- The hosts file. -/
  hostsFile : Gives t "addn-hosts" i.hostsFile.text
  /-- The file of forwarders. -/
  localServersFile : Gives t "servers-file" i.localServersFile.text
  /-- The interface. -/
  interface : Gives t "interface" interface
  /-- The domain. -/
  domain : valuesOf t "domain" = if i.domain = [] then [] else [some i.domain]
  /-- The domain that is not asked for elsewhere. -/
  localDomain : valuesOf t "local" =
    if i.domain = [] then [] else [some ('/' :: i.domain ++ ['/'])]
  /-- Names are completed by the domain. -/
  expandHosts : valuesOf t "expand-hosts" = if i.domain = [] then [] else [none]

/-- What one text tells is the same whenever it is read.

**Proof sketch.** A setting that is given once has one value. The domain is told by a setting or by
its absence. -/
lemma Tells.unique {t : Text} {i j : Instance} {a b : Text} (hi : Tells t i a) (hj : Tells t j b) :
    i.domain = j.domain ∧ a = b ∧ i.pidFile = j.pidFile ∧ i.hostsFile = j.hostsFile ∧
      i.localServersFile = j.localServersFile := by
  have hvalue : ∀ {key : String} {v w : Text}, Gives t key v → Gives t key w → v = w := by
    intro key v w hv hw
    unfold Gives at hv hw
    rw [hv] at hw
    simpa using hw
  have hpath : ∀ {p q : Path}, p.text = q.text → p = q := by
    rintro ⟨s⟩ ⟨u⟩ rfl
    rfl
  have hdomain := hi.domain.symm.trans hj.domain
  refine ⟨?_, hvalue hi.interface hj.interface, hpath (hvalue hi.pidFile hj.pidFile),
    hpath (hvalue hi.hostsFile hj.hostsFile),
    hpath (hvalue hi.localServersFile hj.localServersFile)⟩
  split at hdomain <;> split at hdomain <;> simp_all

/-! ## The settings of an instance -/

/-- The settings of lines after lines. -/
lemma settingsOf_append (ks ls : List Text) :
    settingsOf (ks ++ ls) = settingsOf ks ++ settingsOf ls := by
  rw [settingsOf, List.filter_append, List.map_append]
  rfl

/-- A line begins with the key that it sets, if that is all of it or an equals sign comes next, and
if the key begins no comment.

**Proof sketch.** The key holds no equals sign, so it is what stands before the first one, and it
begins as no comment does. -/
lemma settingsOf_cons {key : String} (hkey : '=' ∉ key.toList)
    (hhead : key.toList.head? ≠ some '#') {rest : Text} (hrest : ∀ c ∈ rest.head?, c = '=')
    (ls : List Text) :
    settingsOf ((key.toList ++ rest) :: ls) = (key, rest.tail?) :: settingsOf ls := by
  have hall : ∀ c ∈ key.toList, decide (c ≠ '=') = true :=
    fun c hc => decide_eq_true fun he => hkey (he ▸ hc)
  have hsetting : settingOf (key.toList ++ rest) = (key, rest.tail?) := by
    unfold settingOf
    rw [List.takeWhile_append_of_pos hall, List.dropWhile_append_of_pos hall]
    cases rest with
    | nil => simp
    | cons c cs => simp [hrest c rfl]
  have hplain : (key.toList ++ rest).head? ≠ some '#' := by
    rw [List.head?_append]
    cases hk : key.toList.head? with
    | some c => simpa [hk] using hhead
    | none => exact fun hc => absurd (hrest _ hc) (by decide)
  rw [settingsOf, List.filter_cons, if_pos (decide_eq_true hplain), List.map_cons, hsetting]
  rfl

/-- A directive sets its key to its value. -/
lemma settingsOf_directive {key : String} (hkey : '=' ∉ key.toList)
    (hhead : key.toList.head? ≠ some '#') (value : Text) (ls : List Text) :
    settingsOf (Instance.directive key value :: ls) = (key, some value) :: settingsOf ls :=
  settingsOf_cons hkey hhead (by simp) ls

/-- A key by itself has no value. -/
lemma settingsOf_key {key : String} (hkey : '=' ∉ key.toList)
    (hhead : key.toList.head? ≠ some '#') (ls : List Text) :
    settingsOf (key.toList :: ls) = (key, none) :: settingsOf ls := by
  have hnil : ∀ c ∈ ([] : Text).head?, c = '=' := by simp
  simpa using settingsOf_cons hkey hhead hnil ls

/-- The settings of a domain. -/
lemma settingsOf_domainLines (d : Text) : settingsOf (Instance.domainLines d) =
    if d = [] then []
    else [("local", some ('/' :: d ++ ['/'])), ("domain", some d), ("expand-hosts", none)] := by
  unfold Instance.domainLines
  split
  · rfl
  · rw [settingsOf_directive (by decide) (by decide), settingsOf_directive (by decide) (by decide),
      settingsOf_key (by decide) (by decide)]
    rfl

/-- **The settings of an instance**, in order. The text behind the last line feed is one more line,
which sets nothing.

**Proof sketch.** The text is cut at its line feeds into the lines that it was put together from.
The marker sets nothing, and each other line is read by the rule of its kind. -/
theorem settings_configLines {i : Instance} {interface : Text}
    (hl : ∀ l ∈ i.configLines interface, '\n' ∉ l) :
    settings (Text.unlines (i.configLines interface)) =
      [("strict-order", none)] ++
      (if i.domain = [] then []
        else [("local", some ('/' :: i.domain ++ ['/'])), ("domain", some i.domain),
          ("expand-hosts", none)]) ++
      [("pid-file", some i.pidFile.text), ("except-interface", some "lo".toList),
        ("bind-dynamic", none), ("no-hosts", none), ("interface", some interface),
        ("addn-hosts", some i.hostsFile.text), ("servers-file", some i.localServersFile.text),
        ("", none)] := by
  have hhead : settingsOf (Instance.marker ++ ["strict-order".toList]) =
      [("strict-order", none)] := by
    decide
  have hend : settingsOf [[]] = [("", none)] := by decide
  unfold settings
  rw [Text.pieces_unlines hl]
  unfold Instance.configLines
  rw [List.append_assoc, settingsOf_append, settingsOf_append, hhead, settingsOf_domainLines]
  simp only [List.cons_append, List.nil_append]
  rw [settingsOf_directive (by decide) (by decide), settingsOf_directive (by decide) (by decide),
    settingsOf_key (by decide) (by decide), settingsOf_key (by decide) (by decide),
    settingsOf_directive (by decide) (by decide), settingsOf_directive (by decide) (by decide),
    settingsOf_directive (by decide) (by decide), hend]

/-- **A configuration tells its instance and its interface.** -/
theorem tells_configLines {i : Instance} {interface : Text}
    (hl : ∀ l ∈ i.configLines interface, '\n' ∉ l) :
    Tells (Text.unlines (i.configLines interface)) i interface := by
  have hsettings := settings_configLines hl
  by_cases hd : i.domain = []
  · rw [if_pos hd] at hsettings
    constructor <;> simp [Gives, valuesOf, hsettings, hd]
  · rw [if_neg hd] at hsettings
    constructor <;> simp [Gives, valuesOf, hsettings, hd]

/-- **Two configurations are the same text** just if they tell the same. -/
theorem unlines_configLines_eq_iff {i j : Instance} {a b : Text}
    (hi : ∀ l ∈ i.configLines a, '\n' ∉ l) (hj : ∀ l ∈ j.configLines b, '\n' ∉ l) :
    Text.unlines (i.configLines a) = Text.unlines (j.configLines b) ↔
      i.domain = j.domain ∧ a = b ∧ i.pidFile = j.pidFile ∧ i.hostsFile = j.hostsFile ∧
        i.localServersFile = j.localServersFile := by
  constructor
  · intro heq
    exact (tells_configLines hi).unique (heq ▸ tells_configLines hj)
  · rintro ⟨hdomain, rfl, hpid, hhosts, hservers⟩
    unfold Instance.configLines
    rw [hdomain, hpid, hhosts, hservers]

end DaemonConfig

/-! ## Files in a directory -/

/-- A path with a name joined to it holds a null character just if the path or the name does. -/
lemma Path.hasNul_join {p : Path} {f : Text} (hf : IsPlain f) :
    hasNul (p.join f).text = (hasNul p.text || hasNul f) := by
  unfold join
  rw [if_neg hf.head?_ne]
  split <;> simp [hasNul]

namespace Disk

section Files

variable {d : Disk} {p : Path} {loc : Location} {f : Text}

/-- The system takes the path of a file in a directory that a path leads to, unless it is too
long. -/
lemma Leads.refusal?_join (hl : d.Leads p loc) (hf : Path.IsPlain f)
    (hnul : Path.hasNul f = false) : refusal? (p.join f) =
      if longestPath < Text.utf8Size (p.join f).text then some .nameTooLong else none := by
  have hp : Path.hasNul p.text = false := by
    have hr := hl.refusal?_eq_none
    unfold refusal? at hr
    split at hr
    · cases hr
    · next hno => simpa using hno
  unfold refusal?
  rw [Path.hasNul_join hf, hp, hnul, if_neg (by decide), if_neg (Path.text_join_ne_nil p hf)]

/-- A walk to a name in a directory that a path leads to. -/
lemma Leads.walk_join (hl : d.Leads p loc) (hf : Path.IsPlain f)
    (hr : refusal? (p.join f) = none) (aim : Aim) :
    ∃ left, d.walk aim (p.join f) (p.join f).steps = d.tree.walk aim left loc [f] :=
  hl.walk_below hr (Path.steps_join p hf)
    (Path.isAbsolute_join (text_ne_nil_of_refusal? hl.refusal?_eq_none) hf) (by simp) aim

/-- What is found in a directory under a free name, and under that of a file.

**Proof sketch.** The walk to the file is one step from where the path of the directory leads, as
no slash ends the joined path. -/
lemma Leads.find_join (hl : d.Leads p loc) (hf : IsFileName f) (hr : refusal? (p.join f) = none) :
    (d.tree.get? (loc ++ [Name.text f]) = none → d.find (p.join f) = .error .notFound) ∧
      ∀ id x c, d.tree.get? (loc ++ [Name.text f]) = some (.file id x c) →
        d.find (p.join f) = .ok ⟨loc ++ [Name.text f], .file id x c⟩ := by
  obtain ⟨left, hwalk⟩ := hl.walk_join hf.1 hr .target
  have hlook : (p.join f).lookupSteps = (p.join f).steps := by
    rw [Path.lookupSteps, Path.endsInSlash_join p hf.1]
    simp
  unfold find lookUp
  rw [hlook, hwalk]
  refine ⟨fun hfree => ?_, fun id x c he => ?_⟩
  · rw [FileTree.walk_of_vacant (FileTree.advance_vacant hf.2 hfree)]
  · rw [FileTree.walk_of_arrived (FileTree.advance_last hf.2 he rfl) he]

/-- A file of a directory is there by its name. -/
lemma Leads.isThere_join (hl : d.Leads p loc) (hf : IsFileName f)
    (hr : refusal? (p.join f) = none) {id : Nat} {x : Bool} {c : Content}
    (he : d.tree.get? (loc ++ [Name.text f]) = some (.file id x c)) :
    d.isThere (p.join f) = true := by
  rw [isThere, (hl.find_join hf hr).2 _ _ _ he]
  rfl

/-- A text is written under a free name in a directory. -/
lemma Leads.writeText_join (hl : d.Leads p loc) (hf : IsFileName f)
    (hr : refusal? (p.join f) = none) (hfree : d.tree.get? (loc ++ [Name.text f]) = none)
    (t : Text) : d.writeText (p.join f) t = .ok ⟨loc ++ [Name.text f],
      ⟨d.tree.put (loc ++ [Name.text f]) (.file d.nextId false (.text t)), d.workDir,
        d.nextId + 1⟩⟩ := by
  obtain ⟨left, hwalk⟩ := hl.walk_join hf.1 hr .file
  unfold writeText write openSpot
  rw [Path.endsInSlash_join p hf.1, if_neg Bool.false_ne_true, hwalk,
    FileTree.walk_of_vacant (FileTree.advance_vacant hf.2 hfree)]

end Files

end Disk

namespace Files

variable {h : Host} {p : Path} {loc : Location} {f t : Text}

/-- A file that is there is left as it is. -/
lemma ensure_of_isThere (ht : h.disk.isThere p = true) (t : Text) :
    ensure p t h = (.ok (), h) := by
  rw [ensure, run_bind, run_lift, isThere, ht]
  rfl

/-- A file that is missing is written. -/
lemma ensure_of_not_isThere (ht : h.disk.isThere p = false) (t : Text) :
    ensure p t h = write p t h := by
  rw [ensure, run_bind, run_lift, isThere, ht]
  rfl

/-- A file is not put in place only if it is missing and the system refuses to write it.

**Proof sketch.** A file that is there is left alone. One that is missing is written, and only that
can fail. -/
lemma refused_of_ensure {fault : Fault} {k : Host} (hr : ensure p t h = (.error fault, k)) :
    ∃ e, fault = .io e ∧ k = h ∧ h.disk.isThere p = false ∧ h.disk.writeText p t = .error e := by
  cases ht : h.disk.isThere p with
  | true =>
    rw [ensure_of_isThere ht] at hr
    cases hr
  | false =>
    rw [ensure_of_not_isThere ht, write, onDisk] at hr
    cases hw : h.disk.writeText p t with
    | ok c =>
      rw [hw] at hr
      cases hr
    | error e =>
      rw [hw] at hr
      cases hr
      exact ⟨e, rfl, rfl, rfl, rfl⟩

/-- From a host `h` to a host `k`, a text was put under a free name in a directory. -/
structure Added (h k : Host) (loc : Location) (f t : Text) : Prop where
  /-- It is there. -/
  tree : ∃ id, k.disk.tree =
    h.disk.tree.put (loc ++ [Name.text f]) (.file id false (.text t))
  /-- Nothing was there. -/
  free : h.disk.tree.get? (loc ++ [Name.text f]) = none
  /-- The current directory is the same. -/
  workDir : k.disk.workDir = h.disk.workDir

namespace Added

variable {k : Host}

/-- What leads somewhere still does. -/
lemma leads (ha : Added h k loc f t) {q : Path} {l : Location} (hl : h.disk.Leads q l) :
    k.disk.Leads q l := by
  obtain ⟨id, htree⟩ := ha.tree
  refine hl.of_grows ?_ ha.workDir
  rw [htree]
  refine .put fun old hold => ?_
  rw [ha.free] at hold
  cases hold

/-- It is a file. -/
lemma get? (ha : Added h k loc f t) :
    ∃ id, k.disk.tree.get? (loc ++ [Name.text f]) = some (.file id false (.text t)) := by
  obtain ⟨id, htree⟩ := ha.tree
  exact ⟨id, by rw [htree, FileTree.get?_put, if_pos rfl]⟩

/-- What stands elsewhere is as it was. -/
lemma get?_of_ne (ha : Added h k loc f t) {l : Location} (hne : l ≠ loc ++ [Name.text f]) :
    k.disk.tree.get? l = h.disk.tree.get? l := by
  obtain ⟨id, htree⟩ := ha.tree
  rw [htree, FileTree.get?_put, if_neg hne]

end Added

/-- A file under a free name in a directory is put there. -/
lemma ensure_of_free (hl : h.disk.Leads p loc) (hf : IsFileName f)
    (hr : Disk.refusal? (p.join f) = none)
    (hfree : h.disk.tree.get? (loc ++ [Name.text f]) = none) (t : Text) :
    ∃ k, ensure (p.join f) t h = (.ok (), k) ∧ Added h k loc f t := by
  have hmissing : h.disk.isThere (p.join f) = false := by
    rw [Disk.isThere, (hl.find_join hf hr).1 hfree]
    rfl
  refine ⟨({ h with disk := ⟨h.disk.tree.put (loc ++ [Name.text f])
    (.file h.disk.nextId false (.text t)), h.disk.workDir, h.disk.nextId + 1⟩ } : Host).record
      (.wroteFile (loc ++ [Name.text f])), ?_, ⟨h.disk.nextId, rfl⟩, hfree, rfl⟩
  rw [ensure_of_not_isThere hmissing, write, onDisk, hl.writeText_join hf hr hfree]

end Files

/-! ## The configuration file -/

namespace Instance

variable {i : Instance} {h : Host} {loc : Location} {interface : Text}

/-- The file of forwarders has the longest name of those that a configuration is written with.

**Proof sketch.** Both files are the directory's path with a name behind it, and the name of the
configuration is the shorter one. Neither holds a null character. -/
lemma refusal?_configFile (hl : h.disk.Leads i.dir loc)
    (hlen : Text.utf8Size i.localServersFile.text ≤ longestPath) :
    refusal? i.localServersFile = none ∧ refusal? i.configFile = none := by
  have hlocal : Path.hasNul localServersName = false := by decide
  have hconfig : Path.hasNul configName = false := by decide
  have hnames : Text.utf8Size configName ≤ Text.utf8Size localServersName := by decide
  have hless : Text.utf8Size i.configFile.text ≤ Text.utf8Size i.localServersFile.text := by
    obtain ⟨s, -, hjoin⟩ := i.dir.exists_text_join
    have hc : i.configFile.text = s ++ configName := hjoin _ isFileName_configName.1
    have hs : i.localServersFile.text = s ++ localServersName :=
      hjoin _ isFileName_localServersName.1
    rw [hc, hs, Text.utf8Size_append, Text.utf8Size_append]
    omega
  exact ⟨(hl.refusal?_join isFileName_localServersName.1 hlocal).trans
      (if_neg (Nat.not_lt.mpr hlen)),
    (hl.refusal?_join isFileName_configName.1 hconfig).trans
      (if_neg (Nat.not_lt.mpr (Nat.le_trans hless hlen)))⟩

/-- **A configuration is written** into a directory that holds none, if the system takes the path
of the file of forwarders. After that it is left as it is, whatever the interface.

**Proof sketch.** Each of the two files is missing when its turn comes, so it is written, and the
second stands beside the first. Both are there then, so calling again does nothing. -/
theorem ensureConfigFile_of_fresh (hl : h.disk.Leads i.dir loc)
    (hservers : h.disk.tree.get? (loc ++ [Name.text localServersName]) = none)
    (hconfig : h.disk.tree.get? (loc ++ [Name.text configName]) = none)
    (hlen : Text.utf8Size i.localServersFile.text ≤ longestPath) (interface : Text) :
    ∃ k, i.ensureConfigFile interface h = (.ok (), k) ∧
      Files.readIfThere i.configFile k = .ok (some (Text.unlines (i.configLines interface))) ∧
      ∀ other, i.ensureConfigFile other k = (.ok (), k) := by
  obtain ⟨hrs, hrc⟩ := refusal?_configFile hl hlen
  have hne : loc ++ [Name.text configName] ≠ loc ++ [Name.text localServersName] := by
    rw [ne_eq, List.append_cancel_left_eq]
    decide
  obtain ⟨h₁, hfirst, ha₁⟩ : ∃ k, Files.ensure i.localServersFile [] h = (.ok (), k) ∧
      Files.Added h k loc localServersName [] :=
    Files.ensure_of_free hl isFileName_localServersName hrs hservers []
  have hl₁ := ha₁.leads hl
  obtain ⟨h₂, hsecond, ha₂⟩ := Files.ensure_of_free hl₁ isFileName_configName hrc
    ((ha₁.get?_of_ne hne).trans hconfig) (Text.unlines (i.configLines interface))
  have hl₂ := ha₂.leads hl₁
  obtain ⟨_, hthere⟩ := ha₂.get?
  obtain ⟨_, hother⟩ := ha₁.get?
  rw [← ha₂.get?_of_ne (Ne.symm hne)] at hother
  refine ⟨h₂, ?_, ?_, fun other => ?_⟩
  · rw [ensureConfigFile_eq, run_bind, hfirst]
    exact hsecond
  · refine Files.readIfThere_of_readText ?_
    have hfind : h₂.disk.find i.configFile = _ :=
      (hl₂.find_join isFileName_configName hrc).2 _ _ _ hthere
    rw [readText, hfind]
  · have hs : h₂.disk.isThere i.localServersFile = true :=
      hl₂.isThere_join isFileName_localServersName hrs hother
    have hc : h₂.disk.isThere i.configFile = true :=
      hl₂.isThere_join isFileName_configName hrc hthere
    rw [ensureConfigFile_eq, run_bind, Files.ensure_of_isThere hs]
    exact Files.ensure_of_isThere hc _

/-- **A configuration is refused** if the system does not take the path of the file of
forwarders, and nothing is changed.

**Proof sketch.** A path that is too long is not there, so the file of forwarders is to be written,
and the first request that is given its path refuses it. -/
theorem ensureConfigFile_of_tooLong (hl : h.disk.Leads i.dir loc)
    (hlen : longestPath < Text.utf8Size i.localServersFile.text) (interface : Text) :
    i.ensureConfigFile interface h = (.error (.io .nameTooLong), h) := by
  have hnul : Path.hasNul localServersName = false := by decide
  have hr : refusal? i.localServersFile = some .nameTooLong :=
    (hl.refusal?_join isFileName_localServersName.1 hnul).trans (if_pos hlen)
  have hmissing : h.disk.isThere i.localServersFile = false := by
    rw [isThere, find, lookUp, walk, hr]
    rfl
  have hslash : i.localServersFile.endsInSlash = false :=
    Path.endsInSlash_join i.dir isFileName_localServersName.1
  have hwrite : Files.write i.localServersFile [] h = (.error (.io .nameTooLong), h) := by
    rw [Files.write, onDisk, writeText, write, openSpot, hslash, if_neg Bool.false_ne_true, walk,
      hr]
  rw [ensureConfigFile_eq, run_bind, Files.ensure_of_not_isThere hmissing, hwrite]

/-- On the host that it leaves, the system refuses to write the file of forwarders or the
configuration of an instance, and the file is missing. -/
def IsRefused (i : Instance) (interface : Text) (h : Host) (e : IoError) : Prop :=
  h.disk.isThere i.localServersFile = false ∧ h.disk.writeText i.localServersFile [] = .error e ∨
    h.disk.isThere i.configFile = false ∧
      h.disk.writeText i.configFile (Text.unlines (i.configLines interface)) = .error e

/-- **A configuration is not written** only for an error of the system, which is passed on as it
is.

**Proof sketch.** By which of the two files could not be written. Both are written only where they
are missing. -/
theorem isRefused_of_ensureConfigFile {k : Host} {fault : Fault}
    (hr : i.ensureConfigFile interface h = (.error fault, k)) :
    ∃ e, fault = .io e ∧ i.IsRefused interface k e := by
  rw [ensureConfigFile_eq, run_bind] at hr
  rcases hfirst : Files.ensure i.localServersFile [] h with ⟨fault' | _, w⟩
  · rw [hfirst] at hr
    cases hr
    obtain ⟨e, rfl, rfl, hmissing, hrefused⟩ := Files.refused_of_ensure hfirst
    exact ⟨e, rfl, .inl ⟨hmissing, hrefused⟩⟩
  · rw [hfirst] at hr
    obtain ⟨e, rfl, rfl, hmissing, hrefused⟩ := Files.refused_of_ensure hr
    exact ⟨e, rfl, .inr ⟨hmissing, hrefused⟩⟩

/-- From a host `h` to a host `k`, an instance has been given the configuration `t` for an
interface. -/
structure Configured (i : Instance) (interface : Text) (h k : Host) (t : Text) : Prop where
  /-- It is written. -/
  writes : i.ensureConfigFile interface h = (.ok (), k)
  /-- The file is read. -/
  reads : Files.readIfThere i.configFile k = .ok (some t)
  /-- It tells the instance and the interface. -/
  tells : DaemonConfig.Tells t i interface
  /-- A daemon that is started with it writes its pid where the instance looks for it. -/
  daemon : Launch.pidFileOf? t = some i.supervisor.pidFile
  /-- The configuration of another instance is the same just if it tells the same. -/
  same_iff : ∀ (j : Instance) (other : Text), '\n' ∉ j.dir.text → '\n' ∉ j.domain →
    '\n' ∉ other → (Text.unlines (j.configLines other) = t ↔
      j.domain = i.domain ∧ other = interface ∧ j.pidFile = i.pidFile ∧
        j.hostsFile = i.hostsFile ∧ j.localServersFile = i.localServersFile)
  /-- Another one is not written in its place, whatever the interface. -/
  again : ∀ other, i.ensureConfigFile other k = (.ok (), k)

/-- **The configuration of any network tells its instance**, if no text in it holds a line feed. It
is written into a directory that is there and holds no configuration yet, and it is refused there if
the path of the file of forwarders is longer than the system takes. Wherever it is not written, that
is for an error of the system.

**Proof sketch.** The lines of the configuration hold no line feed, so they are the lines that are
read. Each of the texts that come from outside stands behind the equals sign of a key, so the first
equals sign of the line is that one, and the line is no comment. -/
theorem configured_of_resolved {s : Settings} {n domain : Text} {multi : Bool}
    (hi : s.resolve n domain multi h = .ok i) (hroot : '\n' ∉ s.rootDir.text) (hn : '\n' ∉ n)
    (hdomain : '\n' ∉ domain) (hinterface : '\n' ∉ interface) (hl : h.disk.Leads i.dir loc)
    (hservers : h.disk.tree.get? (loc ++ [Name.text localServersName]) = none)
    (hconfig : h.disk.tree.get? (loc ++ [Name.text configName]) = none) :
    (Text.utf8Size i.localServersFile.text ≤ longestPath → ∃ k t, i.Configured interface h k t) ∧
      (longestPath < Text.utf8Size i.localServersFile.text →
        i.ensureConfigFile interface h = (.error (.io .nameTooLong), h)) ∧
      ∀ w k fault, i.ensureConfigFile interface w = (.error fault, k) →
        ∃ e, fault = .io e ∧ i.IsRefused interface k e := by
  refine ⟨fun hlen => ?_, fun hlen => ensureConfigFile_of_tooLong hl hlen interface,
    fun _ _ _ => isRefused_of_ensureConfigFile⟩
  have hlines : ∀ l ∈ i.configLines interface, '\n' ∉ l := by
    rcases s.resolve_eq n domain multi h with ⟨j, hj, hb, rfl, rfl, -⟩ | ⟨fault, hf, -⟩
    · rw [hj] at hi
      cases hi
      refine not_mem_configLines ?_ hdomain hinterface
      rw [hb.dir]
      exact Path.not_mem_text_join hroot hn (by decide)
    · rw [hf] at hi
      cases hi
  obtain ⟨k, hwrite, hread, hagain⟩ := ensureConfigFile_of_fresh hl hservers hconfig hlen interface
  exact ⟨k, _, hwrite, hread, DaemonConfig.tells_configLines hlines,
    Launch.pidFileOf?_configLines hlines, fun j other hdir hd ho =>
      DaemonConfig.unlines_configLines_eq_iff (not_mem_configLines hdir hd ho) hlines, hagain⟩

end Instance

namespace Sample

/-- A host with the empty directory of one network. -/
def opened (n : Text) : Host :=
  { host [] with disk :=
    { disk with tree := disk.tree.put (base ++ [.text n]) (.directory 8 0o700), nextId := 9 } }

/-- A name with which the path to the directory of a network is just short enough behind the long
path to the root, and those to its files are not. -/
def edgeName : Text := List.replicate 80 'b'

/-- The network of that name. -/
def edgeInstance : Instance :=
  ⟨edgeName, "x".toList, true, farRoot.join edgeName, ⟨"/bin/d".toList⟩, "root".toList⟩

end Sample

namespace Instance

open Sample in
/-- The directory of a network that was just made gets its configuration.

**Proof sketch.** All that the theorem asks of the sample directory is computed at once. -/
theorem configured_of_resolved_of_opened : ∃ k t,
    announcing.Configured "eth0".toList (opened "a".toList) k t := by
  have hread : mesh.settings.resolve "a".toList "x".toList true (opened "a".toList) =
        .ok announcing ∧
      '\n' ∉ mesh.settings.rootDir.text ∧ '\n' ∉ "a".toList ∧ '\n' ∉ "x".toList ∧
      '\n' ∉ "eth0".toList ∧
      (opened "a".toList).disk.find announcing.dir =
        .ok ⟨base ++ [.text "a".toList], .directory 8 0o700⟩ ∧
      (opened "a".toList).disk.tree.get?
        (base ++ [.text "a".toList] ++ [.text localServersName]) = none ∧
      (opened "a".toList).disk.tree.get?
        (base ++ [.text "a".toList] ++ [.text configName]) = none ∧
      Text.utf8Size announcing.localServersFile.text ≤ longestPath := by
    decide +kernel
  obtain ⟨hi, hroot, hn, hdomain, hinterface, hfind, hservers, hconfig, hlen⟩ := hread
  exact (configured_of_resolved hi hroot hn hdomain hinterface ⟨8, 0o700, hfind⟩ hservers
    hconfig).1 hlen

open Sample in
/-- **No configuration is written** into an empty directory whose path leaves no room for the name
of the file.

**Proof sketch.** The sample directory is empty, but the path of the file of forwarders is longer
than the system takes. So nothing is written. -/
theorem fresh_directory_without_room : ¬ ∀ (s : Settings) (n domain interface : Text)
    (multi : Bool) (h : Host) (i : Instance) (loc : Location), '\n' ∉ s.rootDir.text →
    '\n' ∉ n → '\n' ∉ domain → '\n' ∉ interface → s.resolve n domain multi h = .ok i →
    h.disk.Leads i.dir loc → (∀ name, h.disk.tree.get? (loc ++ [name]) = none) →
    ∃ k t, i.ensureConfigFile interface h = (.ok (), k) ∧
      Files.readIfThere i.configFile k = .ok (some t) ∧ DaemonConfig.Tells t i interface := by
  intro hclaim
  have hread : '\n' ∉ farRoot.text ∧ '\n' ∉ edgeName ∧ '\n' ∉ "x".toList ∧
      '\n' ∉ "eth0".toList ∧
      ({ mesh.settings with rootDir := farRoot } : Settings).resolve edgeName "x".toList true
        (opened edgeName) = .ok edgeInstance ∧
      (opened edgeName).disk.find edgeInstance.dir =
        .ok ⟨base ++ [.text edgeName], .directory 8 0o700⟩ ∧
      (∀ x ∈ (opened edgeName).disk.tree.entries, x.1.loc.length < 3) ∧
      longestPath < Text.utf8Size edgeInstance.localServersFile.text := by
    decide +kernel
  obtain ⟨hroot, hn, hdomain, hinterface, hi, hfind, hshort, hlen⟩ := hread
  have hl : (opened edgeName).disk.Leads edgeInstance.dir (base ++ [.text edgeName]) :=
    ⟨8, 0o700, hfind⟩
  have hempty : ∀ name, (opened edgeName).disk.tree.get?
      (base ++ [.text edgeName] ++ [name]) = none := by
    intro name
    rw [Option.eq_none_iff_forall_not_mem]
    intro e he
    exact absurd (hshort _ (FileTree.get?_eq_some_iff.mp he)) (by simp [Site.ofLocation, base])
  obtain ⟨k, t, hwrites, -⟩ := hclaim _ _ _ _ _ _ _ _ hroot hn hdomain hinterface hi hl hempty
  rw [ensureConfigFile_of_tooLong hl hlen] at hwrites
  cases hwrites

end Instance

end ResolverMesh
