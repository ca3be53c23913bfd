import Mathlib.Data.List.Nodup
import Mathlib.Tactic.Lemma
import ResolverMesh.Forwarders.File
import ResolverMesh.Lifecycle

set_option autoImplicit false
set_option relaxedAutoImplicit false

/-!
# Forwarder lines and their files

What is read back from a file of forwarders that has been written, and which lines are there
after a merge and a removal. A line is read back as it was written just if it is clean: not empty,
without a line feed, and without a carriage return at its end.

## Main definitions

* `ResolverMesh.Forwarders.IsClean` — a line that a file of forwarders can hold.

## Main results

* `ResolverMesh.Forwarders.ofText_toText` — clean lines are read back in dictionary order.
* `ResolverMesh.Forwarders.mem_ofText_toText` — a clean line is read back, whatever is beside it.
* `ResolverMesh.Forwarders.nodup_merge`, `ResolverMesh.Forwarders.mem_remove` — merging and
  removing where no line stands twice.
* `ResolverMesh.Forwarders.claims_ofText_scopedLines` — what the forwarders to a network claim.
* `ResolverMesh.Address.isWritten_of_mem_text` — the characters that addresses are written with.
-/

namespace ResolverMesh

/-! ## Written addresses -/

namespace Text

/-- A number is written in digits.

**Proof sketch.** By the number: its digits are those of its quotient by the base and a last one. -/
lemma mem_toDigits {b : Nat} (hb : 1 < b) {n : Nat} {c : Char} (hc : c ∈ Nat.toDigits b n) :
    ∃ d < b, c = Nat.digitChar d := by
  induction n using Nat.strongRecOn with
  | ind n ih =>
    rw [Nat.toDigits_eq_if hb] at hc
    split at hc
    · next hn => exact ⟨n, hn, by simpa using hc⟩
    · next hn =>
      rcases List.mem_append.mp hc with hc | hc
      · exact ih (n / b) (Nat.div_lt_self (by omega) hb) hc
      · exact ⟨n % b, Nat.mod_lt n (by omega), by simpa using hc⟩

/-- What is glued together holds the characters of the pieces and the glue.

**Proof sketch.** By the pieces, where the last one has no glue behind it. -/
lemma mem_glue {c x : Char} {ws : List Text} (h : x ∈ glue c ws) : x = c ∨ ∃ w ∈ ws, x ∈ w := by
  induction ws with
  | nil => simp [glue] at h
  | cons w ws ih =>
    cases ws with
    | nil => exact .inr ⟨w, by simp, by simpa [glue] using h⟩
    | cons v vs =>
      rw [glue, List.mem_append, List.mem_cons] at h
      rcases h with h | rfl | h
      · exact .inr ⟨w, by simp, h⟩
      · exact .inl rfl
      · rcases ih h with rfl | ⟨u, hu, hx⟩
        · exact .inl rfl
        · exact .inr ⟨u, by simp [List.mem_cons.mp hu], hx⟩

/-- What is glued together holds the characters of each piece.

**Proof sketch.** By the pieces, where the last one has no glue behind it. -/
lemma mem_glue_of_mem {c x : Char} {w : Text} {ws : List Text} (hw : w ∈ ws) (hx : x ∈ w) :
    x ∈ glue c ws := by
  induction ws with
  | nil => cases hw
  | cons v ws ih =>
    cases ws with
    | nil => rwa [glue, ← List.mem_singleton.mp hw]
    | cons u us =>
      rw [glue, List.mem_append, List.mem_cons]
      rcases List.mem_cons.mp hw with rfl | hw
      · exact .inl hx
      · exact .inr (.inr (ih hw))

end Text

namespace Address

/-- The characters that addresses are written with: digits, dots and colons. -/
def IsWritten (c : Char) : Prop :=
  c = '.' ∨ c = ':' ∨ ∃ d < 16, c = Nat.digitChar d

/-- Octets are written with digits and dots. -/
lemma isWritten_of_mem_dotted {octets : List UInt8} {c : Char} (hc : c ∈ dotted octets) :
    IsWritten c := by
  unfold dotted at hc
  rcases Text.mem_glue hc with rfl | ⟨w, hw, hc⟩
  · exact .inl rfl
  · obtain ⟨o, -, rfl⟩ := List.mem_map.mp hw
    obtain ⟨d, hd, rfl⟩ := Text.mem_toDigits (by omega) hc
    exact .inr (.inr ⟨d, by omega, rfl⟩)

/-- Groups are written with digits and colons. -/
lemma isWritten_of_mem_colonned {groups : List UInt16} {c : Char} (hc : c ∈ colonned groups) :
    IsWritten c := by
  unfold colonned at hc
  rcases Text.mem_glue hc with rfl | ⟨w, hw, hc⟩
  · exact .inr (.inl rfl)
  · obtain ⟨g, -, rfl⟩ := List.mem_map.mp hw
    obtain ⟨d, hd, rfl⟩ := Text.mem_toDigits (by omega) hc
    exact .inr (.inr ⟨d, hd, rfl⟩)

/-- So they are if a run of zeros is left out.

**Proof sketch.** What is written is the groups before the run, two colons and the groups behind
it. -/
lemma isWritten_of_mem_compressed {groups : List UInt16} {c : Char}
    (hc : c ∈ compressed groups) : IsWritten c := by
  unfold compressed at hc
  dsimp only at hc
  split at hc
  · simp only [List.mem_append, or_assoc] at hc
    rcases hc with hc | hc | hc
    · exact isWritten_of_mem_colonned hc
    · simp only [List.mem_cons, List.not_mem_nil, or_false, or_self] at hc
      exact .inr (.inl hc)
    · exact isWritten_of_mem_colonned hc
  · exact isWritten_of_mem_colonned hc

/-- **An address is written** with digits, dots and colons.

**Proof sketch.** An address of the first kind is dotted. One of the second is compressed, or it is
a mapped one, which is dotted behind a fixed beginning. -/
theorem isWritten_of_mem_text {a : Address} {c : Char} (hc : c ∈ a.text) : IsWritten c := by
  cases a with
  | v4 octets => exact isWritten_of_mem_dotted hc
  | v6 groups =>
    change c ∈ groupsText groups.toList at hc
    unfold groupsText at hc
    split at hc
    · rw [List.mem_append] at hc
      rcases hc with hc | hc
      · have hlead : "::ffff:".toList.all (fun c => c = ':' ∨ c = Nat.digitChar 15) = true := by
          decide
        rcases of_decide_eq_true (List.all_eq_true.mp hlead c hc) with rfl | rfl
        · exact .inr (.inl rfl)
        · exact .inr (.inr ⟨15, by decide, rfl⟩)
      · exact isWritten_of_mem_dotted hc
    · exact isWritten_of_mem_compressed hc

/-- The characters that addresses are not written with: slashes and the ends of lines. -/
def unwritten : List Char := ['/', '\n', '\r']

/-- Nothing that is not for addresses stands in one. -/
lemma not_mem_text {a : Address} {c : Char} (hc : c ∈ a.text) : c ∉ unwritten := by
  have hdigit : ∀ d < 16, Nat.digitChar d ∉ unwritten := by decide
  rcases isWritten_of_mem_text hc with rfl | rfl | ⟨d, hd, rfl⟩
  · decide
  · decide
  · exact hdigit d hd

end Address

/-! ## Lines read back -/

namespace Text

/-- All pieces are lines but the last one, which is a line unless it is empty. -/
lemma linesOfPieces_append (ps : List Text) {qs : List Text} (hq : qs ≠ []) :
    linesOfPieces (ps ++ qs) = ps.map dropReturn ++ linesOfPieces qs := by
  induction ps with
  | nil => rfl
  | cons p ps ih =>
    obtain ⟨r, rs, hr⟩ := List.exists_cons_of_ne_nil (List.append_ne_nil_of_right_ne_nil ps hq)
    rw [List.cons_append, hr, linesOfPieces, ← hr, ih, List.map_cons, List.cons_append]

/-- The lines of a text before a line feed, and those behind it. -/
lemma lines_append (xs ys : Text) :
    lines (xs ++ '\n' :: ys) = (pieces (· == '\n') xs).map dropReturn ++ lines ys := by
  rw [lines, pieces_append (by simp), linesOfPieces_append _ (pieces_ne_nil _ _)]
  rfl

/-- A line feed ends the lines before it, and those behind it are read by themselves. -/
lemma lines_append_newline (xs ys : Text) :
    lines (xs ++ '\n' :: ys) = lines (xs ++ ['\n']) ++ lines ys := by
  rw [lines_append, lines_append, lines_nil, List.append_nil]

/-- A line without a line feed and a last carriage return is read back, whatever lines are
written before and behind it.

**Proof sketch.** By the lines written: the first is read back, and the others are read from what
is left of the text behind its line feed. -/
lemma mem_lines_unlines {l : Text} {ls : List Text} (hl : l ∈ ls) (hn : '\n' ∉ l)
    (hr : l.getLast? ≠ some '\r') : l ∈ lines (unlines ls) := by
  induction ls with
  | nil => cases hl
  | cons m ms ih =>
    rw [unlines_cons]
    rcases List.mem_cons.mp hl with rfl | hl
    · rw [lines_cons hn, dropReturn_of_ne hr]
      exact List.mem_cons_self
    · rw [lines_append]
      exact List.mem_append_right _ (ih hl)

/-- Lines without a line feed are read back less a carriage return at the end. -/
lemma lines_unlines_of_newline {ls : List Text} (h : ∀ l ∈ ls, '\n' ∉ l) :
    lines (unlines ls) = ls.map dropReturn := by
  induction ls with
  | nil => rfl
  | cons l ls ih =>
    rw [unlines_cons, lines_cons (h l (by simp)), List.map_cons, ih fun m hm => h m (by simp [hm])]

/-- Without the carriage return at its end a line holds nothing else than before. -/
lemma dropReturn_subset (l : Text) : dropReturn l ⊆ l := by
  unfold dropReturn
  split
  · exact List.dropLast_subset l
  · exact List.Subset.refl l

/-- What a line holds is held by one of the pieces.

**Proof sketch.** Induction on the pieces. A line is a piece, less a carriage return if another
piece follows. -/
lemma exists_subset_of_mem_linesOfPieces {l : Text} {ps : List Text}
    (h : l ∈ linesOfPieces ps) : ∃ p ∈ ps, l ⊆ p := by
  induction ps with
  | nil => cases h
  | cons p ps ih =>
    cases ps with
    | nil =>
      rw [linesOfPieces] at h
      split at h
      · cases h
      · exact ⟨p, by simp, by rw [List.mem_singleton.mp h]; exact List.Subset.refl p⟩
    | cons q qs =>
      rw [linesOfPieces] at h
      rcases List.mem_cons.mp h with rfl | h
      · exact ⟨p, by simp, dropReturn_subset p⟩
      · obtain ⟨w, hw, hsub⟩ := ih h
        exact ⟨w, List.mem_cons_of_mem p hw, hsub⟩

/-- No line holds a line feed. -/
lemma not_mem_of_mem_lines {l t : Text} (h : l ∈ lines t) : '\n' ∉ l := by
  obtain ⟨p, hp, hsub⟩ := exists_subset_of_mem_linesOfPieces h
  exact fun hm => not_mem_of_mem_pieces hp (hsub hm)

/-- What a line holds is held by the text. -/
lemma subset_of_mem_lines {l t : Text} (h : l ∈ lines t) : l ⊆ t := by
  obtain ⟨p, hp, hsub⟩ := exists_subset_of_mem_linesOfPieces h
  intro x hx
  rw [← glue_pieces '\n' t]
  exact mem_glue_of_mem hp (hsub hx)

end Text

namespace Forwarders

/-- A line that a file of forwarders can hold: it is not empty, holds no line feed and does not
end in a carriage return. -/
structure IsClean (l : Text) : Prop where
  /-- It is not empty. -/
  ne_nil : l ≠ []
  /-- It holds no line feed. -/
  newline : '\n' ∉ l
  /-- It does not end in a carriage return. -/
  ending : l.getLast? ≠ some '\r'

/-- **Clean lines are read back** in dictionary order. -/
theorem ofText_toText {ls : List Text} (h : ∀ l ∈ ls, IsClean l) :
    ofText (toText ls) = Text.sorted ls := by
  have hclean : ∀ l ∈ Text.sorted ls, IsClean l := fun l hl => h l (Text.mem_sorted.mp hl)
  rw [ofText, toText, Text.lines_unlines fun l hl => ⟨(hclean l hl).newline, (hclean l hl).ending⟩,
    List.filter_eq_self.mpr]
  intro l hl
  simpa using (hclean l hl).ne_nil

/-- **A clean line is read back**, whatever lines it is written with. -/
theorem mem_ofText_toText {l : Text} {ls : List Text} (hl : l ∈ ls) (hc : IsClean l) :
    l ∈ ofText (toText ls) := by
  rw [ofText, List.mem_filter, decide_eq_true_eq]
  exact ⟨Text.mem_lines_unlines (Text.mem_sorted.mpr hl) hc.newline hc.ending, hc.ne_nil⟩

/-- What is read back from lines without a line feed. -/
lemma mem_ofText_toText_iff {l : Text} {ls : List Text} (h : ∀ l ∈ ls, '\n' ∉ l) :
    l ∈ ofText (toText ls) ↔ l ≠ [] ∧ ∃ l' ∈ ls, Text.dropReturn l' = l := by
  have hsorted : ∀ l ∈ Text.sorted ls, '\n' ∉ l := fun l hl => h l (Text.mem_sorted.mp hl)
  rw [ofText, List.mem_filter, decide_eq_true_eq, toText, Text.lines_unlines_of_newline hsorted,
    List.mem_map, and_comm]
  simp only [Text.mem_sorted]

/-- What is read from a file of forwarders is not empty and holds no line feed. -/
lemma of_mem_ofText {l t : Text} (h : l ∈ ofText t) : l ≠ [] ∧ '\n' ∉ l := by
  rw [ofText, List.mem_filter, decide_eq_true_eq] at h
  exact ⟨h.2, Text.not_mem_of_mem_lines h.1⟩

/-- What is read from a file is clean if it does not end in a carriage return. -/
lemma isClean_of_mem_ofText {l t : Text} (hl : l ∈ ofText t) (hr : l.getLast? ≠ some '\r') :
    IsClean l :=
  ⟨(of_mem_ofText hl).1, (of_mem_ofText hl).2, hr⟩

/-- What a line read from a file holds is held by the file. -/
lemma subset_of_mem_ofText {l t : Text} (h : l ∈ ofText t) : l ⊆ t :=
  Text.subset_of_mem_lines (List.mem_filter.mp h).1

/-! ## The lines of a network -/

/-- A server that can be named on a line is read back.

**Proof sketch.** The key in front is neither empty nor does it hold a line feed. A last carriage
return would be the server's own, or the key's if the server is empty. -/
lemma isClean_plainLine {server : Text} (hn : '\n' ∉ server) (hr : server.getLast? ≠ some '\r') :
    IsClean (plainLine server) := by
  refine ⟨List.append_ne_nil_of_left_ne_nil (by decide) server, fun hmem => ?_, fun hlast => ?_⟩
  · unfold plainLine at hmem
    exact (List.mem_append.mp hmem).elim (by decide) hn
  · unfold plainLine at hlast
    rw [List.getLast?_append] at hlast
    cases hs : server.getLast? with
    | none =>
      rw [hs] at hlast
      exact absurd hlast (by decide)
    | some c =>
      rw [hs] at hlast hr
      exact hr hlast

/-- The line of a server is clean if neither its domain nor the server can break it.

**Proof sketch.** A line feed would be in the key, in the domain or in the server. The line ends as
the server does, or with the slash. -/
lemma isClean_scopedLine {domain server : Text} (hd : '\n' ∉ domain) (hs : '\n' ∉ server)
    (hr : '\r' ∉ server) : IsClean (scopedLine domain server) := by
  have hkey : '\n' ∉ "server=/".toList := by decide
  unfold scopedLine
  refine ⟨List.append_ne_nil_of_right_ne_nil _ (by simp), ?_, fun h => ?_⟩
  · rw [List.mem_append, List.mem_append, List.mem_cons]
    rintro ((h | h) | h | h)
    · exact hkey h
    · exact hd h
    · exact absurd h (by decide)
    · exact hs h
  · rw [List.getLast?_append] at h
    rcases List.eq_nil_or_concat server with rfl | ⟨init, c, rfl⟩
    · simp at h
    · rw [List.concat_eq_append, ← List.cons_append, List.getLast?_concat] at h
      simp only [Option.some_or, Option.some.injEq] at h
      exact hr (by simp [h])

/-- The forwarders to addresses for a domain are clean. -/
lemma isClean_of_mem_scopedLines {domain l : Text} (hd : '\n' ∉ domain)
    {addresses : List Address} (h : l ∈ scopedLines domain (addresses.map Address.text)) :
    IsClean l := by
  obtain ⟨server, hs, rfl⟩ := List.mem_map.mp h
  obtain ⟨a, -, rfl⟩ := List.mem_map.mp hs
  exact isClean_scopedLine hd (fun hm => Address.not_mem_text hm (by decide))
    fun hm => Address.not_mem_text hm (by decide)

/-- The domain that a line is for stands between its first two slashes.

**Proof sketch.** Cut at its slashes, the line has three pieces at least, of which the second is
the domain. Glued together again they give the line, and none of them holds a slash. -/
lemma scope?_eq_some_iff {l d : Text} : scope? l = some d ↔
    ∃ xs ys, l = xs ++ '/' :: (d ++ '/' :: ys) ∧ '/' ∉ xs ∧ '/' ∉ d := by
  constructor
  · intro h
    have hglue := Text.glue_pieces '/' l
    have hcut : ∀ w ∈ Text.pieces (· == '/') l, '/' ∉ w := fun w => Text.not_mem_of_mem_pieces
    unfold scope? at h
    split at h
    · next w e u us heq =>
      cases h
      rw [heq] at hglue hcut
      exact ⟨w, Text.glue '/' (u :: us), hglue.symm, hcut w (by simp), hcut d (by simp)⟩
    · cases h
  · rintro ⟨xs, ys, rfl, hxs, hd⟩
    obtain ⟨w, ws, hw⟩ := List.exists_cons_of_ne_nil (Text.pieces_ne_nil (· == '/') ys)
    unfold scope?
    rw [Text.pieces_append (by simp), Text.pieces_append (by simp), Text.pieces_of_not_mem hxs,
      Text.pieces_of_not_mem hd, hw]
    rfl

/-- What stands between the first two slashes of a forwarder for a domain is the domain. -/
lemma scope?_scopedLine {domain : Text} (hd : '/' ∉ domain) (server : Text) :
    scope? (scopedLine domain server) = some domain := by
  have hopen : "server=/".toList = "server=".toList ++ ['/'] := by decide
  refine scope?_eq_some_iff.mpr ⟨"server=".toList, server, ?_, by decide, hd⟩
  unfold scopedLine
  rw [hopen, List.append_assoc, List.append_assoc, List.singleton_append]

/-- A line without a slash is for no domain. -/
lemma scope?_of_not_mem {l : Text} (h : '/' ∉ l) : scope? l = none := by
  rw [Option.eq_none_iff_forall_not_mem]
  intro d hd
  obtain ⟨xs, ys, rfl, -⟩ := scope?_eq_some_iff.mp hd
  exact h (by simp)

/-- A carriage return at the end of a line does not matter to the domain that the line is for.

**Proof sketch.** By `scope?_eq_some_iff` the domain stands before the second slash, and the
carriage return at the end stands behind it. -/
lemma scope?_dropReturn (l : Text) : scope? (Text.dropReturn l) = scope? l := by
  unfold Text.dropReturn
  split
  · next hr =>
    obtain ⟨init, rfl⟩ := List.getLast?_eq_some_iff.mp hr
    rw [List.dropLast_concat]
    refine Option.ext fun d => ?_
    rw [scope?_eq_some_iff, scope?_eq_some_iff]
    constructor
    · rintro ⟨xs, ys, rfl, hxs, hd⟩
      exact ⟨xs, ys ++ ['\r'], by simp, hxs, hd⟩
    · rintro ⟨xs, ys, heq, hxs, hd⟩
      -- the line ends in a carriage return, so there is something behind the second slash
      rcases List.eq_nil_or_concat ys with rfl | ⟨zs, c, rfl⟩
      · have hsplit : xs ++ '/' :: (d ++ ['/']) = (xs ++ '/' :: d) ++ ['/'] := by simp
        rw [hsplit] at heq
        simpa using List.append_inj_right' heq rfl
      · have hsplit : xs ++ '/' :: (d ++ '/' :: (zs.concat c)) =
            (xs ++ '/' :: (d ++ '/' :: zs)) ++ [c] := by simp
        rw [hsplit] at heq
        exact ⟨xs, zs, List.append_inj_left' heq rfl, hxs, hd⟩
  · rfl

/-- The line of a server for a domain has a slash. -/
lemma slash_mem_scopedLine (domain server : Text) : '/' ∈ scopedLine domain server :=
  List.mem_append_right _ List.mem_cons_self

/-- Lines claim a domain just if one of them is for it. -/
lemma claims_iff {ls : List Text} {d : Text} :
    claims ls d = true ↔ ∃ l ∈ ls, scope? l = some d := by
  simp [claims]

/-- Lines claim what they are read back to claim.

**Proof sketch.** A line is read back without one carriage return at its end, which is no part of
its scope. -/
lemma claims_ofText_toText {ls : List Text} (h : ∀ l ∈ ls, '\n' ∉ l) (d : Text) :
    claims (ofText (toText ls)) d = claims ls d := by
  rw [Bool.eq_iff_iff, claims_iff, claims_iff]
  constructor
  · rintro ⟨l, hl, hscope⟩
    obtain ⟨-, l', hl', rfl⟩ := (mem_ofText_toText_iff h).mp hl
    rw [scope?_dropReturn] at hscope
    exact ⟨l', hl', hscope⟩
  · rintro ⟨l, hl, hscope⟩
    rw [← scope?_dropReturn] at hscope
    refine ⟨Text.dropReturn l, (mem_ofText_toText_iff h).mpr ⟨fun he => ?_, l, hl, rfl⟩, hscope⟩
    rw [he] at hscope
    cases hscope

/-- Lines without a slash claim nothing. -/
lemma claims_eq_false_of_not_mem {ls : List Text} (h : ∀ l ∈ ls, '/' ∉ l) (d : Text) :
    claims ls d = false := by
  rw [← Bool.not_eq_true, claims_iff]
  rintro ⟨l, hl, hscope⟩
  rw [scope?_of_not_mem (h l hl)] at hscope
  cases hscope

/-- The forwarders for a domain claim it, if there are any, and nothing else.

**Proof sketch.** Each of the lines has the domain for its scope, so a line that claims something
claims that, and there is one if there is a server. -/
lemma claims_scopedLines {domain : Text} (hslash : '/' ∉ domain) (servers : List Text) (e : Text) :
    claims (scopedLines domain servers) e = true ↔ servers ≠ [] ∧ e = domain := by
  rw [claims_iff]
  constructor
  · rintro ⟨l, hl, hscope⟩
    obtain ⟨server, hs, rfl⟩ := List.mem_map.mp hl
    rw [scope?_scopedLine hslash] at hscope
    exact ⟨List.ne_nil_of_mem hs, (Option.some.inj hscope).symm⟩
  · rintro ⟨hne, rfl⟩
    obtain ⟨server, hs⟩ := List.exists_mem_of_ne_nil servers hne
    exact ⟨_, List.mem_map_of_mem hs, scope?_scopedLine hslash server⟩

/-- **What the forwarders to a network claim**: its domain, if there are any. -/
theorem claims_ofText_scopedLines {domain : Text} (hslash : '/' ∉ domain) (hline : '\n' ∉ domain)
    (addresses : List Address) (e : Text) :
    claims (ofText (toText (scopedLines domain (addresses.map Address.text)))) e = true ↔
      addresses ≠ [] ∧ e = domain := by
  rw [claims_ofText_toText fun l hl => (isClean_of_mem_scopedLines hline hl).newline,
    claims_scopedLines hslash, ne_eq, List.map_eq_nil_iff]

/-! ## Merging and removing -/

section Lists

variable {current incoming outgoing : List Text}

/-- A merge adds no copy of a line that is there, and one copy at most of any other.

**Proof sketch.** Induction on the lines that come in. Only one that is not there is added, and
then it stands once. -/
lemma count_merge_le (current incoming : List Text) (x : Text) :
    (merge current incoming).lines.count x ≤ max (current.count x) 1 := by
  have key : ∀ r : Revision, (incoming.foldl Revision.insert r).lines.count x ≤
      max (r.lines.count x) 1 := by
    induction incoming with
    | nil => exact fun r => Nat.le_max_left _ _
    | cons line rest ih =>
      intro r
      have hinsert : (r.insert line).lines.count x ≤ max (r.lines.count x) 1 := by
        unfold Revision.insert
        split
        · exact Nat.le_max_left _ _
        · next hm =>
          have hm : line ∉ r.lines := by simpa using hm
          rw [List.count_append, List.count_singleton]
          split
          · next he =>
            rw [← eq_of_beq he, List.count_eq_zero_of_not_mem hm]
            exact Nat.le_max_right _ _
          · exact Nat.le_max_left _ _
      have hrest := ih (r.insert line)
      rw [List.foldl_cons]
      omega
  exact key _

/-- A merge adds lines at the end.

**Proof sketch.** By the lines merged in, for any start: each insertion appends or does nothing. -/
lemma prefix_merge (current incoming : List Text) :
    current <+: (merge current incoming).lines := by
  have key : ∀ r : Revision, r.lines <+: (incoming.foldl Revision.insert r).lines := by
    induction incoming with
    | nil => exact fun r => List.prefix_refl _
    | cons line rest ih =>
      intro r
      refine .trans ?_ (ih (r.insert line))
      unfold Revision.insert
      split
      · exact List.prefix_refl _
      · exact List.prefix_append _ _
  exact key ⟨current, false⟩

/-- Merging keeps lines that stand once each. -/
lemma nodup_merge (h : current.Nodup) (incoming : List Text) :
    (merge current incoming).lines.Nodup := by
  rw [List.nodup_iff_count_le_one] at h ⊢
  exact fun x => Nat.le_trans (count_merge_le current incoming x)
    (Nat.max_le.mpr ⟨h x, Nat.le_refl 1⟩)

/-- A merge changes something just if a line is new.

**Proof sketch.** By the lines merged in, for any start. Inserting a line that is new sets the
flag, and one that is inserted first is not new any more later. -/
lemma changed_merge_iff : (merge current incoming).changed = true ↔
    ∃ l ∈ incoming, l ∉ current := by
  unfold merge
  have key : ∀ r : Revision, (incoming.foldl Revision.insert r).changed = true ↔
      r.changed = true ∨ ∃ l ∈ incoming, l ∉ r.lines := by
    induction incoming with
    | nil => simp
    | cons line rest ih =>
      intro r
      rw [List.foldl_cons, ih]
      unfold Revision.insert
      by_cases hm : line ∈ r.lines
      · simp [hm]
      · simp [hm]
  simpa using key ⟨current, false⟩

/-- A merge that changes nothing leaves the lines as they are.

**Proof sketch.** If nothing has changed, each line was there already, so each step of the merge
does nothing. -/
lemma lines_merge_of_unchanged (h : (merge current incoming).changed = false) :
    (merge current incoming).lines = current := by
  have hall : ∀ l ∈ incoming, l ∈ current := by
    intro l hl
    by_contra hm
    rw [changed_merge_iff.mpr ⟨l, hl, hm⟩] at h
    cases h
  have key : ∀ r : Revision, (∀ l ∈ incoming, l ∈ r.lines) →
      incoming.foldl Revision.insert r = r := by
    clear h hall
    induction incoming with
    | nil => exact fun _ _ => rfl
    | cons line rest ih =>
      intro r hr
      have hins : r.insert line = r := by
        unfold Revision.insert
        rw [if_pos (by simpa using hr line (by simp))]
      rw [List.foldl_cons, hins]
      exact ih r fun l hl => hr l (by simp [hl])
  rw [merge, key ⟨current, false⟩ hall]

/-- A merge claims what one of the lists claims. -/
lemma claims_merge (d : Text) : claims (merge current incoming).lines d =
    (claims current d || claims incoming d) := by
  rw [Bool.eq_iff_iff, Bool.or_eq_true]
  simp only [claims_iff, mem_merge, or_and_right, exists_or]

/-- A removal takes lines away and leaves the others in their order.

**Proof sketch.** By the lines to be removed, for any start: each erases at most one copy. -/
lemma remove_sublist (current outgoing : List Text) :
    (remove current outgoing).lines.Sublist current := by
  have key : ∀ r : Revision, (outgoing.foldl Revision.erase r).lines.Sublist r.lines := by
    induction outgoing with
    | nil => exact fun r => .refl _
    | cons line rest ih =>
      intro r
      rw [List.foldl_cons]
      refine (ih _).trans ?_
      rw [Revision.lines_erase]
      exact List.erase_sublist
  exact key _

/-- A line that is not to be removed stays. -/
lemma mem_remove_of_not_mem {x : Text} (hx : x ∉ outgoing) :
    x ∈ (remove current outgoing).lines ↔ x ∈ current := by
  rw [← List.count_pos_iff, count_remove, List.count_eq_zero_of_not_mem hx, Nat.sub_zero,
    List.count_pos_iff]

/-- **A removal where no line stands twice** takes away all copies.

**Proof sketch.** A line that is removed was there once at most, so no copy of it is left. -/
theorem mem_remove (h : current.Nodup) {x : Text} :
    x ∈ (remove current outgoing).lines ↔ x ∈ current ∧ x ∉ outgoing := by
  by_cases hx : x ∈ outgoing
  · have hone : current.count x ≤ 1 := List.nodup_iff_count_le_one.mp h x
    have hpos : 0 < outgoing.count x := List.count_pos_iff.mpr hx
    rw [← List.count_pos_iff, count_remove]
    constructor
    · intro hlt
      omega
    · exact fun hno => absurd hx hno.2
  · rw [mem_remove_of_not_mem hx]
    simp [hx]

/-- A removal changes something just if a line is there.

**Proof sketch.** By the lines removed, for any start, as for a merge. Erasing one line leaves the
copies of others. -/
lemma changed_remove_iff : (remove current outgoing).changed = true ↔
    ∃ l ∈ outgoing, l ∈ current := by
  unfold remove
  have key : ∀ r : Revision, (outgoing.foldl Revision.erase r).changed = true ↔
      r.changed = true ∨ ∃ l ∈ outgoing, l ∈ r.lines := by
    induction outgoing with
    | nil => simp
    | cons line rest ih =>
      intro r
      rw [List.foldl_cons, ih]
      unfold Revision.erase
      by_cases hm : line ∈ r.lines
      · simp [hm]
      · simp [hm]
  simpa using key ⟨current, false⟩

/-- A removal that changes nothing leaves the lines as they are.

**Proof sketch.** If nothing has changed, none of the lines was there, so each step of the removal
does nothing. -/
lemma lines_remove_of_unchanged (h : (remove current outgoing).changed = false) :
    (remove current outgoing).lines = current := by
  have hnone : ∀ l ∈ outgoing, l ∉ current := by
    intro l hl hm
    rw [changed_remove_iff.mpr ⟨l, hl, hm⟩] at h
    cases h
  have key : ∀ r : Revision, (∀ l ∈ outgoing, l ∉ r.lines) →
      outgoing.foldl Revision.erase r = r := by
    clear h hnone
    induction outgoing with
    | nil => exact fun _ _ => rfl
    | cons line rest ih =>
      intro r hr
      have herase : r.erase line = r := by
        unfold Revision.erase
        rw [if_neg (by simpa using hr line (by simp))]
      rw [List.foldl_cons, herase]
      exact ih r fun l hl => hr l (by simp [hl])
  rw [remove, key ⟨current, false⟩ hnone]

/-- A removal that changes something leaves fewer lines.

**Proof sketch.** The lines left are a sublist, and one that was there and is to go has fewer
copies in it, so the sublist is a proper one. -/
lemma length_remove_lt (h : (remove current outgoing).changed = true) :
    (remove current outgoing).lines.length < current.length := by
  obtain ⟨l, hout, hcur⟩ := changed_remove_iff.mp h
  have hsub := remove_sublist current outgoing
  have hpos : 0 < outgoing.count l := List.count_pos_iff.mpr hout
  have hcount : 0 < current.count l := List.count_pos_iff.mpr hcur
  have hless : (remove current outgoing).lines.count l = current.count l - outgoing.count l :=
    count_remove current outgoing l
  refine Nat.lt_of_le_of_ne hsub.length_le fun hlen => ?_
  rw [hsub.eq_of_length hlen] at hless
  omega

/-- **A text that lines are removed from** does not stay as it was.

**Proof sketch.** If it did, then as many lines would be read from it as were written, and these
are fewer than those that were read at first. -/
theorem toText_remove_ne {t : Text} (h : (remove (ofText t) outgoing).changed = true) :
    toText (remove (ofText t) outgoing).lines ≠ t := by
  intro heq
  have hlt := length_remove_lt h
  have hline : ∀ l ∈ Text.sorted (remove (ofText t) outgoing).lines, '\n' ∉ l := by
    intro l hl
    exact (of_mem_ofText ((remove_sublist _ _).subset (Text.mem_sorted.mp hl))).2
  have hread : (ofText t).length ≤ (remove (ofText t) outgoing).lines.length := by
    calc (ofText t).length ≤ (Text.lines t).length := List.length_filter_le _ _
      _ = (Text.lines (toText (remove (ofText t) outgoing).lines)).length := by rw [heq]
      _ = (Text.sorted (remove (ofText t) outgoing).lines).length := by
        rw [toText, Text.lines_unlines_of_newline hline, List.length_map]
      _ = (remove (ofText t) outgoing).lines.length := (Text.sorted_perm _).length_eq
  omega

end Lists

end Forwarders

end ResolverMesh
