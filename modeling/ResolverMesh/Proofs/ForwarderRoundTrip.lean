import ResolverMesh.Proofs.ByteOrder
import ResolverMesh.Proofs.LinesTakenBack
import ResolverMesh.Proofs.Runs
import ResolverMesh.Proofs.TextFiles

set_option autoImplicit false
set_option relaxedAutoImplicit false

/-!
# Forwarder files written and read back

Any list of texts can be written to a file of forwarders, but not any list is read back. The writer
ends each text by a line feed and escapes nothing; the reader cuts at line feeds, drops a carriage
return in front of one, and skips what is empty. So a text with line feeds comes back in pieces, an
empty one not at all, and one that ends in a carriage return comes back without it. None of these
makes up for another: what is read back is the list in order just if each text in it is one clean
line.

What the lines of a file claim is less easily lost. A carriage return at the end of a line is not
between its first two slashes, and an empty line claims nothing, so the forwarders for a domain are
recognised as such when they are read back, and nothing else is taken for them.

## Main definitions

* `ResolverMesh.Forwarders.RoundTrip` — lines written to a file, and what is read back.

## Main results

* `ResolverMesh.Text.eq_sorted_iff` — a list sorted by bytes.
* `ResolverMesh.Forwarders.ofText_unlines` — each text is read back by itself.
* `ResolverMesh.Forwarders.ofText_toText_eq_sorted_iff` — the texts that are read back.
* `ResolverMesh.Forwarders.writeLines_roundTrip` — a file of forwarders, whatever is written to it.
* `ResolverMesh.Forwarders.claims_iff_exists_split` — the lines that claim a domain.
* `ResolverMesh.Forwarders.claims_of_written` — what is read back from a file claims what was
  written to it, and nothing else.
-/

namespace ResolverMesh

namespace Text

/-- **A list sorted by bytes**: the same texts, as often, in the order of their bytes. -/
theorem eq_sorted_iff {as bs : List Text} : bs = sorted as ↔
    bs.Perm as ∧ bs.Pairwise fun x y => Utf8.encode x ≤ Utf8.encode y := by
  simp only [Utf8.encode_le_iff]
  constructor
  · rintro rfl
    exact ⟨sorted_perm as, pairwise_sorted as⟩
  · rintro ⟨hperm, hsorted⟩
    rw [← sorted_of_pairwise hsorted, sorted_eq_of_perm hperm]

/-- Sorting a second time changes nothing. -/
@[simp]
lemma sorted_sorted (as : List Text) : sorted (sorted as) = sorted as :=
  sorted_of_pairwise (pairwise_sorted as)

/-- A line stays as it is just if it does not end in a carriage return. -/
lemma dropReturn_eq_self_iff {l : Text} : dropReturn l = l ↔ l.getLast? ≠ some '\r' := by
  refine ⟨fun h hr => ?_, dropReturn_of_ne⟩
  obtain ⟨init, rfl⟩ := List.getLast?_eq_some_iff.mp hr
  rw [dropReturn, if_pos hr, List.dropLast_concat] at h
  simpa using congrArg List.length h

end Text

namespace Forwarders

variable {ls : List Text} {h k : Host} {p : Path}

/-! ## Texts -/

/-- **Each text is read back by itself**, whatever stands beside it. -/
theorem ofText_unlines (ls : List Text) :
    ofText (Text.unlines ls) = ls.flatMap fun l => ofText (l ++ ['\n']) := by
  induction ls with
  | nil => rfl
  | cons l ls ih =>
    rw [List.flatMap_cons, ← ih, ofText, ofText, ofText, Text.unlines_cons,
      Text.lines_append_newline, List.filter_append]

/-- **The texts that are read back** as they were written are the clean ones.

**Proof sketch.** Suppose that the list is read back in order. What is read is not empty and holds
no line feed, so no text is cut, and the lines are the texts less a carriage return at the end.
There are as many of them as texts, so none of the lines was skipped, and each of them is its
text. -/
theorem ofText_toText_eq_sorted_iff :
    ofText (toText ls) = Text.sorted ls ↔ ∀ l ∈ ls, IsClean l := by
  refine ⟨fun hread => ?_, ofText_toText⟩
  have hplain : ∀ l ∈ Text.sorted ls, l ≠ [] ∧ '\n' ∉ l := by
    rw [← hread]
    exact fun l hl => of_mem_ofText hl
  have hlines : Text.lines (toText ls) = (Text.sorted ls).map Text.dropReturn :=
    Text.lines_unlines_of_newline fun l hl => (hplain l hl).2
  have hall : ofText (toText ls) = Text.lines (toText ls) := by
    refine List.filter_sublist.eq_of_length ?_
    rw [← ofText, hread, hlines, List.length_map]
  have hsame : (Text.sorted ls).map Text.dropReturn = (Text.sorted ls).map id := by
    rw [← hlines, ← hall, hread, List.map_id]
  intro l hl
  have hl' : l ∈ Text.sorted ls := Text.mem_sorted.mpr hl
  exact ⟨(hplain l hl').1, (hplain l hl').2,
    Text.dropReturn_eq_self_iff.mp (List.map_inj_left.mp hsame l hl')⟩

example : ofText (toText ["b\r".toList, [], "a\n\nc".toList]) =
    ["a".toList, "c".toList, "b".toList] := by
  decide

/-! ## Files -/

/-- The lines of a file whose text is read. -/
lemma readLines_of_readIfThere {content : Option Text}
    (hread : Files.readIfThere p h = .ok content) :
    readLines p h = .ok (ofText (content.getD [])) := by
  unfold readLines
  rw [Query.run_bind, hread]
  cases content <;> rfl

/-- Lines are written to a path that takes a text. -/
lemma writeLines_of_isWritable (hw : h.disk.IsWritable p) (ls : List Text) :
    ∃ k, writeLines p ls h = (.ok (), k) ∧ Files.readIfThere p k = .ok (some (toText ls)) ∧
      k.disk.IsWritable p :=
  Files.write_of_isWritable hw (toText ls)

/-- From a host `h` to a host `k`, the texts `ls` are written to a file of forwarders; `ordered` are
these texts in order, and `read` is what is read back. -/
structure RoundTrip (p : Path) (ls ordered read : List Text) (h k : Host) : Prop where
  /-- They are written. -/
  writes : writeLines p ls h = (.ok (), k)
  /-- The file is read. -/
  reads : readLines p k = .ok read
  /-- Ordering drops no text and no repeat. -/
  perm : ordered.Perm ls
  /-- It is by bytes. -/
  bytes : ordered.Pairwise fun x y => Text.Utf8.encode x ≤ Text.Utf8.encode y
  /-- The texts are read back in order just if all of them are clean. -/
  clean_iff : read = ordered ↔ ∀ l ∈ ls, IsClean l
  /-- In any case each comes back as its own lines that are not empty. -/
  apart : read = ordered.flatMap fun l => ofText (l ++ ['\n'])
  /-- What is read back from clean texts and written again leaves the same file. -/
  again : (∀ l ∈ ls, IsClean l) → ∃ t k', Files.readIfThere p k = .ok (some t) ∧
    writeLines p read k = (.ok (), k') ∧ Files.readIfThere p k' = .ok (some t)

/-- **A file of forwarders, whatever is written to it.** Any texts can be written to a path that
takes a text. They are read back in the order of their bytes just if each of them is one clean line;
and if so, what is read back can be written again and again.

**Proof sketch.** The file holds the texts in order, each ended by a line feed. What is read from it
is told by `ofText_unlines`, and when that is the list in order by `ofText_toText_eq_sorted_iff`.
Clean texts are in order once they are read back, so that the second file is the first. -/
theorem writeLines_roundTrip (hw : h.disk.IsWritable p) (ls : List Text) :
    ∃ ordered read k, RoundTrip p ls ordered read h k := by
  obtain ⟨k, hwrite, hread, hthen⟩ := writeLines_of_isWritable hw ls
  obtain ⟨hperm, hbytes⟩ := Text.eq_sorted_iff.mp (rfl : Text.sorted ls = _)
  refine ⟨Text.sorted ls, ofText (toText ls), k, hwrite, readLines_of_readIfThere hread, hperm,
    hbytes, ofText_toText_eq_sorted_iff, ofText_unlines _, fun hclean => ?_⟩
  obtain ⟨k', hwrite', hread', -⟩ := writeLines_of_isWritable hthen (ofText (toText ls))
  have hsame : toText (ofText (toText ls)) = toText ls := by
    rw [ofText_toText hclean, toText, Text.sorted_sorted, toText]
  exact ⟨toText ls, k', hread, hwrite', by rw [hread', hsame]⟩

open Sample in
/-- Two lines that are not in order, written where no file is. -/
theorem writeLines_roundTrip_of_free :
    (host []).disk.IsWritable ⟨"/root/forwarders".toList⟩ ∧ ∃ ordered read k,
      RoundTrip ⟨"/root/forwarders".toList⟩ ["server=b".toList, "server=a".toList] ordered read
        (host []) k := by
  have hw : (host []).disk.IsWritable ⟨"/root/forwarders".toList⟩ :=
    Disk.isWritable_of_takesFile (by decide +kernel)
  exact ⟨hw, writeLines_roundTrip hw _⟩

/-! ## Claims -/

variable {domain : Text} {servers defaults : List Text}

/-- **The lines that claim a domain**: there are two slashes at least in one of them, and the domain
is what stands between the first and the second. -/
theorem claims_iff_exists_split {e : Text} : claims ls e = true ↔
    ∃ l ∈ ls, ∃ xs ys, l = xs ++ '/' :: (e ++ '/' :: ys) ∧ '/' ∉ xs ∧ '/' ∉ e := by
  simp only [claims_iff, scope?_eq_some_iff]

/-- What is neither in the key nor in the domain nor in the server is not in the line. -/
lemma not_mem_scopedLine {c : Char} (hkey : c ∉ "server=/".toList) (hd : c ∉ domain)
    {server : Text} (hs : c ∉ server) : c ∉ scopedLine domain server := by
  unfold scopedLine
  rw [List.mem_append, List.mem_append, List.mem_cons]
  rintro ((hm | hm) | rfl | hm)
  · exact hkey hm
  · exact hd hm
  · exact hkey (by decide)
  · exact hs hm

/-- What is read back from the forwarders for a domain claims it, if there are any, and nothing
else. -/
lemma claims_ofText_of_scopedLines (hslash : '/' ∉ domain) (hline : '\n' ∉ domain)
    (hservers : ∀ s ∈ servers, '\n' ∉ s) (e : Text) :
    claims (ofText (toText (scopedLines domain servers))) e = true ↔
      servers ≠ [] ∧ domain = e := by
  have hplain : ∀ l ∈ scopedLines domain servers, '\n' ∉ l := by
    intro l hl
    obtain ⟨s, hs, rfl⟩ := List.mem_map.mp hl
    have hkey : '\n' ∉ "server=/".toList := by decide
    exact not_mem_scopedLine hkey hline (hservers s hs)
  rw [claims_ofText_toText hplain, claims_scopedLines hslash, eq_comm]

/-- What is read back from forwarders for everything claims nothing, even if line feeds in them have
cut them in pieces.

**Proof sketch.** There is no slash in the text that is written, and a line that is read holds only
characters of that text. -/
lemma claims_ofText_of_plainLines (hdefaults : ∀ s ∈ defaults, '/' ∉ s) (e : Text) :
    claims (ofText (toText (plainLines defaults))) e = false := by
  have hkey : '/' ∉ "server=".toList := by decide
  have htext : '/' ∉ toText (plainLines defaults) := by
    intro hm
    obtain ⟨l, hl, hm⟩ := List.mem_flatMap.mp hm
    obtain ⟨s, hs, rfl⟩ := List.mem_map.mp (Text.mem_sorted.mp hl)
    rcases List.mem_append.mp hm with hm | hm
    · exact (List.mem_append.mp hm).elim hkey (hdefaults s hs)
    · exact absurd (List.mem_singleton.mp hm) (by decide)
  exact claims_eq_false_of_not_mem (fun l hl hm => htext (subset_of_mem_ofText hl hm)) e

/-- **What is written is what is claimed.** The forwarders for a domain to some servers, written to
a path that takes a text, are read back as claiming that domain, if there is a server, and no other
text. Forwarders for everything are read back as claiming nothing. And what lines claim is what
stands between the first two slashes of one of them, wherever they come from.

**Proof sketch.** A domain without a slash and a line feed is written between the first two slashes
of each line, and sorting the lines and dropping carriage returns at their ends leaves it there.
Servers without a slash leave none in the file, so none is in any line that is read. -/
theorem claims_of_written (hw : h.disk.IsWritable p) (hslash : '/' ∉ domain)
    (hline : '\n' ∉ domain) (hservers : ∀ s ∈ servers, '\n' ∉ s)
    (hdefaults : ∀ s ∈ defaults, '/' ∉ s) :
    (∃ k ls, writeLines p (scopedLines domain servers) h = (.ok (), k) ∧
      readLines p k = .ok ls ∧ ∀ e, claims ls e = true ↔ servers ≠ [] ∧ domain = e) ∧
    (∃ k ls, writeLines p (plainLines defaults) h = (.ok (), k) ∧
      readLines p k = .ok ls ∧ ∀ e, claims ls e = false) ∧
    ∀ ls e, claims ls e = true ↔
      ∃ l ∈ ls, ∃ xs ys, l = xs ++ '/' :: (e ++ '/' :: ys) ∧ '/' ∉ xs ∧ '/' ∉ e := by
  obtain ⟨k, hwrite, hread, -⟩ := writeLines_of_isWritable hw (scopedLines domain servers)
  obtain ⟨k', hwrite', hread', -⟩ := writeLines_of_isWritable hw (plainLines defaults)
  exact ⟨⟨k, _, hwrite, readLines_of_readIfThere hread,
      claims_ofText_of_scopedLines hslash hline hservers⟩,
    ⟨k', _, hwrite', readLines_of_readIfThere hread', claims_ofText_of_plainLines hdefaults⟩,
    fun _ _ => claims_iff_exists_split⟩

open Sample in
/-- Lines of which one ends in a carriage return and one has no server, written and read back. -/
theorem claims_of_written_of_free :
    ∃ k ls, writeLines ⟨"/root/forwarders".toList⟩
        (scopedLines "a".toList ["10.0.0.1\r".toList, []]) (host []) = (.ok (), k) ∧
      readLines ⟨"/root/forwarders".toList⟩ k = .ok ls ∧ claims ls "a".toList = true := by
  have hw : (host []).disk.IsWritable ⟨"/root/forwarders".toList⟩ :=
    Disk.isWritable_of_takesFile (by decide +kernel)
  obtain ⟨⟨k, ls, hwrite, hread, hclaims⟩, -⟩ := claims_of_written hw
    (show '/' ∉ "a".toList by decide) (show '\n' ∉ "a".toList by decide)
    (show ∀ s ∈ ["10.0.0.1\r".toList, []], '\n' ∉ s by decide)
    (show ∀ s ∈ ["8.8.8.8\n".toList], '/' ∉ s by decide)
  exact ⟨k, ls, hwrite, hread, (hclaims _).mpr ⟨by simp, rfl⟩⟩

end Forwarders

end ResolverMesh
