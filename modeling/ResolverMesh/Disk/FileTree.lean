import ResolverMesh.Disk.Entry

set_option autoImplicit false
set_option relaxedAutoImplicit false

/-!
# File trees

A file tree maps places to entries. A place is what a walk along a path ends at, so no symbolic
link and no step up is left in it. Each place is kept with its depth, which tells most places
apart before any name is compared.

## Main definitions

* `ResolverMesh.Site` — a place with its depth.
* `ResolverMesh.FileTree` — a finite map from places to entries.
* `ResolverMesh.FileTree.get?`, `ResolverMesh.FileTree.put`, `ResolverMesh.FileTree.removeAt` —
  what is at a place, a tree with an entry put there, a tree without all that is at a place or
  below it.
* `ResolverMesh.FileTree.children` — the entries directly in a directory.

## Main results

* `ResolverMesh.FileTree.get?_put`, `ResolverMesh.FileTree.get?_removeAt` — a look-up after each
  change.
* `ResolverMesh.FileTree.mem_children` — the children of a place are the entries one name below.
-/

namespace ResolverMesh

/-- A place with its depth. Sites of different depth differ by that number alone. -/
structure Site where
  /-- The number of names. -/
  depth : Nat
  /-- The place. -/
  loc : Location
  /-- The depth is that of the place. -/
  depth_eq : depth = loc.length
  deriving DecidableEq, Repr

namespace Site

/-- The site of a place. -/
def ofLocation (loc : Location) : Site := ⟨loc.length, loc, rfl⟩

/-- A site is that of a place just if it has that place. -/
theorem eq_ofLocation_iff {s : Site} {loc : Location} : s = .ofLocation loc ↔ s.loc = loc := by
  constructor
  · rintro rfl
    rfl
  · rintro rfl
    cases s with
    | mk depth loc depth_eq =>
      subst depth_eq
      rfl

/-- Different locations have different sites. -/
theorem ofLocation_inj {loc l : Location} : Site.ofLocation loc = Site.ofLocation l ↔ loc = l :=
  eq_ofLocation_iff

end Site

/-- A finite map from places to entries. -/
structure FileTree where
  /-- The places that hold something, each once. -/
  entries : List (Site × Entry)
  /-- No place holds two entries. -/
  nodup : (entries.map Prod.fst).Nodup

namespace FileTree

/-- The tree that holds nothing. -/
def empty : FileTree := ⟨[], by simp⟩

/-- What is at a site. -/
def atSite? (t : FileTree) (site : Site) : Option Entry :=
  (t.entries.find? (fun e => e.1 = site)).map Prod.snd

/-- What is at a place. -/
def get? (t : FileTree) (loc : Location) : Option Entry :=
  t.atSite? (.ofLocation loc)

/-- The entries that a test on sites keeps. -/
def keep (t : FileTree) (p : Site → Bool) : FileTree where
  entries := t.entries.filter (fun e => p e.1)
  nodup := (List.filter_sublist.map Prod.fst).nodup t.nodup

/-- The tree with an entry put at a site, in the place of what is there. -/
def putSite (t : FileTree) (site : Site) (e : Entry) : FileTree where
  entries := (site, e) :: (t.keep (fun s => s ≠ site)).entries
  nodup := by
    rw [List.map_cons, List.nodup_cons]
    refine ⟨?_, (t.keep _).nodup⟩
    simp [keep]

/-- The tree with an entry put at a place, in the place of what is there. -/
def put (t : FileTree) (loc : Location) (e : Entry) : FileTree :=
  t.putSite (.ofLocation loc) e

/-- The tree without what is at a place and below it. -/
def removeAt (t : FileTree) (loc : Location) : FileTree :=
  t.keep (fun s => !loc.isPrefixOf s.loc)

/-- The last name of a place that is one name below another. -/
def childName : Location → Location → Option Name
  | [], [n] => some n
  | p :: ps, l :: ls => if p = l then childName ps ls else none
  | _, _ => none

/-- The entries directly in a directory, in no particular order. -/
def children (t : FileTree) (loc : Location) : List (Name × Entry) :=
  t.entries.filterMap (fun e => (childName loc e.1.loc).map (fun n => (n, e.2)))

/-! ## Looking up after a change -/

/-- A part of a tree has the entries of the sites that are kept.

**Proof sketch.** The first entry for the site that is kept is the first one for the site, or there
is none, since whether an entry is kept depends on its site only. -/
theorem get?_keep (t : FileTree) (p : Site → Bool) (loc : Location) :
    (t.keep p).get? loc = if p (.ofLocation loc) then t.get? loc else none := by
  rw [get?, get?, atSite?, atSite?, keep, List.find?_filter]
  by_cases h : p (.ofLocation loc) = true
  · rw [if_pos h]
    congr 2
    funext e
    by_cases he : e.1 = .ofLocation loc <;> simp [he, h]
  · rw [if_neg h, List.find?_eq_none.mpr]
    · rfl
    · intro e _
      by_cases he : e.1 = .ofLocation loc <;> simp [he, h]

/-- A look-up after putting an entry at a place.

**Proof sketch.** The entry that is put comes first, and what is left of the tree behind it has no
other one for this place. -/
theorem get?_put (t : FileTree) (loc : Location) (e : Entry) (l : Location) :
    (t.put loc e).get? l = if l = loc then some e else t.get? l := by
  by_cases h : l = loc
  · subst h
    simp [get?, atSite?, put, putSite]
  · have h' : ¬ Site.ofLocation loc = .ofLocation l := fun e => h (Site.ofLocation_inj.mp e).symm
    have hk := get?_keep t (fun s => decide (s ≠ .ofLocation loc)) l
    rw [if_pos (by simpa [Site.ofLocation_inj] using h)] at hk
    rw [if_neg h, ← hk]
    simp [get?, atSite?, put, putSite, h']

/-- A look-up after removing a place and all below it. -/
theorem get?_removeAt (t : FileTree) (loc l : Location) :
    (t.removeAt loc).get? l = if loc <+: l then none else t.get? l := by
  rw [removeAt, get?_keep]
  by_cases h : loc <+: l
  · rw [if_pos h, if_neg]
    simpa [Site.ofLocation] using List.isPrefixOf_iff_prefix.mpr h
  · have : loc.isPrefixOf l = false := by
      rw [← Bool.not_eq_true, List.isPrefixOf_iff_prefix]
      exact h
    simp [Site.ofLocation, this, h]

/-- The entry at a location is the one that is listed with its site.

**Proof sketch.** Induction on the entries. No two of them are listed with one site, so the first
that is found with it is the only one. -/
theorem get?_eq_some_iff {t : FileTree} {loc : Location} {e : Entry} :
    t.get? loc = some e ↔ (Site.ofLocation loc, e) ∈ t.entries := by
  constructor
  · intro h
    obtain ⟨⟨l, e'⟩, hf, rfl⟩ := Option.map_eq_some_iff.mp h
    have hl : l = .ofLocation loc := by simpa using List.find?_some hf
    exact hl ▸ List.mem_of_find?_eq_some hf
  · intro h
    have key : ∀ (es : List (Site × Entry)), (es.map Prod.fst).Nodup →
        (Site.ofLocation loc, e) ∈ es →
        (es.find? (fun e => e.1 = .ofLocation loc)).map Prod.snd = some e := by
      intro es
      induction es with
      | nil => simp
      | cons x xs ih =>
        intro hnd hm
        rw [List.map_cons, List.nodup_cons] at hnd
        rcases List.mem_cons.mp hm with rfl | hm
        · simp
        · have hx : x.1 ≠ .ofLocation loc := by
            intro hx
            exact hnd.1 (List.mem_map.mpr ⟨_, hm, by simp [hx]⟩)
          simp [hx, ih hnd.2 hm]
    exact key t.entries t.nodup h

/-! ## Children -/

/-- A child's location is that of its directory and one name more.

**Proof sketch.** Induction on the directory's location, along with the child's. -/
theorem childName_eq_some_iff {loc l : Location} {n : Name} :
    childName loc l = some n ↔ l = loc ++ [n] := by
  induction loc generalizing l with
  | nil =>
    cases l with
    | nil => simp [childName]
    | cons m ls => cases ls <;> simp [childName]
  | cons p ps ih =>
    cases l with
    | nil => simp [childName]
    | cons m ls =>
      by_cases h : p = m
      · subst h
        simp [childName, ih]
      · have h' : ¬ m = p := fun e => h e.symm
        simp [childName, h, h']

/-- The children of a place are the entries one name below it.

**Proof sketch.** A name that extends the place is the only child name of its site, and a site is
that of a place just if it has that place. -/
theorem mem_children {t : FileTree} {loc : Location} {n : Name} {e : Entry} :
    (n, e) ∈ t.children loc ↔ t.get? (loc ++ [n]) = some e := by
  rw [get?_eq_some_iff, children, List.mem_filterMap]
  constructor
  · rintro ⟨⟨site, e'⟩, hm, hc⟩
    obtain ⟨m, hm', heq⟩ := Option.map_eq_some_iff.mp hc
    cases heq
    rw [childName_eq_some_iff, ← Site.eq_ofLocation_iff] at hm'
    exact hm' ▸ hm
  · intro h
    exact ⟨_, h, by simp [Site.ofLocation, childName_eq_some_iff.mpr rfl]⟩

end FileTree

end ResolverMesh
