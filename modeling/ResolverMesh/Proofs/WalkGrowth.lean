import Mathlib.Tactic.Lemma
import ResolverMesh.Disk.Basic

set_option autoImplicit false
set_option relaxedAutoImplicit false

/-!
# Walks in a growing file tree

A walk that has arrived somewhere arrives there again after entries have been added and files
have been written anew: it passed through directories and links only, and those are still there.
Below a directory without links, a walk is decided by the entries at the places that it names.

## Main definitions

* `ResolverMesh.Entry.Alike` — the same entry, up to the identity and the content of a file.
* `ResolverMesh.FileTree.Grows` — every entry of one tree is in the other, up to what a file holds.
* `ResolverMesh.FileTree.landing` — where plain names lead from a directory without links below.

## Main results

* `ResolverMesh.FileTree.Grows.walk_entry` — a walk to an entry survives growth.
* `ResolverMesh.FileTree.walk_through_dot` — a step that stays in place can be left out.
* `ResolverMesh.FileTree.walk_eq_landing` — a walk by plain names without links on its way.
-/

namespace ResolverMesh

/-- The same entry, up to the identity and the content of a file. -/
def Entry.Alike : Entry → Entry → Prop
  | .file _ x _, .file _ y _ => x = y
  | a, b => a = b

namespace Entry

/-- An entry is like itself. -/
lemma Alike.refl (e : Entry) : Alike e e := by
  cases e <;> rfl

/-- What is like something is like all that this is like. -/
lemma Alike.trans {a b c : Entry} (h₁ : Alike a b) (h₂ : Alike b c) : Alike a c := by
  cases a <;> cases b <;> cases c <;> simp_all [Alike]

/-- An entry like a directory is that directory. -/
lemma Alike.of_directory {id mode : Nat} {e : Entry} (h : Alike (.directory id mode) e) :
    e = .directory id mode := by
  cases e <;> simp_all [Alike]

/-- An entry like a link is that link. -/
lemma Alike.of_link {target : Path} {e : Entry} (h : Alike (.link target) e) :
    e = .link target := by
  cases e <;> simp_all [Alike]

/-- An entry like a file is a file that may be executed just if that one may. -/
lemma Alike.of_file {id : Nat} {x : Bool} {c : Content} {e : Entry}
    (h : Alike (.file id x c) e) : ∃ id' c', e = .file id' x c' := by
  cases e with
  | file id' y c' => exact ⟨id', c', by rw [show x = y from h]⟩
  | directory _ _ => simp [Alike] at h
  | link _ => simp [Alike] at h

end Entry

namespace FileTree

/-- Every entry of a tree is in the other one, up to what a file holds. -/
def Grows (t u : FileTree) : Prop :=
  ∀ loc e, t.get? loc = some e → ∃ e', u.get? loc = some e' ∧ Entry.Alike e e'

namespace Grows

/-- A tree grows into itself. -/
lemma refl (t : FileTree) : t.Grows t :=
  fun _ e h => ⟨e, h, .refl e⟩

/-- Growth goes on. -/
lemma trans {t u v : FileTree} (h₁ : t.Grows u) (h₂ : u.Grows v) : t.Grows v := by
  intro loc e he
  obtain ⟨e', he', ha⟩ := h₁ loc e he
  obtain ⟨e'', he'', ha'⟩ := h₂ loc e' he'
  exact ⟨e'', he'', ha.trans ha'⟩

/-- A tree grows by an entry at a place that was free or held one like it. -/
lemma put {t : FileTree} {loc : Location} {e : Entry}
    (h : ∀ old, t.get? loc = some old → Entry.Alike old e) : t.Grows (t.put loc e) := by
  intro l old hl
  rw [get?_put]
  by_cases hloc : l = loc
  · subst hloc
    exact ⟨e, by simp, h old hl⟩
  · exact ⟨old, by rw [if_neg hloc, hl], .refl old⟩

/-- The stretches up to an arrival or a link are the same after growth.

**Proof sketch.** Induction on the steps. The entries that a stretch passes are there after growth,
directories as directories and links as the same links. -/
lemma advance_eq {t u : FileTree} (h : t.Grows u) {follow : Bool} {here : Location}
    {steps : List Text}
    (hstop : (∃ loc, t.advance follow here steps = .arrived loc) ∨
      ∃ base target rest, t.advance follow here steps = .link base target rest) :
    u.advance follow here steps = t.advance follow here steps := by
  induction steps generalizing here with
  | nil => rfl
  | cons s ss ih =>
    rw [advance] at hstop ⊢
    rw [advance]
    split
    · next hs => exact ih (by simpa [hs] using hstop)
    · next hs =>
      rw [if_neg hs] at hstop
      split
      · next hu => exact ih (by simpa [hu] using hstop)
      · next hu =>
        rw [if_neg hu] at hstop
        split
        · rfl
        · next hl =>
          rw [if_neg hl] at hstop
          cases he : t.get? (here ++ [Name.text s]) with
          | none =>
            rw [he] at hstop
            dsimp only at hstop
            split at hstop <;> simp at hstop
          | some e =>
            obtain ⟨e', he', ha⟩ := h _ e he
            rw [he] at hstop
            cases e with
            | directory id mode =>
              rw [he', ha.of_directory]
              exact ih hstop
            | link target => rw [he', ha.of_link]
            | file id x c =>
              obtain ⟨id', c', rfl⟩ := ha.of_file
              rw [he']

/-- **A walk to an entry survives growth**: it ends at the same place, at an entry like the one
before.

**Proof sketch.** Induction on the links that may be followed. Up to a link or the end the stretch
is the same, by `advance_eq`, and the entry at the end has one like it in its place. -/
theorem walk_entry {t u : FileTree} (h : t.Grows u) {aim : Aim} {links : Nat} {here loc : Location}
    {steps : List Text} {e : Entry} (hw : t.walk aim links here steps = .ok (.entry loc e)) :
    ∃ e', u.get? loc = some e' ∧ Entry.Alike e e' ∧
      u.walk aim links here steps = .ok (.entry loc e') := by
  induction links generalizing here steps with
  | zero =>
    unfold walk at hw ⊢
    cases ha : t.advance aim.follows here steps with
    | arrived l =>
      rw [h.advance_eq (.inl ⟨l, ha⟩), ha]
      rw [ha] at hw
      dsimp only at hw ⊢
      split at hw
      · next old hold =>
        cases hw
        obtain ⟨e', he', hlike⟩ := h _ _ hold
        exact ⟨e', he', hlike, by rw [he']⟩
      · cases hw
    | vacant p n => simp [ha] at hw
    | failed err => simp [ha] at hw
    | link b g a => simp [ha] at hw
  | succ links ih =>
    unfold walk at hw ⊢
    cases ha : t.advance aim.follows here steps with
    | arrived l =>
      rw [h.advance_eq (.inl ⟨l, ha⟩), ha]
      rw [ha] at hw
      dsimp only at hw ⊢
      split at hw
      · next old hold =>
        cases hw
        obtain ⟨e', he', hlike⟩ := h _ _ hold
        exact ⟨e', he', hlike, by rw [he']⟩
      · cases hw
    | vacant p n => simp [ha] at hw
    | failed err => simp [ha] at hw
    | link b g a =>
      rw [h.advance_eq (.inr ⟨b, g, a, ha⟩), ha]
      rw [ha] at hw
      dsimp only at hw ⊢
      split at hw
      · split at hw <;> cases hw
      · next hslash =>
        rw [if_neg hslash]
        exact ih hw

end Grows

/-! ## Steps that stay in place -/

/-- A step that stays in place can be left out of a stretch that goes on after it.

**Proof sketch.** Induction on the steps before the one that stays in place. It can be met only
after all of them, or be left over behind a link. -/
lemma advance_through_dot (t : FileTree) (follow : Bool) (here : Location) (xs : List Text)
    {ys : List Text} (hys : ys ≠ []) :
    t.advance follow here (xs ++ Path.dot :: ys) = t.advance follow here (xs ++ ys) ∨
      ∃ base target rest, t.advance follow here (xs ++ Path.dot :: ys) =
          .link base target (rest ++ Path.dot :: ys) ∧
        t.advance follow here (xs ++ ys) = .link base target (rest ++ ys) := by
  induction xs generalizing here with
  | nil => left; simp [advance]
  | cons s ss ih =>
    have h₁ : (ss ++ Path.dot :: ys).isEmpty = false := by simp
    have h₂ : (ss ++ ys).isEmpty = false := by simp [hys]
    rw [List.cons_append, List.cons_append, advance, advance]
    split
    · exact ih here
    · split
      · exact ih here.dropLast
      · split
        · exact .inl rfl
        · cases t.get? (here ++ [Name.text s]) with
          | none => left; simp [h₁, h₂]
          | some e =>
            cases e with
            | directory id mode => exact ih _
            | file id x c => left; simp [h₁, h₂]
            | link target =>
              right
              exact ⟨here, target, ss, by simp [h₁], by simp [h₂]⟩

/-- **A step that stays in place can be left out** of a walk that goes on after it.

**Proof sketch.** The two first stretches agree, or both end before the same link with the same
difference in what is left; then the induction on the number of links goes on behind it. -/
theorem walk_through_dot (t : FileTree) (aim : Aim) (links : Nat) (here : Location)
    (xs : List Text) {ys : List Text} (hys : ys ≠ []) :
    t.walk aim links here (xs ++ Path.dot :: ys) = t.walk aim links here (xs ++ ys) := by
  induction links generalizing here xs with
  | zero =>
    rw [walk.eq_def, walk.eq_def t aim 0 here (xs ++ ys)]
    rcases t.advance_through_dot aim.follows here xs hys with h | ⟨b, g, r, h₁, h₂⟩
    · rw [h]
    · rw [h₁, h₂]
  | succ links ih =>
    rw [walk.eq_def, walk.eq_def t aim (links + 1) here (xs ++ ys)]
    rcases t.advance_through_dot aim.follows here xs hys with h | ⟨b, g, r, h₁, h₂⟩
    · rw [h]
    · have hdot : ¬ (aim = .file ∧ r ++ Path.dot :: ys = [] ∧ g.endsInSlash = true) := by simp
      have hend : ¬ (aim = .file ∧ r ++ ys = [] ∧ g.endsInSlash = true) := by simp [hys]
      rw [h₁, h₂]
      dsimp only
      rw [if_neg hdot, if_neg hend, ← List.append_assoc, ← List.append_assoc, ih]

/-! ## Walks below a directory without links -/

/-- Where plain names lead from a directory below which there are no links. -/
def landing (t : FileTree) (here : Location) : List Text → Except IoError Spot
  | [] => .error .notFound
  | [s] =>
    match t.get? (here ++ [Name.text s]) with
    | none => .ok (.vacant here s)
    | some e => .ok (.entry (here ++ [Name.text s]) e)
  | s :: rest =>
    match t.get? (here ++ [Name.text s]) with
    | none => .error .notFound
    | some (.directory _ _) => t.landing (here ++ [Name.text s]) rest
    | some _ => .error .notADirectory

/-- **A walk by plain names without links on its way** is decided by the entries that they
name.

**Proof sketch.** Induction on the names. The first is a step down, which ends at a free name or a
file, or goes into a directory; it is no link, so nothing is followed. -/
theorem walk_eq_landing {t : FileTree} {aim : Aim} {links : Nat} {here : Location}
    {names : List Text} (hne : names ≠ []) (hsteps : ∀ s ∈ names, IsStep s)
    (hfree : ∀ loc e, t.get? (here ++ loc) = some e → e.isLink = false) :
    t.walk aim links here names = t.landing here names := by
  induction names generalizing here with
  | nil => exact absurd rfl hne
  | cons s rest ih =>
    have hs : IsStep s := hsteps s (by simp)
    cases rest with
    | nil =>
      unfold landing
      cases he : t.get? (here ++ [Name.text s]) with
      | none => exact walk_of_vacant (advance_vacant hs he)
      | some e => exact walk_of_arrived (advance_last hs he (hfree _ e he)) he
    | cons r rs =>
      unfold landing
      have hcons : (r :: rs).isEmpty = false := rfl
      cases he : t.get? (here ++ [Name.text s]) with
      | none =>
        have ha : t.advance aim.follows here (s :: r :: rs) = .failed .notFound := by
          rw [advance, if_neg hs.1, if_neg hs.2.1, if_neg (Nat.not_lt.mpr hs.2.2), he]
          rfl
        rw [walk.eq_def, ha]
      | some e =>
        cases e with
        | directory id mode =>
          have ha : t.advance aim.follows here (s :: r :: rs) =
              t.advance aim.follows (here ++ [Name.text s]) (r :: rs) := advance_directory hs he
          rw [walk.eq_def, ha, ← walk.eq_def]
          exact ih (by simp) (fun x hx => hsteps x (by simp [hx]))
            (fun loc e h => hfree (.text s :: loc) e (by simpa using h))
        | file id x c =>
          have ha : t.advance aim.follows here (s :: r :: rs) = .failed .notADirectory := by
            rw [advance, if_neg hs.1, if_neg hs.2.1, if_neg (Nat.not_lt.mpr hs.2.2), he]
            rfl
          rw [walk.eq_def, ha]
        | link target => simpa [Entry.isLink] using hfree _ _ he

/-- A walk that meets a name that is too long fails with that, wherever it stands. -/
lemma walk_nameTooLong {t : FileTree} {aim : Aim} {links : Nat} {here : Location} {s : Text}
    {rest : List Text} (hdot : s ≠ Path.dot) (hup : s ≠ Path.dotDot)
    (hs : longestName < Text.utf8Size s) :
    t.walk aim links here (s :: rest) = .error .nameTooLong := by
  have ha : t.advance aim.follows here (s :: rest) = .failed .nameTooLong := by
    rw [advance, if_neg hdot, if_neg hup, if_pos hs]
  rw [walk.eq_def, ha]

end FileTree

end ResolverMesh
