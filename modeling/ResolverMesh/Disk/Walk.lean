import ResolverMesh.Disk.FileTree
import ResolverMesh.Disk.IoError

set_option autoImplicit false
set_option relaxedAutoImplicit false

/-!
# Walks along a path

A walk takes the steps of a path one by one, from a directory: every step but the last has to
lead to a directory, and a symbolic link on the way is replaced by the path it stands for. At
most forty links are followed. Where only the last name is missing, the walk still tells where it
would go. A walk to a file that is to be created refuses a link at its end whose path ends in a
slash, because that names a directory.

## Main definitions

* `ResolverMesh.Aim` — what a walk is for, which decides on a link at its end.
* `ResolverMesh.Spot` — where a walk ends: at an entry, or at a free name in a directory.
* `ResolverMesh.FileTree.advance` — a walk up to the first link to be followed.
* `ResolverMesh.FileTree.walk` — a whole walk.

## Main results

* `ResolverMesh.FileTree.advance_directory`, `ResolverMesh.FileTree.advance_last`,
  `ResolverMesh.FileTree.advance_vacant` — one step by a plain name.
* `ResolverMesh.FileTree.walk_of_arrived`, `ResolverMesh.FileTree.walk_of_vacant` — a walk without
  links is its first stretch.
* `ResolverMesh.FileTree.walk_append` — a walk through a directory goes on from there.
-/

namespace ResolverMesh

/-- What a walk is for. -/
inductive Aim
  /-- What is there: a link at the end is followed. -/
  | target
  /-- The place itself: a link at the end is not followed. -/
  | place
  /-- A file, created if it is missing: a link at the end is followed unless its path ends in a
  slash, which is refused. -/
  | file
  deriving DecidableEq, Repr

/-- A link at the end is followed. -/
def Aim.follows : Aim → Bool
  | .target => true
  | .place => false
  | .file => true

/-- Where a walk ends. -/
inductive Spot
  /-- At an entry. -/
  | entry (loc : Location) (e : Entry)
  /-- At a name that is free, in a directory that is there. -/
  | vacant (parent : Location) (name : Text)
  deriving DecidableEq, Repr

/-- Where a walk stands when it has to stop or to follow a link. -/
inductive Stretch
  /-- All steps are taken. -/
  | arrived (loc : Location)
  /-- The last name is free. -/
  | vacant (parent : Location) (name : Text)
  /-- A link in the directory `base` is to be followed before the steps `rest`. -/
  | link (base : Location) (target : Path) (rest : List Text)
  /-- The walk cannot go on. -/
  | failed (e : IoError)
  deriving DecidableEq, Repr

namespace FileTree

/-- The greatest length of a name in bytes. -/
def longestName : Nat := 255

/-- The greatest number of links that one walk follows. -/
def mostLinks : Nat := 40

/-- The steps of a walk from a directory, up to the first link to be followed. A link at the very
end is followed only if `follow` is set. -/
def advance (t : FileTree) (follow : Bool) (here : Location) : List Text → Stretch
  | [] => .arrived here
  | s :: rest =>
    if s = Path.dot then t.advance follow here rest
    else if s = Path.dotDot then t.advance follow here.dropLast rest
    else if longestName < Text.utf8Size s then .failed .nameTooLong
    else
      match t.get? (here ++ [.text s]) with
      | none => if rest.isEmpty then .vacant here s else .failed .notFound
      | some (.directory _ _) => t.advance follow (here ++ [.text s]) rest
      | some (.file _ _ _) =>
        if rest.isEmpty then .arrived (here ++ [.text s]) else .failed .notADirectory
      | some (.link target) =>
        if rest.isEmpty && !follow then .arrived (here ++ [.text s]) else .link here target rest

/-- A walk from a directory that follows at most `links` links. -/
def walk (t : FileTree) (aim : Aim) (links : Nat) (here : Location) (steps : List Text) :
    Except IoError Spot :=
  match t.advance aim.follows here steps with
  | .arrived loc =>
    match t.get? loc with
    | some e => .ok (.entry loc e)
    | none => .error .notFound
  | .vacant parent name => .ok (.vacant parent name)
  | .failed e => .error e
  | .link base target rest =>
    match links with
    | 0 => .error .tooManyLinks
    | links + 1 =>
      let start := if target.isAbsolute then [] else base
      if aim = .file ∧ rest = [] ∧ target.endsInSlash = true then
        match t.walk .target links start target.parentSteps with
        | .error e => .error e
        | .ok _ => .error .isADirectory
      else t.walk aim links start (target.lookupSteps ++ rest)

/-! ## Steps without links -/

/-- A name that a step can look up: it neither stays in place nor goes up, and is not too long. -/
def IsStep (s : Text) : Prop :=
  s ≠ Path.dot ∧ s ≠ Path.dotDot ∧ Text.utf8Size s ≤ longestName

instance (s : Text) : Decidable (IsStep s) :=
  inferInstanceAs (Decidable (_ ∧ _ ∧ _))

/-- A step to a directory. -/
theorem advance_directory {t : FileTree} {follow : Bool} {here : Location} {s : Text}
    {rest : List Text} {id mode : Nat} (hs : IsStep s)
    (he : t.get? (here ++ [.text s]) = some (.directory id mode)) :
    t.advance follow here (s :: rest) = t.advance follow (here ++ [.text s]) rest := by
  rw [advance, if_neg hs.1, if_neg hs.2.1, if_neg (Nat.not_lt.mpr hs.2.2), he]

/-- A last step to something that is not a link. -/
theorem advance_last {t : FileTree} {follow : Bool} {here : Location} {s : Text} {e : Entry}
    (hs : IsStep s) (he : t.get? (here ++ [.text s]) = some e) (hlink : e.isLink = false) :
    t.advance follow here [s] = .arrived (here ++ [.text s]) := by
  rw [advance, if_neg hs.1, if_neg hs.2.1, if_neg (Nat.not_lt.mpr hs.2.2), he]
  cases e with
  | file _ _ _ => rfl
  | directory _ _ => rfl
  | link target => simp [Entry.isLink] at hlink

/-- A last step to a free name. -/
theorem advance_vacant {t : FileTree} {follow : Bool} {here : Location} {s : Text}
    (hs : IsStep s) (he : t.get? (here ++ [.text s]) = none) :
    t.advance follow here [s] = .vacant here s := by
  rw [advance, if_neg hs.1, if_neg hs.2.1, if_neg (Nat.not_lt.mpr hs.2.2), he]
  rfl

/-- A walk whose first stretch arrives ends there. -/
theorem walk_of_arrived {t : FileTree} {aim : Aim} {links : Nat} {here loc : Location}
    {steps : List Text} {e : Entry} (h : t.advance aim.follows here steps = .arrived loc)
    (he : t.get? loc = some e) : t.walk aim links here steps = .ok (.entry loc e) := by
  unfold walk
  rw [h]
  simp [he]

/-- A walk whose first stretch ends at a free name ends there. -/
theorem walk_of_vacant {t : FileTree} {aim : Aim} {links : Nat} {here parent : Location}
    {steps : List Text} {name : Text}
    (h : t.advance aim.follows here steps = .vacant parent name) :
    t.walk aim links here steps = .ok (.vacant parent name) := by
  unfold walk
  rw [h]

/-! ## Walks through a directory -/

/-- A first stretch that ends at a directory goes on with further steps.

**Proof sketch.** By the steps. Each but the last passes a directory, and the last one ends at it,
so none is the final step any more and links are followed as before. -/
theorem advance_append_of_arrived {t : FileTree} {follow : Bool} {here loc : Location}
    {steps rest : List Text} {id mode : Nat} (h : t.advance true here steps = .arrived loc)
    (hloc : t.get? loc = some (.directory id mode)) :
    t.advance follow here (steps ++ rest) = t.advance follow loc rest := by
  induction steps generalizing here with
  | nil =>
    cases h
    rfl
  | cons s ss ih =>
    rw [advance] at h
    rw [List.cons_append, advance]
    split
    · next hs => exact ih (by simpa [hs] using h)
    · next hs =>
      rw [if_neg hs] at h
      split
      · next hu => exact ih (by simpa [hu] using h)
      · next hu =>
        rw [if_neg hu] at h
        split at h
        · cases h
        · next hl =>
          rw [if_neg hl]
          cases he : t.get? (here ++ [.text s]) with
          | none =>
            rw [he] at h
            dsimp only at h
            split at h <;> cases h
          | some e =>
            rw [he] at h
            cases e with
            | directory id mode => exact ih h
            | file fid x c =>
              dsimp only at h
              split at h
              · cases h
                rw [he] at hloc
                cases hloc
              · cases h
            | link target => simp at h

/-- A first stretch that ends before a link ends there with further steps too.

**Proof sketch.** By the steps. The link on the way is met at the same step, with the further steps
behind it. -/
theorem advance_append_of_link {t : FileTree} {follow : Bool} {here base : Location}
    {steps rest after : List Text} {target : Path} (hrest : rest ≠ [])
    (h : t.advance true here steps = .link base target after) :
    t.advance follow here (steps ++ rest) = .link base target (after ++ rest) := by
  induction steps generalizing here with
  | nil => cases h
  | cons s ss ih =>
    rw [advance] at h
    rw [List.cons_append, advance]
    split
    · next hs => exact ih (by simpa [hs] using h)
    · next hs =>
      rw [if_neg hs] at h
      split
      · next hu => exact ih (by simpa [hu] using h)
      · next hu =>
        rw [if_neg hu] at h
        split at h
        · cases h
        · next hl =>
          rw [if_neg hl]
          cases he : t.get? (here ++ [.text s]) with
          | none =>
            rw [he] at h
            dsimp only at h
            split at h <;> cases h
          | some e =>
            rw [he] at h
            cases e with
            | directory id mode => exact ih h
            | file fid x c =>
              dsimp only at h
              split at h <;> cases h
            | link t' =>
              simp only [Bool.not_true, Bool.and_false, Bool.false_eq_true, if_false] at h
              cases h
              simp [hrest]

/-- **A walk through a directory goes on from there.** The steps after it are walked with the
links that are left.

**Proof sketch.** By the number of links left. If the first stretch arrives, the rest starts from
there with all of them. If it ends before a link, the rest goes behind the target, with one link
less. -/
theorem walk_append {t : FileTree} {aim : Aim} {links : Nat} {here loc : Location}
    {steps rest : List Text} {id mode : Nat} (hrest : rest ≠ [])
    (h : t.walk .target links here steps = .ok (.entry loc (.directory id mode))) :
    ∃ left ≤ links, t.walk aim links here (steps ++ rest) = t.walk aim left loc rest := by
  induction links generalizing here steps with
  | zero =>
    unfold walk at h
    cases ha : t.advance Aim.target.follows here steps with
    | arrived l =>
      rw [ha] at h
      dsimp only at h
      split at h
      · next e he =>
        cases h
        refine ⟨0, Nat.le_refl _, ?_⟩
        rw [walk.eq_def, advance_append_of_arrived ha he]
        exact (walk.eq_def t aim 0 loc rest).symm
      · cases h
    | vacant p n => simp [ha] at h
    | failed e => simp [ha] at h
    | link b g a => simp [ha] at h
  | succ links ih =>
    unfold walk at h
    cases ha : t.advance Aim.target.follows here steps with
    | arrived l =>
      rw [ha] at h
      dsimp only at h
      split at h
      · next e he =>
        cases h
        refine ⟨links + 1, Nat.le_refl _, ?_⟩
        rw [walk.eq_def, advance_append_of_arrived ha he]
        exact (walk.eq_def t aim (links + 1) loc rest).symm
      · cases h
    | vacant p n => simp [ha] at h
    | failed e => simp [ha] at h
    | link b g a =>
      rw [ha] at h
      dsimp only at h
      rw [if_neg (by simp)] at h
      obtain ⟨left, hle, hw⟩ := ih h
      refine ⟨left, Nat.le_succ_of_le hle, ?_⟩
      rw [walk.eq_def, advance_append_of_link hrest ha]
      dsimp only
      rw [if_neg (by simp [hrest]), ← List.append_assoc]
      exact hw

end FileTree

end ResolverMesh
