import ResolverMesh.Text.Pieces

set_option autoImplicit false
set_option relaxedAutoImplicit false

/-!
# Paths

A path is kept as the text it was given as: joining a name adds at most one slash and nothing is
ever normalised, so a path shows up in messages and generated files exactly as it was put
together. What a path means is read off its steps, the non-empty pieces between slashes.

A path that is no text, since its bytes are not UTF-8, is none of these paths. It could not be shown
without loss, so a configuration that names it would lead elsewhere.

## Main definitions

* `ResolverMesh.Path` — a path as text.
* `ResolverMesh.Path.join` — a path followed by a name.
* `ResolverMesh.Path.steps` — the steps that a walk along the path takes.
* `ResolverMesh.Path.fileName?` — the name of what the path leads to.
* `ResolverMesh.Path.ancestors` — the paths that lead to it from above.
* `ResolverMesh.Path.IsPlain` — a name that can stand between two slashes.

## Main results

* `ResolverMesh.Path.steps_join` — joining a plain name adds one step.
* `ResolverMesh.Path.fileName?_join` — and that name is the file name.
-/

namespace ResolverMesh

open Text (pieces pieces_append pieces_of_not_mem)

/-- A path, as the text it was given as, which is also how it is shown. -/
structure Path where
  /-- The text. -/
  text : Text
  deriving DecidableEq, Repr

namespace Path

/-- The path starts at the root of the file tree. -/
def isAbsolute (p : Path) : Bool :=
  p.text.head? = some '/'

/-- The path ends in a slash, so it can only lead to a directory. -/
def endsInSlash (p : Path) : Bool :=
  p.text.getLast? = some '/'

/-- A text holds a NUL character, which no system call accepts. -/
def hasNul (t : Text) : Bool :=
  t.any (fun c => c.toNat = 0)

/-- The path followed by a name. One slash goes between them unless the path is empty or ends in
one; a name that is itself absolute takes the place of the path. -/
def join (p : Path) (name : Text) : Path :=
  if name.head? = some '/' then ⟨name⟩
  else if p.text = [] ∨ p.endsInSlash = true then ⟨p.text ++ name⟩
  else ⟨p.text ++ '/' :: name⟩

/-- The non-empty pieces of a text between slashes. -/
def stepsOf (t : Text) : List Text :=
  (pieces (· == '/') t).filter (fun w => !w.isEmpty)

/-- The steps of a walk along the path. -/
def steps (p : Path) : List Text :=
  stepsOf p.text

/-- The step that stays in place. -/
def dot : Text := ['.']

/-- The step that goes up. -/
def dotDot : Text := ['.', '.']

/-- The steps that look up what is there already: a slash at the end asks for a directory, as a
last step to the place itself would. -/
def lookupSteps (p : Path) : List Text :=
  if p.endsInSlash then p.steps ++ [dot] else p.steps

/-- The steps that lead to the directory in which the path has its last name. -/
def parentSteps (p : Path) : List Text :=
  p.steps.dropLast ++ [dot]

/-- The steps without those that stay in place, except a first one of a relative path. -/
def components (p : Path) : List Text :=
  match p.steps with
  | [] => []
  | s :: rest =>
    let rest := rest.filter (· ≠ dot)
    if s = dot ∧ p.isAbsolute = true then rest else s :: rest

/-- The number of components, the root counted as one. -/
def size (p : Path) : Nat :=
  (if p.isAbsolute then 1 else 0) + p.components.length

/-- The name of what the path leads to; none for the root, for an empty path and for one that
ends by going up or staying in place. -/
def fileName? (p : Path) : Option Text :=
  (p.steps.filter (· ≠ dot)).getLast?.filter (· ≠ dotDot)

/-- The path that takes the given steps, from the root or from the current directory. -/
def ofComponents (absolute : Bool) (names : List Text) : Path :=
  ⟨(if absolute then ['/'] else []) ++ Text.glue '/' names⟩

/-- The beginnings of a list other than the list itself, shortest first. -/
def beginnings {α : Type} : List α → List (List α)
  | [] => []
  | a :: as => [] :: (beginnings as).map (a :: ·)

/-- The paths that lead to the path from above, nearest first. The last one is the root or the
empty path. -/
def ancestors (p : Path) : List Path :=
  (beginnings p.components).reverse.map (ofComponents p.isAbsolute)

/-! ## Plain names -/

/-- A name that can stand between two slashes: not empty and without a slash. -/
def IsPlain (name : Text) : Prop :=
  name ≠ [] ∧ '/' ∉ name

instance (name : Text) : Decidable (IsPlain name) :=
  inferInstanceAs (Decidable (_ ∧ _))

/-- A plain name does not begin with a slash. -/
theorem IsPlain.head?_ne {name : Text} (h : IsPlain name) : name.head? ≠ some '/' :=
  fun e => h.2 (List.mem_of_mem_head? e)

/-- The empty text has no steps. -/
theorem stepsOf_nil : stepsOf [] = [] := rfl

/-- A plain name is one step. -/
theorem stepsOf_plain {name : Text} (h : IsPlain name) : stepsOf name = [name] := by
  simp [stepsOf, pieces_of_not_mem h.2, h.1]

/-- A slash parts the steps before it from those behind it. -/
theorem stepsOf_append_slash (xs ys : Text) :
    stepsOf (xs ++ '/' :: ys) = stepsOf xs ++ stepsOf ys := by
  rw [stepsOf, pieces_append (by simp), List.filter_append]
  rfl

/-- So does one at the end of the first text. -/
theorem stepsOf_append_of_endsInSlash {xs ys : Text} (h : xs.getLast? = some '/') :
    stepsOf (xs ++ ys) = stepsOf xs ++ stepsOf ys := by
  obtain ⟨zs, rfl⟩ := List.getLast?_eq_some_iff.mp h
  rw [List.append_assoc, List.singleton_append, stepsOf_append_slash, stepsOf_append_slash,
    stepsOf_nil, List.append_nil]

/-- Joining a plain name adds one step.

**Proof sketch.** By whether a slash is put between: if not, the path is empty or ends in one. -/
theorem steps_join (p : Path) {name : Text} (h : IsPlain name) :
    (p.join name).steps = p.steps ++ [name] := by
  unfold join steps
  rw [if_neg h.head?_ne]
  split
  · next hp =>
    rcases hp with hp | hp
    · rw [hp, List.nil_append, stepsOf_nil, List.nil_append, stepsOf_plain h]
    · rw [stepsOf_append_of_endsInSlash (by simpa [endsInSlash] using hp), stepsOf_plain h]
  · rw [stepsOf_append_slash, stepsOf_plain h]

/-- A path with a name joined to it is not empty. -/
theorem text_join_ne_nil (p : Path) {name : Text} (h : IsPlain name) : (p.join name).text ≠ [] := by
  intro e
  have hs := steps_join p h
  rw [steps, e, stepsOf_nil] at hs
  simp at hs

/-- Joining a plain name leaves no slash at the end.

**Proof sketch.** The joined text ends in the name, whatever stands before it, and a plain name
holds no slash. -/
theorem endsInSlash_join (p : Path) {name : Text} (h : IsPlain name) :
    (p.join name).endsInSlash = false := by
  have key : ∀ xs : Text, (xs ++ name).getLast? ≠ some '/' := by
    intro xs e
    have hlast : name.getLast? = some (name.getLast h.1) := List.getLast?_eq_some_getLast h.1
    rw [List.getLast?_append, hlast, Option.some_or, ← hlast] at e
    exact h.2 (List.mem_of_getLast? e)
  unfold join endsInSlash
  rw [if_neg h.head?_ne]
  split
  · simpa using key p.text
  · have := key (p.text ++ ['/'])
    simpa using this

/-- The file name of a joined path is the name. -/
theorem fileName?_join (p : Path) {name : Text} (h : IsPlain name) (hdot : name ≠ dot)
    (hup : name ≠ dotDot) : (p.join name).fileName? = some name := by
  rw [fileName?, steps_join p h]
  simp [hdot, hup]

end Path

end ResolverMesh
