import Mathlib.Data.List.DropRight
import Trellis.Metadata.Route
/-!
# Joined paths

A path under a base is the stem of the base and the branch that the path adds to it: the stem has no
slash at its end, the branch begins with exactly one or is empty. `joinPathChars_eq` says so for all
texts alike, those that are empty or all slashes included; only where nothing is left at all, the root
stands instead.

Stems and branches are taken at opposite ends of a text, so it does not matter which is taken first
(`stem_branch`). That joining is associative follows from this.
-/

namespace Trellis

namespace Path

variable {c : Char} {rest : List Char}

/-- What is left of a base: the slashes at its end are dropped. -/
def stem (base : List Char) : List Char :=
  base.rdropWhile (· == '/')

/-- What is left of a path: the slashes at its start are dropped. -/
def leaf (path : List Char) : List Char :=
  path.dropWhile (· == '/')

/-- What a path adds to a base: a slash and what is left of the path, or nothing. -/
def branch (path : List Char) : List Char :=
  if leaf path = [] then [] else '/' :: leaf path

/-- The root stands where nothing is left. -/
def orRoot (path : List Char) : List Char :=
  if path = [] then ['/'] else path

theorem joinPathChars_cases (base path : List Char) :
    joinPathChars base path =
      if stem base = [] then '/' :: leaf path
      else if leaf path = [] then stem base
      else stem base ++ '/' :: leaf path := by
  simp only [← List.isEmpty_iff]
  rfl

theorem joinPathChars_eq (base path : List Char) :
    joinPathChars base path = orRoot (stem base ++ branch path) := by
  rw [joinPathChars_cases]
  by_cases bare : stem base = [] <;> by_cases empty : leaf path = [] <;>
    simp [orRoot, branch, bare, empty]

/-! ## Stems -/

theorem stem_append (front back : List Char) :
    stem (front ++ back) = if stem back = [] then stem front else front ++ stem back := by
  unfold stem List.rdropWhile
  rw [List.reverse_append, List.dropWhile_append]
  by_cases slashes : back.reverse.dropWhile (· == '/') = [] <;> simp [slashes]

theorem stem_stem (base : List Char) : stem (stem base) = stem base :=
  List.rdropWhile_idempotent _ _

/-- What is left of a base is not shortened by what follows. -/
theorem stem_stem_append (base path : List Char) :
    stem (stem base ++ path) = stem base ++ stem path := by
  rw [stem_append]
  split
  · rename_i nothing
    rw [stem_stem, nothing, List.append_nil]
  · rfl

theorem stem_slash_cons (rest : List Char) :
    stem ('/' :: rest) = if stem rest = [] then [] else '/' :: stem rest :=
  stem_append ['/'] rest

theorem stem_cons_of_ne (other : c ≠ '/') : stem (c :: rest) = c :: stem rest := by
  have alone : stem [c] = [c] := by simp [stem, List.rdropWhile_singleton, other]
  rw [← List.singleton_append, stem_append, alone]
  split
  · rename_i nothing
    rw [nothing]
  · rfl

theorem stem_orRoot (path : List Char) : stem (orRoot path) = stem path := by
  by_cases empty : path = []
  · subst empty
    rfl
  · rw [orRoot, if_neg empty]

/-! ## Branches -/

theorem branch_of_nothing {path : List Char} (nothing : leaf path = []) : branch path = [] :=
  if_pos nothing

theorem branch_of_something {path : List Char} (something : leaf path ≠ []) :
    branch path = '/' :: leaf path :=
  if_neg something

theorem branch_slash_cons (rest : List Char) : branch ('/' :: rest) = branch rest := rfl

theorem branch_cons_of_ne (other : c ≠ '/') : branch (c :: rest) = '/' :: c :: rest := by
  have whole : leaf (c :: rest) = c :: rest := by simp [leaf, other]
  have something : leaf (c :: rest) ≠ [] := by simp [whole]
  rw [branch_of_something something, whole]

theorem branch_append (front back : List Char) :
    branch (front ++ back) = if leaf front = [] then branch back else branch front ++ back := by
  by_cases slashes : leaf front = []
  · have same : leaf (front ++ back) = leaf back := by
      rw [leaf] at slashes ⊢
      simp [List.dropWhile_append, slashes, leaf]
    rw [if_pos slashes, branch, branch, same]
  · have longer : leaf (front ++ back) = leaf front ++ back := by
      rw [leaf] at slashes ⊢
      simp [List.dropWhile_append, slashes, leaf]
    have more : leaf (front ++ back) ≠ [] := by simp [longer, slashes]
    rw [if_neg slashes, branch_of_something more, branch_of_something slashes, longer,
      List.cons_append]

theorem branch_branch (path : List Char) : branch (branch path) = branch path := by
  by_cases nothing : leaf path = []
  · rw [branch_of_nothing nothing]
    rfl
  · have idempotent : leaf (leaf path) = leaf path := List.dropWhile_idempotent _ _
    have something : leaf (leaf path) ≠ [] := by rwa [idempotent]
    rw [branch_of_something nothing, branch_slash_cons, branch_of_something something, idempotent]

/-- Branches that follow each other are one branch. -/
theorem branch_append_branch (front path : List Char) :
    branch (front ++ branch path) = branch front ++ branch path := by
  rw [branch_append]
  split
  · rename_i nothing
    rw [branch_branch, branch_of_nothing nothing, List.nil_append]
  · rfl

theorem branch_orRoot (path : List Char) : branch (orRoot path) = branch path := by
  by_cases empty : path = []
  · subst empty
    rfl
  · rw [orRoot, if_neg empty]

/-- It does not matter at which end slashes are dropped first. -/
theorem stem_branch (path : List Char) : stem (branch path) = branch (stem path) := by
  induction path with
  | nil => rfl
  | cons c rest ih =>
    by_cases slash : c = '/'
    · subst slash
      rw [branch_slash_cons, ih, stem_slash_cons]
      split
      · rename_i nothing
        rw [nothing]
      · rw [branch_slash_cons]
    · rw [branch_cons_of_ne slash, stem_slash_cons, stem_cons_of_ne slash,
        if_neg (List.cons_ne_nil _ _), branch_cons_of_ne slash]

/-! ## Joining -/

theorem joinPathChars_assoc (first second third : List Char) :
    joinPathChars (joinPathChars first second) third =
      joinPathChars first (joinPathChars second third) := by
  have left : stem (joinPathChars first second) = stem first ++ stem (branch second) := by
    rw [joinPathChars_eq, stem_orRoot, stem_stem_append]
  have right : branch (joinPathChars second third) = branch (stem second) ++ branch third := by
    rw [joinPathChars_eq, branch_orRoot, branch_append_branch]
  calc joinPathChars (joinPathChars first second) third
      = orRoot (stem first ++ stem (branch second) ++ branch third) := by
        rw [joinPathChars_eq, left]
    _ = orRoot (stem first ++ (branch (stem second) ++ branch third)) := by
        rw [stem_branch, List.append_assoc]
    _ = joinPathChars first (joinPathChars second third) := by
        rw [joinPathChars_eq first, right]

theorem joinPathChars_ne_nil (base path : List Char) : joinPathChars base path ≠ [] := by
  rw [joinPathChars_eq, orRoot]
  split
  · exact List.cons_ne_nil _ _
  · assumption

theorem head?_joinPathChars {base : List Char} (path : List Char)
    (rooted : base = [] ∨ base.head? = some '/') :
    (joinPathChars base path).head? = some '/' := by
  rw [joinPathChars_eq]
  cases left : stem base with
  | nil =>
    -- Nothing is left of the base: the branch begins with a slash, or the root stands alone.
    rw [List.nil_append, orRoot, branch]
    split <;> simp_all
  | cons c others =>
    -- What is left of the base begins like the base.
    have begins : stem base <+: base := List.rdropWhile_prefix _ _
    rw [left] at begins
    obtain ⟨dropped, rfl⟩ := begins
    simpa [orRoot] using rooted

/-- A text of slashes. -/
def slashes (count : Nat) : List Char :=
  List.replicate count '/'

theorem stem_append_slashes (base : List Char) (count : Nat) :
    stem (base ++ slashes count) = stem base := by
  have nothing : stem (slashes count) = [] := by
    refine List.rdropWhile_eq_nil_iff.mpr fun c member => ?_
    rw [List.eq_of_mem_replicate member]
    rfl
  rw [stem_append, if_pos nothing]

theorem branch_slashes_append (path : List Char) (count : Nat) :
    branch (slashes count ++ path) = branch path := by
  have nothing : leaf (slashes count) = [] := by simp [leaf, slashes]
  rw [branch_append, if_pos nothing]

/-- Slashes that a base ends with and a path begins with do not count. -/
theorem joinPathChars_slashes (base path : List Char) (ending starting : Nat) :
    joinPathChars (base ++ slashes ending) (slashes starting ++ path) = joinPathChars base path := by
  rw [joinPathChars_eq, joinPathChars_eq, stem_append_slashes, branch_slashes_append]

/-- What a text is made of, if slashes count for nothing at its end. -/
theorem exists_stem_append (base : List Char) : ∃ count, base = stem base ++ slashes count := by
  refine ⟨(base.rtakeWhile (· == '/')).length, ?_⟩
  have all : base.rtakeWhile (· == '/') = slashes (base.rtakeWhile (· == '/')).length :=
    List.eq_replicate_length.mpr fun c member => by simpa using List.mem_rtakeWhile_imp member
  rw [← all]
  exact List.rdropWhile_append_rtakeWhile.symm

/-- What a text is made of, if slashes count for nothing at its start. -/
theorem exists_append_leaf (path : List Char) : ∃ count, path = slashes count ++ leaf path := by
  refine ⟨(path.takeWhile (· == '/')).length, ?_⟩
  have all : path.takeWhile (· == '/') = slashes (path.takeWhile (· == '/')).length :=
    List.eq_replicate_length.mpr fun c member => by simpa using List.mem_takeWhile_imp member
  rw [← all]
  exact List.takeWhile_append_dropWhile.symm

theorem head?_leaf (path : List Char) : (leaf path).head? ≠ some '/' := by
  intro starts
  have first := List.head?_dropWhile_not (· == '/') path
  rw [show path.dropWhile (· == '/') = leaf path from rfl, starts] at first
  cases first

theorem getLast?_stem (base : List Char) : (stem base).getLast? ≠ some '/' := by
  have reversed : (stem base).getLast? = (leaf base.reverse).head? := List.getLast?_reverse
  rw [reversed]
  exact head?_leaf base.reverse

end Path

open Trellis.Path in
/-- The path of a route under a base is a normal form. Slashes that the base ends with and the path
begins with do not count, and it is never empty. What is left of both without such slashes is joined by
exactly one of them; if nothing is left of the base, the path is rooted, and if nothing is left of the
path, the base stands alone. The path of a route is rooted if the base is, or if there is no base.
Joining is associative. -/
theorem RouteMetadata.fullPath_laws (route : RouteMetadata) :
    let full (base path : String) : String := { route with path }.fullPath base
    let slashes (count : Nat) : String := String.ofList (slashes count)
    (∀ base path ending starting,
      full (base ++ slashes ending) (slashes starting ++ path) = full base path) ∧
    (∀ base path, full base path ≠ "") ∧
    (∀ base path, ∃ stem leaf ending starting,
      base = stem ++ slashes ending ∧ stem.toList.getLast? ≠ some '/' ∧
      path = slashes starting ++ leaf ∧ leaf.toList.head? ≠ some '/' ∧
      full base path =
        if stem = "" then "/" ++ leaf else if leaf = "" then stem else stem ++ "/" ++ leaf) ∧
    (∀ base path, base = "" ∨ base.toList.head? = some '/' →
      (full base path).toList.head? = some '/') ∧
    ∀ first second third, full (full first second) third = full first (full second third) := by
  intro full slashes
  have chars (base path : String) :
      (full base path).toList = joinPathChars base.toList path.toList := String.toList_ofList
  have slashed (count : Nat) : (slashes count).toList = Path.slashes count := String.toList_ofList
  refine ⟨fun base path ending starting => ?_, fun base path empty => ?_, fun base path => ?_,
    fun base path rooted => ?_, fun first second third => ?_⟩
  · rw [← String.toList_inj, chars, chars, String.toList_append, String.toList_append, slashed,
      slashed, joinPathChars_slashes]
  · refine joinPathChars_ne_nil base.toList path.toList ?_
    rw [← chars, empty]
    rfl
  · obtain ⟨ending, left⟩ := exists_stem_append base.toList
    obtain ⟨starting, right⟩ := exists_append_leaf path.toList
    refine ⟨.ofList (stem base.toList), .ofList (leaf path.toList), ending, starting, ?_, ?_, ?_, ?_,
      ?_⟩
    · rw [← String.ofList_append, ← left, String.ofList_toList]
    · rw [String.toList_ofList]
      exact getLast?_stem base.toList
    · rw [← String.ofList_append, ← right, String.ofList_toList]
    · rw [String.toList_ofList]
      exact head?_leaf path.toList
    · have empty (text : List Char) : String.ofList text = "" ↔ text = [] := by
        rw [← String.toList_inj, String.toList_ofList]
        rfl
      simp only [empty]
      rw [← String.toList_inj, chars, joinPathChars_cases]
      split_ifs <;> simp
  · rw [chars]
    refine head?_joinPathChars path.toList (rooted.imp_left fun empty => ?_)
    rw [empty]
    rfl
  · rw [← String.toList_inj, chars, chars, chars, chars, joinPathChars_assoc]

/-- Slashes inside a path stay, and so do those at its end. -/
example : joinPath "/api//" "//users//all/" = "/api/users//all/" := by decide

end Trellis
