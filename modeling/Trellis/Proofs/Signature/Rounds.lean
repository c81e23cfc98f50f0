import Mathlib.Data.List.TakeWhile
import Trellis.Proofs.Text.Cutting
import Trellis.Proofs.Text.Words
import Trellis.Signature.TypeName
/-!
# The rounds that read a type

A type is read in rounds. A round peels what stands in front of the text; if a wrapper is left, it is
opened, and if nothing was peeled, the reading is over. Every round but the last leaves a shorter text,
so there are no more of them than the text has characters, whatever the text is.
-/

namespace Trellis.Signature

open Trellis.Text

variable {text inner core other modifier rest : List Char} {rounds others : Nat}

/-! ## Peeling -/

theorem dropLifetime_suffix (text : List Char) : dropLifetime text <:+ text := by
  unfold dropLifetime
  split
  · exact (List.dropWhile_suffix _).trans (List.dropWhile_suffix _)
  · exact List.suffix_rfl

theorem dropReferences_suffix (text : List Char) :
    dropLifetime (trimStart (text.dropWhile (· == '&'))) <:+ text :=
  (dropLifetime_suffix _).trans ((List.dropWhile_suffix _).trans (List.dropWhile_suffix _))

theorem dropModifier_append (modifier rest : List Char) :
    dropModifier (modifier ++ rest) modifier = trimStart rest := by
  rw [dropModifier, isPrefixOf?_append]

theorem dropModifier_eq_self (absent : ∀ rest, text ≠ modifier ++ rest) :
    dropModifier text modifier = text := by
  unfold dropModifier
  split
  · rename_i rest found
    exact absurd (eq_append_of_isPrefixOf? found) (absent rest)
  · rfl

theorem dropModifier_suffix (text modifier : List Char) : dropModifier text modifier <:+ text := by
  unfold dropModifier
  split
  · rename_i rest found
    rw [eq_append_of_isPrefixOf? found]
    exact (List.dropWhile_suffix _).trans (List.suffix_append _ _)
  · exact List.suffix_rfl

/-- Peeling only drops the beginning of a text. -/
theorem peel_suffix (text : List Char) : peel text <:+ text := by
  have dropped : ∀ (modifiers : List String) (rest : List Char),
      modifiers.foldl (fun rest modifier => dropModifier rest modifier.toList) rest <:+ rest := by
    intro modifiers
    induction modifiers with
    | nil => exact fun _ => List.suffix_rfl
    | cons modifier others ih => exact fun rest => (ih _).trans (dropModifier_suffix rest _)
  exact (dropped _ _).trans (dropReferences_suffix text)

theorem peel_eq_self_of_length (unchanged : ¬ (peel text).length < text.length) :
    peel text = text :=
  (peel_suffix text).eq_of_length_le (Nat.le_of_not_lt unchanged)

/-- A reference mark in front does not matter to what a round leaves. -/
theorem peel_ampersand (text : List Char) : peel ('&' :: text) = peel text := rfl

/-! ## Reading -/

theorem reduceType_of_unwrap? (found : unwrap? (peel text) = some inner) :
    reduceType text = reduceType inner := by
  fun_cases reduceType text with
  | case1 opened found' => rw [Option.some.inj (found.symm.trans found')]
  | case2 closed => exact absurd (found.symm.trans closed) (Option.some_ne_none inner)
  | case3 closed => exact absurd (found.symm.trans closed) (Option.some_ne_none inner)

theorem reduceType_eq_self (closed : unwrap? (peel text) = none) (unchanged : peel text = text) :
    reduceType text = text := by
  fun_cases reduceType text with
  | case1 opened found => exact absurd (found.symm.trans closed) (Option.some_ne_none opened)
  | case2 _ shorter => exact absurd shorter (by rw [unchanged]; exact Nat.lt_irrefl _)
  | case3 => rfl

theorem reduceType_of_closed (closed : unwrap? (peel text) = none) :
    reduceType text = reduceType (peel text) := by
  fun_cases reduceType text with
  | case1 opened found => exact absurd (found.symm.trans closed) (Option.some_ne_none opened)
  | case2 => rfl
  | case3 _ unchanged =>
    have same := peel_eq_self_of_length unchanged
    rw [same, reduceType_eq_self closed same]

/-- What is left of a text is decided by what its first round peels it to. -/
theorem reduceType_congr (same : peel text = peel other) : reduceType text = reduceType other := by
  cases opened : unwrap? (peel text) with
  | none =>
    have closed : unwrap? (peel other) = none := by rw [← same, opened]
    rw [reduceType_of_closed opened, reduceType_of_closed closed, same]
  | some inner =>
    have found : unwrap? (peel other) = some inner := by rw [← same, opened]
    rw [reduceType_of_unwrap? opened, reduceType_of_unwrap? found]

/-- The reading of a text, round by round, down to what its name is taken from. -/
inductive Rounds : Nat → List Char → List Char → Prop
  | done {text : List Char} (closed : unwrap? (peel text) = none) (unchanged : peel text = text) :
    Rounds 0 text text
  | peeled {rounds : Nat} {text core : List Char} (closed : unwrap? (peel text) = none)
    (changed : peel text ≠ text) (later : Rounds rounds (peel text) core) :
    Rounds (rounds + 1) text core
  | opened {rounds : Nat} {text inner core : List Char} (found : unwrap? (peel text) = some inner)
    (later : Rounds rounds inner core) : Rounds (rounds + 1) text core

/-- There is nothing to choose in a round. -/
theorem Rounds.unique (first : Rounds rounds text core) (second : Rounds others text other) :
    others = rounds ∧ other = core := by
  induction first generalizing others other with
  | done closed unchanged =>
    cases second with
    | done => exact ⟨rfl, rfl⟩
    | peeled _ changed => exact absurd unchanged changed
    | opened found => exact absurd (found.symm.trans closed) nofun
  | peeled closed changed _ ih =>
    cases second with
    | done _ unchanged => exact absurd unchanged changed
    | peeled _ _ later =>
      obtain ⟨rfl, rfl⟩ := ih later
      exact ⟨rfl, rfl⟩
    | opened found => exact absurd (found.symm.trans closed) nofun
  | opened found _ ih =>
    cases second with
    | done closed => exact absurd (found.symm.trans closed) nofun
    | peeled closed => exact absurd (found.symm.trans closed) nofun
    | opened found' later =>
      cases Option.some.inj (found'.symm.trans found)
      obtain ⟨rfl, rfl⟩ := ih later
      exact ⟨rfl, rfl⟩

/-- Every text is read in at most as many rounds as it has characters. -/
theorem exists_rounds (text : List Char) :
    ∃ rounds, rounds ≤ text.length ∧ Rounds rounds text (reduceType text) := by
  fun_induction reduceType text with
  | case1 text inner found _ ih =>
    obtain ⟨rounds, few, later⟩ := ih
    have shorter := Nat.lt_of_lt_of_le (length_unwrap?_lt found) (length_peel_le text)
    exact ⟨rounds + 1, by omega, .opened found later⟩
  | case2 text closed shorter ih =>
    obtain ⟨rounds, few, later⟩ := ih
    have changed : peel text ≠ text := fun same => absurd shorter (by rw [same]; exact Nat.lt_irrefl _)
    exact ⟨rounds + 1, by omega, .peeled closed changed later⟩
  | case3 text closed unchanged =>
    exact ⟨0, Nat.zero_le _, .done closed (peel_eq_self_of_length unchanged)⟩

end Trellis.Signature
