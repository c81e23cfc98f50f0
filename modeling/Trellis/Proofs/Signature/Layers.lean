import Trellis.Proofs.Signature.TypeName
/-!
# Layers around a type

A wrapper around a text and a reference mark in front of it do not matter to the name that is read from
it, whatever the text is: the first round takes the layer off and goes on with the text itself.
-/

namespace Trellis.Signature

open Trellis.Text

variable {c : Char} {modules : List Word} {gap : Blanks} {wrapper : Wrapper} {text : List Char}

/-! ## Wrappers -/

/-- A text in the brackets of a wrapper. Blanks may stand between the modules and the wrapper. -/
def layerChars (modules : List Word) (gap : Blanks) (wrapper : Wrapper) (text : List Char) :
    List Char :=
  modulesChars modules ++ gap.chars ++ wrapper.word.chars ++ '<' :: (text ++ ['>'])

theorem modulesChars_notMem (outside : isIdentifierChar c = false) (other : c ≠ ':') :
    c ∉ modulesChars modules := by
  intro member
  have inside : c ∈ pathChars modules Wrapper.arc.word := List.mem_append_left _ member
  exact pathChars_notMem outside other inside

theorem unwrap?_layerChars (modules : List Word) (gap : Blanks) (wrapper : Wrapper)
    (text : List Char) : unwrap? (layerChars modules gap wrapper text) = some (trim text) := by
  have plain : '<' ∉ modulesChars modules ++ gap.chars ++ wrapper.word.chars := by
    simp only [List.mem_append, not_or]
    exact ⟨⟨modulesChars_notMem (by decide) (by decide), gap.notMem (by decide)⟩,
      wrapper.word.notMem (by decide)⟩
  have colon : ':' ∉ gap.chars ++ wrapper.word.chars := by
    rw [List.mem_append, not_or]
    exact ⟨gap.notMem (by decide), wrapper.word.notMem (by decide)⟩
  have segment : trim (lastSegment (modulesChars modules ++ gap.chars ++ wrapper.word.chars)) =
      wrapper.word.chars := by
    rw [List.append_assoc, lastSegment_modulesChars modules colon, trim_append_of_blank,
      wrapper.word.tight.trim]
  exact unwrap?_of_segment plain segment text

/-- A layer starts with a word that ends at a colon or at the bracket. -/
theorem exists_word_of_layer (start : modules = [] → gap.chars = []) (wrapper : Wrapper)
    (text : List Char) :
    ∃ (word : Word) (rest : List Char),
      layerChars modules gap wrapper text = word.chars ++ (rest ++ ['>']) ∧
        ∀ c ∈ (rest ++ ['>']).head?, c = ':' ∨ c = '<' := by
  cases modules with
  | nil =>
    refine ⟨wrapper.word, '<' :: text, ?_, by simp⟩
    simp [layerChars, modulesChars, start rfl]
  | cons module others =>
    let inside := modulesChars others ++ gap.chars ++ wrapper.word.chars ++ '<' :: text
    refine ⟨module, ':' :: ':' :: inside, ?_, by simp⟩
    simp [layerChars, modulesChars, inside]

theorem trim_layerChars (start : modules = [] → gap.chars = []) :
    trim (layerChars modules gap wrapper text) = layerChars modules gap wrapper text := by
  obtain ⟨word, rest, shape, -⟩ := exists_word_of_layer start wrapper text
  have closing : Tight ['>'] := tight_of_forall (by simp; decide)
  have tight : Tight (layerChars modules gap wrapper text) := by
    rw [shape, ← List.append_assoc]
    refine closing.append (fun c first => ?_) (List.cons_ne_nil _ _)
    exact isBlank_of_isIdentifierChar (word.identifier_of_head c first)
  exact tight.trim

/-- A layer is not peeled: no round ends before the wrapper is opened. -/
theorem reduceType_layerChars (start : modules = [] → gap.chars = []) :
    reduceType (layerChars modules gap wrapper text) = reduceType (trim text) := by
  obtain ⟨word, rest, shape, mark⟩ := exists_word_of_layer start wrapper text
  refine reduceType_of_unwrap? ?_
  have unpeeled : peel (layerChars modules gap wrapper text) = layerChars modules gap wrapper text := by
    rw [shape]
    refine peel_word word fun c first => ?_
    rcases mark c first with rfl | rfl <;> decide
  rw [unpeeled, unwrap?_layerChars]

theorem bareTypeChars_layerChars (modules : List Word) (gap : Blanks) (wrapper : Wrapper)
    (text : List Char) :
    bareTypeChars (layerChars modules gap wrapper text) = bareTypeChars text := by
  unfold bareTypeChars
  cases modules with
  | nil =>
    -- The blanks are trimmed with the text; the wrapper is what it starts with then.
    have blanks : layerChars [] gap wrapper text =
        gap.chars ++ layerChars [] ⟨[], rfl⟩ wrapper text := by
      simp [layerChars, modulesChars]
    rw [blanks, trim_append_of_blank, trim_layerChars fun _ => rfl, reduceType_layerChars fun _ => rfl]
  | cons module others =>
    have start : module :: others = [] → gap.chars = [] := by simp
    rw [trim_layerChars start, reduceType_layerChars start]

/-! ## References -/

theorem bareTypeChars_ampersand (solid : ∀ c ∈ text.head?, isBlank c = false) :
    bareTypeChars ('&' :: text) = bareTypeChars text := by
  have trimmed : trim ('&' :: text) = '&' :: trim text := by
    show trimEnd (trimStart ('&' :: text)) = '&' :: trimEnd (trimStart text)
    rw [trimStart_cons (by decide), trimEnd_cons (by decide), trimStart_eq_self solid]
  rw [bareTypeChars, trimmed, reduceType_congr (peel_ampersand (trim text)), bareTypeChars]

/-! ## The name read from a type -/

/-- Every text is read, in a number of rounds bounded by its length and with a single outcome. The name
is that of the text in a wrapper, whichever wrapper and modules these are, and that of a text behind a
reference mark unless the text starts with a blank. So whatever layers spell a type around a path, the
name is the one the path ends in. -/
theorem bareTypeName_of_layers :
    (∀ text : List Char, ∃ rounds core, rounds ≤ text.length ∧ Rounds rounds (trim text) core ∧
      (∀ others other, Rounds others (trim text) other → others = rounds ∧ other = core) ∧
      bareTypeName (String.ofList text) = String.ofList (pathName core)) ∧
    (∀ (modules : List Word) (gap : Blanks) (wrapper : Wrapper) (text : List Char),
      bareTypeName (String.ofList (layerChars modules gap wrapper text)) =
        bareTypeName (String.ofList text)) ∧
    (∀ text : List Char, (∀ c ∈ text.head?, isBlank c = false) →
      bareTypeName (String.ofList ('&' :: text)) = bareTypeName (String.ofList text)) ∧
    ∀ (name : Word) (text : List Char), Spells name text →
      bareTypeName (String.ofList text) = String.ofList name.chars := by
  have onChars : ∀ text : List Char,
      bareTypeName (String.ofList text) = String.ofList (bareTypeChars text) := by
    intro text
    rw [bareTypeName, String.toList_ofList]
  refine ⟨fun text => ?_, fun modules gap wrapper text => ?_, fun text solid => ?_,
    fun name text spells => ?_⟩
  · obtain ⟨rounds, few, read⟩ := exists_rounds (trim text)
    refine ⟨rounds, _, few.trans (length_trim_le text), read, fun others other => read.unique, ?_⟩
    rw [onChars, bareTypeChars]
  · rw [onChars, onChars, bareTypeChars_layerChars]
  · rw [onChars, onChars, bareTypeChars_ampersand solid]
  · rw [onChars, spells.bareTypeChars_eq]

/-- A borrowed trait object in a wrapper, with brackets that are not balanced in its arguments. -/
theorem bareTypeName_of_borrowed_cache :
    bareTypeName "&'a mut std::sync::Arc< dyn Cache<a>b> >" = "Cache" := by
  let cache : Word := ⟨"Cache".toList, by decide, by decide⟩
  let space : Blanks := ⟨[' '], by decide⟩
  let none : Blanks := ⟨[], by decide⟩
  have path : Spells cache ("Cache<a>b>").toList :=
    .path [] (some "a>b".toList) fun wrapper => by cases wrapper <;> decide
  have wrapped : Spells cache ("std::sync::Arc< dyn Cache<a>b> >").toList :=
    .wrapped [⟨"std".toList, by decide, by decide⟩, ⟨"sync".toList, by decide, by decide⟩] .arc
      space space (.marked .dynamic none path)
  exact bareTypeName_of_layers.2.2.2 cache _
    (.borrowed ⟨"a".toList, by decide, by decide⟩ space (by decide) (.marked .mutable none wrapped))

end Trellis.Signature
