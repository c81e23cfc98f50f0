import Mathlib.Data.List.Induction
import Trellis.Proofs.Text.Cutting
import Trellis.Proofs.Text.Letters
import Trellis.Proofs.Text.Offsets
import Trellis.Signature.ServiceName
/-!
# Spellings of a service

A service is asked for by its class name, or by its words in snake case or in camel case, with `service`
behind them or without it, and with underscores in front. Whichever spelling is used, the same class name
is guessed. What matters to the guess are the words between the underscores of an identifier, so neither
the underscores around them nor the one in front of `service` change anything.
-/

namespace Trellis.Signature

open Trellis.Text

variable {front part text word rest : List Char}

/-! ## Capitalised words -/

theorem capitalize_append (nonempty : word ≠ []) (rest : List Char) :
    capitalize (word ++ rest) = capitalize word ++ rest := by
  obtain ⟨c, others, rfl⟩ := List.exists_cons_of_ne_nil nonempty
  rw [List.cons_append, capitalize, capitalize, List.append_assoc]

theorem capitalize_eq_self (head : ∀ c ∈ text.head?, Capital c) : capitalize text = text := by
  cases text with
  | nil => rfl
  | cons c rest => rw [capitalize, (head c rfl).own, List.singleton_append]

theorem underscore_notMem_capitalize (absent : '_' ∉ word) : '_' ∉ capitalize word := by
  cases word with
  | nil => exact absent
  | cons c rest =>
    rw [List.mem_cons, not_or] at absent
    rw [capitalize, List.mem_append, not_or]
    exact ⟨fun member => (capital_of_mem_uppercase (Ne.symm absent.1) member).other rfl, absent.2⟩

theorem capital_head_capitalize (absent : '_' ∉ word) : ∀ c ∈ (capitalize word).head?, Capital c := by
  cases word with
  | nil => nofun
  | cons d rest =>
    intro c first
    rw [List.mem_cons, not_or] at absent
    rw [capitalize, List.head?_append_of_ne_nil _ (uppercase_ne_nil d)] at first
    exact capital_of_mem_uppercase (Ne.symm absent.1) (List.mem_of_head? first)

/-- The words between the underscores of a text, capitalised and run together. -/
def pascalChars (text : List Char) : List Char :=
  (splitAt '_' text).flatMap capitalize

theorem pascalChars_append (front rest : List Char) :
    pascalChars (front ++ '_' :: rest) = pascalChars front ++ pascalChars rest := by
  rw [pascalChars, splitAt_append_cons, List.flatMap_append, pascalChars, pascalChars]

theorem pascalChars_of_notMem (absent : '_' ∉ text) : pascalChars text = capitalize text := by
  rw [pascalChars, splitAt_eq_singleton absent, List.flatMap_singleton]

@[simp]
theorem pascalChars_underscore (text : List Char) : pascalChars ('_' :: text) = pascalChars text :=
  pascalChars_append [] text

@[simp]
theorem pascalChars_append_underscore (text : List Char) :
    pascalChars (text ++ ['_']) = pascalChars text := by
  rw [pascalChars_append]
  exact List.append_nil _

theorem pascalChars_dropTail (text : List Char) :
    pascalChars (dropTail (· == '_') text) = pascalChars text := by
  induction text using List.reverseRecOn with
  | nil => rfl
  | append_singleton front c ih =>
    by_cases same : c = '_'
    · have dropped : dropTail (· == '_') (front ++ [c]) = dropTail (· == '_') front := by
        simp [dropTail, same]
      rw [dropped, ih, same, pascalChars_append_underscore]
    · have kept : dropTail (· == '_') (front ++ [c]) = front ++ [c] := by
        simp [dropTail, same]
      rw [kept]

theorem underscore_notMem_pascalChars (text : List Char) : '_' ∉ pascalChars text := by
  intro member
  obtain ⟨word, piece, inside⟩ := List.mem_flatMap.mp member
  exact underscore_notMem_capitalize (notMem_of_mem_splitAt piece) inside

theorem capital_head_flatMap {words : List (List Char)} (whole : ∀ word ∈ words, '_' ∉ word) :
    ∀ c ∈ (words.flatMap capitalize).head?, Capital c := by
  induction words with
  | nil => nofun
  | cons word others ih =>
    intro c first
    rw [List.flatMap_cons] at first
    cases shape : capitalize word with
    | nil =>
      rw [shape] at first
      exact ih (fun other listed => whole other (List.mem_cons_of_mem _ listed)) c first
    | cons d rest =>
      refine capital_head_capitalize (whole word List.mem_cons_self) c ?_
      rw [shape] at first ⊢
      exact first

/-- Capitalised words are one capitalised word. -/
theorem pascalChars_pascalChars (text : List Char) :
    pascalChars (pascalChars text) = pascalChars text := by
  rw [pascalChars_of_notMem (underscore_notMem_pascalChars text), pascalChars, capitalize_eq_self]
  exact capital_head_flatMap fun word => notMem_of_mem_splitAt

/-! ## The ending -/

/-- The text ends in `service`, in any mixture of ASCII cases. -/
def EndsInService (text : List Char) : Prop :=
  ∃ front part, text = front ++ part ∧ part.map Char.toLower = "service".toList

theorem isSuffixOf_iff_endsInService :
    (serviceSuffix.toList.map Char.toLower).isSuffixOf (text.map Char.toLower) = true ↔
      EndsInService text := by
  have ending : serviceSuffix.toList.map Char.toLower = "service".toList := by decide
  rw [ending, List.isSuffixOf_iff_suffix]
  constructor
  · rintro ⟨lowered, whole⟩
    obtain ⟨front, part, rfl, -, same⟩ := List.map_eq_append_iff.mp whole.symm
    exact ⟨front, part, rfl, same⟩
  · rintro ⟨front, part, rfl, same⟩
    exact ⟨front.map Char.toLower, by rw [List.map_append, same]⟩

theorem dropServiceSuffix_append (front : List Char)
    (same : part.map Char.toLower = "service".toList) :
    dropServiceSuffix (front ++ part) = front := by
  have size : part.length = (serviceSuffix.toList.map Char.toLower).length := by
    rw [← List.length_map Char.toLower, same]
    decide
  rw [dropServiceSuffix, if_pos (isSuffixOf_iff_endsInService.mpr ⟨front, part, rfl, same⟩), ← size,
    List.length_append, Nat.add_sub_cancel, List.take_left]

theorem dropServiceSuffix_eq_self (bare : ¬ EndsInService text) : dropServiceSuffix text = text :=
  if_neg (mt isSuffixOf_iff_endsInService.mp bare)

/-- An underscore in front is no part of the ending. -/
theorem dropServiceSuffix_underscore (text : List Char) :
    dropServiceSuffix ('_' :: text) = '_' :: dropServiceSuffix text := by
  by_cases ends : EndsInService text
  · obtain ⟨front, part, rfl, same⟩ := ends
    rw [← List.cons_append, dropServiceSuffix_append _ same, dropServiceSuffix_append _ same]
  · have bare : ¬ EndsInService ('_' :: text) := by
      rintro ⟨front, part, whole, same⟩
      cases front with
      | nil =>
        rw [← show '_' :: text = part from whole, List.map_cons] at same
        exact absurd (List.cons.inj same).1 (by decide)
      | cons d front => exact ends ⟨front, part, (List.cons.inj whole).2, same⟩
    rw [dropServiceSuffix_eq_self ends, dropServiceSuffix_eq_self bare]

/-- The identifier without its ending, cut at a byte offset: the number of bytes of the identifier less
that of the ending. -/
def dropServiceSuffixByBytes (identifier : List Char) : Except OffsetFault (List Char) :=
  let ending := serviceSuffix.toList.map Char.toLower
  if ending.isSuffixOf (identifier.map Char.toLower) then do
    let last ← difference (byteSize identifier) (byteSize ending)
    textBetween identifier 0 last
  else .ok identifier

/-- The cut is between two characters, whatever the identifier is. -/
theorem dropServiceSuffixByBytes_eq (identifier : List Char) :
    dropServiceSuffixByBytes identifier = .ok (dropServiceSuffix identifier) := by
  by_cases ends : EndsInService identifier
  · obtain ⟨front, part, rfl, same⟩ := ends
    have size : byteSize (serviceSuffix.toList.map Char.toLower) = byteSize part := by
      rw [← byteSize_map_toLower part, same]
      decide
    have between := textBetween_append [] front part
    rw [byteSize_nil, Nat.zero_add, List.nil_append] at between
    rw [dropServiceSuffixByBytes, if_pos (isSuffixOf_iff_endsInService.mpr ⟨front, part, rfl, same⟩),
      dropServiceSuffix_append _ same, size, difference, byteSize_append, if_pos (Nat.le_add_left _ _),
      Nat.add_sub_cancel]
    exact between
  · rw [dropServiceSuffixByBytes, if_neg (mt isSuffixOf_iff_endsInService.mp ends),
      dropServiceSuffix_eq_self ends]

/-! ## The class name -/

theorem serviceNameChars_eq (identifier : List Char) :
    serviceNameChars identifier =
      pascalChars (dropServiceSuffix identifier) ++ serviceSuffix.toList := by
  show pascalChars (dropTail (· == '_') (dropServiceSuffix identifier)) ++ _ = _
  rw [pascalChars_dropTail]

theorem serviceNameChars_underscore (text : List Char) :
    serviceNameChars ('_' :: text) = serviceNameChars text := by
  rw [serviceNameChars_eq, serviceNameChars_eq, dropServiceSuffix_underscore, pascalChars_underscore]

theorem serviceNameChars_append (front : List Char)
    (same : part.map Char.toLower = "service".toList) :
    serviceNameChars (front ++ part) = pascalChars front ++ serviceSuffix.toList := by
  rw [serviceNameChars_eq, dropServiceSuffix_append _ same]

theorem serviceNameChars_of_bare (bare : ¬ EndsInService text) :
    serviceNameChars text = pascalChars text ++ serviceSuffix.toList := by
  rw [serviceNameChars_eq, dropServiceSuffix_eq_self bare]

theorem underscore_notMem_serviceNameChars (identifier : List Char) :
    '_' ∉ serviceNameChars identifier := by
  rw [serviceNameChars_eq, List.mem_append, not_or]
  exact ⟨underscore_notMem_pascalChars _, by decide⟩

/-- A class name stands for itself. -/
theorem serviceNameChars_serviceNameChars (identifier : List Char) :
    serviceNameChars (serviceNameChars identifier) = serviceNameChars identifier := by
  rw [serviceNameChars_eq identifier, serviceNameChars_append _ (by decide), pascalChars_pascalChars]

/-! ## Spellings -/

/-- The words of a name. -/
structure Phrase where
  words : List (List Char)
  nonempty : words ≠ []
  solid : ∀ word ∈ words, word ≠ []
  whole : ∀ word ∈ words, '_' ∉ word

namespace Phrase

variable {phrase : Phrase}

def snake (phrase : Phrase) : List Char :=
  List.intercalate ['_'] phrase.words

def camel (phrase : Phrase) : List Char :=
  match phrase.words with
  | [] => []
  | first :: others => first ++ others.flatMap capitalize

def className (phrase : Phrase) : List Char :=
  phrase.words.flatMap capitalize ++ serviceSuffix.toList

/-- The ways to ask for the service of a name. -/
inductive Spelling (phrase : Phrase) : List Char → Prop
  | snake : Spelling phrase phrase.snake
  | snakeService : Spelling phrase (phrase.snake ++ "_service".toList)
  | camel : Spelling phrase phrase.camel
  | camelService : Spelling phrase (phrase.camel ++ "Service".toList)
  | camelLowerService : Spelling phrase (phrase.camel ++ "service".toList)
  | className : Spelling phrase phrase.className
  | underscore {text : List Char} (spelling : Spelling phrase text) : Spelling phrase ('_' :: text)

theorem pascalChars_snake (phrase : Phrase) :
    pascalChars phrase.snake = phrase.words.flatMap capitalize := by
  have joined : ∀ words : List (List Char), (∀ word ∈ words, '_' ∉ word) →
      pascalChars (List.intercalate ['_'] words) = words.flatMap capitalize := by
    intro words whole
    induction words with
    | nil => rfl
    | cons word others ih =>
      have apart := whole word List.mem_cons_self
      cases others with
      | nil =>
        rw [List.intercalate_singleton, pascalChars_of_notMem apart, List.flatMap_singleton]
      | cons next others =>
        rw [List.intercalate_cons_cons, List.append_assoc, List.singleton_append, pascalChars_append,
          pascalChars_of_notMem apart, ih fun other listed => whole other (List.mem_cons_of_mem _ listed)]
        rfl
  exact joined phrase.words phrase.whole

theorem pascalChars_camel (phrase : Phrase) :
    pascalChars phrase.camel = phrase.words.flatMap capitalize := by
  obtain ⟨words, nonempty, solid, whole⟩ := phrase
  obtain ⟨first, others, rfl⟩ := List.exists_cons_of_ne_nil nonempty
  show pascalChars (first ++ others.flatMap capitalize) = _
  have absent : '_' ∉ first ++ others.flatMap capitalize := by
    rw [List.mem_append, not_or]
    refine ⟨whole first List.mem_cons_self, fun member => ?_⟩
    obtain ⟨word, listed, inside⟩ := List.mem_flatMap.mp member
    exact underscore_notMem_capitalize (whole word (List.mem_cons_of_mem _ listed)) inside
  rw [pascalChars_of_notMem absent, capitalize_append (solid first List.mem_cons_self),
    List.flatMap_cons]

theorem serviceNameChars_of_spelling (bareSnake : ¬ EndsInService phrase.snake)
    (bareCamel : ¬ EndsInService phrase.camel) {text : List Char} (spelling : phrase.Spelling text) :
    serviceNameChars text = phrase.className := by
  induction spelling with
  | snake => rw [serviceNameChars_of_bare bareSnake, pascalChars_snake, className]
  | snakeService =>
    have split : phrase.snake ++ "_service".toList = (phrase.snake ++ ['_']) ++ "service".toList := by
      rw [List.append_assoc]
      rfl
    rw [split, serviceNameChars_append _ (by decide), pascalChars_append_underscore, pascalChars_snake,
      className]
  | camel => rw [serviceNameChars_of_bare bareCamel, pascalChars_camel, className]
  | camelService => rw [serviceNameChars_append _ (by decide), pascalChars_camel, className]
  | camelLowerService => rw [serviceNameChars_append _ (by decide), pascalChars_camel, className]
  | className =>
    rw [className, serviceNameChars_append _ (by decide), ← pascalChars_snake, pascalChars_pascalChars]
  | underscore _ ih => rw [serviceNameChars_underscore, ih]

end Phrase

/-- All spellings of a name that does not end in `service` itself, in snake case or in camel case, stand
for one class. Whatever the identifier, the guess ends in `Service`, has no underscore and stands for
itself, and the identifier is cut between two characters. -/
theorem guessServiceName_of_spelling :
    (∀ phrase : Phrase, ¬ EndsInService phrase.snake → ¬ EndsInService phrase.camel →
      ∀ text, phrase.Spelling text →
        guessServiceName (String.ofList text) = String.ofList phrase.className) ∧
    ∀ identifier : String,
      serviceSuffix.toList <:+ (guessServiceName identifier).toList ∧
        '_' ∉ (guessServiceName identifier).toList ∧
        guessServiceName (guessServiceName identifier) = guessServiceName identifier ∧
        dropServiceSuffixByBytes identifier.toList = .ok (dropServiceSuffix identifier.toList) := by
  refine ⟨fun phrase bareSnake bareCamel text spelling => ?_, fun identifier => ?_⟩
  · rw [guessServiceName, String.toList_ofList, Phrase.serviceNameChars_of_spelling bareSnake bareCamel
      spelling]
  · have chars : (guessServiceName identifier).toList = serviceNameChars identifier.toList := by
      rw [guessServiceName, String.toList_ofList]
    rw [chars]
    refine ⟨List.suffix_append _ _, underscore_notMem_serviceNameChars _, ?_,
      dropServiceSuffixByBytes_eq _⟩
    rw [guessServiceName, chars, serviceNameChars_serviceNameChars, guessServiceName]

/-- A first letter whose upper case is two letters. -/
theorem guessServiceName_of_two_words :
    guessServiceName "__ß_item_service" = "SSItemService" ∧
      guessServiceName "_ßItem" = "SSItemService" := by
  let phrase : Phrase := ⟨["ß".toList, "item".toList], by decide, by decide, by decide⟩
  have joined : phrase.camel = "ßItem".toList := by decide +kernel
  have named : String.ofList phrase.className = "SSItemService" := by decide +kernel
  have bareSnake : ¬ EndsInService phrase.snake := mt isSuffixOf_iff_endsInService.mpr (by decide)
  have bareCamel : ¬ EndsInService phrase.camel := by
    rw [joined]
    exact mt isSuffixOf_iff_endsInService.mpr (by decide)
  have guesses := guessServiceName_of_spelling.1 phrase bareSnake bareCamel
  rw [named] at guesses
  have mixed := guesses _ (.underscore .camel)
  rw [joined] at mixed
  exact ⟨guesses _ (.underscore (.underscore .snakeService)), mixed⟩

end Trellis.Signature
