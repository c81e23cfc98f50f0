import Trellis.Proofs.Signature.Nesting
import Trellis.Proofs.Signature.Params
import Trellis.Resolution.Basic
/-!
# Slots that are torn or glued

A slot may be a pattern in braces, and its type may have braces and double arrows. The list is cut
into such slots exactly if none of them is torn or glued to the next: a pattern is torn at the commas
between its fields, and a type is torn or glued where the depth misreads it (`Form.Level`,
`Form.Whole`). When no slot is, each of them stands for its own parameter, and a pattern never for a
dependency.
-/

namespace Trellis.Signature

open Trellis.Text

/-- A parameter's name as written: no receiver, and not of underscores only. -/
structure Identifier where
  word : Word
  named : word.chars.any (· != '_') = true
  noSelf : word.chars ≠ "self".toList
  noThis : word.chars ≠ "this".toList

/-- Any nested type, behind a colon with any blanks around it. -/
structure Typing where
  before : Blanks
  after : Blanks
  type : List Char
  nonempty : type ≠ []
  tight : Tight type
  nested : Nested false type

/-- What stands between the identifier and the type. -/
def Typing.colon (typing : Typing) : List Char :=
  typing.before.chars ++ ':' :: typing.after.chars

/-- A field that a pattern binds. -/
structure Field where
  before : Blanks
  name : Word
  after : Blanks

def Field.chars (field : Field) : List Char :=
  field.before.chars ++ field.name.chars ++ field.after.chars

/-- The forms of a slot that stands for one parameter. -/
inductive Form
  | bare (identifier : Identifier)
  | typed (identifier : Identifier) (typing : Typing)
  | pattern (fields : List Field)

namespace Form

def chars : Form → List Char
  | bare identifier => identifier.word.chars
  | typed identifier typing => identifier.word.chars ++ typing.colon ++ typing.type
  | pattern fields => '{' :: (List.intercalate [','] (fields.map Field.chars) ++ ['}'])

def isPattern : Form → Bool
  | bare _ | typed .. => false
  | pattern _ => true

/-- The parameter that a slot of the form stands for. -/
def param : Form → Param
  | bare identifier =>
    { name := String.ofList (identifier.word.chars.dropWhile (· == '_'))
      typeName := none
      destructured := false }
  | typed identifier typing =>
    { name := String.ofList (identifier.word.chars.dropWhile (· == '_'))
      typeName := slotTypeName (some typing.type)
      destructured := false }
  | pattern fields =>
    { name := String.ofList (pattern fields).chars, typeName := none, destructured := true }

/-- The dependency that a slot of the form stands for: none for a pattern, nor for what the framework
supplies itself. -/
def dependency? (available : Available) : Form → Option Class
  | pattern _ => none
  | form => if form.param.isReserved then none else available.get? form.param.candidate

/-- The list is cut behind a slot of the form, and not inside it. -/
def Level : Form → Prop
  | bare _ => True
  | typed _ typing => Balanced false typing.type
  | pattern fields => fields.length ≤ 1

/-- The list is not cut inside a slot of the form. -/
def Whole : Form → Prop
  | bare _ => True
  | typed _ typing => (depthBehind? 0 ':' typing.type).isSome
  | pattern fields => fields.length ≤ 1

end Form

/-- A slot of a form, with any blanks around it. -/
structure Piece where
  before : Blanks
  form : Form
  after : Blanks

def Piece.chars (piece : Piece) : List Char :=
  piece.before.chars ++ piece.form.chars ++ piece.after.chars

variable {identifier : Identifier} {typing : Typing} {fields : List Field} {form : Form}
  {before : Char}

/-! ## Both ends of a slot -/

namespace Form

theorem chars_ne_nil (form : Form) : form.chars ≠ [] := by
  cases form with
  | bare identifier => exact identifier.word.nonempty
  | typed identifier typing => exact List.append_ne_nil_of_right_ne_nil _ typing.nonempty
  | pattern fields => exact List.cons_ne_nil _ _

theorem tight_chars (form : Form) : Tight form.chars := by
  cases form with
  | bare identifier => exact identifier.word.tight
  | typed identifier typing =>
    refine typing.tight.append ?_ typing.nonempty
    intro c first
    exact isBlank_of_isIdentifierChar (identifier.word.identifier_of_head c first)
  | pattern fields =>
    constructor
    · intro c first
      cases first
      decide
    · intro c final
      rw [chars, ← List.cons_append, List.getLast?_concat] at final
      cases final
      decide

end Form

/-! ## Reading a slot -/

theorem dropPatternModifiers_identifier (identifier : Identifier) :
    dropPatternModifiers identifier.word.chars = identifier.word.chars :=
  dropPatternModifiers_of_none (dropPatternModifier?_identifier identifier.word)

theorem patternAndType_bare (identifier : Identifier) :
    patternAndType (Form.bare identifier).chars = (identifier.word.chars, none) := by
  have plain : ':' ∉ identifier.word.chars := identifier.word.notMem (by decide)
  rw [Form.chars, patternAndType, cutAt_eq_none plain]

/-- The type is what stands behind the first colon, whatever else is in it. -/
theorem patternAndType_typed (identifier : Identifier) (typing : Typing) :
    patternAndType (Form.typed identifier typing).chars =
      (identifier.word.chars, some typing.type) := by
  have plain : ':' ∉ identifier.word.chars ++ typing.before.chars := by
    rw [List.mem_append, not_or]
    exact ⟨identifier.word.notMem (by decide), typing.before.notMem (by decide)⟩
  have split : (Form.typed identifier typing).chars =
      identifier.word.chars ++ typing.before.chars ++ ':' :: (typing.after.chars ++ typing.type) := by
    simp [Form.chars, Typing.colon]
  rw [split, patternAndType, cutAt_append_cons plain]
  simp only [identifier.word.tight.trim_append typing.before identifier.word.nonempty,
    trim_append_of_blank, typing.tight.trim]

theorem colon_notMem_fields (fields : List Field) :
    ':' ∉ List.intercalate [','] (fields.map Field.chars) := by
  induction fields with
  | nil => exact List.not_mem_nil
  | cons field others ih =>
    have here : ':' ∉ field.chars := by
      simp only [Field.chars, List.mem_append, not_or]
      exact ⟨⟨field.before.notMem (by decide), field.name.notMem (by decide)⟩,
        field.after.notMem (by decide)⟩
    cases others with
    | nil => simpa using here
    | cons next others =>
      rw [List.map_cons, List.map_cons, List.intercalate_cons_cons]
      simp only [List.mem_append, not_or]
      exact ⟨⟨here, by decide⟩, ih⟩

/-- A pattern in braces stands for one parameter, which keeps its text. -/
theorem paramOfSlot?_pattern (fields : List Field) :
    paramOfSlot? (Form.pattern fields).chars = some (Form.pattern fields).param := by
  have plain : ':' ∉ (Form.pattern fields).chars := by
    have inside := colon_notMem_fields fields
    simp [Form.chars, inside]
  have read : patternAndType (Form.pattern fields).chars = ((Form.pattern fields).chars, none) := by
    rw [patternAndType, cutAt_eq_none plain]
  have dropped : dropPatternModifiers (Form.pattern fields).chars = (Form.pattern fields).chars :=
    dropPatternModifiers_of_none rfl
  have noReceiver : isReceiver (Form.pattern fields).chars = false := by
    simp [isReceiver, Form.chars]
  have noIdentifier : (Form.pattern fields).chars.all isIdentifierChar = false := rfl
  have isEmpty : (Form.pattern fields).chars.isEmpty = false := rfl
  unfold paramOfSlot?
  simp only [(Form.pattern fields).tight_chars.trim, isEmpty, read, dropped, noReceiver, noIdentifier]
  rfl

theorem paramOfSlot?_form (form : Form) : paramOfSlot? form.chars = some form.param := by
  cases form with
  | bare identifier =>
    exact paramOfSlot?_of_identifier identifier.named identifier.noSelf identifier.noThis
      (Form.bare identifier).tight_chars (Form.bare identifier).chars_ne_nil
      (patternAndType_bare identifier) (dropPatternModifiers_identifier identifier)
  | typed identifier typing =>
    exact paramOfSlot?_of_identifier identifier.named identifier.noSelf identifier.noThis
      (Form.typed identifier typing).tight_chars (Form.typed identifier typing).chars_ne_nil
      (patternAndType_typed identifier typing) (dropPatternModifiers_identifier identifier)
  | pattern fields => exact paramOfSlot?_pattern fields

theorem paramOfSlot?_piece (piece : Piece) : paramOfSlot? piece.chars = some piece.form.param :=
  (paramOfSlot?_padded piece.before piece.after piece.form.tight_chars
    piece.form.chars_ne_nil).trans (paramOfSlot?_form piece.form)

/-! ## Where a slot is cut -/

theorem Field.balanced (field : Field) : Balanced false field.chars :=
  ((Balanced.blanks field.before).append (.word field.name)).append (.blanks field.after)

theorem Typing.balanced_colon (typing : Typing) : Balanced false typing.colon :=
  (Balanced.blanks typing.before).append (.plain (by decide) nofun (.blanks typing.after))

theorem lastRead_append (first second : List Char) :
    lastRead before (first ++ second) = lastRead (lastRead before first) second := by
  unfold lastRead
  rw [List.getLast?_append]
  cases second.getLast? <;> rfl

/-- No arrow is begun behind a text without its shaft. -/
theorem lastRead_ne {text : List Char} (other : before ≠ '-') (absent : '-' ∉ text) :
    lastRead before text ≠ '-' := by
  unfold lastRead
  cases final : text.getLast? with
  | none => exact other
  | some c =>
    rintro rfl
    exact absent (List.mem_of_getLast? final)

/-- A pattern of several fields is cut behind the first of them. -/
theorem depthBehind?_pattern (fields : List Field) :
    depthBehind? 0 before (Form.pattern fields).chars =
      if fields.length ≤ 1 then some 0 else none := by
  have opened {text : List Char} (inside : Balanced false text) : Balanced false ('{' :: text) :=
    .plain (by decide) nofun inside
  have closed : Balanced false ['}'] := .plain (by decide) nofun .nil
  match fields with
  | [] => exact (opened closed).level
  | [field] =>
    have alone : (Form.pattern [field]).chars = '{' :: (field.chars ++ ['}']) := by
      simp [Form.chars]
    rw [alone]
    exact (opened (field.balanced.append closed)).level
  | field :: next :: others =>
    have split : (Form.pattern (field :: next :: others)).chars = ('{' :: field.chars) ++
        ',' :: (List.intercalate [','] ((next :: others).map Field.chars) ++ ['}']) := by
      simp [Form.chars, List.intercalate_cons_cons]
    rw [split, depthBehind?_append, (opened field.balanced).level]
    simp [depthBehind?]

/-- Up to the type the depth is zero, and no arrow is begun. -/
theorem depthBehind?_typed (identifier : Identifier) (typing : Typing) :
    depthBehind? 0 before (Form.typed identifier typing).chars = depthBehind? 0 ':' typing.type := by
  have front : Balanced false (identifier.word.chars ++ typing.colon) :=
    (Balanced.word identifier.word).append typing.balanced_colon
  have noArrow : lastRead before (identifier.word.chars ++ typing.colon) ≠ '-' := by
    rw [Typing.colon, lastRead_append, lastRead_append, lastRead_cons]
    exact lastRead_ne (by decide) (typing.after.notMem (by decide))
  rw [Form.chars, depthBehind?_append, front.level, Option.bind_some]
  exact depthBehind?_congr (iff_of_false noArrow (by decide))

/-- Whatever the depth is, blanks leave it as it is. -/
theorem depthBehind?_blanks (blanks : Blanks) {depth : Int} :
    depthBehind? depth before blanks.chars = some depth := by
  have unread : ∀ c ∈ blanks.chars, c ∉ ',' :: brackets := by
    intro c member
    exact unread_of_class (by decide) (blanks.blank c member)
  generalize blanks.chars = text at unread
  induction text generalizing before with
  | nil => rfl
  | cons c rest ih =>
    have here := unread c List.mem_cons_self
    rw [List.mem_cons, not_or] at here
    rw [depthBehind?_cons_of_not_cut fun cut => here.1 cut.1, depthStep_eq_zero here.2,
      Int.add_zero]
    exact ih fun d member => unread d (List.mem_cons_of_mem _ member)

/-- Blanks around a slot do not matter to where the list is cut. -/
theorem depthBehind?_piece (piece : Piece) (noArrow : before ≠ '-') :
    depthBehind? 0 before piece.chars = depthBehind? 0 before piece.form.chars := by
  have apart : lastRead before piece.before.chars ≠ '-' :=
    lastRead_ne noArrow (piece.before.notMem (by decide))
  rw [Piece.chars, List.append_assoc, depthBehind?_append, depthBehind?_blanks, Option.bind_some,
    depthBehind?_append, depthBehind?_congr (iff_of_false apart noArrow)]
  cases depthBehind? 0 before piece.form.chars with
  | none => rfl
  | some behind => exact depthBehind?_blanks piece.after

theorem Form.level_iff (form : Form) :
    depthBehind? 0 before form.chars = some 0 ↔ form.Level := by
  cases form with
  | bare identifier => exact iff_of_true (Balanced.word identifier.word).level trivial
  | typed identifier typing =>
    rw [depthBehind?_typed]
    exact typing.nested.level_iff_balanced
  | pattern fields =>
    rw [depthBehind?_pattern]
    simp [Level]

theorem Form.whole_iff (form : Form) :
    (depthBehind? 0 before form.chars).isSome ↔ form.Whole := by
  cases form with
  | bare identifier =>
    rw [chars, (Balanced.word identifier.word).level]
    exact iff_of_true rfl trivial
  | typed identifier typing =>
    rw [depthBehind?_typed]
    rfl
  | pattern fields =>
    rw [depthBehind?_pattern]
    simp [Whole]

instance (form : Form) : Decidable form.Level :=
  decidable_of_iff (depthBehind? 0 '\x00' form.chars = some 0) form.level_iff

instance (form : Form) : Decidable form.Whole :=
  decidable_of_iff ((depthBehind? 0 '\x00' form.chars).isSome = true) form.whole_iff

/-! ## Reading a list -/

/-- The parameters of a constructor are those of the slots that its list is cut into. -/
theorem params_eq_filterMap {source : String} {slots : List (List Char)}
    (cut : (paramListChars? source.toList).map slotChars = some slots) :
    params source = slots.filterMap paramOfSlot? := by
  obtain ⟨list, found, rfl⟩ := Option.map_eq_some_iff.mp cut
  rw [params, found]

theorem Form.enclosed (form : Form) : Enclosed form.chars := by
  cases form with
  | bare identifier => exact (@Balanced.word false identifier.word).enclosed
  | typed identifier typing =>
    exact ((Balanced.word identifier.word).append typing.balanced_colon).enclosed.append
      typing.nested.enclosed
  | pattern fields =>
    refine .group (by decide) (by decide) (Enclosed.intercalate ?_) .nil
    intro part member
    obtain ⟨field, -, rfl⟩ := List.mem_map.mp member
    exact field.balanced.enclosed

theorem Piece.enclosed (piece : Piece) : Enclosed piece.chars := by
  have blanks (blanks : Blanks) : Enclosed blanks.chars := (@Balanced.blanks false blanks).enclosed
  exact ((blanks piece.before).append piece.form.enclosed).append (blanks piece.after)

/-- The list of some slots, of which there is at least one. -/
def joined (others : List Piece) (last : Piece) : List Char :=
  List.intercalate [','] ((others ++ [last]).map Piece.chars)

/-- A list is cut into its slots exactly if it is cut behind each slot but the last, and inside none. -/
theorem slotChars_joined_iff (others : List Piece) (last : Piece) :
    slotChars (joined others last) = (others ++ [last]).map Piece.chars ↔
      (∀ piece ∈ others, piece.form.Level) ∧ last.form.Whole := by
  have initial : '\x00' ≠ '-' := by decide
  rw [joined, List.map_append, List.map_singleton, slotChars_intercalate_iff, List.forall_mem_map]
  simp only [depthBehind?_piece _ initial, Form.level_iff, Form.whole_iff]

theorem paramListChars?_joined {front : List Char} (standalone : Standalone front)
    (unopened : Unopened front) (keyword : Keyword) (gap : Blanks) (others : List Piece)
    (last : Piece) (suffix : List Char) :
    paramListChars? (front ++
      (keyword.chars ++ gap.chars ++ '(' :: (joined others last ++ ')' :: suffix))) =
        some (joined others last) := by
  have enclosed : Enclosed (joined others last) := by
    apply Enclosed.intercalate
    intro part member
    obtain ⟨piece, -, rfl⟩ := List.mem_map.mp member
    exact piece.enclosed
  rw [paramListChars?, afterOpening_of_unopened keyword gap standalone unopened, Option.bind_some,
    enclosed.upToClosing_eq]

namespace Form

variable {available : Available}

theorem destructured_param (form : Form) : form.param.destructured = form.isPattern := by
  cases form <;> rfl

theorem dependency?_eq (form : Form) :
    form.dependency? available =
      if form.param.isReserved then none else form.param.resolve? available := by
  cases form with
  | bare identifier | typed identifier typing => rfl
  | pattern fields =>
    have never : (pattern fields).param.resolve? available = none := rfl
    rw [never, ite_self]
    rfl

/-- Whether the parameter is to be matched and is not. -/
def isMissing (available : Available) (form : Form) : Bool :=
  !form.param.isReserved && (form.dependency? available).isNone

/-- What is resolved of slots that stand for their own parameters. -/
def resolution (available : Available) (forms : List Form) : Resolution where
  dependencies := forms.filterMap (dependency? available)
  unresolved := (forms.filter (isMissing available)).map fun form => form.param.asUnresolved
  source := .signature

theorem resolveParams_eq {forms : List Form} (nonempty : forms ≠ []) :
    resolveParams (forms.map param) available = resolution available forms := by
  have matched : ((forms.map param).filter fun param => !param.isReserved).filterMap
      (·.resolve? available) = forms.filterMap (dependency? available) := by
    rw [List.filterMap_filter, List.filterMap_map]
    apply List.filterMap_congr
    intro form _
    rw [dependency?_eq]
    cases reserved : form.param.isReserved <;> simp [reserved]
  have missing : (((forms.map param).filter fun param => !param.isReserved).filter
      fun param => (param.resolve? available).isNone).map (·.asUnresolved) =
        (forms.filter (isMissing available)).map fun form => form.param.asUnresolved := by
    rw [List.filter_filter, List.filter_map, List.map_map]
    congr 1
    apply List.filter_congr
    intro form _
    rw [isMissing, dependency?_eq]
    cases reserved : form.param.isReserved <;> simp [reserved]
  have some : ¬ (forms.map param).isEmpty = true := by simpa using nonempty
  rw [resolution, ← matched, ← missing, resolveParams, if_neg some]

end Form

/-- Slots of these forms stand for a parameter each, a pattern for one that it marks. The list is cut
into the slots exactly if it is cut behind each but the last and inside none. Then the parameters are
those of the slots, in order, and what they are resolved to is what each slot stands for: no field of
a pattern is a dependency, and no slot is lost behind another. -/
theorem params_of_forms {front : List Char} (standalone : Standalone front)
    (unopened : Unopened front) (keyword : Keyword) (gap : Blanks) (others : List Piece)
    (last : Piece) (suffix : List Char) :
    let slots := others ++ [last]
    let source := String.ofList (front ++
      (keyword.chars ++ gap.chars ++ '(' :: (joined others last ++ ')' :: suffix)))
    (∀ piece ∈ slots, paramOfSlot? piece.chars = some piece.form.param ∧
      piece.form.param.destructured = piece.form.isPattern) ∧
    paramListChars? source.toList = some (joined others last) ∧
    (slotChars (joined others last) = slots.map Piece.chars ↔
      (∀ piece ∈ others, piece.form.Level) ∧ last.form.Whole) ∧
    ((∀ piece ∈ others, piece.form.Level) → last.form.Whole →
      params source = slots.map (·.form.param) ∧
      ∀ reflection handle available, reflection.constructorTypes? handle = none →
        resolve reflection handle (params source) available =
          Form.resolution available (slots.map Piece.form)) := by
  intro slots source
  have list : paramListChars? source.toList = some (joined others last) := by
    rw [String.toList_ofList]
    exact paramListChars?_joined standalone unopened keyword gap others last suffix
  refine ⟨fun piece _ => ⟨paramOfSlot?_piece piece, piece.form.destructured_param⟩, list,
    slotChars_joined_iff others last, ?_⟩
  intro level whole
  have cut := (slotChars_joined_iff others last).mpr ⟨level, whole⟩
  have read : params source = slots.map (·.form.param) := by
    rw [params_eq_filterMap (by rw [list, Option.map_some, cut]), List.filterMap_map]
    refine (List.filterMap_congr fun piece _ => paramOfSlot?_piece piece).trans ?_
    exact congrFun List.filterMap_eq_map' slots
  refine ⟨read, ?_⟩
  intro reflection handle available unknown
  have nonempty : slots.map Piece.form ≠ [] := by simp [slots]
  have params : params source = (slots.map Piece.form).map Form.param := by
    rw [read, List.map_map]
    rfl
  rw [resolve, unknown, params]
  exact Form.resolveParams_eq nonempty

/-! ## A pattern and two function types -/

namespace Callbacks

open Orders (noBlanks space)

/-- `{ users }`. -/
def users : Piece where
  before := noBlanks
  form := .pattern [⟨space, Orders.users.identifier, space⟩]
  after := noBlanks

/-- ` run: fn(Key, Value) -> Flag`. -/
def run : Piece where
  before := space
  form := .typed
    { word := ⟨"run".toList, by decide, by decide⟩
      named := by decide
      noSelf := by decide
      noThis := by decide }
    { before := noBlanks
      after := space
      type := "fn(Key, Value) -> Flag".toList
      nonempty := by decide
      tight := ⟨by rintro _ ⟨⟩; rfl, by rintro _ ⟨⟩; rfl⟩
      nested := by
        have keyword : Nested false "fn".toList := .of_plain (by decide)
        have domain : Nested true "Key, Value".toList := .of_plain (by decide)
        have range : Nested false " Flag".toList := .of_plain (by decide)
        exact keyword.append (.group .round domain nofun
          (.plain (by decide) nofun (.arrow range))) }
  after := noBlanks

/-- ` done: (flag: Flag) => Result`. -/
def done : Piece where
  before := space
  form := .typed
    { word := ⟨"done".toList, by decide, by decide⟩
      named := by decide
      noSelf := by decide
      noThis := by decide }
    { before := noBlanks
      after := space
      type := "(flag: Flag) => Result".toList
      nonempty := by decide
      tight := ⟨by rintro _ ⟨⟩; rfl, by rintro _ ⟨⟩; rfl⟩
      nested := by
        have domain : Nested true "flag: Flag".toList := .of_plain (by decide)
        have range : Nested false " Result".toList := .of_plain (by decide)
        exact .group .round domain nofun (.plain (by decide) nofun (.doubleArrow range)) }
  after := noBlanks

/-- The constructor of the slots above. -/
def source : String :=
  "constructor({ users }, run: fn(Key, Value) -> Flag, done: (flag: Flag) => Result)"

/-- The slots are read one by one: the last type may have a double arrow. -/
theorem params_of_forms_callbacks : Standalone [] ∧ Unopened [] ∧
    (∀ piece ∈ [users, run], piece.form.Level) ∧ done.form.Whole ∧
      (params source).map (fun param => (param.name, param.destructured)) =
        [("{ users }", true), ("run", false), ("done", false)] := by
  have standalone : Standalone [] := by
    intro c final
    cases final
  have unopened : Unopened [] := by
    intro upTo rest split
    simp at split
  have level : ∀ piece ∈ [users, run], piece.form.Level := by decide +kernel
  have whole : done.form.Whole := by decide +kernel
  have spelled : [] ++ (Keyword.constructor.chars ++ noBlanks.chars ++
      '(' :: (joined [users, run] done ++ ')' :: [])) = source.toList := by
    decide +kernel
  obtain ⟨-, -, -, read⟩ :=
    params_of_forms standalone unopened .constructor noBlanks [users, run] done []
  have slots := (read level whole).1
  rw [spelled, String.ofList_toList] at slots
  refine ⟨standalone, unopened, level, whole, ?_⟩
  rw [slots]
  decide +kernel

/-- `{ a, users, b }`. -/
def torn : Piece where
  before := noBlanks
  form := .pattern
    [⟨space, ⟨['a'], by decide, by decide⟩, noBlanks⟩,
      ⟨space, Orders.users.identifier, noBlanks⟩,
      ⟨space, ⟨['b'], by decide, by decide⟩, space⟩]
  after := noBlanks

/-- ` users`. -/
def field : Piece where
  before := space
  form := .bare
    { word := Orders.users.identifier
      named := by decide
      noSelf := by decide
      noThis := by decide }
  after := noBlanks

/-- A pattern of three fields is torn, and the one in the middle becomes a parameter of its own that
names a service; a slot behind a double arrow is glued to it and lost. -/
theorem torn_and_glued :
    let available := Available.insertAll { scope := .anonymous 0 } [.named "UsersService"]
    let first := { done with before := noBlanks }
    String.ofList torn.chars = "{ a, users, b }" ∧
      paramOfSlot? torn.chars = some ⟨"{ a, users, b }", none, true⟩ ∧
      ⟨"users", none, false⟩ ∈ params "constructor({ a, users, b })" ∧
      .named "UsersService" ∈
        (resolveParams (params "constructor({ a, users, b })") available).dependencies ∧
      String.ofList (joined [first] field) = "done: (flag: Flag) => Result, users" ∧
      (params "constructor(done: (flag: Flag) => Result, users)").length ≤ 1 := by
  intro available first
  have cut : (paramListChars? "constructor({ a, users, b })".toList).map slotChars =
      some ["\x7b a".toList, field.chars, " b \x7d".toList] := by
    decide +kernel
  have glued : (paramListChars? "constructor(done: (flag: Flag) => Result, users)".toList).map
      slotChars = some [joined [first] field] := by
    decide +kernel
  have middle : field.form.param ∈ params "constructor({ a, users, b })" := by
    rw [params_eq_filterMap cut, List.mem_filterMap]
    exact ⟨field.chars, by simp, paramOfSlot?_piece field⟩
  have wanted : field.form.param.isReserved = false ∧
      field.form.param.resolve? available = some (.named "UsersService") := by
    decide +kernel
  refine ⟨by decide +kernel, ?_, ?_, ?_, by decide +kernel, ?_⟩
  · rw [paramOfSlot?_piece]
    decide +kernel
  · have named : field.form.param = ⟨"users", none, false⟩ := by decide +kernel
    exact named ▸ middle
  · have some : ¬ (params "constructor({ a, users, b })").isEmpty = true := by
      simpa using List.ne_nil_of_mem middle
    rw [resolveParams, if_neg some]
    refine List.mem_filterMap.mpr ⟨field.form.param, ?_, wanted.2⟩
    exact List.mem_filter.mpr ⟨middle, by rw [wanted.1]; rfl⟩
  · rw [params_eq_filterMap glued]
    exact List.length_filterMap_le _ _

end Callbacks

end Trellis.Signature
