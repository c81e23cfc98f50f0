import Trellis.Text.Search
/-!
# Options of the command line

Arguments are read from left to right. A flag is a name after two hyphens or a letter after one; its
value follows in the same argument or in the next one, which must not look like a flag itself. Asking
for help or the version ends the reading, a wrong argument before that refuses the whole line.
-/

namespace Trellis.Cli

/-- How the wiring report is printed. -/
inductive Format where
  | text
  | json
  deriving DecidableEq, Repr

structure Options where
  config : Option String := none
  logLevel : Option String := none
  format : Option Format := none
  strict : Bool := false
  products : List String := []
  deriving DecidableEq, Repr

/-- What a command line asks for. -/
inductive Command where
  | run (options : Options)
  | help
  | version
  deriving DecidableEq, Repr

/-- What an argument can set. -/
inductive Flag where
  | config
  | logLevel
  | format
  | strict
  | add
  | help
  | version
  deriving DecidableEq, Repr

namespace Flag

def ofName? : String → Option Flag
  | "config" => some .config
  | "log-level" => some .logLevel
  | "format" => some .format
  | "strict" => some .strict
  | "add" => some .add
  | "help" => some .help
  | "version" => some .version
  | _ => none

def ofLetter? : Char → Option Flag
  | 'c' => some .config
  | 'l' => some .logLevel
  | 'f' => some .format
  | 'h' => some .help
  | 'V' => some .version
  | _ => none

/-- Whether a flag comes with a value. -/
def takesValue : Flag → Bool
  | .config | .logLevel | .format | .add => true
  | .strict | .help | .version => false

end Flag

/-- Why a command line is refused. -/
inductive ArgumentFault where
  | unknownFlag (text : String)
  | missingValue (flag : Flag)
  | surplusValue (flag : Flag)
  | invalidValue (flag : Flag) (value : String)
  | repeated (flag : Flag)
  /-- An argument that belongs to no flag. -/
  | unexpected (text : String)
  deriving DecidableEq, Repr

/-- A value that may be set once. -/
def once {α : Type} (flag : Flag) (known : Option α) (value : α) :
    Except ArgumentFault (Option α) :=
  match known with
  | some _ => .error (.repeated flag)
  | none => .ok (some value)

namespace Options

/-- The options with a value set. Only products may be set more than once. -/
def set (options : Options) (flag : Flag) (value : String) : Except ArgumentFault Options :=
  match flag with
  | .config =>
    if value.isEmpty then .error (.invalidValue flag value)
    else return { options with config := ← once flag options.config value }
  | .logLevel => return { options with logLevel := ← once flag options.logLevel value }
  | .format =>
    match value with
    | "text" => return { options with format := ← once flag options.format .text }
    | "json" => return { options with format := ← once flag options.format .json }
    | _ => .error (.invalidValue flag value)
  | .add => return { options with products := options.products ++ [value] }
  | .strict | .help | .version => .error (.surplusValue flag)

/-- The options under the strict policy. -/
def beStrict (options : Options) : Except ArgumentFault Options :=
  if options.strict then .error (.repeated .strict) else .ok { options with strict := true }

end Options

/-- One argument, as far as it can be told without the next one. -/
inductive Argument where
  /-- Two hyphens: nothing after them is a flag. -/
  | endOfFlags
  /-- A flag, with the value in the same argument if there is one. -/
  | flag (flag : Flag) (value : Option String)
  | unknown (text : String)
  | positional (text : String)
  deriving DecidableEq, Repr

/-- A text without an equals sign at its start. -/
def afterEquals (text : List Char) : String :=
  String.ofList ((Text.after? '=' text).getD text)

namespace Argument

/-- The argument after one hyphen. -/
def ofLetters (letter : Char) (rest : List Char) (text : String) : Argument :=
  match Flag.ofLetter? letter with
  | none => .unknown text
  | some named =>
    if named.takesValue && !rest.isEmpty then .flag named (some (afterEquals rest))
    else .flag named none

/-- The argument after two hyphens. -/
def ofName (chars : List Char) (text : String) : Argument :=
  let (name, value) :=
    match Text.cutAt (· = '=') chars with
    | some (name, value) => (name, some (String.ofList value))
    | none => (chars, none)
  match Flag.ofName? (String.ofList name) with
  | some named => .flag named value
  | none => .unknown text

def parse (text : String) : Argument :=
  match text.toList with
  | ['-', '-'] => .endOfFlags
  | '-' :: '-' :: chars => ofName chars text
  | '-' :: letter :: rest => ofLetters letter rest text
  | _ => .positional text

end Argument

/-- What a command line asks for, where `options` have been read before. -/
def readArguments (options : Options) : List String → Except ArgumentFault Command
  | [] => .ok (.run options)
  | text :: rest =>
    match Argument.parse text with
    | .endOfFlags =>
      match rest with
      | [] => .ok (.run options)
      | surplus :: _ => .error (.unexpected surplus)
    | .unknown text => .error (.unknownFlag text)
    | .positional text => .error (.unexpected text)
    | .flag flag (some value) => do readArguments (← options.set flag value) rest
    | .flag .help none => .ok .help
    | .flag .version none => .ok .version
    | .flag .strict none => do readArguments (← options.beStrict) rest
    | .flag flag none =>
      match rest with
      | [] => .error (.missingValue flag)
      | value :: rest =>
        match Argument.parse value with
        | .positional value => do readArguments (← options.set flag value) rest
        | _ => .error (.missingValue flag)

/-- The command of some arguments. -/
def parse (arguments : List String) : Except ArgumentFault Command :=
  readArguments {} arguments

end Trellis.Cli
