/-
This file reads the arguments of a command. An option takes a value, from the same
argument or from the next one; a flag takes none. The value of an option is looked
at when the next option or flag, the name or the end is reached, so an argument
that is unknown is reported in its place. Behind two dashes alone everything is a
name.
-/

import Stencil.Command.Assignment
import Stencil.Source.FilePath

namespace Stencil

/-! ### Options and flags -/

/-- The options that take a value. -/
inductive ValueOption where
  | views
  | fallback
  | context
  | set
  /-- When colours are used. -/
  | color
  deriving DecidableEq, Repr

/-- The flags. -/
inductive Flag where
  | json
  | help
  /-- More log lines are asked for; it may be raised again for still more. -/
  | verbose
  | version
  deriving DecidableEq, Repr

/-- Something that an argument behind dashes names. -/
inductive Switch where
  | value (option : ValueOption)
  | flag (flag : Flag)
  deriving DecidableEq, Repr

namespace Switch

/-- The name behind two dashes. -/
def longName : Switch → Text
  | .value .views => "views".toList
  | .value .fallback => "fallback".toList
  | .value .context => "context".toList
  | .value .set => "set".toList
  | .value .color => "color".toList
  | .flag .json => "json".toList
  | .flag .help => "help".toList
  | .flag .verbose => "verbose".toList
  | .flag .version => "version".toList

/-- The letter behind one dash. -/
def letter? : Switch → Option Char
  | .value .context => some 'c'
  | .value .set => some 's'
  | .flag .help => some 'h'
  | .flag .verbose => some 'v'
  | .flag .version => some 'V'
  | _ => none

end Switch

/-- The arguments that a command knows. -/
structure Grammar where
  switches : List Switch
  takesName : Bool

namespace Grammar

/-- The arguments that rendering takes. -/
def render : Grammar where
  switches := [.value .views, .value .fallback, .value .context, .value .set, .flag .json,
    .flag .help]
  takesName := true

/-- The arguments that checking takes. -/
def check : Grammar where
  switches := [.value .context, .value .set, .flag .json, .flag .help]
  takesName := true

/-- The arguments that give a context and nothing else. -/
def context : Grammar where
  switches := [.value .context, .value .set, .flag .help]
  takesName := false

/-- The switches that may stand in front of the name of a command and behind it. -/
def globals : List Switch :=
  [.value .color, .flag .verbose]

/-- The arguments up to the name of a command, which is the name they take. -/
def program : Grammar where
  switches := globals ++ [.flag .help, .flag .version]
  takesName := true

/-- The arguments of a command as they stand behind its name. -/
def withGlobals (grammar : Grammar) : Grammar where
  switches := grammar.switches ++ globals
  takesName := grammar.takesName

/-- The switch of a name behind two dashes. -/
def long? (grammar : Grammar) (name : Text) : Option Switch :=
  grammar.switches.find? fun switch => switch.longName = name

/-- The switch of a letter behind one dash. -/
def short? (grammar : Grammar) (letter : Char) : Option Switch :=
  grammar.switches.find? fun switch => switch.letter? = some letter

end Grammar

/-! ### What was given -/

/-- Why the arguments of a command are refused, or that only help is asked for. -/
inductive UsageError where
  | unknownArgument
  /-- An option has no value, or none that it takes. -/
  | missingValue
  /-- A flag has a value. -/
  | unexpectedValue
  /-- An option or flag that may stand once stands twice. -/
  | repeated
  | invalidAssignment (error : AssignmentError)
  | missingName
  | help
  deriving DecidableEq, Repr

/-- The text that reports why arguments are refused. -/
def UsageError.message : UsageError → String
  | .unknownArgument => "unexpected argument"
  | .missingValue => "an option has no value that it takes"
  | .unexpectedValue => "a flag takes no value"
  | .repeated => "an argument that may stand once stands twice"
  | .invalidAssignment error => error.message
  | .missingName => "a name is missing"
  | .help => "help is asked for"

/-- When colours are used. -/
inductive ColorWhen where
  | auto
  | always
  | never
  deriving DecidableEq, Repr

/-- The choice that a word names. -/
def ColorWhen.named? (word : Text) : Option ColorWhen :=
  if word = "auto".toList then some .auto
  else if word = "always".toList then some .always
  else if word = "never".toList then some .never
  else none

/-- What the arguments of a command give. -/
structure Arguments where
  name : Option Text
  views : Option Text
  fallback : Option Text
  context : Option Text
  sets : List Assignment
  color : Option ColorWhen
  json : Bool
  version : Bool
  deriving DecidableEq, Repr

namespace Arguments

/-- Nothing given. -/
def empty : Arguments :=
  ⟨none, none, none, none, [], none, false, false⟩

/-- The path that is given once. -/
def path (earlier : Option Text) (value : Text) : Except UsageError (Option Text) :=
  if earlier.isSome then .error .repeated
  else if value = [] then .error .missingValue
  else .ok (some value)

/-- The arguments with an option given. -/
def give (arguments : Arguments) (option : ValueOption) (value : Text) :
    Except UsageError Arguments :=
  match option with
  | .views => (path arguments.views value).map fun given => { arguments with views := given }
  | .fallback =>
    (path arguments.fallback value).map fun given => { arguments with fallback := given }
  | .context => (path arguments.context value).map fun given => { arguments with context := given }
  | .set =>
    match Assignment.read value with
    | .ok assignment => .ok { arguments with sets := arguments.sets ++ [assignment] }
    | .error error => .error (.invalidAssignment error)
  | .color =>
    if arguments.color.isSome then .error .repeated
    else
      match ColorWhen.named? value with
      | none => .error .missingValue
      | some choice => .ok { arguments with color := some choice }

/-- The arguments with a flag raised. -/
def raise (arguments : Arguments) : Flag → Except UsageError Arguments
  | .help => .error .help
  | .json => if arguments.json then .error .repeated else .ok { arguments with json := true }
  | .verbose => .ok arguments
  | .version => .ok { arguments with version := true }

end Arguments

/-! ### Reading -/

/-- An option that was named, and the value that followed it so far. -/
structure Pending where
  option : ValueOption
  value : Option Text
  deriving DecidableEq, Repr

/-- What was read of the arguments. -/
structure ArgumentReading where
  given : Arguments
  pending : Option Pending
  /-- Whether two dashes alone were read, so that everything else is a name. -/
  onlyNames : Bool
  deriving DecidableEq, Repr

namespace ArgumentReading

/-- Nothing read. -/
def start : ArgumentReading :=
  ⟨.empty, none, false⟩

/-- The arguments with the pending option given. -/
def settle (reading : ArgumentReading) : Except UsageError Arguments :=
  match reading.pending with
  | none => .ok reading.given
  | some ⟨_, none⟩ => .error .missingValue
  | some ⟨option, some value⟩ => reading.given.give option value

/-- The reading once arguments are given and nothing is pending. -/
def resume (reading : ArgumentReading) (given : Arguments) : ArgumentReading :=
  ⟨given, none, reading.onlyNames⟩

/-- The reading behind a switch, with the value that stood in the same argument. -/
def switch (reading : ArgumentReading) (attached : Option Text) :
    Switch → Except UsageError ArgumentReading
  | .value option =>
    match attached with
    | none => reading.settle.map fun given => ⟨given, some ⟨option, none⟩, reading.onlyNames⟩
    | some value => do
      let given ← reading.settle
      reading.resume <$> given.give option value
  | .flag flag =>
    match attached with
    | some _ => .error .unexpectedValue
    | none => do
      let given ← reading.settle
      reading.resume <$> given.raise flag

/-- The reading behind a name. -/
def name (grammar : Grammar) (reading : ArgumentReading) (argument : Text) :
    Except UsageError ArgumentReading :=
  if grammar.takesName ∧ reading.given.name = none then
    reading.settle.map fun given => reading.resume { given with name := some argument }
  else .error .unknownArgument

/-- A value behind a letter, less the equals sign it may begin with. -/
def attachedValue : Text → Text
  | '=' :: value => value
  | value => value

/-- The reading behind letters that share one dash: flags, until an option takes what is
left as its value. Nothing is looked at any more once the version is asked for. -/
def letters (grammar : Grammar) (reading : ArgumentReading) :
    Text → Except UsageError ArgumentReading
  | [] => .ok reading
  | letter :: rest =>
    match grammar.short? letter with
    | none => .error .unknownArgument
    | some (.flag flag) => do
      let next ← reading.switch none (.flag flag)
      if next.given.version then .ok next else letters grammar next rest
    | some (.value option) =>
      reading.switch (if rest = [] then none else some (attachedValue rest)) (.value option)

/-- The reading behind a name that follows two dashes, and the value behind an equals sign. -/
def long (grammar : Grammar) (reading : ArgumentReading) (argument : Text) :
    Except UsageError ArgumentReading :=
  let (name, attached) := match Text.cut? ['='] argument with
    | some (name, value) => (name, some value)
    | none => (argument, none)
  match grammar.long? name with
  | none => .error .unknownArgument
  | some switch => reading.switch attached switch

/-- The reading behind an argument that names no switch: the value of the option in front of
it, or the name. -/
def plain (grammar : Grammar) (reading : ArgumentReading) (argument : Text) :
    Except UsageError ArgumentReading :=
  match reading.pending with
  | some ⟨option, none⟩ => .ok { reading with pending := some ⟨option, some argument⟩ }
  | _ => reading.name grammar argument

/-- The reading behind one more argument. -/
def step (grammar : Grammar) (reading : ArgumentReading) (argument : Text) :
    Except UsageError ArgumentReading :=
  if reading.onlyNames then reading.name grammar argument
  else
    match argument with
    | ['-', '-'] => .ok { reading with onlyNames := true }
    | '-' :: '-' :: rest => reading.long grammar rest
    | '-' :: letter :: rest => reading.letters grammar (letter :: rest)
    | _ => reading.plain grammar argument

/-- The reading behind a row of arguments. -/
def steps (grammar : Grammar) (reading : ArgumentReading) :
    List Text → Except UsageError ArgumentReading
  | [] => .ok reading
  | argument :: rest => do
    let next ← reading.step grammar argument
    steps grammar next rest

end ArgumentReading

/-- What a row of arguments gives. -/
def Arguments.read (grammar : Grammar) (arguments : List Text) : Except UsageError Arguments := do
  let reading ← ArgumentReading.start.steps grammar arguments
  reading.settle

/-! ### The arguments of each command -/

/-- Where a context comes from: a file, and assignments that are made after it is read. -/
structure ContextArguments where
  file : Option Text
  sets : List Assignment
  deriving DecidableEq, Repr

/-- Whether any context is given. -/
def ContextArguments.isGiven (arguments : ContextArguments) : Bool :=
  arguments.file.isSome || !arguments.sets.isEmpty

/-- What is given for a context. -/
def Arguments.contextArguments (arguments : Arguments) : ContextArguments :=
  ⟨arguments.context, arguments.sets⟩

/-- What the environment of a command gives for options that its arguments leave out. -/
structure Environment where
  views : Option Text
  fallback : Option Text
  deriving DecidableEq, Repr

/-- An option, or else what the environment gives for it, which must not be empty. -/
def Environment.orElse (given fromEnvironment : Option Text) : Except UsageError (Option Text) :=
  match given with
  | some value => .ok (some value)
  | none => if fromEnvironment = some [] then .error .missingValue else .ok fromEnvironment

/-- The arguments of a rendering. -/
structure RenderArguments where
  name : Text
  /-- The directory of the templates. -/
  views : Text
  /-- The file of the template that is shown when the one asked for cannot be loaded. -/
  fallback : Option Text
  context : ContextArguments
  json : Bool
  deriving DecidableEq, Repr

/-- The files that a rendering may read. -/
def RenderArguments.paths (arguments : RenderArguments) : List Text :=
  arguments.context.file.toList ++ arguments.fallback.toList ++
    [FilePath.join arguments.views arguments.name]

/-- The directory of the templates when none is given. -/
def defaultViews : Text := ['.']

/-- The arguments of a rendering, when the environment stands in for what is not given. -/
def RenderArguments.ofGiven (environment : Environment) (given : Arguments) :
    Except UsageError RenderArguments := do
  let views ← Environment.orElse given.views environment.views
  let fallback ← Environment.orElse given.fallback environment.fallback
  match given.name with
  | none => .error .missingName
  | some name => .ok ⟨name, views.getD defaultViews, fallback, given.contextArguments, given.json⟩

/-- The arguments of a rendering that a row of arguments gives. -/
def RenderArguments.read (environment : Environment) (arguments : List Text) :
    Except UsageError RenderArguments := do
  let given ← Arguments.read .render arguments
  ofGiven environment given

/-- The arguments of a check. -/
structure CheckArguments where
  /-- The file of the template. -/
  file : Text
  context : ContextArguments
  json : Bool
  deriving DecidableEq, Repr

/-- The files that a check may read. -/
def CheckArguments.paths (arguments : CheckArguments) : List Text :=
  arguments.file :: arguments.context.file.toList

/-- The arguments of a check, of which only the file must be given. -/
def CheckArguments.ofGiven (given : Arguments) : Except UsageError CheckArguments :=
  match given.name with
  | none => .error .missingName
  | some [] => .error .missingValue
  | some file => .ok ⟨file, given.contextArguments, given.json⟩

/-- The context that a row of arguments gives, when they give nothing else. -/
def ContextArguments.read (arguments : List Text) : Except UsageError ContextArguments := do
  let given ← Arguments.read .context arguments
  return given.contextArguments

end Stencil
