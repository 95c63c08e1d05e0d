import LoopTemplate.Loop.Adapter

/-!
# Command-line arguments

The program has two commands, each with its own options; `--verbose` goes anywhere. An option gets
its value after `=` or as the next argument. A value that came as an argument of its own is looked
at when the next known argument is reached, or the end; an unknown argument is refused at once.
-/

namespace LoopTemplate.CommandLine

open LoopTemplate.Loop (MergePolicy Target)

/-- What an argument can set. -/
inductive Setting where
  | verbose
  | expression
  | minify
  | target
  | policy
  | file
deriving DecidableEq, Inhabited

namespace Setting

/-- A setting as messages show it. -/
def shown : Setting → String
  | verbose => "--verbose"
  | expression => "--expression"
  | minify => "--minify"
  | target => "--target <TARGET>"
  | policy => "--policy <POLICY>"
  | file => "<FILE>"

/-- Whether a setting needs a value. -/
def takesValue : Setting → Bool
  | verbose | expression | minify => false
  | target | policy | file => true

end Setting

/-- What help can be about. -/
inductive Topic where
  | program
  | compile
  | build
  | help
deriving DecidableEq, Inhabited

/-- Why arguments are refused. -/
inductive UsageError where
  | unexpectedArgument (argument : String)
  | unknownCommand (word : String)
  | repeated (setting : Setting)
  | missingValue (setting : Setting)
  /-- A value for an option that takes none. -/
  | unwantedValue (value option : String)
  | invalidValue (value : String) (setting : Setting) (reason : String)
  | missingFile
  | missingCommand
deriving DecidableEq, Inhabited

/-- The wording of a refusal. -/
def UsageError.message : UsageError → String
  | unexpectedArgument argument => "error: unexpected argument '" ++ argument ++ "' found"
  | unknownCommand word => "error: unrecognized subcommand '" ++ word ++ "'"
  | repeated setting =>
      "error: the argument '" ++ setting.shown ++ "' cannot be used multiple times"
  | missingValue setting =>
      "error: a value is required for '" ++ setting.shown ++ "' but none was supplied"
  | unwantedValue value option =>
      "error: unexpected value '" ++ value ++ "' for '" ++ option
        ++ "' found; no more were expected"
  | invalidValue value setting reason =>
      "error: invalid value '" ++ value ++ "' for '" ++ setting.shown ++ "': " ++ reason
  | missingFile => "error: the following required arguments were not provided:\n  <FILE>"
  | missingCommand => "error: 'jsx2mp' requires a subcommand but one was not provided"

/-- Why arguments ask for no command. -/
inductive Stop where
  | usage (error : UsageError)
  | help (topic : Topic)
  | version
  /-- There is nothing to do. -/
  | nothing
deriving DecidableEq, Inhabited

/-! ## Settings -/

/-- The settings that arguments make. -/
structure Settings where
  verbose : Bool
  expression : Bool
  minify : Bool
  target : Option Target
  policy : Option MergePolicy
  file : Option String
deriving DecidableEq, Inhabited

namespace Settings

/-- No settings. -/
def none : Settings := ⟨false, false, false, .none, .none, .none⟩

/-- Whether a setting was made. -/
def has (settings : Settings) : Setting → Bool
  | .verbose => settings.verbose
  | .expression => settings.expression
  | .minify => settings.minify
  | .target => settings.target.isSome
  | .policy => settings.policy.isSome
  | .file => settings.file.isSome

/-- Makes a setting from a text that is not looked at if the setting takes no value. -/
def set (settings : Settings) (setting : Setting) (value : String) :
    Except UsageError Settings :=
  match setting with
  | .verbose => .ok { settings with verbose := true }
  | .expression => .ok { settings with expression := true }
  | .minify => .ok { settings with minify := true }
  | .target =>
      match Target.parse value with
      | .ok target => .ok { settings with target := some target }
      | .error error => .error (.invalidValue value setting error.message)
  | .policy =>
      match MergePolicy.parse value with
      | .ok policy => .ok { settings with policy := some policy }
      | .error reason => .error (.invalidValue value setting reason)
  | .file =>
      if value.isEmpty then .error (.missingValue setting)
      else .ok { settings with file := some value }

/-- Makes a setting that was not made before, with the value it needs. -/
def assign (settings : Settings) (setting : Setting) (value : Option String) :
    Except UsageError Settings :=
  if setting.takesValue && value.isNone then .error (.missingValue setting)
  else if settings.has setting then .error (.repeated setting)
  else settings.set setting (value.getD "")

end Settings

/-! ## Options -/

/-- What an option does. -/
inductive Switch where
  | set (setting : Setting)
  | help
  | version
deriving DecidableEq, Inhabited

/-- Where arguments are read: before the command, or after it. -/
inductive Scope where
  | program
  | compile
  | build
deriving DecidableEq, Inhabited

namespace Scope

/-- What help is about where arguments are read. -/
def topic : Scope → Topic
  | program => .program
  | compile => .compile
  | build => .build

/-- The options by their long names. -/
def longOptions : Scope → List (String × Switch)
  | program => [("verbose", .set .verbose), ("help", .help), ("version", .version)]
  | compile =>
      [("target", .set .target), ("policy", .set .policy), ("expression", .set .expression),
        ("minify", .set .minify), ("verbose", .set .verbose), ("help", .help)]
  | build => [("target", .set .target), ("verbose", .set .verbose), ("help", .help)]

/-- The options by their letters. -/
def shortOptions : Scope → List (Char × Switch)
  | program => [('v', .set .verbose), ('h', .help), ('V', .version)]
  | compile | build => [('v', .set .verbose), ('h', .help)]

end Scope

/-- The shape of an argument. -/
inductive Shape where
  /-- No options follow. -/
  | escape
  | long (name : String) (value : Option String)
  | short (letters : List Char)
  | word
deriving DecidableEq, Inhabited

/-- The shape of an argument: a lone dash is a word. -/
def shapeOf (argument : String) : Shape :=
  match argument.toList with
  | ['-', '-'] => .escape
  | '-' :: '-' :: chars =>
      let name := chars.takeWhile (· != '=')
      match chars.drop name.length with
      | [] => .long (String.ofList name) none
      | _ :: value => .long (String.ofList name) (some (String.ofList value))
  | '-' :: letter :: letters => .short (letter :: letters)
  | _ => .word

/-! ## Reading arguments -/

/-- The settings so far, and the one that was named last and is not made yet. -/
structure Reading where
  settings : Settings
  pending : Option (Setting × Option String)
  /-- No more options are read. -/
  escaped : Bool
deriving DecidableEq, Inhabited

namespace Reading

/-- The start. -/
def start : Reading := ⟨Settings.none, none, false⟩

/-- Makes a setting. -/
def assign (reading : Reading) (setting : Setting) (value : Option String) :
    Except Stop Reading := do
  let settings ← (reading.settings.assign setting value).mapError .usage
  return { reading with settings }

/-- Makes the setting that was named last. -/
def settle (reading : Reading) : Except Stop Reading :=
  match reading.pending with
  | some (setting, value) => { reading with pending := none }.assign setting value
  | none => .ok reading

/-- Whether a file was named. -/
def namesFile (reading : Reading) : Bool :=
  reading.settings.file.isSome
    || match reading.pending with
      | some (setting, _) => setting == .file
      | none => false

end Reading

/-- Reads an option without a value. -/
def readSwitch (scope : Scope) (reading : Reading) (switch : Switch) : Except Stop Reading := do
  let reading ← reading.settle
  match switch with
  | .set setting => reading.assign setting none
  | .help => throw (.help scope.topic)
  | .version => throw .version

/-- Reads an option by its long name. -/
def readLong (scope : Scope) (reading : Reading) (name : String) (value : Option String) :
    Except Stop Reading :=
  match scope.longOptions.lookup name, value with
  | none, _ => throw (.usage (.unexpectedArgument ("--" ++ name)))
  | some (.set setting), some text =>
      if setting.takesValue then do
        let reading ← reading.settle
        reading.assign setting (some text)
      else throw (.usage (.unwantedValue text ("--" ++ name)))
  | some _, some text => throw (.usage (.unwantedValue text ("--" ++ name)))
  | some (.set setting), none =>
      if setting.takesValue then do
        let reading ← reading.settle
        return { reading with pending := some (setting, none) }
      else readSwitch scope reading (.set setting)
  | some switch, none => readSwitch scope reading switch

/-- Reads options by their letters. -/
def readShort (scope : Scope) : Reading → List Char → Except Stop Reading
  | reading, [] => .ok reading
  | reading, letter :: letters =>
      match scope.shortOptions.lookup letter with
      | some switch => do readShort scope (← readSwitch scope reading switch) letters
      | none => throw (.usage (.unexpectedArgument ("-" ++ letter.toString)))

/-- The commands, with what help is about. -/
def commandTopics : List (String × Topic) :=
  [("compile", .compile), ("build", .build), ("help", .help)]

/-- Reads a word that is no value of an option. -/
def readWord (scope : Scope) (reading : Reading) (word : String) : Except Stop Reading :=
  match scope with
  | .compile =>
      if reading.namesFile then throw (.usage (.unexpectedArgument word))
      else do
        let reading ← reading.settle
        return { reading with pending := some (.file, some word) }
  | .build => throw (.usage (.unexpectedArgument word))
  | .program =>
      if (commandTopics.lookup word).isSome then throw (.usage (.unexpectedArgument word))
      else throw (.usage (.unknownCommand word))

/-- Reads one argument. -/
def readArgument (scope : Scope) (reading : Reading) (argument : String) : Except Stop Reading :=
  if reading.escaped then readWord scope reading argument
  else match shapeOf argument with
    | .escape => .ok { reading with escaped := true }
    | .long name value => readLong scope reading name value
    | .short letters => readShort scope reading letters
    | .word =>
        match reading.pending with
        | some (setting, none) => .ok { reading with pending := some (setting, some argument) }
        | _ => readWord scope reading argument

/-- Reads all arguments of a command. -/
def readArguments (scope : Scope) : Reading → List String → Except Stop Settings
  | reading, [] => do return (← reading.settle).settings
  | reading, argument :: arguments => do
      readArguments scope (← readArgument scope reading argument) arguments

/-! ## Commands -/

/-- What the program is asked to do. -/
inductive Command where
  | compile (file : String) (target : Target) (policy : MergePolicy) (expression minify : Bool)
  /-- Builds the project, for another host if one is given. -/
  | build (target : Option Target)
deriving DecidableEq, Inhabited

/-- The command that settings make. -/
def commandOf (scope : Scope) (settings : Settings) : Except Stop Command :=
  match scope, settings.file with
  | .compile, some file =>
      .ok (.compile file (settings.target.getD .ali) (settings.policy.getD .flatten)
        settings.expression settings.minify)
  | .compile, none => throw (.usage .missingFile)
  | .build, _ => .ok (.build settings.target)
  | .program, _ => throw (.usage .missingCommand)

/-- A command, and whether the program logs what it does. -/
structure Invocation where
  command : Command
  verbose : Bool
deriving DecidableEq, Inhabited

/-- Reads the arguments after a command's name. -/
def readCommand (scope : Scope) (verbose : Bool) (arguments : List String) :
    Except Stop Invocation := do
  let settings ← readArguments scope .start arguments
  return ⟨← commandOf scope settings, verbose || settings.verbose⟩

/-- What the help command is asked about. -/
def helpTopic : List String → Except Stop Topic
  | [] => .ok .program
  | word :: words =>
      match commandTopics.lookup word, words with
      | some topic, [] => .ok topic
      | some _, other :: _ => throw (.usage (.unknownCommand other))
      | none, _ => throw (.usage (.unknownCommand word))

/-- Reads arguments up to a command's name, and then those of the command. -/
def readProgram : Reading → List String → Except Stop Invocation
  | reading, [] =>
      if reading.settings.verbose then throw (.usage .missingCommand) else throw .nothing
  | reading, argument :: arguments =>
      let next := do readProgram (← readArgument .program reading argument) arguments
      if reading.escaped then next
      else match commandTopics.lookup argument with
        | some .compile => readCommand .compile reading.settings.verbose arguments
        | some .build => readCommand .build reading.settings.verbose arguments
        | some .help => do throw (.help (← helpTopic arguments))
        | _ => next

/-- What arguments ask for. -/
def parseArguments (arguments : List String) : Except Stop Invocation :=
  readProgram .start arguments

end LoopTemplate.CommandLine
