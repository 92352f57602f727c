import HomeConfig.Notice
import HomeConfig.Number.Numeral

/-!
# The command line

The first argument names a command, and the others are its options and files.  An option has a
name behind two dashes; one with a value may also have a letter behind one dash.  The value stands
behind an equals sign, directly behind the letter, or in the next argument, whatever that looks
like.  Two dashes alone end the options.  Of an option that is given twice the last value counts.

The command is known before its arguments are read, since settings are read in between.
-/

namespace HomeConfig

/-- What can be asked for on the command line. -/
inductive Verb
  | serve
  | check
  | status
  | version
deriving DecidableEq, Repr

/-- Why nothing is done. -/
inductive Refusal
  /-- The arguments make no sense. -/
  | usage
  /-- Help is asked for. -/
  | help
deriving DecidableEq, Repr

namespace Arguments

/-- The options of a command. -/
structure Options where
  flags : List String
  /-- The options with values, with their letters. -/
  valued : List (String × Char)

/-- Arguments that have been read. -/
structure Given where
  flags : List String
  /-- The values of options, last one first. -/
  values : List (String × String)
  files : List String

/-- The option with a letter. -/
def Options.named? (options : Options) (letter : Char) : Option String :=
  (options.valued.find? (·.2 == letter)).map (·.1)

/-- Whether an option has a value. -/
def Options.hasValue (options : Options) (name : String) : Bool :=
  (options.valued.lookup name).isSome

/-- What an argument is. -/
inductive Shape
  | file
  /-- The end of the options. -/
  | stop
  /-- An option with a name, and a value behind an equals sign. -/
  | long (name : String) (value : Option String)
  /-- An option with a letter, and a value directly behind it. -/
  | short (letter : Char) (value : Option String)

/-- What an argument is. -/
def shape (argument : String) : Shape :=
  match argument.toList with
  | ['-', '-'] => .stop
  | '-' :: '-' :: text =>
    let (name, value) := Text.cut '=' text
    .long (String.ofList name) (value.map String.ofList)
  | '-' :: letter :: text =>
    .short letter (if text.isEmpty then none else some (String.ofList text))
  | _ => .file

/-- What reading an argument leads to. -/
inductive Step
  | refused
  /-- The options end here. -/
  | stopped
  | taken (given : Given)
  /-- The next argument is the value of an option. -/
  | awaits (name : String)

/-- Take a file. -/
def Given.addFile (given : Given) (file : String) : Given :=
  { given with files := given.files ++ [file] }

/-- Take an option without a value. -/
def Given.addFlag (given : Given) (name : String) : Given :=
  { given with flags := name :: given.flags }

/-- Take an option with its value. -/
def Given.addValue (given : Given) (name value : String) : Given :=
  { given with values := (name, value) :: given.values }

/-- Read an argument after those that have been read. -/
def step (options : Options) (given : Given) (argument : String) : Step :=
  match shape argument with
  | .file => .taken (given.addFile argument)
  | .stop => .stopped
  | .long name none =>
    if options.hasValue name then .awaits name
    else if options.flags.contains name then .taken (given.addFlag name)
    else .refused
  | .long name (some value) =>
    if options.hasValue name then .taken (given.addValue name value) else .refused
  | .short letter value =>
    match options.named? letter, value with
    | none, _ => .refused
    | some name, none => .awaits name
    | some name, some value => .taken (given.addValue name value)

/-- Read arguments after those that have been read. -/
def read (options : Options) (given : Given) : List String → Option Given
  | [] => some given
  | argument :: rest =>
    match step options given argument with
    | .refused => none
    | .stopped => some { given with files := given.files ++ rest }
    | .taken given => read options given rest
    | .awaits name =>
      match rest with
      | [] => none
      | value :: rest => read options (given.addValue name value) rest

end Arguments

namespace Verb

/-- The commands by name. -/
def names : List (String × Verb) :=
  [("serve", serve), ("check", check), ("status", status), ("version", version)]

/-- The command that arguments name, and its own arguments. -/
def ofArguments : List String → Except Refusal (Verb × List String)
  | "--" :: name :: rest => find name rest
  | "--help" :: _ => .error .help
  | name :: rest => find name rest
  | [] => .error .usage
where
  /-- The command with a name. -/
  find (name : String) (rest : List String) : Except Refusal (Verb × List String) :=
    match names.lookup name with
    | some verb => .ok (verb, rest)
    | none => .error .usage

/-- The options of a command. -/
def options : Verb → Arguments.Options
  | serve => ⟨["help", "tcp"], [("host", 'h'), ("port", 'p'), ("log-level", 'l')]⟩
  | _ => ⟨["help"], []⟩

end Verb

/-- How the server talks to an editor. -/
inductive Transport
  | stdio
  | tcp (host : String) (port : Int)
deriving DecidableEq, Repr

/-- What is to be done. -/
inductive Command
  /-- Serve, with a threshold for the log other than that of the settings. -/
  | serve (transport : Transport) (level : Option Level)
  | check (files : List String)
  | status
  | version

namespace Command

/-- A character as a capital letter, as far as the names of levels have such letters. -/
def capital (c : Char) : Char :=
  if c = 'ı' then 'I' else c.toUpper

/-- The level with a name, in any case. -/
def level? (name : String) : Option Level :=
  [Level.debug, .info, .warning, .error].find? fun level =>
    level.name.toList = name.toList.map capital

/-- The way to serve that arguments ask for. -/
def readServe (given : Arguments.Given) : Option Command := do
  if !given.files.isEmpty then none
  let host := (given.values.lookup "host").getD "127.0.0.1"
  let port ← match given.values.lookup "port" with
    | some port => Numeral.integer? 10 port.toList
    | none => some 2087
  let level ← match given.values.lookup "log-level" with
    | none => some none
    | some "" => some none
    | some name => (level? name).map some
  return .serve (if given.flags.contains "tcp" then .tcp host port else .stdio) level

/-- Whether an argument can name a file: not with a separator, or the name `.`, at its end. -/
def namesFile (argument : String) : Bool :=
  !Text.endsWith ['/'] argument.toList && !Text.endsWith ['/', '.'] argument.toList

/-- What the arguments of a command ask for.  Files must exist. -/
def read (isFile : String → Bool) (verb : Verb) (arguments : List String) :
    Except Refusal Command :=
  match Arguments.read verb.options ⟨[], [], []⟩ arguments with
  | none => .error .usage
  | some given =>
    if given.flags.contains "help" then .error .help
    else
      let command := match verb with
        | .serve => readServe given
        | .check =>
          if !given.files.isEmpty && given.files.all fun file => namesFile file && isFile file then
            some (check given.files)
          else none
        | .status => if given.files.isEmpty then some status else none
        | .version => if given.files.isEmpty then some version else none
      match command with
      | some command => .ok command
      | none => .error .usage

end Command

end HomeConfig
