import GladeGo.Conversion.Generate

/-! # Command-line arguments

Options are written `--name value` or `--name=value`, flags `--name`; the short flags may be joined.
Apart from `--verbose` each is given at most once. -/

namespace GladeGo.CommandLine

/-- Why arguments are not understood. -/
inductive UsageFault where
  | unexpected (argument : String)
  | missingValue (option : String)
  | emptyValue (option : String)
  | repeated (option : String)
  | missing (option : String)
  deriving Repr, DecidableEq

/-- The wording of a usage fault. -/
def UsageFault.message : UsageFault → String
  | .unexpected argument => "unexpected argument '" ++ argument ++ "' found"
  | .missingValue option => "a value is required for '" ++ option ++ "' but none was supplied"
  | .emptyValue option => "a value is required for '" ++ option ++ "' but none was supplied"
  | .repeated option => "the argument '" ++ option ++ "' cannot be used multiple times"
  | .missing option => "the required argument '" ++ option ++ "' was not provided"

/-- What a run does with the document. -/
inductive Task where
  /-- Shows the window plans. -/
  | dump
  /-- Writes a Go file. -/
  | write (output : String)
  deriving Repr, DecidableEq

/-- The arguments of a run. -/
structure Arguments where
  input : String
  task : Task
  /-- Whether an existing output is replaced. -/
  force : Bool
  packageName : String
  wxImport : String
  /-- How many times more detail was asked for in the log. -/
  verbosity : Nat
  deriving Repr, DecidableEq

/-- The options with values. -/
inductive ValueOption where
  | input
  | output
  | packageName
  | wxImport
  deriving Repr, DecidableEq

/-- The options without values. -/
inductive Flag where
  | force
  | dumpUnits
  | verbose
  | help
  | version
  deriving Repr, DecidableEq

/-- What was given so far: the options with their values and the flags, the last one first. -/
structure Given where
  values : List (ValueOption × String)
  flags : List Flag
  deriving Repr

/-- The long name of an option. -/
def ValueOption.name : ValueOption → String
  | .input => "--in"
  | .output => "--out"
  | .packageName => "--package-name"
  | .wxImport => "--wx-import"

/-- The long name of a flag. -/
def Flag.name : Flag → String
  | .force => "--force"
  | .dumpUnits => "--dump-units"
  | .verbose => "--verbose"
  | .help => "--help"
  | .version => "--version"

/-- The options with values, by their long names. -/
def valueOption? (name : String) : Option ValueOption :=
  [.input, .output, .packageName, .wxImport].find? fun option => option.name == name

/-- The flags, by their long names. -/
def flag? (name : String) : Option Flag :=
  [.force, .dumpUnits, .verbose, .help, .version].find? fun flag => flag.name == name

/-- The flags, by their short names. -/
def shortFlag? (c : Char) : Option Flag :=
  if c = 'f' then some .force
  else if c = 'v' then some .verbose
  else if c = 'h' then some .help
  else if c = 'V' then some .version
  else none

/-- Whether an option must not have an empty value. -/
def ValueOption.isPath : ValueOption → Bool
  | .input => true
  | .output => true
  | .packageName => false
  | .wxImport => false

namespace Given

/-- Adds an option with its value. -/
def addValue (given : Given) (option : ValueOption) (value : String) : Except UsageFault Given :=
  if option.isPath && value == "" then .error (.emptyValue option.name)
  else if (given.values.lookup option).isSome then .error (.repeated option.name)
  else .ok { given with values := (option, value) :: given.values }

/-- Adds a flag. -/
def addFlag (given : Given) (flag : Flag) : Except UsageFault Given :=
  if flag ≠ .verbose ∧ flag ∈ given.flags then .error (.repeated flag.name)
  else .ok { given with flags := flag :: given.flags }

/-- Adds the flags of an argument such as `-fv`. -/
def addShortFlags (given : Given) (argument : String) : List Char → Except UsageFault Given
  | [] => .ok given
  | c :: cs =>
    match shortFlag? c with
    | none => .error (.unexpected argument)
    | some flag => do (← given.addFlag flag).addShortFlags argument cs

end Given

/-- Whether an argument has the form of an option. A lone dash is a value. -/
def looksLikeOption (argument : String) : Bool :=
  match argument.toList with
  | '-' :: _ :: _ => true
  | _ => false

/-- Reads arguments after what was given so far. -/
def readArguments (given : Given) : List String → Except UsageFault Given
  | [] => .ok given
  | argument :: rest =>
    match argument.toList with
    | '-' :: '-' :: name =>
      let long := String.ofList ('-' :: '-' :: name.takeWhile (· != '='))
      let attached := name.dropWhile (· != '=')
      match valueOption? long, attached with
      | some option, _ :: value => do
        readArguments (← given.addValue option (String.ofList value)) rest
      | some option, [] =>
        match rest with
        | [] => .error (.missingValue long)
        | value :: rest =>
          if looksLikeOption value then .error (.missingValue long)
          else do readArguments (← given.addValue option value) rest
      | none, [] =>
        match flag? long with
        | some flag => do readArguments (← given.addFlag flag) rest
        | none =>
          match name, rest with
          | [], [] => .ok given
          | _, _ => .error (.unexpected argument)
      | none, _ :: _ => .error (.unexpected argument)
    | '-' :: c :: cs => do readArguments (← given.addShortFlags argument (c :: cs)) rest
    | _ => .error (.unexpected argument)

/-- What a command line asks for. -/
inductive Invocation where
  | run (arguments : Arguments)
  | help
  | version
  deriving Repr, DecidableEq

/-- The arguments that were given; the input is required, and so is an output, unless the plans are
only to be shown. -/
def Given.arguments (given : Given) : Except UsageFault Arguments := do
  let input ← match given.values.lookup .input with
    | some input => .ok input
    | none => .error (.missing ValueOption.input.name)
  let task ←
    if .dumpUnits ∈ given.flags then .ok .dump
    else
      match given.values.lookup .output with
      | some output => .ok (.write output)
      | none => .error (.missing ValueOption.output.name)
  .ok {
    input
    task
    force := .force ∈ given.flags
    packageName := (given.values.lookup .packageName).getD Go.FileOptions.standard.packageName
    wxImport := (given.values.lookup .wxImport).getD Go.FileOptions.standard.wxImport
    verbosity := given.flags.count .verbose }

/-- Reads a command line. -/
def readInvocation (arguments : List String) : Except UsageFault Invocation := do
  let given ← readArguments ⟨[], []⟩ arguments
  if .help ∈ given.flags then .ok .help
  else if .version ∈ given.flags then .ok .version
  else .ok (.run (← given.arguments))

end GladeGo.CommandLine
