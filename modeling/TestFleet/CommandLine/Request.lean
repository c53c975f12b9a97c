import TestFleet.Text.Blank
/-!
# Requests on the command line

Options that concern every command stand before its name, options of a command after it. An option
may be given once. A value stands after its option, or after `=`; it must not be empty, and one that
stands apart must not look like an option. After `--` nothing is an option.
-/
namespace TestFleet.CommandLine

/-- What the program is to do. -/
inductive Command where
  /-- Runs the suite. -/
  | run (ignoreFailures : Bool) (junit : Option String)
  /-- Plans the run and says what was found. -/
  | validate
  /-- Lists the pools and their devices. -/
  | devices
  deriving DecidableEq, Repr, Inhabited

/-- What there is help on. -/
inductive Topic where
  | program
  | run
  | validate
  | devices
  | help
  deriving DecidableEq, Repr, Inhabited

/-- What is asked for. -/
inductive Request where
  | invoke (config : String) (verbose : Bool) (command : Command)
  | help (topic : Topic)
  | version
  deriving DecidableEq, Repr, Inhabited

/-- The configuration that is read unless another is named. -/
def defaultConfig : String := "poolrun.toml"

/-- An argument as options see it. -/
inductive Argument where
  /-- A word, or a lone hyphen. -/
  | word (text : String)
  /-- Two hyphens. -/
  | escape
  /-- A name after two hyphens, with what follows `=`. -/
  | long (name : String) (value : Option String)
  /-- Letters after one hyphen. -/
  | short (letters : List Char)
  deriving DecidableEq, Repr, Inhabited

/-- What an argument is. -/
def Argument.ofText (text : String) : Argument :=
  match text.toList with
  | ['-', '-'] => .escape
  | '-' :: '-' :: rest =>
    let name := String.ofList (rest.takeWhile (· != '='))
    match rest.dropWhile (· != '=') with
    | [] => .long name none
    | _ :: value => .long name (some (String.ofList value))
  | '-' :: c :: rest => .short (c :: rest)
  | _ => .word text

/-- A value for an option: it must not be empty. -/
def value? (text : String) : Option String := if text.isEmpty then none else some text

/-- The value in an argument of its own, and the arguments after it. -/
def separateValue? : List String → Option (String × List String)
  | [] => none
  | arg :: rest =>
    match Argument.ofText arg with
    | .word text => (value? text).map (·, rest)
    | _ => none

/-- The value of an option: after `=`, or the next argument. -/
def optionValue? (attached : Option String) (rest : List String) : Option (String × List String) :=
  match attached with
  | some text => (value? text).map (·, rest)
  | none => separateValue? rest

/-- The topic of the help that words ask for. -/
def topic? : List String → Option Topic
  | [] => some .program
  | ["run"] => some .run
  | ["validate"] => some .validate
  | ["devices"] => some .devices
  | ["help"] => some .help
  | _ => none

/-- The options that concern every command, as far as they were read. -/
structure Options where
  config : Option String := none
  verbose : Bool := false
  deriving DecidableEq, Repr, Inhabited

/-- The options with a configuration named; it may be named once. -/
def Options.withConfig? (o : Options) (path : String) : Option Options :=
  if o.config.isSome then none else some { o with config := some path }

/-- The options with more said; that may be asked for once. -/
def Options.withVerbose? (o : Options) : Option Options :=
  if o.verbose then none else some { o with verbose := true }

/-- The request for a command. -/
def Options.request (o : Options) (command : Command) : Request :=
  .invoke (o.config.getD defaultConfig) o.verbose command

/-- Reads the arguments of a command that has no options but help. -/
def plain? (topic : Topic) (command : Command) (o : Options) (args : List String) :
    Option Request :=
  match args with
  | [] => some (o.request command)
  | arg :: rest =>
    match Argument.ofText arg with
    | .long "help" none | .short ('h' :: _) => some (.help topic)
    | .escape => if rest.isEmpty then some (o.request command) else none
    | _ => none

/-- Reads the arguments of the command that runs the suite. -/
def run? (o : Options) (ignoreFailures : Bool) (junit : Option String) :
    Nat → List String → Option Request
  | _, [] => some (o.request (.run ignoreFailures junit))
  | 0, _ :: _ => none
  | fuel + 1, arg :: rest =>
    match Argument.ofText arg with
    | .long "help" none | .short ('h' :: _) => some (.help .run)
    | .long "ignore-failures" none =>
      if ignoreFailures then none else run? o true junit fuel rest
    | .long "junit" attached => do
      let (path, rest) ← optionValue? attached rest
      if junit.isSome then none else run? o ignoreFailures (some path) fuel rest
    | .escape => if rest.isEmpty then some (o.request (.run ignoreFailures junit)) else none
    | _ => none

/-- Reads a command and its arguments. -/
def command? (o : Options) (name : String) (args : List String) : Option Request :=
  match name with
  | "run" => run? o false none args.length args
  | "validate" => plain? .validate .validate o args
  | "devices" => plain? .devices .devices o args
  | "help" => (topic? args).map .help
  | _ => none

/-- What came of letters after one hyphen. -/
inductive Letters where
  /-- The options so far, and whether the configuration's path is the next argument. -/
  | read (o : Options) (wantsPath : Bool)
  | ended (request : Request)
  | refused

/-- Reads letters after one hyphen. -/
def letters (o : Options) : List Char → Letters
  | [] => .read o false
  | 'v' :: rest =>
    match o.withVerbose? with
    | some o => letters o rest
    | none => .refused
  | 'h' :: _ => .ended (.help .program)
  | 'V' :: _ => .ended .version
  | 'c' :: rest =>
    let path := match rest with | '=' :: more => more | more => more
    if rest.isEmpty then .read o true
    else
      match (value? (String.ofList path)).bind o.withConfig? with
      | some o => .read o false
      | none => .refused
  | _ => .refused

/-- Reads the options that concern every command, and then a command. -/
def request? (o : Options) : Nat → List String → Option Request
  | _, [] => none
  | 0, _ :: _ => none
  | fuel + 1, arg :: rest =>
    match Argument.ofText arg with
    | .word name => command? o name rest
    | .escape => none
    | .long "help" none => some (.help .program)
    | .long "version" none => some .version
    | .long "verbose" none => do request? (← o.withVerbose?) fuel rest
    | .long "config" attached => do
      let (path, rest) ← optionValue? attached rest
      request? (← o.withConfig? path) fuel rest
    | .long _ _ => none
    | .short cs =>
      match letters o cs with
      | .refused => none
      | .ended r => some r
      | .read o false => request? o fuel rest
      | .read o true => do
        let (path, rest) ← separateValue? rest
        request? (← o.withConfig? path) fuel rest

/-- Reads the arguments of the program; none if they ask for nothing that it does. -/
def Request.ofArguments? (args : List String) : Option Request := request? {} args.length args

end TestFleet.CommandLine
