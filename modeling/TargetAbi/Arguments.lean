import TargetAbi.Command

/-!
# Command lines

How the arguments of the program are read as a request. Before the name of a command only `-v` and
the questions for the version and for help may stand. After it come the arguments of the command:
its options, each at most once and in any order, as `--name value` or `--name=value`, and its
positional arguments. `-v` and the question for help may stand anywhere among them; the requests for
verbosity before the name and those after it are counted apart. After `--` every argument is
positional; before it, an argument that starts with a hyphen is never a value, except for a lone
hyphen. A question is answered where it is met, whatever follows it, and an error that stands before
it is reported in its place.
-/

set_option autoImplicit false

namespace TargetAbi

/-- What is wrong with a command line. -/
inductive UsageError where
  | noCommand
  | unknownCommand (name : String)
  | unknownOption (argument : String)
  /-- A flag is given a value. -/
  | unexpectedValue (option : String)
  | missingValue (option : String)
  | repeatedOption (option : String)
  | missingArgument (name : String)
  | surplusArgument (argument : String)
  | emptyPath
  | notASize (argument : String)
  deriving DecidableEq, Repr

/-- The message for a rejected command line. -/
def UsageError.message : UsageError → String
  | noCommand => "no command given"
  | unknownCommand name => "unknown command '" ++ name ++ "'"
  | unknownOption argument => "unknown option '" ++ argument ++ "'"
  | unexpectedValue option => "option '--" ++ option ++ "' takes no value"
  | missingValue option => "option '--" ++ option ++ "' needs a value"
  | repeatedOption option => "option '--" ++ option ++ "' is given more than once"
  | missingArgument name => "missing argument " ++ name
  | surplusArgument argument => "surplus argument '" ++ argument ++ "'"
  | emptyPath => "a path is empty"
  | notASize argument => "'" ++ argument ++ "' is not a size"

/-- Why the arguments of a command are not read to their end. -/
inductive Stop where
  /-- They ask for help on the command. -/
  | help
  | error (cause : UsageError)
  deriving DecidableEq, Repr

/-- An argument by its form. -/
inductive Argument where
  /-- Two hyphens, after which all arguments are positional. -/
  | escape
  /-- A name after two hyphens, with the value after its first equals sign. -/
  | long (name : String) (value : Option String)
  /-- Letters after one hyphen. -/
  | short (letters : List Char)
  | plain (text : String)
  deriving DecidableEq, Repr

/-- The form of an argument. -/
def Argument.ofString (s : String) : Argument :=
  match s.toList with
  | ['-', '-'] => .escape
  | '-' :: '-' :: cs =>
    match cs.span (· != '=') with
    | (name, []) => .long (String.ofList name) none
    | (name, _ :: value) => .long (String.ofList name) (some (String.ofList value))
  | ['-'] => .plain s
  | '-' :: letters => .short letters
  | _ => .plain s

/-- What a command takes: how many positional arguments at most, and which options. -/
structure Parameters where
  positional : Nat
  options : List String
  deriving DecidableEq, Repr

/-- What a command line has given to a command. -/
structure Given where
  positional : List String
  options : List (String × String)
  verbosity : Nat
  deriving DecidableEq, Repr

namespace Given

/-- Nothing so far. -/
def start : Given := ⟨[], [], 0⟩

/-- With one more positional argument. -/
def addPositional (p : Parameters) (g : Given) (text : String) : Except Stop Given :=
  if g.positional.length < p.positional then
    .ok { g with positional := g.positional ++ [text] }
  else .error (.error (.surplusArgument text))

/-- With positional arguments only. -/
def addAllPositional (p : Parameters) : Given → List String → Except Stop Given
  | g, [] => .ok g
  | g, text :: rest =>
    match g.addPositional p text with
    | .ok g => g.addAllPositional p rest
    | .error e => .error e

/-- With the value of an option. -/
def addOption (g : Given) (name value : String) : Except Stop Given :=
  match g.options.lookup name with
  | some _ => .error (.error (.repeatedOption name))
  | none => .ok { g with options := g.options ++ [(name, value)] }

/-- With `n` more steps of verbosity. -/
def addVerbosity (g : Given) (n : Nat) : Given := { g with verbosity := g.verbosity + n }

/-- With an argument that is complete in itself. -/
def addComplete (p : Parameters) (g : Given) (argument : String) : Except Stop Given :=
  match Argument.ofString argument with
  | .plain text => g.addPositional p text
  | .short letters =>
    match letters.dropWhile (· == 'v') with
    | [] => .ok (g.addVerbosity letters.length)
    | 'h' :: _ => .error .help
    | _ => .error (.error (.unknownOption argument))
  | .long name none =>
    if name = "verbose" then .ok (g.addVerbosity 1)
    else if name = "help" then .error .help
    else if name ∈ p.options then .error (.error (.missingValue name))
    else .error (.error (.unknownOption argument))
  | .long name (some value) =>
    if name = "verbose" ∨ name = "help" then .error (.error (.unexpectedValue name))
    else if name ∈ p.options then g.addOption name value
    else .error (.error (.unknownOption argument))
  | .escape => .ok g

/-- The option that an argument names and the next argument gives a value to. -/
def pendingOption? (p : Parameters) (argument : String) : Option String :=
  match Argument.ofString argument with
  | .long name none => if name ∈ p.options then some name else none
  | _ => none

/-- What the arguments after the name of a command give. -/
def read (p : Parameters) : Given → List String → Except Stop Given
  | g, [] => .ok g
  | g, [argument] => g.addComplete p argument
  | g, argument :: next :: rest =>
    if argument = "--" then g.addAllPositional p (next :: rest)
    else
      match pendingOption? p argument with
      | some name =>
        match Argument.ofString next with
        | .plain value =>
          match g.addOption name value with
          | .ok g => g.read p rest
          | .error e => .error e
        | _ => .error (.error (.missingValue name))
      | none =>
        match g.addComplete p argument with
        | .ok g => g.read p (next :: rest)
        | .error e => .error e

/-- The positional argument at a place, which has to be there. -/
def argument (g : Given) (place : Nat) (name : String) : Except UsageError String :=
  match g.positional[place]? with
  | some text => .ok text
  | none => .error (.missingArgument name)

/-- The value of an option that has to be there. -/
def required (g : Given) (name : String) : Except UsageError String :=
  match g.options.lookup name with
  | some value => .ok value
  | none => .error (.missingArgument ("--" ++ name))

/-- The path that an option gives; a path is never empty. -/
def pathOption (g : Given) (name : String) : Except UsageError (Option String) :=
  if g.options.lookup name = some "" then .error .emptyPath else .ok (g.options.lookup name)

end Given

/-- The number of bytes that an argument gives. -/
def readSize (text : String) : Except UsageError UInt64 :=
  match Numeral.readNatural 10 (UInt64.size - 1) text.toList with
  | .ok n => .ok (UInt64.ofNat n)
  | .error _ => .error (.notASize text)

/-- The commands by name, with what they take. -/
inductive CommandName where
  | list
  | describe
  | validate
  | template
  | paint
  | vector
  deriving DecidableEq, Repr

namespace CommandName

/-- The command with the given name. -/
def ofString? : String → Option CommandName
  | "list" => some list
  | "describe" => some describe
  | "validate" => some validate
  | "template" => some template
  | "paint" => some paint
  | "vector" => some vector
  | _ => none

/-- What a command takes. -/
def parameters : CommandName → Parameters
  | list => ⟨0, []⟩
  | describe => ⟨1, ["config", "format"]⟩
  | validate => ⟨1, []⟩
  | template => ⟨1, []⟩
  | paint => ⟨1, ["from", "to"]⟩
  | vector => ⟨2, ["target", "config"]⟩

/-- The command with what is given to it. -/
def complete (g : Given) : CommandName → Except UsageError Command
  | list => .ok .list
  | describe => do
    let config ← g.pathOption "config"
    return .describe g.positional[0]? config (g.options.lookup "format")
  | validate => do
    let file ← g.argument 0 "<FILE>"
    if file = "" then .error .emptyPath else return .validate file
  | template => do
    let preset ← g.argument 0 "<NAME>"
    return .template preset
  | paint => do
    let value ← g.argument 0 "<VALUE>"
    let source ← g.required "from"
    let target ← g.required "to"
    return .paint value source target
  | vector => do
    let size ← g.argument 0 "<SIZE>"
    let size ← readSize size
    let element ← g.argument 1 "<ELEMENT>"
    let config ← g.pathOption "config"
    return .vector size element (g.options.lookup "target") config

end CommandName

/-- What there is help on. -/
inductive HelpTopic where
  | program
  | command (name : CommandName)
  /-- The question for help as a command of its own. -/
  | help
  deriving DecidableEq, Repr

/-- The topic with the given name. -/
def HelpTopic.ofString? (name : String) : Option HelpTopic :=
  if name = "help" then some help else (CommandName.ofString? name).map command

/-- What the program is asked for. -/
inductive Request where
  | version
  | help (topic : HelpTopic)
  /-- Run a command, with the numbers of requests for verbosity before its name and after it. -/
  | run (before after : Nat) (command : Command)
  deriving DecidableEq, Repr

namespace Request

/-- The request for help by the arguments after the word: the name of a command, or none. -/
def ofHelp : List String → Except UsageError Request
  | [] => .ok (.help .program)
  | name :: rest =>
    match HelpTopic.ofString? name, rest with
    | none, _ => .error (.unknownCommand name)
    | some topic, [] => .ok (.help topic)
    | some _, surplus :: _ => .error (.unknownCommand surplus)

/-- The request for a command by its name and arguments. -/
def ofCommand (before : Nat) (name : String) (arguments : List String) :
    Except UsageError Request :=
  match CommandName.ofString? name with
  | none => if name = "help" then ofHelp arguments else .error (.unknownCommand name)
  | some c =>
    match Given.start.read c.parameters arguments with
    | .error .help => .ok (.help (.command c))
    | .error (.error e) => .error e
    | .ok g => (c.complete g).map (.run before g.verbosity)

/-- The request that a command line makes, after a number of requests for verbosity. -/
def read (before : Nat) : List String → Except UsageError Request
  | [] => .error .noCommand
  | argument :: rest =>
    match Argument.ofString argument with
    | .plain name => ofCommand before name rest
    | .short letters =>
      match letters.dropWhile (· == 'v') with
      | [] => read (before + letters.length) rest
      | 'V' :: _ => .ok .version
      | 'h' :: _ => .ok (.help .program)
      | _ => .error (.unknownOption argument)
    | .long name none =>
      if name = "verbose" then read (before + 1) rest
      else if name = "version" then .ok .version
      else if name = "help" then .ok (.help .program)
      else .error (.unknownOption argument)
    | .long name (some _) =>
      if name = "verbose" ∨ name = "version" ∨ name = "help" then .error (.unexpectedValue name)
      else .error (.unknownOption argument)
    | .escape => .error .noCommand

/-- The request that a command line makes. -/
def ofArguments (arguments : List String) : Except UsageError Request := read 0 arguments

/-- The path that a request may read. -/
def path? : Request → Option String
  | version | help _ => none
  | run _ _ c => c.path?

end Request

end TargetAbi
