import TargetAbi.Constant.Literal
import TargetAbi.Constant.Reinterpret
import TargetAbi.Json.Encoding
import TargetAbi.Json.Printer
import TargetAbi.Load
import TargetAbi.Preset
import TargetAbi.Printing
import TargetAbi.Report
import TargetAbi.Toml.Printer

/-!
# Commands

What the program can be asked for, and what it answers. A command reads at most one file; it prints,
logs and may fail. `Command.action` is what a command does, step by step, on a machine of a given
byte order, and `Command.run` its outcome as a function of the file system.
-/

set_option autoImplicit false

namespace TargetAbi

/-- A command with its arguments as they were given. -/
inductive Command where
  /-- List the presets. -/
  | list
  /-- Describe a preset or the target in a file. -/
  | describe (preset config format : Option String)
  /-- Look for suspicious combinations in a file. -/
  | validate (file : String)
  /-- Print the file of a preset. -/
  | template (preset : String)
  /-- Reinterpret a literal of one type as another type. -/
  | paint (value source target : String)
  /-- Check a vector type on a preset or the target in a file. -/
  | vector (size : UInt64) (element : String) (preset config : Option String)
  deriving DecidableEq, Repr

/-- Why a command fails. -/
inductive CommandError where
  | unknownFormat (name : String)
  | presetAndConfig
  | noTarget
  | unknownTarget (name : String)
  | loading (path : String) (cause : LoadError)
  | unknownPreset (cause : UnknownPreset)
  | unknownType (cause : UnknownName)
  | literal (cause : LiteralError)
  | reinterpret (cause : ReinterpretError)
  | illegalVector
  deriving DecidableEq, Repr

/-- What went wrong, followed by the causes of it. -/
def CommandError.chain : CommandError → List String
  | unknownFormat name => ["unknown format '" ++ name ++ "' (expected human, toml, or json)"]
  | presetAndConfig => ["give either a preset name or --config, not both"]
  | noTarget => ["no target given; pass a preset name or --config <file>"]
  | unknownTarget name =>
    ["unknown target: '" ++ name ++ "'. Use 'abiscope list' to see available targets."]
  | loading path cause => ("loading " ++ path) :: cause.chain
  | unknownPreset cause => [cause.message]
  | unknownType cause => [cause.message]
  | literal cause => cause.chain
  | reinterpret cause => [cause.message]
  | illegalVector => ["illegal vector type"]

/-- The message for a failed command. -/
def CommandError.message (e : CommandError) : String := String.intercalate ": " e.chain

/-- What comes of a command but for the log: the text that it prints, and why it fails, if it
does. -/
structure Outcome where
  stdout : String
  error : Option CommandError
  deriving DecidableEq, Repr

/-- The outcome of a computation: what it printed until it ended or failed. -/
def Outcome.ofPrinting (m : Printing CommandError Unit) : Outcome :=
  match m.result with
  | .ok () => ⟨m.stdout, none⟩
  | .error e => ⟨m.stdout, some e⟩

/-- How a target is described. -/
inductive DescriptionFormat where
  | human
  | toml
  | json
  deriving DecidableEq, Repr

/-- The format that a name stands for; without a name it is the one for people. -/
def DescriptionFormat.parse : Option String → Except CommandError DescriptionFormat
  | none => .ok human
  | some name =>
    if name = "human" then .ok human
    else if name = "toml" then .ok toml
    else if name = "json" then .ok json
    else .error (.unknownFormat name)

/-- The description of a target. -/
def Target.describe (t : Target) : DescriptionFormat → String
  | .human => t.report
  | .toml => t.toToml
  | .json => t.toJson.pretty ++ "\n"

namespace Command

open Printing

/-! ## Records of the log -/

/-- The record of a configuration that was loaded from a file. -/
def loadedRecord (path : String) (c : Config) : LogRecord where
  level := .debug
  origin := "abiscope_targets::parse"
  message := "loaded target " ++ c.text ++ " from " ++ path

/-- The record of a resolved target. -/
def resolvedRecord (t : Target) : LogRecord where
  level := .debug
  origin := "abiscope_targets::target"
  message :=
    "resolved target " ++ t.config.text ++ ": pointer size " ++
      Numeral.decimal t.facts.pointerSize.toNat ++ ", real " ++
      Numeral.decimal t.facts.real.size.toNat ++ "/" ++
      Numeral.decimal t.facts.real.padding.toNat ++ "/" ++
      Numeral.decimal t.facts.real.alignment.toNat

/-- The record of a constant that was reinterpreted as the type `target`. -/
def paintedRecord (c painted : Constant) (target : BasicType) : LogRecord where
  level := .trace
  origin := "abiscope_ctfe::paint"
  message :=
    "painted " ++ c.text ++ " (" ++ c.type.name ++ ") as " ++ painted.text ++ " (" ++
      target.name ++ ")"

/-- The record of a verdict on a vector type. -/
def verdictRecord (c : Config) (size : UInt64) (element : BasicType) : LogRecord where
  level := .debug
  origin := "abiscope::commands::vector"
  message :=
    "vector " ++ Numeral.decimal size.toNat ++ "x" ++ element.name ++ ": " ++
      (c.checkVector size element).constructorName

/-! ## The commands -/

/-- The configuration in a file. -/
def loadConfig (files : FileSystem) (path : String) : Except CommandError Config :=
  (Config.load files path).mapError (.loading path)

/-- The configuration of a preset or in a file; exactly one of them has to be given. -/
def selectConfig (files : FileSystem) : (preset config : Option String) →
    Except CommandError Config
  | some _, some _ => .error .presetAndConfig
  | none, some path => loadConfig files path
  | some name, none =>
    match Preset.resolve? name with
    | some c => .ok c
    | none => .error (.unknownTarget name)
  | none, none => .error .noTarget

/-- The target of a preset or in a file. -/
def selectTarget (files : FileSystem) (preset config : Option String) :
    Printing CommandError Target := do
  let c ← selectConfig files preset config
  match config with
  | some path => log (loadedRecord path c)
  | none => pure ()
  let target := Target.ofConfig c
  log (resolvedRecord target)
  return target

/-- The type that a name stands for. -/
def readType (name : String) : Except CommandError BasicType :=
  (BasicType.parse name).mapError .unknownType

/-- Prints the list of presets. -/
def printPresets : Printing CommandError Unit := do
  printLine "Built-in targets:"
  printLine ""
  forM Preset.all fun p => printLine ("  " ++ Text.padEnd 22 p.name ++ " " ++ p.description)
  printLine ""
  printLine "Use 'abiscope describe <name>' for details."

/-- Prints the description of a target in a format. -/
def printDescription (files : FileSystem) (preset config format : Option String) :
    Printing CommandError Unit := do
  let format ← DescriptionFormat.parse format
  let target ← selectTarget files preset config
  print (target.describe format)

/-- Prints the issues of the configuration in a file, one a line, or that there are none. -/
def printIssues (files : FileSystem) (file : String) : Printing CommandError Unit := do
  let c ← loadConfig files file
  log (loadedRecord file c)
  match c.issues with
  | [] => printLine (file ++ ": ok (" ++ c.text ++ ")")
  | issues => forM issues fun i => printLine (file ++ ": " ++ i.text)

/-- The file of a preset. -/
def templateText (preset : String) : Except CommandError String :=
  ((Preset.require preset).map Config.toToml).mapError .unknownPreset

/-- Prints the file of a preset. -/
def printTemplate (preset : String) : Printing CommandError Unit := do
  let text ← templateText preset
  print text

/-- The constant that a literal denotes. -/
def readLiteral (value : String) (type : BasicType) : Except CommandError Constant :=
  (Constant.read value type).mapError .literal

/-- The constant of another type with the same bits. -/
def reinterpret (order : ByteOrder) (c : Constant) (target : BasicType) :
    Except CommandError Constant :=
  (c.reinterpret order target).mapError .reinterpret

/-- Prints a literal with the constant as which it is reinterpreted, and the bits of that one. -/
def printPainted (order : ByteOrder) (value source target : String) :
    Printing CommandError Unit := do
  let source ← readType source
  let target ← readType target
  let c ← readLiteral value source
  let painted ← reinterpret order c target
  log (paintedRecord c painted target)
  printLine (c.text ++ " (" ++ source.name ++ ") -> " ++ painted.text ++ " (" ++ target.name ++ ")")
  printLine ("bits: " ++ painted.hexBits)

/-- The verdict on a vector type, in one line. -/
def verdictLine (c : Config) (size : UInt64) (element : BasicType) : String :=
  let verdict := c.checkVector size element
  "__vector(" ++ element.name ++ "[" ++ Numeral.decimal size.toNat ++ "]) on " ++ c.text ++ ": " ++
    verdict.text ++ " (code " ++ Numeral.decimal verdict.code ++ ")"

/-- Prints the verdict on a vector type, and fails if the type is illegal. -/
def printVerdict (files : FileSystem) (size : UInt64) (element : String)
    (preset config : Option String) : Printing CommandError Unit := do
  let element ← readType element
  let target ← selectTarget files preset config
  log (verdictRecord target.config size element)
  printLine (verdictLine target.config size element)
  if target.config.checkVector size element ≠ .ok then fail .illegalVector

/-- What a command does on a machine of the given byte order. -/
def action (order : ByteOrder) (files : FileSystem) : Command → Printing CommandError Unit
  | list => printPresets
  | describe preset config format => printDescription files preset config format
  | validate file => printIssues files file
  | template preset => printTemplate preset
  | paint value source target => printPainted order value source target
  | vector size element preset config => printVerdict files size element preset config

/-- The outcome of a command on a machine of the given byte order. -/
def runOn (order : ByteOrder) (files : FileSystem) (c : Command) : Outcome :=
  .ofPrinting (c.action order files)

/-- The outcome of a command on a machine that stores the least significant byte first. -/
def run (files : FileSystem) (c : Command) : Outcome := c.runOn .leastFirst files

/-- The path that a command may read. -/
def path? : Command → Option String
  | validate file => some file
  | describe _ config _ => config
  | vector _ _ _ config => config
  | _ => none

end Command

end TargetAbi
