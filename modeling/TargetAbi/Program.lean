import TargetAbi.Arguments

/-!
# The program

The exit status and the two output streams of the program as a function of its arguments and the
file system. The status is 0 for success, 1 for a command that fails and 2 for a command line that
makes no request. The error stream has the records of the log that the user asks for, and after them
the error.

The lines of the log, the help and the complaints about a command line come from the libraries that
the program is built with, which also decide how requests for verbosity on both sides of the name of
a command count. They are a parameter, the `Libraries`; `Libraries.plain` has plain texts.
-/

set_option autoImplicit false

namespace TargetAbi

/-- What the program leaves to its libraries. -/
structure Libraries where
  /-- A record as it stands in the log. -/
  logLine : LogRecord → String
  /-- The help on a topic. -/
  help : HelpTopic → String
  /-- The complaint about a command line that makes no request. -/
  usageError : UsageError → String
  /-- How many requests for verbosity count, of those before the name of a command and those after
  it. -/
  verbosity : (before after : Nat) → Nat
  /-- Requests that all stand before the name all count. -/
  verbosity_zero_right : ∀ before, verbosity before 0 = before
  /-- Requests that all stand after the name all count. -/
  verbosity_zero_left : ∀ after, verbosity 0 after = after

namespace Libraries

/-- What a command is for. -/
def summary : CommandName → String
  | .list => "List built-in target presets"
  | .describe => "Show the resolved ABI facts of a target"
  | .validate => "Check a .target.toml file for unusual combinations"
  | .template => "Print a .target.toml seeded from a preset"
  | .paint => "Reinterpret a constant's bits as another type of the same size"
  | .vector => "Check whether a vector type is legal on a target"

/-- A line for each record, and no more than a line of help. Requests for verbosity after the name
of a command replace those before it. -/
def plain : Libraries where
  logLine r := "[" ++ r.level.name ++ "] " ++ r.origin ++ ": " ++ r.message ++ "\n"
  help
    | .program => "Target ABI descriptor inspector\n"
    | .command c => summary c ++ "\n"
    | .help => "Print this message or the help of the given subcommand(s)\n"
  usageError e := "error: " ++ e.message ++ "\n"
  verbosity before after := if after = 0 then before else after
  verbosity_zero_right _ := rfl
  verbosity_zero_left after := by split <;> simp [*]

/-- The log of a run: the records of the levels that are asked for, in order. -/
def logText (lib : Libraries) (asked : LogLevel) (records : List LogRecord) : String :=
  String.join ((records.filter fun r => asked.enables r.level).map lib.logLine)

end Libraries

/-- What a run of the program leaves behind. -/
structure RunResult where
  exit : UInt32
  stdout : String
  stderr : String
  deriving DecidableEq, Repr

/-- The name and version of the program. -/
def versionLine : String := "abiscope 0.1.0\n"

/-- The line in which an error is reported. -/
def errorLine (message : String) : String := "error: " ++ message ++ "\n"

/-- The result of a command with a number of requests for verbosity. -/
def Command.result (lib : Libraries) (order : ByteOrder) (files : FileSystem) (verbosity : Nat)
    (c : Command) : RunResult :=
  let m := c.action order files
  let log := lib.logText (.ofVerbosity verbosity) m.records
  match m.result with
  | .ok () => ⟨0, m.stdout, log⟩
  | .error e => ⟨1, m.stdout, log ++ errorLine e.message⟩

/-- The result of a request on a machine of the given byte order. -/
def Request.result (lib : Libraries) (order : ByteOrder) (files : FileSystem) :
    Request → RunResult
  | version => ⟨0, versionLine, ""⟩
  | help topic => ⟨0, lib.help topic, ""⟩
  | run before after c => c.result lib order files (lib.verbosity before after)

/-- The result of the program with the given arguments on a machine of the given byte order. -/
def runProgramOn (lib : Libraries) (order : ByteOrder) (files : FileSystem)
    (arguments : List String) : RunResult :=
  match Request.ofArguments arguments with
  | .ok r => r.result lib order files
  | .error e => ⟨2, "", lib.usageError e⟩

/-- The result of the program with plain texts on a machine that stores the least significant byte
first. -/
def runProgram (files : FileSystem) (arguments : List String) : RunResult :=
  runProgramOn .plain .leastFirst files arguments

end TargetAbi
