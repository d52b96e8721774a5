import TargetAbi.Toml.Decoding

/-!
# Loading configurations

A configuration is loaded from a file that holds its TOML form in UTF-8. A `FileSystem` answers for
every path what it leads to.
-/

set_option autoImplicit false

namespace TargetAbi

/-- What a path leads to. -/
inductive FileState where
  | missing
  | directory
  /-- Something that is there but refuses to be read, for a reason in the words of the system. -/
  | unreadable (reason : String)
  | file (content : ByteArray)

/-- What each path leads to. -/
abbrev FileSystem := String → FileState

/-- Why something that a path leads to has no text. -/
inductive IoError where
  | isDirectory
  | invalidUtf8
  | system (reason : String)
  deriving DecidableEq, Repr

/-- The message for an unreadable file. -/
def IoError.message : IoError → String
  | isDirectory => "Is a directory (os error 21)"
  | invalidUtf8 => "stream did not contain valid UTF-8"
  | system reason => reason

/-- Why no configuration was loaded. -/
inductive LoadError where
  | notFound (path : String)
  | io (cause : IoError)
  | toml (cause : Toml.ReadError)
  deriving DecidableEq, Repr

/-- The message for a failed load. -/
def LoadError.message : LoadError → String
  | notFound path => "target file not found: " ++ path
  | io cause => "I/O error: " ++ cause.message
  | toml cause => "TOML parse error: " ++ cause.message

/-- What went wrong, followed by the cause of it. -/
def LoadError.chain (e : LoadError) : List String :=
  match e with
  | notFound _ => [e.message]
  | io cause => [e.message, cause.message]
  | toml cause => [e.message, cause.message]

/-- The text at a path. -/
def FileSystem.readText (files : FileSystem) (path : String) : Except LoadError String :=
  match files path with
  | .missing => .error (.notFound path)
  | .directory => .error (.io .isDirectory)
  | .unreadable reason => .error (.io (.system reason))
  | .file content =>
    match String.fromUTF8? content with
    | none => .error (.io .invalidUtf8)
    | some text => .ok text

/-- The configuration in the file at a path. -/
def Config.load (files : FileSystem) (path : String) : Except LoadError Config :=
  match files.readText path with
  | .error e => .error e
  | .ok text =>
    match Config.ofToml text with
    | .ok c => .ok c
    | .error e => .error (.toml e)

end TargetAbi
