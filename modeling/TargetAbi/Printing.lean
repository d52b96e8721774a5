/-!
# Computations that print and log

A computation that prints to the standard output, writes records to a log and may fail. What it has
printed and logged before it fails stays, and after that it prints and logs nothing more.

* `ofExcept`, `fail`: results and failures without any output.
* `print`, `printLine`, `log`: output without any other result.
* `>>=`: one computation after the other, the second one with the result of the first.

Every record has a level. Which of them are written is decided by the level that the user asks for
(`LogLevel.ofVerbosity`, `LogLevel.enables`), and not by the computation.
-/

set_option autoImplicit false

namespace TargetAbi

/-- How much detail a record adds, or a user asks for. -/
inductive LogLevel where
  | warn
  | debug
  | trace
  deriving DecidableEq, Repr

namespace LogLevel

/-- The level that is asked for with a number of requests for verbosity. -/
def ofVerbosity : Nat → LogLevel
  | 0 => warn
  | 1 => debug
  | _ => trace

/-- Whether records of a level are written where `asked` is asked for. -/
def enables (asked : LogLevel) : LogLevel → Bool
  | warn => true
  | debug => asked ≠ warn
  | trace => asked = trace

/-- The name of a level in the log. -/
def name : LogLevel → String
  | warn => "WARN"
  | debug => "DEBUG"
  | trace => "TRACE"

end LogLevel

/-- A record of the log: its level, the part of the program that writes it, and its message. -/
structure LogRecord where
  level : LogLevel
  origin : String
  message : String
  deriving DecidableEq, Repr

/-- What a computation has printed and logged, and its result or the error with which it stopped. -/
structure Printing (ε α : Type) where
  stdout : String
  records : List LogRecord
  result : Except ε α

namespace Printing

variable {ε α β : Type}

/-- A result, or a failure, without any output. -/
def ofExcept (r : Except ε α) : Printing ε α := ⟨"", [], r⟩

/-- A failure. -/
def fail (e : ε) : Printing ε α := ofExcept (.error e)

/-- Prints a text. -/
def print (text : String) : Printing ε Unit := ⟨text, [], .ok ()⟩

/-- Prints a text and the end of a line. -/
def printLine (text : String) : Printing ε Unit := print (text ++ "\n")

/-- Writes a record to the log. -/
def log (record : LogRecord) : Printing ε Unit := ⟨"", [record], .ok ()⟩

/-- One computation after the other; the second one runs only if the first one has a result. -/
def andThen (m : Printing ε α) (next : α → Printing ε β) : Printing ε β :=
  match m.result with
  | .error e => ⟨m.stdout, m.records, .error e⟩
  | .ok a =>
    let rest := next a
    ⟨m.stdout ++ rest.stdout, m.records ++ rest.records, rest.result⟩

instance : Monad (Printing ε) where
  pure a := ofExcept (.ok a)
  bind := andThen

instance : MonadLift (Except ε) (Printing ε) := ⟨ofExcept⟩

@[simp] theorem liftM_eq (r : Except ε α) : (liftM r : Printing ε α) = ofExcept r := rfl

@[simp] theorem ofExcept_error_bind (e : ε) (next : α → Printing ε β) :
    ofExcept (.error e) >>= next = fail e := rfl

@[simp] theorem fail_bind (e : ε) (next : α → Printing ε β) : fail e >>= next = fail e := rfl

@[simp] theorem ofExcept_ok_bind (a : α) (next : α → Printing ε β) :
    ofExcept (.ok a) >>= next = next a := by
  show (⟨"" ++ (next a).stdout, (next a).records, (next a).result⟩ : Printing ε β) = next a
  rw [String.empty_append]

/-- The second computation adds to the output of the first one. -/
theorem mk_ok_bind (text : String) (records : List LogRecord) (a : α) (next : α → Printing ε β) :
    (⟨text, records, .ok a⟩ : Printing ε α) >>= next =
      ⟨text ++ (next a).stdout, records ++ (next a).records, (next a).result⟩ := rfl

@[simp] theorem print_bind (text : String) (next : Unit → Printing ε β) :
    print text >>= next = ⟨text ++ (next ()).stdout, (next ()).records, (next ()).result⟩ := rfl

@[simp] theorem log_bind (record : LogRecord) (next : Unit → Printing ε β) :
    log record >>= next = ⟨(next ()).stdout, record :: (next ()).records, (next ()).result⟩ := by
  show (⟨"" ++ (next ()).stdout, _, _⟩ : Printing ε β) = _
  rw [String.empty_append]
  rfl

end Printing

end TargetAbi
