/-!
# Logged computations

Handling a datagram or a timer leaves messages behind besides its result.  A
computation of type `Logged α` is a value together with the records made on the
way, in order.  The value never depends on the records, which the lemmas on
`value` below make available to simplification.
-/

namespace PortMapping

/-- How grave a log record is, gravest first. -/
inductive Level where
  | error
  | warn
  | info
  | debug
  | trace
  deriving DecidableEq, Repr

namespace Level

/-- Every level, gravest first. -/
def all : List Level := [.error, .warn, .info, .debug, .trace]

/-- How many levels are at least as grave. -/
def rank : Level → Nat
  | .error => 1
  | .warn => 2
  | .info => 3
  | .debug => 4
  | .trace => 5

/-- The name of a level in log output. -/
def name : Level → String
  | .error => "ERROR"
  | .warn => "WARN"
  | .info => "INFO"
  | .debug => "DEBUG"
  | .trace => "TRACE"

end Level

/-- One message of the log. -/
structure LogRecord where
  level : Level
  message : String
  deriving DecidableEq, Repr

/-- A value and the records made while computing it. -/
structure Logged (α : Type) where
  value : α
  log : List LogRecord := []

namespace Logged

variable {α β : Type}

instance : Monad Logged where
  pure value := ⟨value, []⟩
  bind first next :=
    let second := next first.value
    ⟨second.value, first.log ++ second.log⟩

/-- Make one record. -/
def record (level : Level) (message : String) : Logged Unit := ⟨(), [⟨level, message⟩]⟩

def error (message : String) : Logged Unit := record .error message
def warn (message : String) : Logged Unit := record .warn message
def info (message : String) : Logged Unit := record .info message
def debug (message : String) : Logged Unit := record .debug message

@[simp] theorem value_pure (value : α) : (pure value : Logged α).value = value := rfl

@[simp] theorem log_pure (value : α) : (pure value : Logged α).log = [] := rfl

@[simp] theorem value_bind (first : Logged α) (next : α → Logged β) :
    (first >>= next).value = (next first.value).value := rfl

@[simp] theorem log_bind (first : Logged α) (next : α → Logged β) :
    (first >>= next).log = first.log ++ (next first.value).log := rfl

end Logged

end PortMapping
