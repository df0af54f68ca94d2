/-! Log records, and results that come with them. -/
namespace AppLint

inductive LogLevel where
  | error
  | warn
  | info
  | debug
deriving DecidableEq, Repr

namespace LogLevel

def name : LogLevel → String
  | error => "ERROR"
  | warn => "WARN"
  | info => "INFO"
  | debug => "DEBUG"

/-- The greater, the more detailed. -/
def rank : LogLevel → Nat
  | error => 0
  | warn => 1
  | info => 2
  | debug => 3

end LogLevel

structure LogRecord where
  level : LogLevel
  message : String
deriving DecidableEq, Repr

namespace LogRecord

def text (r : LogRecord) : String := r.level.name ++ " " ++ r.message

end LogRecord

/-- A value and the records written on the way to it, in order. -/
structure Logged (α : Type) where
  value : α
  log : List LogRecord

namespace Logged

instance : Monad Logged where
  pure a := ⟨a,[]⟩
  bind x f :=
    let y := f x.value
    ⟨y.value,x.log ++ y.log⟩

def note (level : LogLevel) (message : String) : Logged Unit := ⟨(),[⟨level,message⟩]⟩

def error (message : String) : Logged Unit := note .error message

def warn (message : String) : Logged Unit := note .warn message

def info (message : String) : Logged Unit := note .info message

def debug (message : String) : Logged Unit := note .debug message

@[simp] theorem value_pure {α : Type} (a : α) : (pure a : Logged α).value = a := rfl

@[simp] theorem value_bind {α β : Type} (x : Logged α) (f : α → Logged β) :
    (x >>= f).value = (f x.value).value := rfl

@[simp] theorem log_pure {α : Type} (a : α) : (pure a : Logged α).log = [] := rfl

@[simp] theorem log_bind {α β : Type} (x : Logged α) (f : α → Logged β) :
    (x >>= f).log = x.log ++ (f x.value).log := rfl

end Logged
end AppLint
