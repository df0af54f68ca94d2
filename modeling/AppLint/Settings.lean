import AppLint.Json.Printer
import AppLint.Text.Quoted

/-! The settings of rules. -/
namespace AppLint

open Json (Value)

/-- The settings of a rule by name. -/
abbrev Settings := Keyed Value

inductive SettingsError where
  | unknownKey (key : String)
  | invalidValue (key message : String)
deriving DecidableEq, Repr

namespace SettingsError

def message : SettingsError → String
  | unknownKey key => "unknown setting " ++ Text.quoted key
  | invalidValue key message => "setting " ++ Text.quoted key ++ ": " ++ message

end SettingsError

namespace Settings

/-- Only the setting of that name may be there. -/
def only (key : String) (settings : Settings) : Except SettingsError Unit :=
  match settings.find? fun (k,_) => k ≠ key with
  | some (k,_) => .error (.unknownKey k)
  | none => .ok ()

/-- A positive integer of 64 bits, if the setting is there. -/
def positive? (key : String) (settings : Settings) : Except SettingsError (Option Nat) :=
  match Keyed.get? key settings with
  | none => .ok none
  | some v =>
    match v.natural? with
    | some (n + 1) => .ok (some (n + 1))
    | _ => .error (.invalidValue key ("expected a positive integer, got " ++ v.print))

def stringItem (key : String) : Value → Except SettingsError String
  | .string s => .ok s
  | v => .error (.invalidValue key ("expected a string, got " ++ v.print))

/-- A list of strings, if the setting is there. -/
def strings? (key : String) (settings : Settings) : Except SettingsError (Option (List String)) :=
  match Keyed.get? key settings with
  | none => .ok none
  | some (.array items) => do return some (← items.mapM (stringItem key))
  | some _ => .error (.invalidValue key "expected a list of strings")

end Settings

/-- What a rule does with settings. What it has written to its state by then stays there when the
settings are refused. -/
abbrev Configuring (σ : Type) := ExceptT SettingsError (StateM σ)

namespace Configuring
variable {σ τ : Type}

/-- The state that a call leaves, whatever it answers. -/
def after (configure : Settings → Configuring σ Unit) (x : σ) (settings : Settings) : σ :=
  (configure settings x).2

/-- A call on the state inside of something: the answer, and what is left of the whole. -/
def within (make : σ → τ) (x : σ) (call : Configuring σ Unit) : Except SettingsError Unit × τ :=
  let (answer,left) := call x
  (answer,make left)

end Configuring

end AppLint
