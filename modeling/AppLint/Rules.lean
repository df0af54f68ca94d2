import AppLint.Rules.ComponentLimit
import AppLint.Rules.DataBinding
import AppLint.Rules.DebugStatement
import AppLint.Rules.ForbiddenId
import AppLint.Rules.FragmentReference
import AppLint.Rules.FragmentUnused
import AppLint.Rules.HardcodedSecret
import AppLint.Rules.InsecureEndpoint
import AppLint.Rules.PageTitle
import AppLint.Rules.SiteNavigation
import AppLint.Rules.UnknownVariable

/-! The rules that are always there. -/
namespace AppLint

/-- A built-in rule with what its settings have made of it. -/
inductive BuiltinRule where
  | pageTitle
  | componentLimit (limit : Nat)
  | fragmentReference
  | fragmentUnused
  | dataBinding
  | insecureEndpoint (hosts : List String)
  | siteNavigation
  | hardcodedSecret (extra : List Regex)
  | debugStatement
  | unknownVariable (known : List String)
  | forbiddenId (forbidden : List String)
deriving DecidableEq, Repr

namespace BuiltinRule

/-- All rules in their order, as they are without settings. -/
def all : List BuiltinRule :=
  [pageTitle,componentLimit ComponentLimit.defaultLimit,fragmentReference,fragmentUnused,
   dataBinding,insecureEndpoint InsecureEndpoint.defaultHosts,siteNavigation,hardcodedSecret [],
   debugStatement,unknownVariable UnknownVariable.defaultRoots,forbiddenId []]

def id : BuiltinRule → String
  | pageTitle => PageTitle.id
  | componentLimit _ => ComponentLimit.id
  | fragmentReference => FragmentReference.id
  | fragmentUnused => FragmentUnused.id
  | dataBinding => DataBinding.id
  | insecureEndpoint _ => InsecureEndpoint.id
  | siteNavigation => SiteNavigation.id
  | hardcodedSecret _ => HardcodedSecret.id
  | debugStatement => DebugStatement.id
  | unknownVariable _ => UnknownVariable.id
  | forbiddenId _ => ForbiddenId.id

def description : BuiltinRule → String
  | pageTitle => PageTitle.description
  | componentLimit _ => ComponentLimit.description
  | fragmentReference => FragmentReference.description
  | fragmentUnused => FragmentUnused.description
  | dataBinding => DataBinding.description
  | insecureEndpoint _ => InsecureEndpoint.description
  | siteNavigation => SiteNavigation.description
  | hardcodedSecret _ => HardcodedSecret.description
  | debugStatement => DebugStatement.description
  | unknownVariable _ => UnknownVariable.description
  | forbiddenId _ => ForbiddenId.description

def severity : BuiltinRule → Severity
  | pageTitle => PageTitle.severity
  | componentLimit _ => ComponentLimit.severity
  | fragmentReference => FragmentReference.severity
  | fragmentUnused => FragmentUnused.severity
  | dataBinding => DataBinding.severity
  | insecureEndpoint _ => InsecureEndpoint.severity
  | siteNavigation => SiteNavigation.severity
  | hardcodedSecret _ => HardcodedSecret.severity
  | debugStatement => DebugStatement.severity
  | unknownVariable _ => UnknownVariable.severity
  | forbiddenId _ => ForbiddenId.severity

def analyze (p : Project) : BuiltinRule → Analysis
  | pageTitle => PageTitle.analyze p
  | componentLimit limit => ComponentLimit.analyze limit p
  | fragmentReference => FragmentReference.analyze p
  | fragmentUnused => FragmentUnused.analyze p
  | dataBinding => DataBinding.analyze p
  | insecureEndpoint hosts => InsecureEndpoint.analyze hosts p
  | siteNavigation => SiteNavigation.analyze p
  | hardcodedSecret extra => HardcodedSecret.analyze extra p
  | debugStatement => DebugStatement.analyze p
  | unknownVariable known => UnknownVariable.analyze known p
  | forbiddenId forbidden => ForbiddenId.analyze forbidden p

/-- What a rule answers to settings, and the rule that is left; none for rules that have no
settings. -/
def configure? (settings : Settings) :
    BuiltinRule → Option (Except SettingsError Unit × BuiltinRule)
  | componentLimit limit => some ((ComponentLimit.configure settings).within componentLimit limit)
  | insecureEndpoint hosts =>
    some ((InsecureEndpoint.configure settings).within insecureEndpoint hosts)
  | hardcodedSecret extra =>
    some ((HardcodedSecret.configure settings).within hardcodedSecret extra)
  | unknownVariable known =>
    some ((UnknownVariable.configure settings).within unknownVariable known)
  | forbiddenId forbidden => some ((ForbiddenId.configure settings).within forbiddenId forbidden)
  | _ => none

/-- The rule after a call with settings. -/
def settled (r : BuiltinRule) (settings : Settings) : BuiltinRule :=
  match r.configure? settings with
  | some (_,left) => left
  | none => r

/-- The rule after calls with settings, one after the other. -/
def settledAll (r : BuiltinRule) (calls : List Settings) : BuiltinRule := calls.foldl settled r

/-- Examples are there to be read and are never run. -/
def isExample : BuiltinRule → Bool
  | forbiddenId _ => true
  | _ => false

end BuiltinRule
end AppLint
