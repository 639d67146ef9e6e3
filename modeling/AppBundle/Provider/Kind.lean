import AppBundle.Document.Fault
import AppBundle.Identifier
import AppBundle.Platform

/-! # Provider kinds and their errors -/

namespace AppBundle

/-- The ways of providing distributions that settings can name. -/
inductive ProviderKind where
  /-- A table of distributions. -/
  | static
  /-- A location with fields for platform and version. -/
  | templated
deriving DecidableEq, Repr

/-- Why readable settings can not be used. -/
inductive SettingsFlaw where
  /-- A location is blank; a table says for which platform. -/
  | emptyUrl (platform : Option Platform)
  /-- A location has no file name and none is given. -/
  | noFileName (platform : Platform) (url : String)
  /-- Several platforms share a location that does not depend on the platform. -/
  | noPlatformField (url : String) (platforms : Nat)
  /-- The version is used but not given. -/
  | noVersion
deriving DecidableEq, Repr

namespace SettingsFlaw

/-- The words for a flaw. -/
def message : SettingsFlaw → String
  | emptyUrl none => "url must not be empty"
  | emptyUrl (some platform) => platform.name ++ ": url must not be empty"
  | noFileName platform url =>
    platform.name ++ ": cannot derive a file name from '" ++ url ++ "'"
  | noPlatformField url platforms =>
    "url '" ++ url ++ "' has no \x7bplatform\x7d field but " ++ toString platforms ++
      " platforms are configured"
  | noVersion => "template uses \x7bversion\x7d but no version is configured"

end SettingsFlaw

/-- Why a provider can not be made. -/
inductive ProviderError where
  /-- No kind has this name. -/
  | unknownKind (name : String)
  /-- The settings can not be read. -/
  | unreadable (provider : Identifier) (fault : Document.Fault)
  /-- The settings can be read but not used. -/
  | unusable (provider : Identifier) (flaw : SettingsFlaw)
deriving DecidableEq

namespace ProviderError

/-- The text shown for an error. -/
def message : ProviderError → String
  | unknownKind name =>
    "unknown provider kind '" ++ name ++ "', expected one of: static, templated"
  | unreadable provider fault =>
    "invalid configuration for provider '" ++ provider.text ++ "': " ++ fault.message .toml
  | unusable provider flaw =>
    "invalid configuration for provider '" ++ provider.text ++ "': " ++ flaw.message

end ProviderError

namespace ProviderKind

/-- The name by which settings refer to a kind. -/
def name : ProviderKind → String
  | static => "static"
  | templated => "templated"

/-- The kind of the given name. -/
def parse : String → Except ProviderError ProviderKind
  | "static" => .ok static
  | "templated" => .ok templated
  | other => .error (.unknownKind other)

end ProviderKind

end AppBundle
