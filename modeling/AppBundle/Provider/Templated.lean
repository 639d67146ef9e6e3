import AppBundle.Provider.Static
import AppBundle.Text.Replace

/-! # Providers with a template

A templated provider makes the location of a distribution, and its file name if one is given, from a
template with fields for the platform and the version. All platforms are tried when the provider is
made, so that a distribution can be made for each of them afterwards.
-/

namespace AppBundle

open Document

/-- What the settings say about one platform. -/
structure TemplatedTarget where
  /-- The name that the location uses for the platform. -/
  name : Option String
  digest : Option Digest
deriving DecidableEq, Repr

/-- The settings of a templated provider. -/
structure TemplatedSettings where
  url : String
  version : Option String
  fileName : Option String
  fileType : Option FileType
  placeholders : SortedMap Identifier String
  platforms : SortedMap Platform TemplatedTarget
deriving DecidableEq

/-- A provider that makes distributions from a template. -/
structure TemplatedProvider where
  identifier : Identifier
  isLazy : Bool
  settings : TemplatedSettings
deriving DecidableEq

/-- The field for the name of the platform. -/
def platformField : String := "\x7bplatform\x7d"

/-- The field for the version. -/
def versionField : String := "\x7bversion\x7d"

namespace TemplatedSettings

/-- The fields of what is said about a platform. -/
def target : Record TemplatedTarget :=
  TemplatedTarget.mk <$> .optional "name" string <*> .optional "digest" Digest.decoder

/-- The fields of the settings. -/
def record : Record TemplatedSettings :=
  TemplatedSettings.mk
    <$> .required "url" string
    <*> .optional "version" string
    <*> .optional "file_name" string
    <*> .optional "type" FileType.decoder
    <*> .defaulted "placeholders" Distribution.subpaths .empty
    <*> .required "platforms" (map Platform.parse (target.decoder "TemplatedTarget"))

/-- Read the settings. -/
def decoder : Decoder TemplatedSettings := record.decoder "TemplatedConfig"

/-- Fill in a template: first the platform everywhere, then the version, if there is one. -/
def substitute (settings : TemplatedSettings) (template platformName : String) : String :=
  let rendered := Text.replace template platformField platformName
  match settings.version with
  | some version => Text.replace rendered versionField version
  | none => rendered

/-- The distribution for a platform, or nothing if the platform is not listed. -/
def render (settings : TemplatedSettings) (identifier : Identifier) (platform : Platform) :
    Except SettingsFlaw (Option Distribution) :=
  match settings.platforms.get? platform with
  | none => .ok none
  | some target =>
    let platformName := target.name.getD platform.name
    let url := settings.substitute settings.url platformName
    match (settings.fileName.map (settings.substitute · platformName)).or (Url.fileName? url) with
    | none => .error (.noFileName platform url)
    | some name =>
      .ok (some {
        id := identifier
        file := fetchedFile identifier name settings.fileType target.digest
        url
        placeholders := settings.placeholders })

/-- Whether a template has the version field. -/
def usesVersion (settings : TemplatedSettings) : Bool :=
  Text.contains settings.url versionField ||
    settings.fileName.any (Text.contains · versionField)

/-- Judge what can be judged before a location is made. -/
def check (settings : TemplatedSettings) : Except SettingsFlaw Unit :=
  if settings.url.isEmpty then .error (.emptyUrl none)
  else if 1 < settings.platforms.size && !Text.contains settings.url platformField then
    .error (.noPlatformField settings.url settings.platforms.size)
  else if settings.usesVersion && settings.version.isNone then .error .noVersion
  else .ok ()

end TemplatedSettings

namespace TemplatedProvider

/-- The provider of readable settings, whose location is taken without blanks around it. -/
def ofSettings (identifier : Identifier) (isLazy : Bool) (settings : TemplatedSettings) :
    Except SettingsFlaw TemplatedProvider := do
  let settings := { settings with url := Text.trim settings.url }
  settings.check
  settings.platforms.keys.forM fun platform => do
    discard (settings.render identifier platform)
  return { identifier, isLazy, settings }

/-- The distribution for a platform. -/
def distribution? (provider : TemplatedProvider) (platform : Platform) : Option Distribution :=
  match provider.settings.render provider.identifier platform with
  | .ok found => found
  | .error _ => none

/-- The platforms with a distribution, ascending. -/
def supportedPlatforms (provider : TemplatedProvider) : List Platform :=
  provider.settings.platforms.keys

end TemplatedProvider

end AppBundle
