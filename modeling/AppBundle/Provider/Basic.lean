import AppBundle.Event
import AppBundle.Provider.Templated

/-! # Providers

A provider says which distribution is to be used on a platform, if any. It is made from settings of
the kind that is named beside them.
-/

namespace AppBundle

open Document

/-- A provider of either kind. -/
inductive Provider where
  | static (provider : StaticProvider)
  | templated (provider : TemplatedProvider)
deriving DecidableEq

namespace Provider

/-- The kind of a provider. -/
def kind : Provider → ProviderKind
  | static _ => .static
  | templated _ => .templated

/-- The identifier that the distributions of a provider carry. -/
def identifier : Provider → Identifier
  | static provider => provider.identifier
  | templated provider => provider.identifier

/-- Whether distributions are to be fetched only when they are first used. -/
def isLazy : Provider → Bool
  | static provider => provider.isLazy
  | templated provider => provider.isLazy

/-- The distribution for a platform. -/
def distribution? : Provider → Platform → Option Distribution
  | static provider, platform => provider.distribution? platform
  | templated provider, platform => provider.distribution? platform

/-- The platforms with a distribution, ascending. -/
def supportedPlatforms : Provider → List Platform
  | static provider => provider.supportedPlatforms
  | templated provider => provider.supportedPlatforms

/-- Read settings and judge them. -/
def ofDocument {Settings Result : Type} (identifier : Identifier) (decoder : Decoder Settings)
    (ofSettings : Settings → Except SettingsFlaw Result) (settings : Json) :
    Except ProviderError Result := do
  let settings ← (decoder .toml settings).mapError (.unreadable identifier)
  (ofSettings settings).mapError (.unusable identifier)

/-- Make a provider of a kind from its settings. -/
def create (kind : ProviderKind) (identifier : Identifier) (isLazy : Bool) (settings : Json) :
    Logged ProviderError Provider := do
  .emit (.creatingProvider kind identifier isLazy)
  match kind with
  | .static =>
    let made := ofDocument identifier StaticSettings.decoder
      (StaticProvider.ofSettings identifier isLazy) settings
    .ofExcept (made.map static)
  | .templated =>
    let made := ofDocument identifier TemplatedSettings.decoder
      (TemplatedProvider.ofSettings identifier isLazy) settings
    .ofExcept (made.map templated)

end Provider

end AppBundle
