import AppBundle.Distribution
import AppBundle.Provider.Kind
import AppBundle.Text.Trim
import AppBundle.Url

/-! # Providers with a table

A static provider lists one distribution for each of its platforms. The distributions are made once,
from the settings; each carries the identifier of the provider, also as the key of its file.
-/

namespace AppBundle

open Document

/-- What the settings say about one platform. -/
structure StaticEntry where
  url : String
  name : Option String
  fileType : Option FileType
  digest : Option Digest
  placeholders : SortedMap Identifier String
deriving DecidableEq

/-- The settings of a static provider. -/
structure StaticSettings where
  /-- Named subpaths of every distribution. -/
  placeholders : SortedMap Identifier String
  distributions : SortedMap Platform StaticEntry
deriving DecidableEq

/-- A provider with one distribution for each of its platforms. -/
structure StaticProvider where
  identifier : Identifier
  isLazy : Bool
  distributions : SortedMap Platform Distribution
deriving DecidableEq

/-- A fetched file with the key of its provider. The kind of content is the given one or else the
one that its name announces. -/
def fetchedFile (provider : Identifier) (name : String) (fileType : Option FileType)
    (digest : Option Digest) : File :=
  { File.ofName name with
    key := some provider.text
    source := some .fetch
    fileType := fileType.or (FileType.infer? name)
    digest := digest }

namespace StaticEntry

/-- The fields of an entry. -/
def record : Record StaticEntry :=
  StaticEntry.mk
    <$> .required "url" string
    <*> .optional "name" string
    <*> .optional "type" FileType.decoder
    <*> .optional "digest" Digest.decoder
    <*> .defaulted "placeholders" Distribution.subpaths .empty

/-- The distribution of an entry. Its own subpaths win over the shared ones. -/
def distribution (identifier : Identifier) (shared : SortedMap Identifier String)
    (platform : Platform) (entry : StaticEntry) : Except SettingsFlaw Distribution :=
  let url := Text.trim entry.url
  if url.isEmpty then .error (.emptyUrl (some platform))
  else
    match entry.name.or (Url.fileName? url) with
    | none => .error (.noFileName platform url)
    | some name =>
      .ok {
        id := identifier
        file := fetchedFile identifier name entry.fileType entry.digest
        url
        placeholders := shared.insertMany entry.placeholders.toList }

end StaticEntry

namespace StaticSettings

/-- The fields of the settings. -/
def record : Record StaticSettings :=
  StaticSettings.mk
    <$> .defaulted "placeholders" Distribution.subpaths .empty
    <*> .required "distributions" (map Platform.parse (StaticEntry.record.decoder "StaticEntry"))

/-- Read the settings. -/
def decoder : Decoder StaticSettings := record.decoder "StaticConfig"

end StaticSettings

namespace StaticProvider

/-- The provider of readable settings. The least platform with a flaw decides. -/
def ofSettings (identifier : Identifier) (isLazy : Bool) (settings : StaticSettings) :
    Except SettingsFlaw StaticProvider := do
  let distributions ← settings.distributions.mapM
    (StaticEntry.distribution identifier settings.placeholders)
  return { identifier, isLazy, distributions }

/-- The distribution for a platform. -/
def distribution? (provider : StaticProvider) (platform : Platform) : Option Distribution :=
  provider.distributions.get? platform

/-- The platforms with a distribution, ascending. -/
def supportedPlatforms (provider : StaticProvider) : List Platform := provider.distributions.keys

end StaticProvider

end AppBundle
