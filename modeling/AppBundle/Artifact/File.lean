import AppBundle.Artifact.Digest
import AppBundle.Artifact.FileType
import AppBundle.Document.Variant

/-! # Bundled files

A file is addressed by its id, which is its key or, without a key, its name. Where the bundler finds
the id between braces it puts the location of the file.
-/

namespace AppBundle

open Document

namespace FileType

/-- The document of a kind of content: its extension. -/
def toJson (kind : FileType) : Json := .string kind.extension

/-- Read a kind of content from its extension. -/
def decoder : Decoder FileType := enumeration (all.map extension) ofExtension?

end FileType

/-- Where the bytes of a file come from when a bundle is made. -/
inductive Source where
  /-- Produced by running the binding command of this name. -/
  | binding (name : String)
  /-- Downloaded from a location. -/
  | fetch
deriving DecidableEq, Repr

namespace Source

/-- The document of a source. -/
def toJson : Source → Json
  | binding name => .object [("binding", .string name)]
  | fetch => .string "fetch"

/-- The sources by the names of their variants. A binding has the name of its command as content. -/
def ofVariant? : String → Option (Decoder Source)
  | "binding" => some fun format content => Source.binding <$> string format content
  | "fetch" => some fun format content => (fun _ => Source.fetch) <$> noContent format content
  | _ => none

/-- Read the source of a variant. -/
def ofVariant (format : Format) (name : String) (content : Json) : Except Fault Source := do
  let read ← named ["binding", "fetch"] ofVariant? name
  read format content

/-- Read a source from its document. -/
def decoder : Decoder Source
  | _, .string "binding" => fail (.wrongType .unitVariant "newtype variant")
  | format, .string name => ofVariant format name .null
  | format, .object members => do
    let (name, content) ← soleMember members
    ofVariant format name content
  | _, value => mismatch value "string or map"

end Source

/-- A named file of a bundle. -/
structure File where
  name : String
  key : Option String
  digest : Option Digest
  fileType : Option FileType
  isExecutable : Bool
  eagerExtract : Bool
  source : Option Source
deriving DecidableEq, Repr

namespace File

/-- A file of which nothing but the name is known. -/
def ofName (name : String) : File := ⟨name, none, none, none, false, false, none⟩

/-- The text by which a file is addressed: its key, or else its name. -/
def id (file : File) : String := file.key.getD file.name

/-- What stands in a command for the location of a file. -/
def placeholder (file : File) : String := "\x7b" ++ file.id ++ "\x7d"

/-- The document of a file. -/
def toJson (file : File) : Json :=
  .object [
    ("name", .string file.name),
    ("key", .ofOption .string file.key),
    ("digest", .ofOption Digest.toJson file.digest),
    ("type", .ofOption FileType.toJson file.fileType),
    ("is_executable", .bool file.isExecutable),
    ("eager_extract", .bool file.eagerExtract),
    ("source", .ofOption Source.toJson file.source)]

/-- The fields of a file. -/
def record : Record File :=
  File.mk
    <$> .required "name" string
    <*> .optional "key" string
    <*> .optional "digest" Digest.decoder
    <*> .optional "type" FileType.decoder
    <*> .defaulted "is_executable" bool false
    <*> .defaulted "eager_extract" bool false
    <*> .optional "source" Source.decoder

/-- Read a file from its document. -/
def decoder : Decoder File := record.decoder "File"

end File

end AppBundle
