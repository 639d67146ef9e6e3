import AppBundle.Artifact.File
import AppBundle.Identifier
import AppBundle.Token

/-! # Distributions

A distribution is a file to be fetched, under an identifier by which tokens refer to it. A token
with the identifier alone stands for the file, and one with a key for a named subpath inside it.
-/

namespace AppBundle

open Document

/-- A fetchable file and the names of the subpaths in it. -/
structure Distribution where
  id : Identifier
  file : File
  url : String
  placeholders : SortedMap Identifier String
deriving DecidableEq

namespace Distribution

/-- A distribution without named subpaths. -/
def ofFile (id : Identifier) (file : File) (url : String) : Distribution := ⟨id, file, url, .empty⟩

/-- Name a subpath; a later subpath of the same name counts. -/
def withPlaceholder (dist : Distribution) (key : Identifier) (subpath : String) : Distribution :=
  { dist with placeholders := dist.placeholders.insert key subpath }

/-- The subpath of the given name. -/
def subpath? (dist : Distribution) (key : String) : Option String :=
  match Identifier.parse key with
  | .ok key => dist.placeholders.get? key
  | .error _ => none

/-- What a token stands for, or nothing if it refers to another distribution. -/
def expandToken (dist : Distribution) (token : Token) : Except ModelError (Option String) :=
  if token.id ≠ dist.id.text then .ok none
  else
    match token.key with
    | none => .ok (some dist.file.placeholder)
    | some key =>
      match dist.subpath? key with
      | some subpath => .ok (some (dist.file.placeholder ++ "/" ++ subpath))
      | none => .error (.unknownPlaceholder dist.id.text key)

/-- Expand the tokens of a text that refer to a distribution. -/
def expand (dist : Distribution) (text : String) : Except ModelError String :=
  Token.expandM dist.expandToken text

/-- What a token stands for among several distributions: the first one that it refers to counts. -/
def expandTokenAmong (dists : List Distribution) (token : Token) :
    Except ModelError (Option String) :=
  match dists.find? (·.id.text = token.id) with
  | some dist => dist.expandToken token
  | none => .ok none

/-- Expand the tokens of a text that refer to any of several distributions, in one pass. -/
def expandAmong (dists : List Distribution) (text : String) : Except ModelError String :=
  Token.expandM (expandTokenAmong dists) text

/-- The document of a distribution. -/
def toJson (dist : Distribution) : Json :=
  .object [
    ("id", .string dist.id.text),
    ("file", dist.file.toJson),
    ("url", .string dist.url),
    ("placeholders",
      .object (dist.placeholders.toList.map fun (key, subpath) => (key.text, .string subpath)))]

/-- A map from identifiers to subpaths. -/
def subpaths : Decoder (SortedMap Identifier String) := map Identifier.parse string

/-- The fields of a distribution. -/
def record : Record Distribution :=
  Distribution.mk
    <$> .required "id" (refined Identifier.parse)
    <*> .required "file" File.decoder
    <*> .required "url" string
    <*> .defaulted "placeholders" subpaths .empty

/-- Read a distribution from its document. -/
def decoder : Decoder Distribution := record.decoder "Distribution"

end Distribution

end AppBundle
