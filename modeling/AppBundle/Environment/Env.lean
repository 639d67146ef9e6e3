import AppBundle.Document.Record
import AppBundle.Environment.NamePattern

/-! # Changes to a process environment

An `Env` describes how the variables of a process are derived from those of the process that starts
it: names are removed, singly or by pattern, then some names get a value in any case and others only
if they have none.
-/

namespace AppBundle

open Document

/-- A layered change of environment variables. -/
structure Env where
  /-- Values of names that are otherwise unset. -/
  defaults : SortedMap String String
  /-- Values that are set in any case. -/
  replacements : SortedMap String String
  /-- Names to remove. -/
  removedNames : SortedSet String
  /-- Patterns of names to remove. -/
  removedPatterns : SortedSet NamePattern
deriving DecidableEq

namespace Env

/-- The change that leaves every environment as it is. -/
def empty : Env := ⟨.empty, .empty, .empty, .empty⟩

instance : EmptyCollection Env := ⟨empty⟩
instance : Inhabited Env := ⟨empty⟩

/-- Whether nothing is changed. -/
def isEmpty (env : Env) : Bool :=
  env.defaults.isEmpty && env.replacements.isEmpty && env.removedNames.isEmpty &&
    env.removedPatterns.isEmpty

/-- Whether a name of the base environment is removed. -/
def removes (env : Env) (name : String) : Bool :=
  env.removedNames.contains name || env.removedPatterns.toList.any (·.isMatch name)

/-- The environment derived from a base, in which the last value of a name counts: removals come
first, then replacements, and defaults where no value is left. -/
def apply (env : Env) (base : List (String × String)) : SortedMap String String :=
  let kept := SortedMap.ofList (base.filter fun entry => !env.removes entry.1)
  let replaced := kept.insertMany env.replacements.toList
  env.defaults.toList.foldl (fun result entry => result.insertIfNew entry.1 entry.2) replaced

/-- Apply an effectful function to the values of defaults and then of replacements, in ascending
order of their names. -/
def mapValuesM {m : Type → Type} [Monad m] (f : String → m String) (env : Env) : m Env := do
  let defaults ← env.defaults.mapValuesM f
  let replacements ← env.replacements.mapValuesM f
  return { env with defaults, replacements }

/-- A map of texts as a JSON object. -/
def valuesToJson (values : SortedMap String String) : Json :=
  .object (values.toList.map fun (name, value) => (name, .string value))

/-- The document of a change. -/
def toJson (env : Env) : Json :=
  .object [
    ("default", valuesToJson env.defaults),
    ("replace", valuesToJson env.replacements),
    ("remove_exact", .ofList .string env.removedNames.toList),
    ("remove_re", .ofList (fun pattern => .string pattern.text) env.removedPatterns.toList)]

/-- A map of texts. -/
def values : Decoder (SortedMap String String) := map .ok string

/-- The fields of a change. -/
def record : Record Env :=
  Env.mk
    <$> .defaulted "default" values .empty
    <*> .defaulted "replace" values .empty
    <*> .defaulted "remove_exact" (set string) .empty
    <*> .defaulted "remove_re" (set (refined NamePattern.parse)) .empty

/-- Read a change from its document. -/
def decoder : Decoder Env := record.decoder "Env"

end Env

end AppBundle
