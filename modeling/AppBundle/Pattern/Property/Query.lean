import AppBundle.Pattern.Property.Segmentation
import AppBundle.Unicode.Age

/-! # Looking up properties

A pattern names a binary property, a general category or a script by itself, and any value of a
property that has several ones together with the property.
-/

namespace AppBundle.Pattern

open CharSet Unicode

/-- What a pattern asks of a character. -/
inductive PropertyQuery where
  /-- A binary property, a general category or a script. -/
  | named (name : List Char)
  /-- A value of a property. -/
  | valued (property value : List Char)
deriving DecidableEq, Repr

namespace PropertyQuery

/-- The characters of a script. -/
def script? (name : String) : Option CharSet := (scripts.lookUp? name).map ofTable

/-- The characters that are used in a script, whatever their own one is. The first name of a script
is the one by which the table of extensions refers to it. -/
def scriptExtension? (name : String) : Option CharSet := do
  let (names, ranges) ← scripts.find? fun entry => entry.1.contains name
  let usedHere := scriptExtensions.filter fun entry => names.head?.any entry.2.contains
  return union (difference (ofTable ranges) (codes (scriptExtensions.map (·.1))))
    (codes (usedHere.map (·.1)))

/-- The characters of the versions up to a given one. -/
def ageWithin? (name : String) : NameTable (Array (Nat × Nat)) → Option CharSet
  | [] => none
  | (names, ranges) :: later =>
    if names.contains name then some (ofTable ranges)
    else (ageWithin? name later).map (union (ofTable ranges))

/-- The properties with several values, each with the look-up of its values. -/
def valuedProperties : NameTable (String → Option CharSet) :=
  [(["gc", "generalcategory"], Category.table.lookUp?),
   (["sc", "script"], script?),
   (["scx", "scriptextensions"], scriptExtension?),
   (["age"], (ageWithin? · ages)),
   (["gcb", "graphemeclusterbreak"], Segmentation.Grapheme.table.lookUp?),
   (["sb", "sentencebreak"], Segmentation.Sentence.table.lookUp?),
   (["wb", "wordbreak"], Segmentation.Word.table.lookUp?)]

/-- The characters that have what is asked for. A name by itself is looked for among the binary
properties first, then among the categories, and then among the scripts. -/
def set? : PropertyQuery → Option CharSet
  | named name =>
    let name := normalName name
    (Binary.table.lookUp? name).or ((Category.table.lookUp? name).or (script? name))
  | valued property value => do
    let look ← valuedProperties.lookUp? (normalName property)
    look (normalName value)

end PropertyQuery

end AppBundle.Pattern
