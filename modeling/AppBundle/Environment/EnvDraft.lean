import AppBundle.Environment.Env

/-! # Drafts of environment changes

A draft collects values and removals one at a time. Its patterns are texts that may be no patterns;
they are judged when the draft is finished, in ascending order.
-/

namespace AppBundle

/-- An environment change in the making. -/
structure EnvDraft where
  defaults : SortedMap String String
  replacements : SortedMap String String
  removedNames : SortedSet String
  /-- Texts of the patterns of names to remove. -/
  removedPatterns : SortedSet String
deriving DecidableEq

namespace EnvDraft

/-- The draft of a change that leaves every environment as it is. -/
def empty : EnvDraft := ⟨.empty, .empty, .empty, .empty⟩

/-- Give a name a value for the case that it has none; a later value of the name counts. -/
def setDefault (draft : EnvDraft) (name value : String) : EnvDraft :=
  { draft with defaults := draft.defaults.insert name value }

/-- Give a name a value in any case; a later value of the name counts. -/
def replace (draft : EnvDraft) (name value : String) : EnvDraft :=
  { draft with replacements := draft.replacements.insert name value }

/-- Remove a name. -/
def remove (draft : EnvDraft) (name : String) : EnvDraft :=
  { draft with removedNames := draft.removedNames.insert name }

/-- Remove the names that a pattern matches. -/
def removeMatching (draft : EnvDraft) (pattern : String) : EnvDraft :=
  { draft with removedPatterns := draft.removedPatterns.insert pattern }

/-- The finished change, or the error of the least text that is no pattern. -/
def build (draft : EnvDraft) : Except ModelError Env := do
  let patterns ← draft.removedPatterns.toList.mapM NamePattern.parse
  return ⟨draft.defaults, draft.replacements, draft.removedNames, .ofList patterns⟩

end EnvDraft

end AppBundle
