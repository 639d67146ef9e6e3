import AppBundle.Application.Draft
import AppBundle.Proofs.Collection
import Mathlib.Data.List.Induction

/-! # Assembling an application

A draft is filled by calls, each of which gives it one part. What has been given determines the
application: files and interpreters in the order of the calls, commands and bindings without those that
were given before, all platforms together, and of a description the last one.
-/

namespace AppBundle.ApplicationDraft

/-- A call that gives a draft one of its parts. -/
inductive Call where
  | describe (description : String)
  | setLoadDotenv (loadDotenv : Bool)
  | addPlatforms (platforms : List Platform)
  | addCommand (command : Command)
  | addBinding (binding : Command)
  | addInterpreter (interpreter : Interpreter)
  | addFile (file : File)

namespace Call

/-- The description that is given. -/
def description? : Call → Option String
  | describe description => some description
  | _ => none

/-- The choice about variables from a file. -/
def loadDotenv? : Call → Option Bool
  | setLoadDotenv loadDotenv => some loadDotenv
  | _ => none

/-- The platforms that are given. -/
def platforms : Call → List Platform
  | addPlatforms platforms => platforms
  | _ => []

/-- The command that is given. -/
def command? : Call → Option Command
  | addCommand command => some command
  | _ => none

/-- The binding that is given. -/
def binding? : Call → Option Command
  | addBinding binding => some binding
  | _ => none

/-- The interpreter that is given. -/
def interpreter? : Call → Option Interpreter
  | addInterpreter interpreter => some interpreter
  | _ => none

/-- The file that is given. -/
def file? : Call → Option File
  | addFile file => some file
  | _ => none

end Call

/-- The draft after a call. -/
def perform (draft : ApplicationDraft) : Call → ApplicationDraft
  | .describe description => draft.describe description
  | .setLoadDotenv loadDotenv => draft.setLoadDotenv loadDotenv
  | .addPlatforms platforms => draft.addPlatforms platforms
  | .addCommand command => draft.addCommand command
  | .addBinding binding => draft.addBinding binding
  | .addInterpreter interpreter => draft.addInterpreter interpreter
  | .addFile file => draft.addFile file

/-- The draft after several calls. -/
def performAll (draft : ApplicationDraft) (calls : List Call) : ApplicationDraft :=
  calls.foldl perform draft

/-- The application that calls describe. Of equal commands and of equal bindings the first one stays, and
the default platform counts only if no platform is given. -/
def described (name : String) (defaultPlatform : Platform) (calls : List Call) : Application where
  name
  description := (calls.filterMap Call.description?).getLast?
  loadDotenv := (calls.filterMap Call.loadDotenv?).getLast?.getD false
  platforms :=
    .ofList (if (calls.flatMap Call.platforms).isEmpty then [defaultPlatform]
      else calls.flatMap Call.platforms)
  commands := (calls.filterMap Call.command?).eraseDups
  interpreters := calls.filterMap Call.interpreter?
  files := calls.filterMap Call.file?
  bindings := (calls.filterMap Call.binding?).eraseDups

/-- What a call changes. Each call gives one part, and the others are as before. -/
theorem perform_eq (draft : ApplicationDraft) (call : Call) :
    draft.perform call =
      { draft with
        description := call.description?.or draft.description
        loadDotenv := call.loadDotenv?.getD draft.loadDotenv
        platforms := draft.platforms.insertMany call.platforms
        commands := call.command?.toList.foldl addNew draft.commands
        interpreters := draft.interpreters ++ call.interpreter?.toList
        files := draft.files ++ call.file?.toList
        bindings := call.binding?.toList.foldl addNew draft.bindings } := by
  cases call <;> simp [perform, describe, setLoadDotenv, addPlatforms, addCommand, addBinding,
    addInterpreter, addFile, Call.description?, Call.loadDotenv?, Call.platforms, Call.command?,
    Call.binding?, Call.interpreter?, Call.file?, SortedSet.insertMany]

section Concat

variable {α β : Type} (f : α → Option β) (values : List α) (value : α)

theorem filterMap_concat : (values ++ [value]).filterMap f = values.filterMap f ++ (f value).toList := by
  rw [List.filterMap_append, List.filterMap_cons]
  cases f value <;> rfl

theorem getLast?_append_toList (last? : Option α) :
    (values ++ last?.toList).getLast? = last?.or values.getLast? := by
  cases last? <;> simp

theorem eraseDups_append_toList [DecidableEq α] (last? : Option α) :
    (values ++ last?.toList).eraseDups = last?.toList.foldl addNew values.eraseDups := by
  cases last? with
  | none => simp
  | some value =>
    rw [Option.toList_some, List.eraseDups_append, List.foldl_cons, List.foldl_nil, addNew]
    by_cases known : value ∈ values
    · simp [known, List.removeAll]
    · simp [known, List.removeAll, List.eraseDups_cons]

end Concat

/-- The draft after calls on an empty one. -/
theorem performAll_start (name : String) (defaultPlatform : Platform) (calls : List Call) :
    (start name defaultPlatform).performAll calls =
      { name
        defaultPlatform
        description := (calls.filterMap Call.description?).getLast?
        loadDotenv := (calls.filterMap Call.loadDotenv?).getLast?.getD false
        platforms := .ofList (calls.flatMap Call.platforms)
        commands := (calls.filterMap Call.command?).eraseDups
        interpreters := calls.filterMap Call.interpreter?
        files := calls.filterMap Call.file?
        bindings := (calls.filterMap Call.binding?).eraseDups } := by
  induction calls using List.reverseRecOn with
  | nil => rfl
  | append_singleton calls call ih =>
    rw [performAll, List.foldl_concat, ← performAll, ih, perform_eq]
    simp only [filterMap_concat, getLast?_append_toList, eraseDups_append_toList, List.flatMap_append,
      List.flatMap_singleton, SortedSet.ofList, SortedSet.insertMany, List.foldl_append,
      Option.getD_or]

/-- The application of a draft is the one that the calls describe. -/
theorem toApplication_performAll (name : String) (defaultPlatform : Platform) (calls : List Call) :
    ((start name defaultPlatform).performAll calls).toApplication =
      described name defaultPlatform calls := by
  rw [performAll_start, toApplication, described]
  simp only [SortedSet.isEmpty_ofList, apply_ite SortedSet.ofList]

end AppBundle.ApplicationDraft
