import AppBundle.Application.Basic

/-! # Drafts of applications

A draft collects the parts of an application. A command or binding that is already there is not
added again. A draft without platforms stands for an application on the default platform alone.
-/

namespace AppBundle

/-- An application in the making. -/
structure ApplicationDraft where
  name : String
  defaultPlatform : Platform
  description : Option String
  loadDotenv : Bool
  platforms : SortedSet Platform
  commands : List Command
  interpreters : List Interpreter
  files : List File
  bindings : List Command

namespace ApplicationDraft

/-- The draft without any parts. -/
def start (name : String) (defaultPlatform : Platform) : ApplicationDraft :=
  ⟨name, defaultPlatform, none, false, .empty, [], [], [], []⟩

/-- Add an element at the end unless it is already there. -/
def addNew {α : Type} [DecidableEq α] (values : List α) (value : α) : List α :=
  if value ∈ values then values else values ++ [value]

/-- Say what the application is for. -/
def describe (draft : ApplicationDraft) (description : String) : ApplicationDraft :=
  { draft with description := some description }

/-- Say whether variables are read from a file at start. -/
def setLoadDotenv (draft : ApplicationDraft) (loadDotenv : Bool) : ApplicationDraft :=
  { draft with loadDotenv }

/-- Add platforms. -/
def addPlatforms (draft : ApplicationDraft) (platforms : List Platform) : ApplicationDraft :=
  { draft with platforms := draft.platforms.insertMany platforms }

/-- Add a command. -/
def addCommand (draft : ApplicationDraft) (command : Command) : ApplicationDraft :=
  { draft with commands := addNew draft.commands command }

/-- Add a binding. -/
def addBinding (draft : ApplicationDraft) (binding : Command) : ApplicationDraft :=
  { draft with bindings := addNew draft.bindings binding }

/-- Add an interpreter. -/
def addInterpreter (draft : ApplicationDraft) (interpreter : Interpreter) : ApplicationDraft :=
  { draft with interpreters := draft.interpreters ++ [interpreter] }

/-- Add a file. -/
def addFile (draft : ApplicationDraft) (file : File) : ApplicationDraft :=
  { draft with files := draft.files ++ [file] }

/-- The application of a draft, consistent or not. -/
def toApplication (draft : ApplicationDraft) : Application where
  name := draft.name
  description := draft.description
  loadDotenv := draft.loadDotenv
  platforms :=
    if draft.platforms.isEmpty then .ofList [draft.defaultPlatform] else draft.platforms
  commands := draft.commands
  interpreters := draft.interpreters
  files := draft.files
  bindings := draft.bindings

/-- The application of a draft, if it is consistent. -/
def build (draft : ApplicationDraft) : Logged BundleError Application := do
  let app := draft.toApplication
  app.validate
  return app

end ApplicationDraft

end AppBundle
