import AppBundle.Collection.SortedSet
import AppBundle.Command
import AppBundle.Provider.Basic

/-! # Applications

An application is everything that a bundle is made from: commands, binding commands, files and the
interpreters whose distributions the commands refer to, for a set of platforms. It is consistent if
ids and names are unique and every distribution carries the id of its interpreter without taking the
id of a bundled file; `Application.check` reports the first inconsistency.
-/

namespace AppBundle

open Document

/-- A provider under the id by which commands refer to its distribution. -/
structure Interpreter where
  id : Identifier
  provider : Provider
deriving DecidableEq

/-- Why an application can not be made or resolved. -/
inductive BundleError where
  | model (error : ModelError)
  | provider (error : ProviderError)
  | platformNotTargeted (application : String) (platform : Platform)
  | duplicateFile (id : String)
  | duplicateInterpreter (id : Identifier)
  /-- Two commands share a name, or two have none. -/
  | duplicateCommand (name : Option String)
  /-- A distribution does not carry the id of its interpreter. -/
  | foreignDistribution (interpreter distribution : Identifier)
deriving DecidableEq

namespace BundleError

/-- The text shown for an error. -/
def message : BundleError → String
  | model error => "schema error: " ++ error.message
  | provider error => "provider error: " ++ error.message
  | platformNotTargeted application platform =>
    "application '" ++ application ++ "' does not target platform " ++ platform.name
  | duplicateFile id => "duplicate file id: " ++ id
  | duplicateInterpreter id => "duplicate interpreter id: " ++ id.text
  | duplicateCommand name => "duplicate command name: " ++ name.getD "<default>"
  | foreignDistribution interpreter distribution =>
    "interpreter '" ++ interpreter.text ++ "' resolved a distribution with id '" ++
      distribution.text ++ "'"

end BundleError

namespace Interpreter

/-- Whether the distribution is to be fetched only when it is first used. -/
def isLazy (interpreter : Interpreter) : Bool := interpreter.provider.isLazy

/-- The distribution for a platform. -/
def distribution? (interpreter : Interpreter) (platform : Platform) : Option Distribution :=
  interpreter.provider.distribution? platform

/-- Make an interpreter and its provider under one id. -/
def create (id : Identifier) (kind : ProviderKind) (isLazy : Bool) (settings : Json) :
    Logged BundleError Interpreter :=
  (Interpreter.mk id) <$> (Provider.create kind id isLazy settings).mapError .provider

end Interpreter

/-- The command without a name. -/
def defaultCommand? (commands : List Command) : Option Command :=
  commands.find? (·.name.isNone)

/-- The command of the given name. -/
def commandNamed? (commands : List Command) (name : String) : Option Command :=
  commands.find? (·.name = some name)

/-- What a bundle is made from. -/
structure Application where
  name : String
  description : Option String
  loadDotenv : Bool
  platforms : SortedSet Platform
  commands : List Command
  interpreters : List Interpreter
  files : List File
  /-- Commands that produce files at run time. -/
  bindings : List Command

/-- The first element that repeats an earlier one or one of those seen before. -/
def firstRepeat? {α : Type} [DecidableEq α] (seen : List α) : List α → Option α
  | [] => none
  | value :: rest => if value ∈ seen then some value else firstRepeat? (value :: seen) rest

namespace Application

/-- Whether the bundle can be made for a platform. -/
def targets (app : Application) (platform : Platform) : Bool := app.platforms.contains platform

/-- The interpreter of the given id. -/
def interpreter? (app : Application) (id : String) : Option Interpreter :=
  app.interpreters.find? (·.id.text = id)

/-- The bundled file of the given id. -/
def file? (app : Application) (id : String) : Option File := app.files.find? (·.id = id)

/-- Refuse a list with a repeated element. -/
def unique {α : Type} [DecidableEq α] (error : α → BundleError) (values : List α) :
    Except BundleError Unit :=
  match firstRepeat? [] values with
  | some value => .error (error value)
  | none => .ok ()

/-- Judge the distribution that an interpreter has on a platform, if it has one. -/
def checkDistribution (files : List String) (interpreter : Interpreter) (platform : Platform) :
    Except BundleError Unit :=
  match interpreter.distribution? platform with
  | none => .ok ()
  | some dist =>
    if dist.id ≠ interpreter.id then .error (.foreignDistribution interpreter.id dist.id)
    else if dist.file.id ∈ files then .error (.duplicateFile dist.file.id)
    else .ok ()

/-- Refuse an inconsistent application: repeated file ids first, then repeated interpreter ids,
repeated names of commands and of bindings, and unfit distributions, interpreter by interpreter and
platform by platform. -/
def check (app : Application) : Except BundleError Unit := do
  let files := app.files.map File.id
  unique .duplicateFile files
  unique .duplicateInterpreter (app.interpreters.map Interpreter.id)
  unique .duplicateCommand (app.commands.map Command.name)
  unique .duplicateCommand (app.bindings.map Command.name)
  app.interpreters.forM fun interpreter =>
    app.platforms.toList.forM (checkDistribution files interpreter)

/-- Judge an application and report if it is consistent. -/
def validate (app : Application) : Logged BundleError Unit := do
  .ofExcept app.check
  .emit (.validated app.name app.files.length app.interpreters.length app.commands.length)

end Application

end AppBundle
