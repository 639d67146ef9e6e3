import AppBundle.Application.Basic
import AppBundle.Json.Writer

/-! # Resolutions

Resolving an application for a platform asks every interpreter for its distribution and expands the
commands: a token of an available interpreter becomes a reference to the file of its distribution. A
token of an unavailable interpreter stays and is reported. The resolution is handed over as one JSON
text.
-/

namespace AppBundle

/-- An application resolved for one platform. -/
structure Resolution where
  application : String
  platform : Platform
  loadDotenv : Bool
  /-- Distributions to fetch before the application first runs. -/
  eager : List Distribution
  /-- Distributions to fetch when a command first needs them. -/
  onDemand : List Distribution
  /-- Interpreters without a distribution for the platform. -/
  unavailable : List Identifier
  files : List File
  commands : List Command
  bindings : List Command
deriving DecidableEq

namespace Resolution

/-- Every distribution, those to fetch first in front. -/
def distributions (resolution : Resolution) : List Distribution :=
  resolution.eager ++ resolution.onDemand

/-- The document of a resolution. -/
def toJson (resolution : Resolution) : Json :=
  .object [
    ("application", .string resolution.application),
    ("platform", .string resolution.platform.name),
    ("load_dotenv", .bool resolution.loadDotenv),
    ("eager", .ofList Distribution.toJson resolution.eager),
    ("lazy", .ofList Distribution.toJson resolution.onDemand),
    ("unavailable", .ofList (fun id => .string id.text) resolution.unavailable),
    ("files", .ofList File.toJson resolution.files),
    ("commands", .ofList Command.toJson resolution.commands),
    ("bindings", .ofList Command.toJson resolution.bindings)]

/-- The text that is handed over. -/
def canonicalJson (resolution : Resolution) : String := resolution.toJson.render

/-- What an interpreter contributes on a platform. -/
inductive Contribution where
  | eager (dist : Distribution)
  | onDemand (dist : Distribution)
  | unavailable (id : Identifier)
deriving DecidableEq

namespace Contribution

/-- The distribution to fetch before the first run. -/
def eager? : Contribution → Option Distribution
  | eager dist => some dist
  | _ => none

/-- The distribution to fetch when it is first used. -/
def onDemand? : Contribution → Option Distribution
  | onDemand dist => some dist
  | _ => none

/-- The id of an interpreter without a distribution. -/
def unavailable? : Contribution → Option Identifier
  | unavailable id => some id
  | _ => none

end Contribution

/-- Ask an interpreter for its distribution. -/
def contribution (platform : Platform) (interpreter : Interpreter) :
    Logged BundleError Contribution := do
  match interpreter.distribution? platform with
  | none =>
    .emit (.noDistribution interpreter.id platform)
    return .unavailable interpreter.id
  | some dist =>
    if dist.id ≠ interpreter.id then
      .ofExcept (.error (.foreignDistribution interpreter.id dist.id))
    else
      .emit (.chosen interpreter.id dist.url interpreter.isLazy)
      return if interpreter.isLazy then .onDemand dist else .eager dist

/-- Report the tokens of a text that refer to unavailable interpreters. -/
def reportUnavailable (platform : Platform) (unavailable : List Identifier) (text : String) :
    Logged BundleError Unit :=
  (Token.scan text).forM fun token =>
    if unavailable.any (·.text = token.id) then
      .emit (.unavailableReference text token.id platform)
    else pure ()

/-- Expand one text against the available distributions. -/
def expandText (platform : Platform) (available : List Distribution)
    (unavailable : List Identifier) (text : String) : Logged BundleError String := do
  reportUnavailable platform unavailable text
  .ofExcept ((Distribution.expandAmong available text).mapError .model)

end Resolution

/-- Resolve an application for a platform that it targets. -/
def Application.resolve (app : Application) (platform : Platform) :
    Logged BundleError Resolution := do
  if !app.targets platform then
    .ofExcept (.error (.platformNotTargeted app.name platform))
  else
    .emit (.resolving app.name platform)
    let contributions ← app.interpreters.mapM (Resolution.contribution platform)
    let eager := contributions.filterMap Resolution.Contribution.eager?
    let onDemand := contributions.filterMap Resolution.Contribution.onDemand?
    let unavailable := contributions.filterMap Resolution.Contribution.unavailable?
    let expand := Resolution.expandText platform (eager ++ onDemand) unavailable
    let commands ← app.commands.mapM (Command.mapStringsM expand)
    let bindings ← app.bindings.mapM (Command.mapStringsM expand)
    .emit (.resolved app.name platform eager.length onDemand.length unavailable.length)
    return {
      application := app.name
      platform
      loadDotenv := app.loadDotenv
      eager
      onDemand
      unavailable
      files := app.files
      commands
      bindings }

end AppBundle
