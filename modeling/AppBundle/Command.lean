import AppBundle.Environment.Env

/-! # Commands

A command is a program with arguments and a change of environment. Its program, its arguments and
the values of its environment may hold placeholder tokens; `strings` lists these texts in the order
in which `mapStringsM` visits them.
-/

namespace AppBundle

open Document

/-- An invocation that a bundle offers. A command without a name is run by default. -/
structure Command where
  exe : String
  args : List String
  env : Env
  name : Option String
  description : Option String
deriving DecidableEq

namespace Command

/-- A command that runs a program without arguments. -/
def ofExe (exe : String) : Command := ⟨exe, [], .empty, none, none⟩

/-- The texts that may hold tokens: the program, the arguments, the default values and the replacing
values, the latter two in ascending order of their names. -/
def strings (command : Command) : List String :=
  command.exe :: command.args ++ command.env.defaults.values ++ command.env.replacements.values

/-- Put the result of an effectful function in the place of every text that may hold tokens. -/
def mapStringsM {m : Type → Type} [Monad m] (f : String → m String) (command : Command) :
    m Command := do
  let exe ← f command.exe
  let args ← command.args.mapM f
  let env ← command.env.mapValuesM f
  return { command with exe, args, env }

/-- The document of a command. -/
def toJson (command : Command) : Json :=
  .object [
    ("exe", .string command.exe),
    ("args", .ofList .string command.args),
    ("env", command.env.toJson),
    ("name", .ofOption .string command.name),
    ("description", .ofOption .string command.description)]

/-- The fields of a command. -/
def record : Record Command :=
  Command.mk
    <$> .required "exe" string
    <*> .defaulted "args" (list string) []
    <*> .defaulted "env" Env.decoder .empty
    <*> .optional "name" string
    <*> .optional "description" string

/-- Read a command from its document. -/
def decoder : Decoder Command := record.decoder "Command"

end Command

end AppBundle
