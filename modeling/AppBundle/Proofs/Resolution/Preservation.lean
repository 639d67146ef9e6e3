import AppBundle.Proofs.Resolution.Rearrangement

/-! # What a resolution keeps

Besides its distributions a resolution has the parts of its application. The files are the same. Commands
and bindings are the same in number and order, and each is the original one with its texts expanded against
the distributions of the resolution. Since names are kept, a command is found by its name in a resolution
exactly if it is found in the application, and there is no other command of this name.
-/

namespace AppBundle

namespace Resolution

/-- A command is another one with each text expanded, in one pass, against the distributions of a
resolution. -/
def Expanded (resolution : Resolution) : Command → Command → Prop :=
  Command.Rewritten fun text expanded =>
    Distribution.expandAmong resolution.distributions text = .ok expanded

/-- Of commands found by their name in an application and in a resolution, the second one is the first one
expanded and the only one of its name. -/
structure Finds (resolution : Resolution) (name : Option String) (original found : Option Command) :
    Prop where
  expanded : Option.Rel resolution.Expanded original found
  unique : resolution.commands.filter (·.name = name) = found.toList

end Resolution

theorem defaultCommand?_eq (commands : List Command) :
    defaultCommand? commands = commands.find? (·.name = none) := by
  unfold defaultCommand?
  congr 1
  funext command
  cases command.name <;> simp

/-- What a resolution has from its application. The files are the same, commands and bindings are the
original ones with their texts expanded, and looking up a command by its name, or the one without a name,
finds the expansion of what it finds in the application. -/
theorem ApplicationDraft.resolve_preserves (draft : ApplicationDraft) (app : Application)
    (platform : Platform) (resolution : Resolution) (built : draft.build.result = .ok app)
    (resolved : (app.resolve platform).result = .ok resolution) :
    resolution.application = app.name ∧ resolution.platform = platform ∧
    resolution.loadDotenv = app.loadDotenv ∧ resolution.files = app.files ∧
    List.Forall₂ resolution.Expanded app.commands resolution.commands ∧
    List.Forall₂ resolution.Expanded app.bindings resolution.bindings ∧
    (∀ name, resolution.Finds (some name) (commandNamed? app.commands name)
      (commandNamed? resolution.commands name)) ∧
    resolution.Finds none (defaultCommand? app.commands) (defaultCommand? resolution.commands) := by
  obtain ⟨-, consistent⟩ := build_eq_ok_iff.1 built
  obtain ⟨-, commands, bindings, rfl, commandsDone, bindingsDone⟩ :=
    consistent.exists_of_resolve_eq_ok resolved
  have distinct : (commands.map Command.name).Nodup := by
    rw [Command.map_name_of_rewritten commandsDone]
    exact consistent.commands
  have finds (name : Option String) :
      (app.resolutionOn platform commands bindings).Finds name (app.commands.find? (·.name = name))
        (commands.find? (·.name = name)) :=
    ⟨Command.find?_name_of_rewritten commandsDone name, Command.filter_name_eq distinct name⟩
  refine ⟨rfl, rfl, rfl, rfl, commandsDone, bindingsDone, fun name => finds (some name), ?_⟩
  rw [defaultCommand?_eq, defaultCommand?_eq]
  exact finds none

namespace ApplicationDraft

/-- A command with a text among its arguments and under two names of its environment. -/
def toolCommand (text : String) : Command where
  exe := "run"
  args := [text, "#\x7bgo\x7d"]
  env := {
    defaults := .ofList [("A", text), ("B", "b")]
    replacements := .ofList [("A", text)]
    removedNames := .ofList ["PATH"]
    removedPatterns := .empty }
  name := some "run"
  description := some "#\x7bjs\x7d"

/-- Texts are expanded in the command that has a name and in the one that has none, and the description is
no text to expand. -/
theorem preserves_withTools :
    let draft := { withTools [tool ⟨"js", by decide⟩ false] with
      commands := [toolCommand "#\x7bjs\x7d", Command.ofExe "#\x7bjs\x7d"] }
    draft.build.result = .ok draft.toApplication ∧
      ∃ resolution, (draft.toApplication.resolve .linuxX86_64).result = .ok resolution ∧
        resolution.Finds (some "run") (some (toolCommand "#\x7bjs\x7d")) (some (toolCommand "\x7bjs\x7d")) ∧
        resolution.Finds (some "stop") none none ∧
        resolution.Finds none (some (.ofExe "#\x7bjs\x7d")) (some (.ofExe "\x7bjs\x7d")) := by
  intro draft
  have built : draft.build.result = .ok draft.toApplication := by rfl
  have commands : Resolution.commands <$> (draft.toApplication.resolve .linuxX86_64).result =
      .ok [toolCommand "\x7bjs\x7d", .ofExe "\x7bjs\x7d"] := by cbv
  obtain ⟨resolution, resolved, commands⟩ := Except.map_eq_ok_iff.1 commands
  obtain ⟨-, -, -, -, -, -, named, unnamed⟩ := resolve_preserves _ _ _ _ built resolved
  rw [commands] at named unnamed
  exact ⟨built, resolution, resolved, named "run", named "stop", unnamed⟩

end ApplicationDraft

end AppBundle
