import AppBundle.Proofs.Calls
import AppBundle.Proofs.Command.Strings

/-! # The calls of a rewriting

Rewriting a command calls its function on each text of the command once, in the order of `Command.strings`, up
to the first text on which the function fails. What else there is in the command, and how many texts stand
where, is not changed. So rewriting respects composition and does nothing if the function does nothing.
-/

namespace AppBundle.Command

/-- Two commands differ in their texts at most: they have the same texts in number at the same places. -/
structure SameFrame (command result : Command) : Prop where
  name : result.name = command.name
  description : result.description = command.description
  args : result.args.length = command.args.length
  defaults : result.env.defaults.keys = command.env.defaults.keys
  replacements : result.env.replacements.keys = command.env.replacements.keys
  removedNames : result.env.removedNames = command.env.removedNames
  removedPatterns : result.env.removedPatterns = command.env.removedPatterns

variable {command : Command}

/-- Putting texts in their places changes nothing else. -/
theorem sameFrame_withStrings {texts : List String} (length : texts.length = command.strings.length) :
    command.SameFrame (command.withStrings texts) := by
  obtain ⟨exe, args, values, rfl, argsLength, valuesLength⟩ := exists_of_length length
  rw [withStrings_cons argsLength]
  exact {
    name := rfl
    description := rfl
    args := argsLength
    defaults := Env.keys_defaults_withValues valuesLength
    replacements := Env.keys_replacements_withValues valuesLength
    removedNames := rfl
    removedPatterns := rfl }

section Pure

variable {m : Type → Type} [Monad m] [LawfulMonad m]

theorem mapStringsM_pure (f : String → String) (command : Command) :
    command.mapStringsM (fun text => (pure (f text) : m String)) =
      pure (command.withStrings (command.strings.map f)) := by
  rw [mapStringsM_eq, List.mapM_pure, map_pure]

theorem mapStringsM_pure_bind (f g : String → String) (command : Command) :
    (command.mapStringsM (fun text => (pure (f text) : m String)) >>= mapStringsM fun text => pure (g text)) =
      command.mapStringsM fun text => pure (g (f text)) := by
  have length : (command.strings.map f).length = command.strings.length := List.length_map _
  have again : ((command.strings.map f).map g).length = command.strings.length :=
    (List.length_map _).trans length
  rw [mapStringsM_pure, pure_bind, mapStringsM_pure, mapStringsM_pure, strings_withStrings length,
    withStrings_withStrings length again, List.map_map]
  rfl

theorem mapStringsM_pure_id (command : Command) :
    command.mapStringsM (pure : String → m String) = pure command := by
  have same := mapStringsM_pure (m := m) id command
  rw [List.map_id, withStrings_strings] at same
  exact same

end Pure

/-- What rewriting a command does with a function that has a state and may fail. Noting the calls changes
neither the outcome nor the state. If the rewriting succeeds, the function was called on all texts of the command
in their order, and the result has the answers for its texts in the same order and is the command otherwise. If
it fails, the calls are about the first of the texts, up to and including the first one that fails, with whose
error the rewriting ends. Rewriting with one function after the other is rewriting with their composition, and
rewriting with the identity gives the command back. -/
theorem mapStringsM_visits (command : Command) {ε σ : Type} :
    (∀ (f : String → ExceptT ε (StateM σ) String) (state : σ),
      ∃ outcome final calls,
        (command.mapStringsM f).run.run state = (outcome, final) ∧
        (command.mapStringsM (recording Prod.mk f)).run.run (state, []) = (outcome, final, calls) ∧
        ((∃ result, outcome = .ok result ∧ calls.map Prod.fst = command.strings ∧
            calls.map Prod.snd = result.strings.map .ok ∧ command.SameFrame result) ∨
          ∃ error front text, outcome = .error error ∧ calls = front ++ [(text, .error error)] ∧
            (∀ call ∈ front, ∃ answer, call.2 = .ok answer) ∧
            front.map Prod.fst ++ [text] <+: command.strings)) ∧
    (∀ f g : String → String,
      (command.mapStringsM (fun text => (pure (f text) : ExceptT ε (StateM σ) String)) >>=
          mapStringsM fun text => pure (g text)) =
        command.mapStringsM fun text => pure (g (f text))) ∧
    command.mapStringsM (pure : String → ExceptT ε (StateM σ) String) = pure command := by
  refine ⟨fun f state => ?_, fun f g => mapStringsM_pure_bind f g command, mapStringsM_pure_id command⟩
  obtain ⟨outcome, final, calls, plain, withCalls, turn⟩ :=
    run_mapM_recording Prod.mk f command.strings state []
  rw [List.nil_append, List.map_id'] at withCalls
  refine ⟨outcome.map command.withStrings, final, calls, ?_, ?_, ?_⟩
  · rw [mapStringsM_eq, ExceptT.run_map, StateT.run_map, plain]
    rfl
  · rw [mapStringsM_eq, ExceptT.run_map, StateT.run_map, withCalls]
    rfl
  · cases outcome with
    | ok results =>
      obtain ⟨asked, answers⟩ := turn.of_ok rfl
      have length : results.length = command.strings.length := by
        have counted := congrArg List.length answers
        rw [List.length_map, List.length_map] at counted
        rw [← asked, List.length_map, counted]
      refine .inl ⟨_, rfl, asked, ?_, sameFrame_withStrings length⟩
      rw [strings_withStrings length, answers]
    | error error =>
      obtain ⟨front, text, same, succeed, asked⟩ := turn.of_error rfl
      exact .inr ⟨error, front, text, rfl, same, succeed, asked⟩

end AppBundle.Command
