import AppBundle.Proofs.Command.Strings

/-! # What rewriting keeps

A rewritten command differs from the original one in its texts and in nothing else, and every text stands
in the place of the one that it was made from: values keep their names. Since names are kept, looking up a
command by its name finds in rewritten commands what was made from the command that it finds in the original
ones.
-/

namespace AppBundle

/-- A change of environment is another one with values in the places of related values. -/
structure Env.Rewritten (R : String → String → Prop) (env result : Env) : Prop where
  defaults : List.Forall₂ (fun old new => old.1 = new.1 ∧ R old.2 new.2)
    env.defaults.toList result.defaults.toList
  replacements : List.Forall₂ (fun old new => old.1 = new.1 ∧ R old.2 new.2)
    env.replacements.toList result.replacements.toList
  removedNames : result.removedNames = env.removedNames
  removedPatterns : result.removedPatterns = env.removedPatterns

/-- A command is another one with texts in the places of related texts. -/
structure Command.Rewritten (R : String → String → Prop) (command result : Command) : Prop where
  exe : R command.exe result.exe
  args : List.Forall₂ R command.args result.args
  env : command.env.Rewritten R result.env
  name : result.name = command.name
  description : result.description = command.description

section MapStrings

variable {ε : Type} {rewrite : String → Except ε String}

theorem Env.rewritten_of_mapValuesM {env result : Env} (done : env.mapValuesM rewrite = .ok result) :
    env.Rewritten (fun text new => rewrite text = .ok new) result := by
  obtain ⟨defaults, defaultsDone, done⟩ := Except.bind_eq_ok_iff.1 done
  obtain ⟨replacements, replacementsDone, done⟩ := Except.bind_eq_ok_iff.1 done
  rw [SortedMap.mapValuesM_eq_mapM] at defaultsDone replacementsDone
  cases done
  exact {
    defaults := SortedMap.forall₂_of_mapM_eq_ok defaultsDone
    replacements := SortedMap.forall₂_of_mapM_eq_ok replacementsDone
    removedNames := rfl
    removedPatterns := rfl }

/-- Rewriting changes the texts of a command only. -/
theorem Command.rewritten_of_mapStringsM {command result : Command}
    (done : command.mapStringsM rewrite = .ok result) :
    command.Rewritten (fun text new => rewrite text = .ok new) result := by
  obtain ⟨exe, exeDone, done⟩ := Except.bind_eq_ok_iff.1 done
  obtain ⟨args, argsDone, done⟩ := Except.bind_eq_ok_iff.1 done
  obtain ⟨env, envDone, done⟩ := Except.bind_eq_ok_iff.1 done
  cases done
  exact {
    exe := exeDone
    args := mapM_eq_ok_iff.1 argsDone
    env := Env.rewritten_of_mapValuesM envDone
    name := rfl
    description := rfl }

end MapStrings

variable {R : String → String → Prop}

theorem SortedMap.forall₂_values {κ : Type} [Ord κ] {map result : SortedMap κ String}
    (related : List.Forall₂ (fun old new => old.1 = new.1 ∧ R old.2 new.2) map.toList result.toList) :
    List.Forall₂ R map.values result.values := by
  rw [SortedMap.values, SortedMap.values, List.forall₂_map_left_iff, List.forall₂_map_right_iff]
  exact related.imp fun _ _ same => same.2

/-- The texts of a rewritten command are related to those of the original one. -/
theorem Command.Rewritten.strings {command result : Command} (rewritten : command.Rewritten R result) :
    List.Forall₂ R command.strings result.strings := by
  have invocation : List.Forall₂ R (command.exe :: command.args) (result.exe :: result.args) :=
    .cons rewritten.exe rewritten.args
  have defaults := SortedMap.forall₂_values rewritten.env.defaults
  have replacements := SortedMap.forall₂_values rewritten.env.replacements
  exact List.rel_append (List.rel_append invocation defaults) replacements

section Lookup

variable {commands results : List Command}

theorem Command.map_name_of_rewritten (rewritten : List.Forall₂ (Command.Rewritten R) commands results) :
    results.map Command.name = commands.map Command.name := by
  rw [← List.forall₂_eq_eq_eq, List.forall₂_map_left_iff, List.forall₂_map_right_iff]
  exact rewritten.flip.imp fun _ _ same => same.name

/-- The first rewritten command of a name is made from the first original one of this name. -/
theorem Command.find?_name_of_rewritten
    (rewritten : List.Forall₂ (Command.Rewritten R) commands results) (name : Option String) :
    Option.Rel (Command.Rewritten R) (commands.find? (·.name = name)) (results.find? (·.name = name)) := by
  induction rewritten with
  | nil => exact .none
  | @cons command result _ _ first _ ih =>
    rw [List.find?_cons, List.find?_cons, first.name]
    cases decide (command.name = name) with
    | true => exact .some first
    | false => exact ih

/-- If all names differ, no other command has the name of the first one that has it. -/
theorem Command.filter_name_eq (distinct : (commands.map Command.name).Nodup) (name : Option String) :
    commands.filter (·.name = name) = (commands.find? (·.name = name)).toList := by
  induction commands with
  | nil => rfl
  | cons command rest ih =>
    rw [List.map_cons, List.nodup_cons] at distinct
    obtain ⟨fresh, distinct⟩ := distinct
    by_cases same : command.name = name
    · have others : rest.filter (·.name = name) = [] := by
        rw [List.filter_eq_nil_iff]
        intro other member clash
        rw [decide_eq_true_eq, ← same] at clash
        exact fresh (List.mem_map.2 ⟨other, member, clash⟩)
      rw [List.filter_cons_of_pos (by simpa using same), List.find?_cons_of_pos (by simpa using same),
        others, Option.toList_some]
    · rw [List.filter_cons_of_neg (by simpa using same), List.find?_cons_of_neg (by simpa using same),
        ih distinct]

end Lookup

end AppBundle
