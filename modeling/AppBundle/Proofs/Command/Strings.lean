import AppBundle.Command
import AppBundle.Proofs.Collection

/-! # Rewriting the texts of a command

Rewriting a command calls the given function on its texts one after the other, as `Command.strings`
lists them, and puts the results in their places. Rewriting several commands goes through the texts of all
of them. This holds in every lawful monad, so that where the function fails the rewriting fails on the first
such text.
-/

namespace AppBundle

variable {m : Type → Type} [Monad m] [LawfulMonad m]

/-- What follows a traversal sees as many results as there were elements. -/
theorem bind_mapM_congr {α β γ : Type} {f : α → m β} {values : List α} {left right : List β → m γ}
    (agree : ∀ results, results.length = values.length → left results = right results) :
    values.mapM f >>= left = values.mapM f >>= right := by
  induction values generalizing left right with
  | nil => simpa using agree [] rfl
  | cons value rest ih =>
    simp only [List.mapM_cons, bind_assoc, pure_bind]
    refine bind_congr fun result => ih fun results length => ?_
    exact agree (result :: results) (by rw [List.length_cons, length, List.length_cons])

namespace Env

/-- The change with the given values in the places of the defaults and of the replacements. -/
def withValues (env : Env) (values : List String) : Env :=
  { env with
    defaults := env.defaults.setValues (values.take env.defaults.size)
    replacements := env.replacements.setValues (values.drop env.defaults.size) }

theorem mapValuesM_eq (f : String → m String) (env : Env) :
    env.mapValuesM f =
      env.withValues <$> (env.defaults.values ++ env.replacements.values).mapM f := by
  rw [List.mapM_append]
  simp only [mapValuesM, SortedMap.mapValuesM, bind_assoc, pure_bind, map_bind, map_pure]
  refine bind_mapM_congr fun defaults length => ?_
  rw [SortedMap.length_values] at length
  refine bind_congr fun replacements => ?_
  rw [withValues, List.take_left' length, List.drop_left' length]

end Env

namespace Command

/-- The command with the given texts in the places of its own. -/
def withStrings (command : Command) : List String → Command
  | [] => command
  | exe :: texts =>
    { command with
      exe
      args := texts.take command.args.length
      env := command.env.withValues (texts.drop command.args.length) }

/-- Rewriting a command is going through its texts. -/
theorem mapStringsM_eq (f : String → m String) (command : Command) :
    command.mapStringsM f = command.withStrings <$> command.strings.mapM f := by
  rw [strings, List.append_assoc, List.cons_append, List.mapM_cons, List.mapM_append]
  simp only [mapStringsM, Env.mapValuesM_eq, map_bind, bind_pure_comp, Functor.map_map]
  refine bind_congr fun exe => bind_mapM_congr fun args length => ?_
  simp only [withStrings, List.take_left' length, List.drop_left' length]

/-- The commands with the given texts in the places of their own, those of the first command in front. -/
def withAllStrings : List Command → List String → List Command
  | [], _ => []
  | command :: rest, texts =>
    command.withStrings (texts.take command.strings.length) ::
      withAllStrings rest (texts.drop command.strings.length)

/-- Rewriting commands one after the other is going through the texts of all of them. -/
theorem mapM_mapStringsM (f : String → m String) (commands : List Command) :
    commands.mapM (mapStringsM f) = withAllStrings commands <$> (commands.flatMap strings).mapM f := by
  induction commands with
  | nil => simp [withAllStrings]
  | cons command rest ih =>
    rw [List.mapM_cons, mapStringsM_eq, ih, List.flatMap_cons, List.mapM_append]
    simp only [map_bind, bind_map_left, bind_pure_comp, Functor.map_map]
    refine bind_mapM_congr fun texts length => ?_
    simp only [withAllStrings, List.take_left' length, List.drop_left' length]

end Command

section Laws

/-! ### Putting texts in their places

What was put in the places of a command is read there again, and of texts that replace each other the last ones
stay. This takes as many texts as there are places.
-/

namespace Env

/-- The texts of the values, defaults first. -/
def texts (env : Env) : List String := env.defaults.values ++ env.replacements.values

variable {env : Env} {values : List String}

theorem length_texts (env : Env) : env.texts.length = env.defaults.size + env.replacements.size := by
  rw [texts, List.length_append, SortedMap.length_values, SortedMap.length_values]

theorem withValues_texts (env : Env) : env.withValues env.texts = env := by
  have length := env.defaults.length_values
  rw [withValues, texts, List.take_left' length, List.drop_left' length, SortedMap.setValues_values,
    SortedMap.setValues_values]

variable (length : values.length = env.texts.length)

include length

theorem length_take : (values.take env.defaults.size).length = env.defaults.size := by
  rw [length_texts] at length
  simp [length]

theorem length_drop : (values.drop env.defaults.size).length = env.replacements.size := by
  rw [length_texts] at length
  simp [length]

theorem keys_defaults_withValues : (env.withValues values).defaults.keys = env.defaults.keys :=
  SortedMap.keys_setValues (length_take length)

theorem keys_replacements_withValues : (env.withValues values).replacements.keys = env.replacements.keys :=
  SortedMap.keys_setValues (length_drop length)

theorem texts_withValues : (env.withValues values).texts = values := by
  rw [texts, withValues, SortedMap.values_setValues (length_take length),
    SortedMap.values_setValues (length_drop length), List.take_append_drop]

theorem withValues_withValues (others : List String) :
    (env.withValues values).withValues others = env.withValues others := by
  have size : (env.defaults.setValues (values.take env.defaults.size)).size = env.defaults.size := by
    rw [SortedMap.size_eq_length_keys, SortedMap.keys_setValues (length_take length),
      SortedMap.size_eq_length_keys]
  simp only [withValues, size, SortedMap.setValues_setValues (length_take length),
    SortedMap.setValues_setValues (length_drop length)]

end Env

namespace Command

variable {command : Command} {texts : List String}

theorem strings_eq (command : Command) :
    command.strings = command.exe :: (command.args ++ command.env.texts) := by
  rw [strings, Env.texts, List.append_assoc, List.cons_append]

theorem withStrings_cons {exe : String} {args values : List String}
    (length : args.length = command.args.length) :
    command.withStrings (exe :: (args ++ values)) =
      { command with exe, args, env := command.env.withValues values } := by
  rw [withStrings, List.take_left' length, List.drop_left' length]

theorem withStrings_strings (command : Command) : command.withStrings command.strings = command := by
  rw [strings_eq, withStrings_cons rfl, Env.withValues_texts]

variable (length : texts.length = command.strings.length)

include length

/-- Texts for a command are those for its program, its arguments and its values. -/
theorem exists_of_length : ∃ exe args values, texts = exe :: (args ++ values) ∧
    args.length = command.args.length ∧ values.length = command.env.texts.length := by
  cases texts with
  | nil => cases length
  | cons exe rest =>
    rw [strings_eq, List.length_cons, List.length_cons, List.length_append] at length
    refine ⟨exe, rest.take command.args.length, rest.drop command.args.length, ?_, ?_, ?_⟩
    · rw [List.take_append_drop]
    · rw [List.length_take]
      omega
    · rw [List.length_drop]
      omega

theorem strings_withStrings : (command.withStrings texts).strings = texts := by
  obtain ⟨exe, args, values, rfl, argsLength, valuesLength⟩ := exists_of_length length
  rw [withStrings_cons argsLength, strings_eq, Env.texts_withValues valuesLength]

theorem withStrings_withStrings {others : List String} (again : others.length = command.strings.length) :
    (command.withStrings texts).withStrings others = command.withStrings others := by
  obtain ⟨exe, args, values, rfl, argsLength, valuesLength⟩ := exists_of_length length
  obtain ⟨other, otherArgs, otherValues, rfl, otherLength, -⟩ := exists_of_length again
  rw [withStrings_cons argsLength, withStrings_cons otherLength,
    withStrings_cons (otherLength.trans argsLength.symm), Env.withValues_withValues valuesLength]

end Command

end Laws

end AppBundle
