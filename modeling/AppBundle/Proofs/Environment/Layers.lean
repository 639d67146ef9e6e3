import AppBundle.Environment.Env
import AppBundle.Proofs.Collection

/-! # The layers of an environment

An environment that is derived from a base has three layers for each name: the value that replaces any
other, the last value in the base unless the name is removed, and the default. The first layer with a
value counts. Since a removed name can only be bound in the other two layers, deriving an environment from
a derived one changes nothing. Nothing is assumed about which names a pattern matches.
-/

namespace AppBundle.Env

/-- A name of the base environment is removed: it is listed, or a pattern matches it. -/
def Removes (env : Env) (name : String) : Prop :=
  name ∈ env.removedNames ∨ ∃ pattern ∈ env.removedPatterns, pattern.isMatch name = true

theorem removes_iff {env : Env} {name : String} : env.removes name = true ↔ env.Removes name := by
  rw [removes, Bool.or_eq_true, List.any_eq_true]
  simp only [SortedSet.mem_toList_iff]
  rfl

instance (env : Env) (name : String) : Decidable (env.Removes name) :=
  decidable_of_iff _ removes_iff

/-- The first layer in which a name has a value binds the name. -/
theorem get?_apply (env : Env) (base : List (String × String)) (name : String) :
    (env.apply base).get? name = (env.replacements.get? name).or
      ((if env.Removes name then none else base.reverse.lookup name).or (env.defaults.get? name)) := by
  have kept : (base.filter fun entry => !env.removes entry.1).reverse.lookup name =
      if env.Removes name then none else base.reverse.lookup name := by
    rw [← List.filter_reverse, lookup_filter_fst fun other => !env.removes other]
    by_cases removed : env.Removes name
    · simp [removed, removes_iff.2 removed]
    · simp [removed, Bool.eq_false_iff.2 (removes_iff.not.2 removed)]
  rw [apply, SortedMap.get?_foldl_insertIfNew, SortedMap.get?_insertMany, SortedMap.get?_ofList, kept,
    SortedMap.lookup_reverse_toList, SortedMap.lookup_toList, Option.or_assoc]

/-- What an environment change does to every base, of which the last value of a name counts: a name is
bound to the value that replaces any other if there is one, otherwise to its value in the base unless it is
removed, otherwise to its default, and otherwise it is not bound. The derived environment does not change
when the same change is applied to it again. -/
theorem apply_layered (env : Env) (base : List (String × String)) :
    (∀ name, (env.apply base).get? name = (env.replacements.get? name).or
      ((if env.Removes name then none else base.reverse.lookup name).or (env.defaults.get? name))) ∧
    env.apply (env.apply base).toList = env.apply base := by
  refine ⟨env.get?_apply base, SortedMap.ext_get? fun name => ?_⟩
  rw [get?_apply, SortedMap.lookup_reverse_toList, get?_apply]
  by_cases removed : env.Removes name
  · simp only [removed, if_true]
  · simp only [removed, if_false]
    -- A replaced name is bound by the first layer both times, any other by what the first pass left.
    cases env.replacements.get? name with
    | some value => rfl
    | none => simp only [Option.none_or, Option.or_assoc, Option.or_self]

end AppBundle.Env
