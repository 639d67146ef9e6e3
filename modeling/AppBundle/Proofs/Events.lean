import AppBundle.Proofs.Outcome

/-! # Events of traversals

A traversal reports the events of its elements one after the other and ends with those of the first element
that fails. The elements up to that one, which is among them, are all that it visits.
-/

namespace AppBundle

variable {ε ε' α β γ : Type}

/-- The elements of a list up to the first one on which a function fails, with that one. -/
def throughFailure (f : α → Except ε β) : List α → List α
  | [] => []
  | value :: rest =>
    value :: match f value with
      | .ok _ => throughFailure f rest
      | .error _ => []

section Visited

variable {f : α → Except ε β}

theorem throughFailure_cons_of_ok {value : α} {rest : List α} {result : β}
    (passed : f value = .ok result) :
    throughFailure f (value :: rest) = value :: throughFailure f rest := by
  rw [throughFailure, passed]

theorem throughFailure_cons_of_error {value : α} {rest : List α} {error : ε}
    (failed : f value = .error error) : throughFailure f (value :: rest) = [value] := by
  rw [throughFailure, failed]

/-- Where nothing fails all elements are visited. -/
theorem throughFailure_eq_self {values : List α}
    (passes : ∀ value ∈ values, ∃ result, f value = .ok result) : throughFailure f values = values := by
  induction values with
  | nil => rfl
  | cons value rest ih =>
    rw [List.forall_mem_cons] at passes
    obtain ⟨⟨result, passed⟩, passes⟩ := passes
    rw [throughFailure_cons_of_ok passed, ih passes]

/-- The first element that fails is the last one that is visited. -/
theorem throughFailure_append_cons {before after : List α} {value : α} {error : ε}
    (passes : ∀ other ∈ before, ∃ result, f other = .ok result) (failed : f value = .error error) :
    throughFailure f (before ++ value :: after) = before ++ [value] := by
  induction before with
  | nil => exact throughFailure_cons_of_error failed
  | cons head before ih =>
    rw [List.forall_mem_cons] at passes
    obtain ⟨⟨result, passed⟩, passes⟩ := passes
    rw [List.cons_append, throughFailure_cons_of_ok passed, ih passes, List.cons_append]

/-- Which elements are visited does not depend on how errors are worded. -/
theorem throughFailure_mapError (word : ε → ε') (values : List α) :
    throughFailure (fun value => (f value).mapError word) values = throughFailure f values := by
  induction values with
  | nil => rfl
  | cons value rest ih =>
    rw [throughFailure, throughFailure, ih]
    cases f value <;> rfl

theorem flatMap_throughFailure_cons (parts : α → List γ) (value : α) (rest : List α) :
    (throughFailure f (value :: rest)).flatMap parts =
      parts value ++ match f value with
        | .ok _ => (throughFailure f rest).flatMap parts
        | .error _ => [] := by
  rw [throughFailure, List.flatMap_cons]
  cases f value <;> rfl

end Visited

namespace Logged

@[simp] theorem events_pure (value : α) : (pure value : Logged ε α).events = [] := rfl

@[simp] theorem events_ofExcept (result : Except ε α) : (ofExcept result).events = [] := rfl

@[simp] theorem events_emit (event : Event) : (emit event : Logged ε Unit).events = [event] := rfl

/-- After a result the events of what follows are added, after an error none. -/
theorem events_bind (first : Logged ε α) (next : α → Logged ε β) :
    (first >>= next).events = first.events ++
      match first.result with
      | .ok value => (next value).events
      | .error _ => [] := by
  obtain ⟨events, outcome⟩ := first
  cases outcome with
  | ok value => rfl
  | error error => exact (List.append_nil events).symm

@[simp] theorem events_map (f : α → β) (computed : Logged ε α) :
    (f <$> computed).events = computed.events := by
  rw [← bind_pure_comp, events_bind]
  cases computed.result <;> exact List.append_nil _

/-- The events of a traversal are those of the elements that it visits. -/
theorem events_mapM (f : α → Logged ε β) (values : List α) :
    (values.mapM f).events =
      (throughFailure (fun value => (f value).result) values).flatMap fun value => (f value).events := by
  induction values with
  | nil => rfl
  | cons value rest ih =>
    rw [List.mapM_cons, events_bind, flatMap_throughFailure_cons, ← ih]
    simp only [bind_pure_comp, events_map]

/-- Reporting one event for each element is all that happens, and it does not fail. -/
theorem forM_emit (event : α → Event) (values : List α) :
    (forM values fun value => emit (event value)) = (⟨values.map event, .ok ()⟩ : Logged ε Unit) := by
  induction values with
  | nil => rfl
  | cons value rest ih =>
    rw [List.forM_cons, ih]
    rfl

end Logged

end AppBundle
