import AppBundle.Event
import Mathlib.Data.List.Forall2

/-! # Outcomes of traversals

Going through a list ends at the first element that fails, with its error, and otherwise has one result
for each element. For a computation that reports events the outcome does not depend on the events, so that
it can be worked out without them.
-/

namespace AppBundle

variable {ε α β δ : Type}

/-- The first element of a list on which a function fails is one on which it fails with `error`. -/
def FailsFirst (f : α → Except ε β) (error : ε) (values : List α) : Prop :=
  ∃ before value after, values = before ++ value :: after ∧
    (∀ other ∈ before, ∃ result, f other = .ok result) ∧ f value = .error error

namespace Except

@[simp] theorem ok_bind (value : α) (next : α → Except ε β) : .ok value >>= next = next value := rfl

theorem bind_eq_error_iff {first : Except ε α} {next : α → Except ε β} {error : ε} :
    first >>= next = .error error ↔
      first = .error error ∨ ∃ value, first = .ok value ∧ next value = .error error := by
  cases first <;> simp [bind, Except.bind]

theorem bind_eq_ok_iff {first : Except ε α} {next : α → Except ε β} {result : β} :
    first >>= next = .ok result ↔ ∃ value, first = .ok value ∧ next value = .ok result := by
  cases first <;> simp [bind, Except.bind]

theorem check_bind_eq_ok_iff {check : Except ε Unit} {next : Except ε β} {result : β} :
    (check >>= fun _ => next) = .ok result ↔ check = .ok () ∧ next = .ok result := by
  cases check <;> simp [bind, Except.bind]

theorem check_bind_eq_error_iff {check : Except ε Unit} {next : Except ε β} {error : ε} :
    (check >>= fun _ => next) = .error error ↔
      check = .error error ∨ check = .ok () ∧ next = .error error := by
  cases check <;> simp [bind, Except.bind]

theorem exists_eq_ok_iff {computed : Except ε α} :
    (∃ value, computed = .ok value) ↔ ∀ error, computed ≠ .error error := by
  cases computed <;> simp

/-- A check that passes has only one result. -/
theorem exists_eq_ok_unit_iff {check : Except ε Unit} :
    (∃ result, check = .ok result) ↔ check = .ok () :=
  ⟨fun ⟨_, passed⟩ => passed, fun passed => ⟨(), passed⟩⟩

theorem mapError_eq_error_iff {f : ε → δ} {computed : Except ε α} {error : δ} :
    computed.mapError f = .error error ↔ ∃ cause, computed = .error cause ∧ f cause = error := by
  cases computed <;> simp [Except.mapError]

theorem mapError_eq_ok_iff {f : ε → δ} {computed : Except ε α} {value : α} :
    computed.mapError f = .ok value ↔ computed = .ok value := by
  cases computed <;> simp [Except.mapError]

theorem map_eq_error_iff {f : α → β} {computed : Except ε α} {error : ε} :
    f <$> computed = .error error ↔ computed = .error error := by
  cases computed <;> simp [Functor.map, Except.map]

theorem map_eq_ok_iff {f : α → β} {computed : Except ε α} {result : β} :
    f <$> computed = .ok result ↔ ∃ value, computed = .ok value ∧ f value = result := by
  cases computed <;> simp [Functor.map, Except.map]

section Wrapped

variable {f : ε → δ} {g : α → β} {computed : Except ε α}

theorem map_mapError_eq_ok_iff {result : β} :
    (computed.mapError f).map g = .ok result ↔ ∃ value, computed = .ok value ∧ g value = result := by
  cases computed <;> simp [Except.mapError, Except.map]

theorem exists_map_mapError_eq_ok_iff :
    (∃ result, (computed.mapError f).map g = .ok result) ↔ ∃ value, computed = .ok value := by
  cases computed <;> simp [Except.mapError, Except.map]

theorem map_mapError_eq_error_iff {error : δ} :
    (computed.mapError f).map g = .error error ↔ ∃ cause, computed = .error cause ∧ error = f cause := by
  cases computed <;> simp [Except.mapError, Except.map, eq_comm]

end Wrapped

theorem discard_eq_ok_iff {computed : Except ε α} :
    discard computed = .ok () ↔ ∃ value, computed = .ok value := by
  cases computed <;> simp [discard, Functor.mapConst, Except.map]

theorem discard_eq_error_iff {computed : Except ε α} {error : ε} :
    discard computed = .error error ↔ computed = .error error := by
  cases computed <;> simp [discard, Functor.mapConst, Except.map]

end Except

section FailsFirst

variable {f : α → Except ε β} {error : ε}

@[simp] theorem not_failsFirst_nil : ¬ FailsFirst f error [] := by
  rintro ⟨before, value, after, same, -⟩
  cases before <;> cases same

theorem failsFirst_cons {value : α} {rest : List α} :
    FailsFirst f error (value :: rest) ↔
      f value = .error error ∨ (∃ result, f value = .ok result) ∧ FailsFirst f error rest := by
  constructor
  · rintro ⟨before, found, after, same, fine, fails⟩
    cases before with
    | nil =>
      obtain ⟨rfl, rfl⟩ := List.cons.inj same
      exact .inl fails
    | cons head before =>
      obtain ⟨rfl, rfl⟩ := List.cons.inj same
      refine .inr ⟨fine _ (List.mem_cons_self ..), before, found, after, rfl, ?_, fails⟩
      exact fun other member => fine other (List.mem_cons_of_mem _ member)
  · rintro (fails | ⟨passed, before, found, after, rfl, fine, fails⟩)
    · exact ⟨[], value, rest, rfl, by simp, fails⟩
    · refine ⟨value :: before, found, after, rfl, ?_, fails⟩
      intro other member
      rcases List.mem_cons.1 member with rfl | member
      · exact passed
      · exact fine other member

theorem failsFirst_map_iff {g : δ → α} {values : List δ} :
    FailsFirst f error (values.map g) ↔ FailsFirst (f ∘ g) error values := by
  induction values with
  | nil => exact iff_of_false not_failsFirst_nil not_failsFirst_nil
  | cons value rest ih => simp only [List.map_cons, failsFirst_cons, Function.comp_apply, ih]

theorem mapM_eq_error_iff {values : List α} :
    values.mapM f = .error error ↔ FailsFirst f error values := by
  induction values with
  | nil => simp [pure, Except.pure]
  | cons value rest ih =>
    rw [List.mapM_cons, failsFirst_cons, ← ih, Except.bind_eq_error_iff]
    refine or_congr Iff.rfl ?_
    simp only [bind_pure_comp, Except.map_eq_error_iff, exists_and_right]

theorem mapM_eq_ok_iff {values : List α} {results : List β} :
    values.mapM f = .ok results ↔
      List.Forall₂ (fun value result => f value = .ok result) values results := by
  induction values generalizing results with
  | nil => simp [pure, Except.pure, eq_comm]
  | cons value rest ih =>
    rw [List.mapM_cons, Except.bind_eq_ok_iff, List.forall₂_cons_left_iff]
    simp only [bind_pure_comp, Except.map_eq_ok_iff, ih]
    grind

/-- Every element of the right list is related to one of the left list. -/
theorem exists_mem_of_forall₂ {R : α → β → Prop} {values : List α} {results : List β}
    (related : List.Forall₂ R values results) {result : β} (member : result ∈ results) :
    ∃ value ∈ values, R value result := by
  induction related with
  | nil => cases member
  | cons first _ ih =>
    rcases List.mem_cons.1 member with rfl | member
    · exact ⟨_, List.mem_cons_self .., first⟩
    · obtain ⟨value, found, holds⟩ := ih member
      exact ⟨value, List.mem_cons_of_mem _ found, holds⟩

theorem forM_eq_ok_iff {check : α → Except ε Unit} {values : List α} :
    forM values check = .ok () ↔ ∀ value ∈ values, check value = .ok () := by
  induction values with
  | nil => simp [pure, Except.pure]
  | cons value rest ih =>
    rw [List.forM_cons, Except.check_bind_eq_ok_iff, List.forall_mem_cons, ih]

theorem forM_eq_error_iff {check : α → Except ε Unit} {values : List α} :
    forM values check = .error error ↔ FailsFirst check error values := by
  induction values with
  | nil => simp [pure, Except.pure]
  | cons value rest ih =>
    rw [List.forM_cons, failsFirst_cons, Except.check_bind_eq_error_iff, Except.exists_eq_ok_unit_iff,
      ih]

/-- Going through the selected elements is going through all and doing nothing for the others. -/
theorem forM_filter {m : Type → Type} [Monad m] [LawfulMonad m] (select : α → Bool) (f : α → m Unit)
    (values : List α) :
    forM (values.filter select) f = forM values fun value => if select value then f value else pure () := by
  induction values with
  | nil => rfl
  | cons value rest ih =>
    rw [List.filter_cons, List.forM_cons, ← ih]
    cases select value <;> simp

/-- Every element passes exactly if there is no first one that fails. -/
theorem forall_ok_iff {values : List α} :
    (∀ value ∈ values, ∃ result, f value = .ok result) ↔ ∀ error, ¬ FailsFirst f error values := by
  induction values with
  | nil => simp
  | cons value rest ih =>
    rw [List.forall_mem_cons, ih]
    simp only [failsFirst_cons]
    cases f value <;> simp

/-- A traversal has results if every element has one. -/
theorem exists_mapM_eq_ok_iff {values : List α} :
    (∃ results, values.mapM f = .ok results) ↔ ∀ value ∈ values, ∃ result, f value = .ok result := by
  rw [forall_ok_iff, Except.exists_eq_ok_iff]
  exact forall_congr' fun error => not_congr mapM_eq_error_iff

end FailsFirst

namespace Logged

@[simp] theorem result_pure (value : α) : (pure value : Logged ε α).result = .ok value := rfl

@[simp] theorem result_ofExcept (result : Except ε α) : (ofExcept result).result = result := rfl

@[simp] theorem result_emit (event : Event) : (emit event : Logged ε Unit).result = .ok () := rfl

@[simp] theorem result_bind (first : Logged ε α) (next : α → Logged ε β) :
    (first >>= next).result = first.result >>= fun value => (next value).result := by
  obtain ⟨events, outcome⟩ := first
  cases outcome <;> rfl

@[simp] theorem result_map (f : α → β) (computed : Logged ε α) :
    (f <$> computed).result = f <$> computed.result := by
  rw [← bind_pure_comp, result_bind, ← bind_pure_comp]
  rfl

@[simp] theorem result_mapM (f : α → Logged ε β) (values : List α) :
    (values.mapM f).result = values.mapM fun value => (f value).result := by
  induction values with
  | nil => rfl
  | cons value rest ih => simp [List.mapM_cons, ih]

end Logged

end AppBundle
