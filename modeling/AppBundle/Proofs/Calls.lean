import Mathlib.Data.List.Basic

/-! # Calls in turn

A function with a state that may fail is called on the elements of a list one after the other, up to the first
one on which it fails. The calls are seen by noting each of them together with its answer, which changes neither
the outcome nor the state.
-/

namespace AppBundle

variable {ε σ ι α β : Type}

/-- The function that also notes every call behind those noted before. -/
def recording (note : α → Except ε β → ι) (f : α → ExceptT ε (StateM σ) β) (value : α) :
    ExceptT ε (StateM (σ × List ι)) β :=
  ExceptT.mk fun (state, calls) =>
    let (answer, next) := (f value).run.run state
    (answer, next, calls ++ [note value answer])

/-- Calls on values in turn, each with its answer, up to the first one that fails, and what comes of them. -/
inductive InTurn : List α → List (α × Except ε β) → Except ε (List β) → Prop where
  | done : InTurn [] [] (.ok [])
  | answered {value : α} {result : β} {values : List α} {calls : List (α × Except ε β)}
    {outcome : Except ε (List β)} (behind : InTurn values calls outcome) :
    InTurn (value :: values) ((value, .ok result) :: calls) (outcome.map (result :: ·))
  | failed {value : α} {error : ε} {values : List α} :
    InTurn (value :: values) [(value, .error error)] (.error error)

namespace InTurn

variable {values : List α} {calls : List (α × Except ε β)} {outcome : Except ε (List β)}

/-- Without a failure there is a call for each value, answered by its result. -/
theorem of_ok {results : List β} (turn : InTurn values calls outcome) (passed : outcome = .ok results) :
    calls.map Prod.fst = values ∧ calls.map Prod.snd = results.map .ok := by
  induction turn generalizing results with
  | done =>
    cases passed
    exact ⟨rfl, rfl⟩
  | @answered value result values calls outcome behind ih =>
    cases outcome with
    | error error => cases passed
    | ok others =>
      cases passed
      obtain ⟨asked, answers⟩ := ih rfl
      exact ⟨congrArg (value :: ·) asked, congrArg (Except.ok result :: ·) answers⟩
  | failed => cases passed

/-- The failing call is the last one. -/
theorem of_error {error : ε} (turn : InTurn values calls outcome) (failed : outcome = .error error) :
    ∃ front value, calls = front ++ [(value, .error error)] ∧
      (∀ call ∈ front, ∃ result, call.2 = .ok result) ∧ front.map Prod.fst ++ [value] <+: values := by
  induction turn with
  | done => cases failed
  | @answered value result values calls outcome behind ih =>
    cases outcome with
    | ok others => cases failed
    | error cause =>
      cases failed
      obtain ⟨front, last, rfl, succeed, asked⟩ := ih rfl
      refine ⟨(value, .ok result) :: front, last, rfl, List.forall_mem_cons.2 ⟨⟨_, rfl⟩, succeed⟩, ?_⟩
      exact List.cons_prefix_cons.2 ⟨rfl, asked⟩
  | @failed value cause values =>
    cases failed
    exact ⟨[], value, rfl, by simp, List.prefix_append _ _⟩

end InTurn

section Run

variable {f : α → ExceptT ε (StateM σ) β} {value : α} {rest : List α} {state next : σ}

/-- A traversal goes on behind an element that passes, from the state that this leaves. -/
theorem run_mapM_of_ok {result : β} (passed : (f value).run.run state = (.ok result, next)) :
    ((value :: rest).mapM f).run.run state =
      (((rest.mapM f).run.run next).1.map (result :: ·), ((rest.mapM f).run.run next).2) := by
  rw [List.mapM_cons, ExceptT.run_bind, StateT.run_bind, passed]
  simp only [bind_pure_comp, ExceptT.run_map]
  rfl

/-- A traversal ends at an element that fails. -/
theorem run_mapM_of_error {error : ε} (failed : (f value).run.run state = (.error error, next)) :
    ((value :: rest).mapM f).run.run state = (.error error, next) := by
  rw [List.mapM_cons, ExceptT.run_bind, StateT.run_bind, failed]
  rfl

end Run

theorem run_recording (note : α → Except ε β → ι) (f : α → ExceptT ε (StateM σ) β) (value : α) (state : σ)
    (calls : List ι) :
    (recording note f value).run.run (state, calls) =
      let (answer, next) := (f value).run.run state
      (answer, next, calls ++ [note value answer]) := rfl

/-- A traversal calls its function on the elements in turn. -/
theorem run_mapM_recording (note : α → Except ε β → ι) (f : α → ExceptT ε (StateM σ) β) (values : List α)
    (state : σ) (before : List ι) :
    ∃ outcome final calls,
      (values.mapM f).run.run state = (outcome, final) ∧
      (values.mapM (recording note f)).run.run (state, before) =
        (outcome, final, before ++ calls.map fun call => note call.1 call.2) ∧
      InTurn values calls outcome := by
  induction values generalizing state before with
  | nil => exact ⟨.ok [], state, [], rfl, by simp; rfl, .done⟩
  | cons value rest ih =>
    rcases called : (f value).run.run state with ⟨answer, next⟩
    have noted : (recording note f value).run.run (state, before) =
        (answer, next, before ++ [note value answer]) := by
      rw [run_recording, called]
    cases answer with
    | error error =>
      exact ⟨_, _, [(value, .error error)], run_mapM_of_error called, run_mapM_of_error noted, .failed⟩
    | ok result =>
      obtain ⟨outcome, final, calls, plain, withCalls, turn⟩ := ih next (before ++ [note value (.ok result)])
      refine ⟨outcome.map (result :: ·), final, (value, .ok result) :: calls, ?_, ?_, turn.answered⟩
      · rw [run_mapM_of_ok called, plain]
      · rw [run_mapM_of_ok noted, withCalls, List.append_assoc, List.singleton_append, List.map_cons]

end AppBundle
