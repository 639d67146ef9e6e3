import AppBundle.Application.Draft
import AppBundle.Proofs.Collection

/-! # Consistent applications

What makes an application consistent, stated without the order in which the check goes through its
parts. The check accepts exactly the consistent applications, so that a draft is built exactly if the
application that it stands for is consistent.
-/

namespace AppBundle

section FirstRepeat

variable {α : Type} [DecidableEq α]

theorem firstRepeat?_eq_none_iff {seen values : List α} :
    firstRepeat? seen values = none ↔ values.Nodup ∧ ∀ value ∈ values, value ∉ seen := by
  induction values generalizing seen with
  | nil => simp [firstRepeat?]
  | cons value rest ih =>
    unfold firstRepeat?
    split
    · next repeated => simp [repeated]
    · next fresh =>
      rw [ih, List.nodup_cons, List.forall_mem_cons]
      constructor
      · rintro ⟨nodup, apart⟩
        refine ⟨⟨fun member => ?_, nodup⟩, fresh, fun other member => ?_⟩
        · exact apart value member (List.mem_cons_self ..)
        · exact fun old => apart other member (List.mem_cons_of_mem _ old)
      · rintro ⟨⟨unique, nodup⟩, -, apart⟩
        refine ⟨nodup, fun other member old => ?_⟩
        rcases List.mem_cons.1 old with rfl | old
        · exact unique member
        · exact apart other member old

theorem Application.unique_eq_ok_iff {error : α → BundleError} {values : List α} :
    Application.unique error values = .ok () ↔ values.Nodup := by
  have none_iff : firstRepeat? [] values = none ↔ values.Nodup := by
    rw [firstRepeat?_eq_none_iff]
    exact and_iff_left fun _ _ => List.not_mem_nil
  rw [← none_iff, Application.unique]
  split <;> simp_all

end FirstRepeat

namespace Application

/-- Ids and names are unique, and on every targeted platform each distribution carries the id of its
interpreter while its file has no id of a bundled file. -/
structure Consistent (app : Application) : Prop where
  files : (app.files.map File.id).Nodup
  interpreters : (app.interpreters.map Interpreter.id).Nodup
  commands : (app.commands.map Command.name).Nodup
  bindings : (app.bindings.map Command.name).Nodup
  distributions : ∀ interpreter ∈ app.interpreters, ∀ platform ∈ app.platforms, ∀ dist,
    interpreter.distribution? platform = some dist →
      dist.id = interpreter.id ∧ dist.file.id ∉ app.files.map File.id

theorem checkDistribution_eq_ok_iff {files : List String} {interpreter : Interpreter}
    {platform : Platform} :
    checkDistribution files interpreter platform = .ok () ↔
      ∀ dist, interpreter.distribution? platform = some dist →
        dist.id = interpreter.id ∧ dist.file.id ∉ files := by
  unfold checkDistribution
  split
  · next absent => simp [absent]
  · next dist present =>
    simp only [present, Option.some.injEq, forall_eq']
    split
    · next foreign => simp [foreign]
    · next own =>
      rw [not_not] at own
      split
      · next taken => simp [taken]
      · next free => simp [own, free]

/-- An application passes the check exactly if it is consistent. -/
theorem check_eq_ok_iff {app : Application} : app.check = .ok () ↔ app.Consistent := by
  have distributions : (forM app.interpreters fun interpreter =>
      forM app.platforms.toList (checkDistribution (app.files.map File.id) interpreter)) = .ok () ↔
      ∀ interpreter ∈ app.interpreters, ∀ platform ∈ app.platforms, ∀ dist,
        interpreter.distribution? platform = some dist →
          dist.id = interpreter.id ∧ dist.file.id ∉ app.files.map File.id := by
    simp only [forM_eq_ok_iff, checkDistribution_eq_ok_iff, SortedSet.mem_toList_iff]
  simp only [check, Except.check_bind_eq_ok_iff, unique_eq_ok_iff, List.forM_eq_forM, distributions]
  constructor
  · rintro ⟨files, interpreters, commands, bindings, distributions⟩
    exact ⟨files, interpreters, commands, bindings, distributions⟩
  · rintro ⟨files, interpreters, commands, bindings, distributions⟩
    exact ⟨files, interpreters, commands, bindings, distributions⟩

end Application

/-- A draft is built exactly if the application that it stands for is consistent. -/
theorem ApplicationDraft.build_eq_ok_iff {draft : ApplicationDraft} {app : Application} :
    draft.build.result = .ok app ↔ draft.toApplication = app ∧ app.Consistent := by
  simp only [build, Application.validate, Logged.result_bind, Logged.result_ofExcept,
    Logged.result_emit, Logged.result_pure, bind_assoc, Except.check_bind_eq_ok_iff,
    Application.check_eq_ok_iff, Except.ok.injEq, true_and]
  constructor
  · rintro ⟨consistent, rfl⟩
    exact ⟨rfl, consistent⟩
  · rintro ⟨rfl, consistent⟩
    exact ⟨consistent, rfl⟩

end AppBundle
