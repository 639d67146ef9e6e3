import AppBundle.Proofs.Application.Assembly
import AppBundle.Proofs.Application.Consistency

/-! # The first inconsistency

An application that is not consistent is refused for the first thing that is wrong with it: a file id, an
interpreter id, the name of a command or the name of a binding that repeats an earlier one, or else a
distribution that does not fit, interpreter by interpreter and on the platforms in ascending order. A
draft is refused for the first inconsistency of the application that its calls describe.
-/

namespace AppBundle

section FirstRepeat

variable {α : Type}

/-- A value is the first in a list that repeats an earlier one. -/
def FirstRepeat (values : List α) (value : α) : Prop :=
  ∃ before behind, values = before ++ value :: behind ∧ before.Nodup ∧ value ∈ before

variable [DecidableEq α]

theorem firstRepeat?_eq_some_iff {seen values : List α} {value : α} :
    firstRepeat? seen values = some value ↔ ∃ before behind, values = before ++ value :: behind ∧
      before.Nodup ∧ (∀ other ∈ before, other ∉ seen) ∧ (value ∈ before ∨ value ∈ seen) := by
  induction values generalizing seen with
  | nil => simp [firstRepeat?]
  | cons head rest ih =>
    unfold firstRepeat?
    split
    · next known =>
      constructor
      · rintro ⟨⟩
        exact ⟨[], rest, rfl, .nil, by simp, .inr known⟩
      · rintro ⟨before, behind, same, -, fresh, -⟩
        cases before with
        | nil => rw [(List.cons.inj same).1]
        | cons first before =>
          obtain ⟨rfl, -⟩ := List.cons.inj same
          exact absurd known (fresh _ (List.mem_cons_self ..))
    · next new =>
      rw [ih]
      constructor
      · rintro ⟨before, behind, rfl, distinct, fresh, repeats⟩
        refine ⟨head :: before, behind, rfl, List.nodup_cons.2 ⟨fun member => ?_, distinct⟩, ?_, ?_⟩
        · exact fresh head member (List.mem_cons_self ..)
        · rw [List.forall_mem_cons]
          exact ⟨new, fun other member old => fresh other member (List.mem_cons_of_mem _ old)⟩
        · grind
      · rintro ⟨before, behind, same, distinct, fresh, repeats⟩
        cases before with
        | nil =>
          obtain ⟨rfl, -⟩ := List.cons.inj same
          simp [new] at repeats
        | cons first before =>
          obtain ⟨rfl, rfl⟩ := List.cons.inj same
          obtain ⟨apart, distinct⟩ := List.nodup_cons.1 distinct
          refine ⟨before, behind, rfl, distinct, fun other member => ?_, ?_⟩
          · rw [List.mem_cons, not_or]
            exact ⟨fun clash => apart (clash ▸ member), fresh other (List.mem_cons_of_mem _ member)⟩
          · grind

theorem Application.unique_eq_error_iff {error : α → BundleError} {values : List α}
    {failure : BundleError} :
    Application.unique error values = .error failure ↔
      ∃ value, FirstRepeat values value ∧ error value = failure := by
  have found_iff (value : α) : firstRepeat? [] values = some value ↔ FirstRepeat values value := by
    simp [firstRepeat?_eq_some_iff, FirstRepeat]
  simp only [← found_iff, Application.unique]
  split
  · next value found => simp [found]
  · next distinct => simp [distinct]

end FirstRepeat

namespace Application

/-- The distribution that an interpreter has on a platform, if it has one, carries the id of the
interpreter, and no bundled file has the id of its file. -/
def Fits (app : Application) (interpreter : Interpreter) (platform : Platform) : Prop :=
  ∀ dist, interpreter.distribution? platform = some dist →
    dist.id = interpreter.id ∧ dist.file.id ∉ app.files.map File.id

/-- What is wrong with the distribution of an interpreter on a platform. An id that is not that of the
interpreter counts before a clash with a bundled file. -/
inductive Unfit (app : Application) (interpreter : Interpreter) (platform : Platform) :
    BundleError → Prop where
  | foreign {dist : Distribution} (present : interpreter.distribution? platform = some dist)
    (other : dist.id ≠ interpreter.id) :
    Unfit app interpreter platform (.foreignDistribution interpreter.id dist.id)
  | clash {dist : Distribution} (present : interpreter.distribution? platform = some dist)
    (own : dist.id = interpreter.id) (taken : dist.file.id ∈ app.files.map File.id) :
    Unfit app interpreter platform (.duplicateFile dist.file.id)

/-- The first distribution that does not fit, where the platforms are gone through in ascending order for
one interpreter after the other. -/
def FirstUnfit (app : Application) (error : BundleError) : Prop :=
  ∃ earlier interpreter later lower platform higher,
    app.interpreters = earlier ++ interpreter :: later ∧
      (∀ other ∈ earlier, ∀ platform ∈ app.platforms.toList, app.Fits other platform) ∧
    app.platforms.toList = lower ++ platform :: higher ∧
      (∀ other ∈ lower, app.Fits interpreter other) ∧
    app.Unfit interpreter platform error

/-- The first inconsistency of an application. Each kind counts only if there is none of the kinds
before. -/
inductive FirstInconsistency (app : Application) : BundleError → Prop where
  | file {id : String} (repeated : FirstRepeat (app.files.map File.id) id) :
    FirstInconsistency app (.duplicateFile id)
  | interpreter {id : Identifier} (files : (app.files.map File.id).Nodup)
    (repeated : FirstRepeat (app.interpreters.map Interpreter.id) id) :
    FirstInconsistency app (.duplicateInterpreter id)
  | command {name : Option String} (files : (app.files.map File.id).Nodup)
    (interpreters : (app.interpreters.map Interpreter.id).Nodup)
    (repeated : FirstRepeat (app.commands.map Command.name) name) :
    FirstInconsistency app (.duplicateCommand name)
  | binding {name : Option String} (files : (app.files.map File.id).Nodup)
    (interpreters : (app.interpreters.map Interpreter.id).Nodup)
    (commands : (app.commands.map Command.name).Nodup)
    (repeated : FirstRepeat (app.bindings.map Command.name) name) :
    FirstInconsistency app (.duplicateCommand name)
  | distribution {error : BundleError} (files : (app.files.map File.id).Nodup)
    (interpreters : (app.interpreters.map Interpreter.id).Nodup)
    (commands : (app.commands.map Command.name).Nodup)
    (bindings : (app.bindings.map Command.name).Nodup) (unfit : app.FirstUnfit error) :
    FirstInconsistency app error

variable {app : Application} {error : BundleError}

theorem checkDistribution_eq_error_iff {interpreter : Interpreter} {platform : Platform} :
    checkDistribution (app.files.map File.id) interpreter platform = .error error ↔
      app.Unfit interpreter platform error := by
  unfold checkDistribution
  constructor
  · intro failed
    split at failed
    · cases failed
    · next dist present =>
      split at failed
      · next other =>
        cases failed
        exact .foreign present other
      · next own =>
        split at failed
        · next taken =>
          cases failed
          exact .clash present (not_not.1 own) taken
        · cases failed
  · intro unfit
    cases unfit with
    | foreign present other => simp [present, other]
    | clash present own taken => simp only [present, own, taken, ne_eq, not_true_eq_false, if_false, if_true]

theorem checkDistributions_eq_error_iff :
    (forM app.interpreters fun interpreter =>
      forM app.platforms.toList (checkDistribution (app.files.map File.id) interpreter)) =
        .error error ↔ app.FirstUnfit error := by
  simp only [forM_eq_error_iff, FailsFirst, Except.exists_eq_ok_unit_iff, forM_eq_ok_iff,
    checkDistribution_eq_ok_iff, checkDistribution_eq_error_iff, FirstUnfit, Fits]
  constructor
  · rintro ⟨earlier, interpreter, later, split, sound, lower, platform, higher, below, fits, unfit⟩
    exact ⟨earlier, interpreter, later, lower, platform, higher, split, sound, below, fits, unfit⟩
  · rintro ⟨earlier, interpreter, later, lower, platform, higher, split, sound, below, fits, unfit⟩
    exact ⟨earlier, interpreter, later, split, sound, lower, platform, higher, below, fits, unfit⟩

/-- An application fails the check exactly with its first inconsistency. -/
theorem check_eq_error_iff : app.check = .error error ↔ app.FirstInconsistency error := by
  simp only [check, Except.check_bind_eq_error_iff, unique_eq_error_iff, unique_eq_ok_iff, List.forM_eq_forM,
    checkDistributions_eq_error_iff]
  constructor
  · rintro (⟨id, repeated, rfl⟩ | ⟨files, ⟨id, repeated, rfl⟩ | ⟨interpreters,
      ⟨name, repeated, rfl⟩ | ⟨commands, ⟨name, repeated, rfl⟩ | ⟨bindings, unfit⟩⟩⟩⟩)
    · exact .file repeated
    · exact .interpreter files repeated
    · exact .command files interpreters repeated
    · exact .binding files interpreters commands repeated
    · exact .distribution files interpreters commands bindings unfit
  · intro first
    cases first with
    | file repeated => exact .inl ⟨_, repeated, rfl⟩
    | interpreter files repeated => exact .inr ⟨files, .inl ⟨_, repeated, rfl⟩⟩
    | command files interpreters repeated =>
      exact .inr ⟨files, .inr ⟨interpreters, .inl ⟨_, repeated, rfl⟩⟩⟩
    | binding files interpreters commands repeated =>
      exact .inr ⟨files, .inr ⟨interpreters, .inr ⟨commands, .inl ⟨_, repeated, rfl⟩⟩⟩⟩
    | distribution files interpreters commands bindings unfit =>
      exact .inr ⟨files, .inr ⟨interpreters, .inr ⟨commands, .inr ⟨bindings, unfit⟩⟩⟩⟩

end Application

namespace ApplicationDraft

theorem build_eq_error_iff {draft : ApplicationDraft} {error : BundleError} :
    draft.build.result = .error error ↔ draft.toApplication.FirstInconsistency error := by
  rw [← Application.check_eq_error_iff]
  simp only [build, Application.validate, Logged.result_bind, Logged.result_ofExcept,
    Logged.result_emit, Logged.result_pure, bind_assoc, Except.bind_eq_error_iff]
  simp

/-- What becomes of a draft that is filled by any calls. It is built exactly if the application that the
calls describe is consistent, and this application is the result. Otherwise it is refused for the first
inconsistency, where a missing name of a command is shown as a default one. -/
theorem build_outcome (name : String) (defaultPlatform : Platform) (calls : List Call) :
    let app := described name defaultPlatform calls
    let outcome := ((start name defaultPlatform).performAll calls).build.result
    (∀ built, outcome = .ok built ↔ built = app ∧ app.Consistent) ∧
      (∀ error, outcome = .error error ↔ app.FirstInconsistency error) ∧
      ∀ repeated : Option String, (BundleError.duplicateCommand repeated).message =
        "duplicate command name: " ++ repeated.getD "<default>" := by
  dsimp only
  refine ⟨fun built => ?_, fun error => ?_, fun repeated => rfl⟩
  · rw [build_eq_ok_iff, toApplication_performAll]
    constructor
    · rintro ⟨rfl, consistent⟩
      exact ⟨rfl, consistent⟩
    · rintro ⟨rfl, consistent⟩
      exact ⟨rfl, consistent⟩
  · rw [build_eq_error_iff, toApplication_performAll]

end ApplicationDraft

end AppBundle
