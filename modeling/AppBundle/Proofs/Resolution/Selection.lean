import AppBundle.Resolution
import AppBundle.Proofs.Application.Consistency
import AppBundle.Proofs.Command.Rewriting
import AppBundle.Proofs.Distribution.Reference
import AppBundle.Proofs.Events

/-! # What a resolution does

For a consistent application no interpreter hands over a foreign distribution on a targeted platform. What
each interpreter contributes and reports then depends on it alone. What is left of resolving is to go
through the texts of the commands and then of the bindings, so that the outcome is that of expanding them
against the available distributions.
-/

namespace AppBundle

namespace Resolution

/-- The texts of a resolution, in the order of those that they come from. -/
def texts (resolution : Resolution) : List String :=
  (resolution.commands ++ resolution.bindings).flatMap Command.strings

/-- What an interpreter contributes whose distribution carries its id. -/
def contributed (platform : Platform) (interpreter : Interpreter) : Contribution :=
  match interpreter.distribution? platform with
  | none => .unavailable interpreter.id
  | some dist => if interpreter.isLazy then .onDemand dist else .eager dist

/-- What an interpreter reports whose distribution carries its id. -/
def reported (platform : Platform) (interpreter : Interpreter) : Event :=
  match interpreter.distribution? platform with
  | none => .noDistribution interpreter.id platform
  | some dist => .chosen interpreter.id dist.url interpreter.isLazy

theorem contribution_eq {platform : Platform} {interpreter : Interpreter}
    (own : ∀ dist, interpreter.distribution? platform = some dist → dist.id = interpreter.id) :
    contribution platform interpreter =
      (fun _ => contributed platform interpreter) <$> .emit (reported platform interpreter) := by
  unfold contribution contributed reported
  cases present : interpreter.distribution? platform with
  | none => rfl
  | some dist =>
    have ids : ¬ dist.id ≠ interpreter.id := not_not.2 (own dist present)
    simp only [if_neg ids, bind_pure_comp]

/-- Interpreters whose distributions carry their ids contribute and report one after the other. -/
theorem mapM_contribution_eq {platform : Platform} {interpreters : List Interpreter}
    (own : ∀ interpreter ∈ interpreters, ∀ dist,
      interpreter.distribution? platform = some dist → dist.id = interpreter.id) :
    interpreters.mapM (contribution platform) =
      (fun _ => interpreters.map (contributed platform)) <$>
        forM interpreters fun interpreter => .emit (reported platform interpreter) := by
  induction interpreters with
  | nil => rfl
  | cons interpreter rest ih =>
    rw [List.forall_mem_cons] at own
    rw [List.mapM_cons, contribution_eq own.1, ih own.2, List.forM_cons]
    simp only [bind_map_left, bind_pure_comp, Functor.map_map, map_bind, List.map_cons]

/-- A distribution is contributed to one of two lists, and the id of an interpreter without one to the
third. -/
theorem picks_contributed (platform : Platform) (interpreter : Interpreter) :
    (contributed platform interpreter).eager? =
        (if interpreter.isLazy then none else interpreter.distribution? platform) ∧
      (contributed platform interpreter).onDemand? =
        (if interpreter.isLazy then interpreter.distribution? platform else none) ∧
      (contributed platform interpreter).unavailable? =
        (if (interpreter.distribution? platform).isNone then some interpreter.id else none) := by
  unfold contributed
  cases interpreter.distribution? platform <;> cases interpreter.isLazy <;> exact ⟨rfl, rfl, rfl⟩

theorem reportUnavailable_eq (platform : Platform) (unavailable : List Identifier) (text : String) :
    reportUnavailable platform unavailable text =
      ⟨((Token.scan text).filter fun token => unavailable.any (·.text = token.id)).map fun token =>
        .unavailableReference text token.id platform, .ok ()⟩ := by
  rw [← Logged.forM_emit, forM_filter]
  rfl

/-- A text is expanded whatever is reported about it. -/
theorem expandText_eq (platform : Platform) (available : List Distribution)
    (unavailable : List Identifier) (text : String) :
    expandText platform available unavailable text =
      ⟨(reportUnavailable platform unavailable text).events,
        (Distribution.expandAmong available text).mapError .model⟩ := by
  rw [expandText, reportUnavailable_eq]
  exact congrArg (Logged.mk · _) (List.append_nil _)

end Resolution

theorem Command.result_mapStringsM {ε : Type} (f : String → Logged ε String) (command : Command) :
    (command.mapStringsM f).result = command.mapStringsM fun text => (f text).result := by
  rw [mapStringsM_eq, mapStringsM_eq, Logged.result_map, Logged.result_mapM]

namespace Application

/-- The texts of an application that may hold tokens, in the order in which they are expanded. -/
def texts (app : Application) : List String :=
  (app.commands ++ app.bindings).flatMap Command.strings

/-- Rewriting the commands and then the bindings of an application is going through its texts. -/
theorem rewriting_eq {m : Type → Type} [Monad m] [LawfulMonad m] {result : Type}
    (rewrite : String → m String) (app : Application)
    (finish : List Command → List Command → m result) :
    (do
      let commands ← app.commands.mapM (Command.mapStringsM rewrite)
      let bindings ← app.bindings.mapM (Command.mapStringsM rewrite)
      finish commands bindings) = (do
      let texts ← app.texts.mapM rewrite
      let rewritten := Command.withAllStrings (app.commands ++ app.bindings) texts
      finish (rewritten.take app.commands.length) (rewritten.drop app.commands.length)) := by
  calc
    _ = (app.commands ++ app.bindings).mapM (Command.mapStringsM rewrite) >>= fun rewritten =>
          finish (rewritten.take app.commands.length) (rewritten.drop app.commands.length) := by
      rw [List.mapM_append]
      simp only [bind_assoc, pure_bind]
      refine bind_mapM_congr fun commands length => ?_
      simp only [List.take_left' length, List.drop_left' length]
    _ = _ := by rw [Command.mapM_mapStringsM, bind_map_left, texts]

/-- The distributions to fetch before the first run on a platform. -/
def eagerOn (app : Application) (platform : Platform) : List Distribution :=
  app.interpreters.filterMap fun interpreter =>
    if interpreter.isLazy then none else interpreter.distribution? platform

/-- The distributions to fetch when they are first used on a platform. -/
def onDemandOn (app : Application) (platform : Platform) : List Distribution :=
  app.interpreters.filterMap fun interpreter =>
    if interpreter.isLazy then interpreter.distribution? platform else none

/-- The interpreters without a distribution for a platform. -/
def unavailableOn (app : Application) (platform : Platform) : List Identifier :=
  app.interpreters.filterMap fun interpreter =>
    if (interpreter.distribution? platform).isNone then some interpreter.id else none

/-- The distributions against which commands are expanded on a platform. -/
def availableOn (app : Application) (platform : Platform) : List Distribution :=
  app.eagerOn platform ++ app.onDemandOn platform

/-- Each available distribution comes from one interpreter, lazy ones last. -/
theorem availableOn_perm (app : Application) (platform : Platform) :
    (app.availableOn platform).Perm
      (app.interpreters.filterMap fun interpreter => interpreter.distribution? platform) := by
  unfold availableOn eagerOn onDemandOn
  induction app.interpreters with
  | nil => exact .nil
  | cons interpreter rest ih =>
    simp only [List.filterMap_cons]
    cases interpreter.distribution? platform with
    | none => simpa using ih
    | some dist =>
      cases interpreter.isLazy with
      | false => simpa using ih
      | true => simpa using List.perm_middle.trans (ih.cons dist)

theorem mem_availableOn_iff {app : Application} {platform : Platform} {dist : Distribution} :
    dist ∈ app.availableOn platform ↔
      ∃ interpreter ∈ app.interpreters, interpreter.distribution? platform = some dist := by
  rw [(app.availableOn_perm platform).mem_iff, List.mem_filterMap]

/-- The resolution of an application with the given commands and bindings. -/
def resolutionOn (app : Application) (platform : Platform) (commands bindings : List Command) :
    Resolution where
  application := app.name
  platform
  loadDotenv := app.loadDotenv
  eager := app.eagerOn platform
  onDemand := app.onDemandOn platform
  unavailable := app.unavailableOn platform
  files := app.files
  commands
  bindings

variable {app : Application} {platform : Platform} {resolution : Resolution}

section Targeted

variable (consistent : app.Consistent) (targeted : platform ∈ app.platforms)

include consistent targeted

theorem Consistent.own_id : ∀ interpreter ∈ app.interpreters, ∀ dist,
    interpreter.distribution? platform = some dist → dist.id = interpreter.id := by
  intro interpreter member dist present
  exact (consistent.distributions interpreter member platform targeted dist present).1

/-- The ids of the available distributions and of the interpreters without one are those of all
interpreters. -/
theorem Consistent.ids_perm :
    ((app.availableOn platform).map Distribution.id ++ app.unavailableOn platform).Perm
      (app.interpreters.map Interpreter.id) := by
  have own := consistent.own_id targeted
  refine (((app.availableOn_perm platform).map Distribution.id).append_right _).trans ?_
  unfold unavailableOn
  generalize app.interpreters = interpreters at own ⊢
  induction interpreters with
  | nil => exact .nil
  | cons interpreter rest ih =>
    rw [List.forall_mem_cons] at own
    simp only [List.filterMap_cons, List.map_cons]
    cases present : interpreter.distribution? platform with
    | none => simpa using List.perm_middle.trans ((ih own.2).cons interpreter.id)
    | some dist => simpa [own.1 dist present] using ih own.2

/-- The available distributions of a consistent application carry ids of different interpreters. -/
theorem Consistent.ids_nodup : ((app.availableOn platform).map Distribution.id).Nodup := by
  have distinct := (consistent.ids_perm targeted).nodup_iff.2 consistent.interpreters
  exact (List.nodup_append.1 distinct).1

/-- What resolving a consistent application for a platform that it targets does. -/
theorem Consistent.resolve_eq :
    app.resolve platform = (do
      .emit (.resolving app.name platform)
      forM app.interpreters fun interpreter => .emit (Resolution.reported platform interpreter)
      let expand :=
        Resolution.expandText platform (app.availableOn platform) (app.unavailableOn platform)
      let commands ← app.commands.mapM (Command.mapStringsM expand)
      let bindings ← app.bindings.mapM (Command.mapStringsM expand)
      .emit (.resolved app.name platform (app.eagerOn platform).length
        (app.onDemandOn platform).length (app.unavailableOn platform).length)
      return app.resolutionOn platform commands bindings) := by
  have targets : app.targets platform = true := targeted
  have contributions := Resolution.mapM_contribution_eq (consistent.own_id targeted)
  simp only [resolve, targets, Bool.not_true, Bool.false_eq_true, if_false, contributions,
    bind_map_left, List.filterMap_map, Function.comp_def, Resolution.picks_contributed]
  rfl

/-- The outcome of resolving a consistent application for a platform that it targets. -/
theorem Consistent.result_resolve :
    (app.resolve platform).result = (do
      let expand := fun text =>
        (Distribution.expandAmong (app.availableOn platform) text).mapError BundleError.model
      let commands ← app.commands.mapM (Command.mapStringsM expand)
      let bindings ← app.bindings.mapM (Command.mapStringsM expand)
      return app.resolutionOn platform commands bindings) := by
  rw [consistent.resolve_eq targeted]
  simp only [Logged.result_bind, Logged.result_emit, Logged.forM_emit, Except.ok_bind, Logged.result_mapM,
    Command.result_mapStringsM, Resolution.expandText_eq, Logged.result_pure]
  rfl

end Targeted

/-- A platform that is not targeted is refused, and nothing is reported. -/
theorem resolve_eq_of_not_targeted (untargeted : platform ∉ app.platforms) :
    app.resolve platform = .ofExcept (.error (.platformNotTargeted app.name platform)) := by
  have targets : app.targets platform = false := Bool.eq_false_iff.2 untargeted
  rw [resolve, targets]
  rfl

theorem result_resolve_of_not_targeted (untargeted : platform ∉ app.platforms) :
    (app.resolve platform).result = .error (.platformNotTargeted app.name platform) := by
  rw [resolve_eq_of_not_targeted untargeted, Logged.result_ofExcept]

/-- What a consistent application is resolved to: its commands and bindings, with each text expanded
against the available distributions. -/
theorem Consistent.exists_of_resolve_eq_ok (consistent : app.Consistent)
    (resolved : (app.resolve platform).result = .ok resolution) :
    platform ∈ app.platforms ∧ ∃ commands bindings,
      resolution = app.resolutionOn platform commands bindings ∧
      List.Forall₂ (Command.Rewritten fun text expanded =>
        Distribution.expandAmong (app.availableOn platform) text = .ok expanded)
        app.commands commands ∧
      List.Forall₂ (Command.Rewritten fun text expanded =>
        Distribution.expandAmong (app.availableOn platform) text = .ok expanded)
        app.bindings bindings := by
  by_cases targeted : platform ∈ app.platforms
  · rw [consistent.result_resolve targeted] at resolved
    obtain ⟨commands, commandsDone, resolved⟩ := Except.bind_eq_ok_iff.1 resolved
    obtain ⟨bindings, bindingsDone, resolved⟩ := Except.bind_eq_ok_iff.1 resolved
    cases resolved
    have rewritten {originals results : List Command}
        (done : originals.mapM (Command.mapStringsM fun text =>
          (Distribution.expandAmong (app.availableOn platform) text).mapError BundleError.model) =
            .ok results) :
        List.Forall₂ (Command.Rewritten fun text expanded =>
          Distribution.expandAmong (app.availableOn platform) text = .ok expanded)
          originals results := by
      refine (mapM_eq_ok_iff.1 done).imp fun command result commandDone => ?_
      simpa only [Except.mapError_eq_ok_iff] using Command.rewritten_of_mapStringsM commandDone
    exact ⟨targeted, commands, bindings, rfl, rewritten commandsDone, rewritten bindingsDone⟩
  · rw [result_resolve_of_not_targeted targeted] at resolved
    cases resolved

/-- What a successful resolution consists of. -/
theorem Consistent.resolve_eq_ok (consistent : app.Consistent)
    (resolved : (app.resolve platform).result = .ok resolution) :
    platform ∈ app.platforms ∧ resolution.distributions = app.availableOn platform ∧
      resolution.files = app.files ∧
      List.Forall₂ (fun text expanded =>
        Distribution.expandAmong resolution.distributions text = .ok expanded)
        app.texts resolution.texts := by
  obtain ⟨targeted, commands, bindings, rfl, commandsDone, bindingsDone⟩ :=
    consistent.exists_of_resolve_eq_ok resolved
  have expanded := List.rel_flatMap (List.rel_append commandsDone bindingsDone)
    fun _ _ rewritten => rewritten.strings
  exact ⟨targeted, rfl, rfl, expanded⟩

end Application

end AppBundle
