import AppBundle.Proofs.Distribution.Passes
import AppBundle.Proofs.Resolution.Selection
import Mathlib.Data.List.Permutation

/-! # Rearranging interpreters

Two applications may differ in the order of their interpreters and in which of them are lazy, and in
nothing else. For such applications the distributions against which texts are expanded are listed in
different orders, but since they carry different ids every token is expanded in the same way. The
commands of both resolutions are the same, or both fail with the same error.
-/

namespace AppBundle

/-- The provider with the given choice whether distributions are fetched late. -/
def Provider.setLazy (isLazy : Bool) : Provider → Provider
  | static provider => .static { provider with isLazy }
  | templated provider => .templated { provider with isLazy }

namespace Interpreter

/-- The interpreter with the given choice whether its distribution is fetched late. -/
def setLazy (isLazy : Bool) (interpreter : Interpreter) : Interpreter :=
  { interpreter with provider := interpreter.provider.setLazy isLazy }

@[simp] theorem id_setLazy (isLazy : Bool) (interpreter : Interpreter) :
    (interpreter.setLazy isLazy).id = interpreter.id := rfl

@[simp] theorem distribution?_setLazy (isLazy : Bool) (interpreter : Interpreter)
    (platform : Platform) :
    (interpreter.setLazy isLazy).distribution? platform = interpreter.distribution? platform := by
  obtain ⟨id, provider⟩ := interpreter
  cases provider <;> rfl

end Interpreter

namespace Application

/-- Two applications differ in nothing but the order of their interpreters and in which of them are
lazy. -/
structure Rearranged (left right : Application) : Prop where
  name : left.name = right.name
  description : left.description = right.description
  loadDotenv : left.loadDotenv = right.loadDotenv
  platforms : left.platforms = right.platforms
  commands : left.commands = right.commands
  bindings : left.bindings = right.bindings
  files : left.files = right.files
  interpreters : (left.interpreters.map (Interpreter.setLazy false)).Perm
    (right.interpreters.map (Interpreter.setLazy false))

variable {left right : Application} {platform : Platform}

/-- What does not depend on laziness is picked from both lists of interpreters alike. -/
theorem Rearranged.filterMap_perm (rearranged : left.Rearranged right) {α : Type}
    (pick : Interpreter → Option α)
    (same : ∀ interpreter, pick (interpreter.setLazy false) = pick interpreter) :
    (left.interpreters.filterMap pick).Perm (right.interpreters.filterMap pick) := by
  have picked := rearranged.interpreters.filterMap pick
  simp only [List.filterMap_map, Function.comp_def, same] at picked
  exact picked

theorem Rearranged.availableOn_perm (rearranged : left.Rearranged right) :
    (left.availableOn platform).Perm (right.availableOn platform) := by
  have contributed := rearranged.filterMap_perm (fun interpreter => interpreter.distribution? platform)
    fun interpreter => by simp
  exact (left.availableOn_perm platform).trans
    (contributed.trans (right.availableOn_perm platform).symm)

theorem Rearranged.unavailableOn_perm (rearranged : left.Rearranged right) :
    (left.unavailableOn platform).Perm (right.unavailableOn platform) :=
  rearranged.filterMap_perm _ fun interpreter => by simp

/-- Texts are expanded alike against the distributions of both applications. -/
theorem Rearranged.expandAmong_eq (rearranged : left.Rearranged right) (consistent : right.Consistent)
    (targeted : platform ∈ right.platforms) :
    Distribution.expandAmong (left.availableOn platform) =
      Distribution.expandAmong (right.availableOn platform) := by
  funext text
  rw [Distribution.expandAmong, Distribution.expandAmong,
    Distribution.expandTokenAmong_perm rearranged.availableOn_perm (consistent.ids_nodup targeted)]

end Application

/-- Neither the order of the interpreters nor their laziness has an effect on what commands become. For
two built applications that differ in nothing else, resolving fails with the same error, or it gives the
same commands, bindings and files, and the same interpreters without a distribution and the same
distributions up to order. If none is lazy in one application only, then the same distributions are
fetched first and the same ones later. -/
theorem ApplicationDraft.resolve_rearranged (leftDraft rightDraft : ApplicationDraft)
    (left right : Application) (platform : Platform)
    (leftBuilt : leftDraft.build.result = .ok left) (rightBuilt : rightDraft.build.result = .ok right)
    (rearranged : left.Rearranged right) :
    (∃ error, (left.resolve platform).result = .error error ∧
      (right.resolve platform).result = .error error) ∨
    ∃ first second, (left.resolve platform).result = .ok first ∧
      (right.resolve platform).result = .ok second ∧
      first.commands = second.commands ∧ first.bindings = second.bindings ∧
      first.files = second.files ∧ first.unavailable.Perm second.unavailable ∧
      (first.eager ++ first.onDemand).Perm (second.eager ++ second.onDemand) ∧
      (left.interpreters.Perm right.interpreters →
        first.eager.Perm second.eager ∧ first.onDemand.Perm second.onDemand) := by
  obtain ⟨-, leftConsistent⟩ := build_eq_ok_iff.1 leftBuilt
  obtain ⟨-, rightConsistent⟩ := build_eq_ok_iff.1 rightBuilt
  by_cases targeted : platform ∈ right.platforms
  · have leftTargeted : platform ∈ left.platforms := rearranged.platforms ▸ targeted
    rw [leftConsistent.result_resolve leftTargeted, rightConsistent.result_resolve targeted,
      rearranged.expandAmong_eq rightConsistent targeted, rearranged.commands, rearranged.bindings]
    dsimp only
    generalize (fun text => (Distribution.expandAmong (right.availableOn platform) text).mapError
      BundleError.model) = expand
    cases right.commands.mapM (Command.mapStringsM expand) with
    | error error => exact .inl ⟨error, rfl, rfl⟩
    | ok commands =>
      cases right.bindings.mapM (Command.mapStringsM expand) with
      | error error => exact .inl ⟨error, rfl, rfl⟩
      | ok bindings =>
        refine .inr ⟨_, _, rfl, rfl, rfl, rfl, rearranged.files, rearranged.unavailableOn_perm,
          rearranged.availableOn_perm, fun same => ?_⟩
        exact ⟨same.filterMap _, same.filterMap _⟩
  · have leftUntargeted : platform ∉ left.platforms := rearranged.platforms ▸ targeted
    rw [Application.result_resolve_of_not_targeted leftUntargeted,
      Application.result_resolve_of_not_targeted targeted, rearranged.name]
    exact .inl ⟨_, rfl, rfl⟩

namespace ApplicationDraft

/-- An interpreter with a distribution on one platform. -/
def tool (id : Identifier) (isLazy : Bool) : Interpreter where
  id
  provider := .static {
    identifier := id
    isLazy
    distributions := ⟨[(.linuxX86_64, .ofFile id (.ofName id.text) "u")], List.pairwise_singleton _ _⟩ }

/-- A draft whose command refers to two interpreters. -/
def withTools (interpreters : List Interpreter) : ApplicationDraft :=
  { start "demo" .linuxX86_64 with
    commands := [Command.ofExe "#\x7bjs\x7d #\x7bpy\x7d"]
    interpreters }

/-- The first interpreter of one application is the second one of the other, and the lazy one of each is
not lazy in the other. -/
theorem resolve_withTools :
    let py : Identifier := ⟨"py", by decide⟩
    let js : Identifier := ⟨"js", by decide⟩
    let left := withTools [tool py false, tool js true]
    let right := withTools [tool js false, tool py true]
    left.build.result = .ok left.toApplication ∧ right.build.result = .ok right.toApplication ∧
      left.toApplication.Rearranged right.toApplication ∧
      ∃ first second, (left.toApplication.resolve .linuxX86_64).result = .ok first ∧
        (right.toApplication.resolve .linuxX86_64).result = .ok second ∧
        first.commands = [Command.ofExe "\x7bjs\x7d \x7bpy\x7d"] ∧
        second.commands = [Command.ofExe "\x7bjs\x7d \x7bpy\x7d"] ∧
        (first.eager ++ first.onDemand).Perm (second.eager ++ second.onDemand) := by
  intro py js left right
  have leftBuilt : left.build.result = .ok left.toApplication := by rfl
  have rightBuilt : right.build.result = .ok right.toApplication := by rfl
  have rearranged : left.toApplication.Rearranged right.toApplication :=
    ⟨rfl, rfl, rfl, rfl, rfl, rfl, rfl, .swap _ _ _⟩
  have commandsOfLeft : Resolution.commands <$> (left.toApplication.resolve .linuxX86_64).result =
      .ok [Command.ofExe "\x7bjs\x7d \x7bpy\x7d"] := by cbv
  obtain ⟨resolution, resolved, expanded⟩ := Except.map_eq_ok_iff.1 commandsOfLeft
  refine ⟨leftBuilt, rightBuilt, rearranged, ?_⟩
  rcases resolve_rearranged _ _ _ _ .linuxX86_64 leftBuilt rightBuilt rearranged with
    ⟨error, failed, -⟩ | ⟨first, second, leftResolved, rightResolved, commands, -, -, -, available, -⟩
  · cases resolved.symm.trans failed
  · cases resolved.symm.trans leftResolved
    exact ⟨_, second, resolved, rightResolved, expanded, commands ▸ expanded, available⟩

end ApplicationDraft

end AppBundle
