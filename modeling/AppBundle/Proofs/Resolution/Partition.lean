import AppBundle.Proofs.Resolution.Rearrangement
import Mathlib.Data.List.Nodup

/-! # The partition of the interpreters

Resolving an application asks each of its interpreters once. On a targeted platform no two interpreters of
a consistent application have a distribution in common, since it carries the id of the one that it comes
from. So every interpreter is found in one place of a resolution only: its distribution among those to
fetch first or those to fetch later, or its id among those without one.
-/

namespace AppBundle

namespace Application

variable {app : Application} {platform : Platform}

theorem eagerOn_eq : app.eagerOn platform =
    (app.interpreters.filter fun interpreter => !interpreter.isLazy).filterMap
      fun interpreter => interpreter.distribution? platform := by
  rw [List.filterMap_filter, eagerOn]
  apply List.filterMap_congr
  intro interpreter _
  cases interpreter.isLazy <;> rfl

theorem onDemandOn_eq : app.onDemandOn platform =
    (app.interpreters.filter Interpreter.isLazy).filterMap
      fun interpreter => interpreter.distribution? platform := by
  rw [List.filterMap_filter, onDemandOn]

theorem unavailableOn_eq : app.unavailableOn platform =
    (app.interpreters.filter fun interpreter => (interpreter.distribution? platform).isNone).map
      Interpreter.id := by
  rw [← List.filterMap_eq_map, List.filterMap_filter, unavailableOn]
  rfl

/-- Interpreters that have a distribution in common are the same. -/
theorem Consistent.eq_of_distribution? (consistent : app.Consistent) (targeted : platform ∈ app.platforms)
    {left right : Interpreter} (leftMember : left ∈ app.interpreters)
    (rightMember : right ∈ app.interpreters) {dist : Distribution}
    (leftPresent : left.distribution? platform = some dist)
    (rightPresent : right.distribution? platform = some dist) : left = right := by
  have leftOwn := consistent.own_id targeted left leftMember dist leftPresent
  have rightOwn := consistent.own_id targeted right rightMember dist rightPresent
  apply List.inj_on_of_nodup_map consistent.interpreters leftMember rightMember
  exact leftOwn.symm.trans rightOwn

section Places

variable (consistent : app.Consistent) (targeted : platform ∈ app.platforms)
  {interpreter : Interpreter} (member : interpreter ∈ app.interpreters)

include consistent member

theorem Consistent.mem_unavailableOn_iff :
    interpreter.id ∈ app.unavailableOn platform ↔ interpreter.distribution? platform = none := by
  rw [unavailableOn_eq, List.mem_map]
  simp only [List.mem_filter, Option.isNone_iff_eq_none]
  constructor
  · rintro ⟨other, ⟨otherMember, absent⟩, same⟩
    rwa [List.inj_on_of_nodup_map consistent.interpreters otherMember member same] at absent
  · intro absent
    exact ⟨interpreter, ⟨member, absent⟩, rfl⟩

include targeted

/-- The distribution of an interpreter is among those of selected ones exactly if that interpreter is
selected. -/
theorem Consistent.mem_filterMap_filter_iff {dist : Distribution}
    (present : interpreter.distribution? platform = some dist) (select : Interpreter → Bool) :
    dist ∈ (app.interpreters.filter select).filterMap
      (fun interpreter => interpreter.distribution? platform) ↔ select interpreter = true := by
  rw [List.mem_filterMap]
  simp only [List.mem_filter]
  constructor
  · rintro ⟨other, ⟨otherMember, selected⟩, otherPresent⟩
    rwa [consistent.eq_of_distribution? targeted otherMember member otherPresent present] at selected
  · intro selected
    exact ⟨interpreter, ⟨member, selected⟩, present⟩

theorem Consistent.mem_eagerOn_iff {dist : Distribution}
    (present : interpreter.distribution? platform = some dist) :
    dist ∈ app.eagerOn platform ↔ interpreter.isLazy = false := by
  rw [eagerOn_eq, consistent.mem_filterMap_filter_iff targeted member present, Bool.not_eq_true']

theorem Consistent.mem_onDemandOn_iff {dist : Distribution}
    (present : interpreter.distribution? platform = some dist) :
    dist ∈ app.onDemandOn platform ↔ interpreter.isLazy = true := by
  rw [onDemandOn_eq, consistent.mem_filterMap_filter_iff targeted member present]

end Places

end Application

/-- A resolution partitions the interpreters of its application. The distributions of those that are not
lazy are to be fetched first and those of the lazy ones later, all unchanged and in the order of the
interpreters, and what is listed as unavailable are the ids of those without a distribution. Each
interpreter is found in exactly one of the three lists, and no id occurs twice in them. -/
theorem ApplicationDraft.resolve_partition (draft : ApplicationDraft) (app : Application)
    (platform : Platform) (resolution : Resolution) (built : draft.build.result = .ok app)
    (resolved : (app.resolve platform).result = .ok resolution) :
    resolution.eager = (app.interpreters.filter fun interpreter => !interpreter.isLazy).filterMap
      (fun interpreter => interpreter.distribution? platform) ∧
    resolution.onDemand = (app.interpreters.filter Interpreter.isLazy).filterMap
      (fun interpreter => interpreter.distribution? platform) ∧
    resolution.unavailable = (app.interpreters.filter fun interpreter =>
      (interpreter.distribution? platform).isNone).map Interpreter.id ∧
    (∀ interpreter ∈ app.interpreters,
      (interpreter.id ∈ resolution.unavailable ↔ interpreter.distribution? platform = none) ∧
      ∀ dist, interpreter.distribution? platform = some dist → dist.id = interpreter.id ∧
        (dist ∈ resolution.eager ↔ interpreter.isLazy = false) ∧
        (dist ∈ resolution.onDemand ↔ interpreter.isLazy = true)) ∧
    resolution.eager.length + resolution.onDemand.length + resolution.unavailable.length =
      app.interpreters.length ∧
    (resolution.eager.map Distribution.id ++ resolution.onDemand.map Distribution.id ++
      resolution.unavailable).Nodup := by
  obtain ⟨-, consistent⟩ := build_eq_ok_iff.1 built
  obtain ⟨targeted, commands, bindings, rfl, -, -⟩ := consistent.exists_of_resolve_eq_ok resolved
  have ids : ((app.eagerOn platform).map Distribution.id ++
      (app.onDemandOn platform).map Distribution.id ++ app.unavailableOn platform).Perm
        (app.interpreters.map Interpreter.id) := by
    rw [← List.map_append]
    exact consistent.ids_perm targeted
  refine ⟨Application.eagerOn_eq, Application.onDemandOn_eq, Application.unavailableOn_eq, ?_, ?_, ?_⟩
  · intro interpreter member
    refine ⟨consistent.mem_unavailableOn_iff member, fun dist present => ⟨?_, ?_, ?_⟩⟩
    · exact consistent.own_id targeted interpreter member dist present
    · exact consistent.mem_eagerOn_iff targeted member present
    · exact consistent.mem_onDemandOn_iff targeted member present
  · have lengths := ids.length_eq
    simp only [List.length_append, List.length_map] at lengths
    exact lengths
  · exact ids.nodup_iff.2 consistent.interpreters

namespace ApplicationDraft

/-- An interpreter without a distribution. -/
def absentTool (id : Identifier) (isLazy : Bool) : Interpreter where
  id
  provider := .static { identifier := id, isLazy, distributions := .empty }

/-- Between two lazy interpreters stand one that has no distribution and one that is not lazy. -/
theorem partition_withTools :
    let py : Identifier := ⟨"py", by decide⟩
    let go : Identifier := ⟨"go", by decide⟩
    let js : Identifier := ⟨"js", by decide⟩
    let rb : Identifier := ⟨"rb", by decide⟩
    let draft := withTools [tool py true, absentTool go false, tool js false, tool rb true]
    draft.build.result = .ok draft.toApplication ∧
      ∃ resolution, (draft.toApplication.resolve .linuxX86_64).result = .ok resolution ∧
        resolution.eager.map Distribution.id = [js] ∧
        resolution.onDemand.map Distribution.id = [py, rb] ∧ resolution.unavailable = [go] ∧
        1 + 2 + 1 = draft.toApplication.interpreters.length ∧ [js, py, rb, go].Nodup := by
  intro py go js rb draft
  have built : draft.build.result = .ok draft.toApplication := by rfl
  have commands : Resolution.commands <$> (draft.toApplication.resolve .linuxX86_64).result =
      .ok [Command.ofExe "\x7bjs\x7d \x7bpy\x7d"] := by cbv
  obtain ⟨resolution, resolved, -⟩ := Except.map_eq_ok_iff.1 commands
  obtain ⟨eager, onDemand, unavailable, -, total, distinct⟩ :=
    resolve_partition _ _ _ _ built resolved
  refine ⟨built, resolution, resolved, ?_⟩
  rw [eager, onDemand, unavailable] at total distinct ⊢
  exact ⟨rfl, rfl, rfl, total, distinct⟩

end ApplicationDraft

end AppBundle
