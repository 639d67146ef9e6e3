import AppBundle.Proofs.Application.Assembly
import AppBundle.Proofs.Application.Consistency

/-! # Reordering the calls

The order of the calls that fill a draft decides in which order an application lists its parts, and nothing
else. Equal commands are merged whichever of them comes first, and no part of the consistency of an
application depends on an order, so that a draft is built or refused in whichever order it was filled. Only
the reason of a refusal can be another one.
-/

namespace AppBundle

namespace ApplicationDraft

section Merging

variable {α : Type} [DecidableEq α]

theorem addNew_of_mem {values : List α} {value : α} (known : value ∈ values) :
    addNew values value = values := if_pos known

theorem nodup_addNew {values : List α} (distinct : values.Nodup) (value : α) :
    (addNew values value).Nodup := by
  rw [addNew]
  split
  · exact distinct
  · next new => exact List.nodup_append.2 ⟨distinct, List.pairwise_singleton _ _, by grind⟩

theorem nodup_eraseDups (values : List α) : values.eraseDups.Nodup := by
  induction values using List.reverseRecOn with
  | nil => exact .nil
  | append_singleton values value ih =>
    have merged := eraseDups_append_toList values (some value)
    rw [Option.toList_some, List.foldl_cons, List.foldl_nil] at merged
    rw [merged]
    exact nodup_addNew ih value

/-- Which of equal elements stays has an effect on the order only. -/
theorem eraseDups_perm {values others : List α} (perm : values.Perm others) :
    values.eraseDups.Perm others.eraseDups := by
  refine (List.perm_ext_iff_of_nodup (nodup_eraseDups values) (nodup_eraseDups others)).2 fun value => ?_
  rw [List.mem_eraseDups, List.mem_eraseDups, perm.mem_iff]

end Merging

end ApplicationDraft

namespace Application

/-- Two applications have the same name, target the same platforms and have the same parts in any order. -/
structure SameParts (left right : Application) : Prop where
  name : left.name = right.name
  platforms : left.platforms = right.platforms
  commands : left.commands.Perm right.commands
  bindings : left.bindings.Perm right.bindings
  files : left.files.Perm right.files
  interpreters : left.interpreters.Perm right.interpreters

variable {left right : Application}

theorem SameParts.symm (same : left.SameParts right) : right.SameParts left where
  name := same.name.symm
  platforms := same.platforms.symm
  commands := same.commands.symm
  bindings := same.bindings.symm
  files := same.files.symm
  interpreters := same.interpreters.symm

/-- Consistency is a matter of the parts and not of their order. -/
theorem SameParts.consistent (same : left.SameParts right) (consistent : left.Consistent) :
    right.Consistent where
  files := (same.files.map File.id).nodup_iff.1 consistent.files
  interpreters := (same.interpreters.map Interpreter.id).nodup_iff.1 consistent.interpreters
  commands := (same.commands.map Command.name).nodup_iff.1 consistent.commands
  bindings := (same.bindings.map Command.name).nodup_iff.1 consistent.bindings
  distributions := by
    intro interpreter member platform targeted dist present
    rw [← same.interpreters.mem_iff] at member
    rw [← same.platforms] at targeted
    obtain ⟨own, free⟩ := consistent.distributions interpreter member platform targeted dist present
    exact ⟨own, fun taken => free ((same.files.map File.id).mem_iff.2 taken)⟩

end Application

namespace ApplicationDraft

variable {name : String} {defaultPlatform : Platform} {calls reordered : List Call}

/-- Calls in another order describe an application with the same parts. -/
theorem described_sameParts (name : String) (defaultPlatform : Platform) (perm : calls.Perm reordered) :
    (described name defaultPlatform calls).SameParts (described name defaultPlatform reordered) where
  name := rfl
  platforms := by
    have given : (calls.flatMap Call.platforms).Perm (reordered.flatMap Call.platforms) :=
      perm.flatMap_right Call.platforms
    refine SortedSet.ext_mem fun platform => ?_
    simp only [described, given.isEmpty_eq, SortedSet.mem_ofList_iff]
    split
    · exact Iff.rfl
    · exact given.mem_iff
  commands := eraseDups_perm (perm.filterMap Call.command?)
  bindings := eraseDups_perm (perm.filterMap Call.binding?)
  files := perm.filterMap Call.file?
  interpreters := perm.filterMap Call.interpreter?

theorem build_performAll_eq_ok_iff {app : Application} :
    ((start name defaultPlatform).performAll calls).build.result = .ok app ↔
      described name defaultPlatform calls = app ∧ app.Consistent := by
  rw [build_eq_ok_iff, toApplication_performAll]

theorem performAll_append (draft : ApplicationDraft) (before behind : List Call) :
    draft.performAll (before ++ behind) = (draft.performAll before).performAll behind :=
  List.foldl_append

/-- A command or a binding that was given before leaves a draft as it is. -/
theorem perform_of_given {call : Call} (merged : call.command? ≠ none ∨ call.binding? ≠ none)
    (given : call ∈ calls) :
    ((start name defaultPlatform).performAll calls).perform call =
      (start name defaultPlatform).performAll calls := by
  rw [performAll_start]
  cases call with
  | addCommand command =>
    have known : command ∈ (calls.filterMap Call.command?).eraseDups :=
      List.mem_eraseDups.2 (List.mem_filterMap.2 ⟨_, given, rfl⟩)
    rw [perform, addCommand, addNew_of_mem known]
  | addBinding binding =>
    have known : binding ∈ (calls.filterMap Call.binding?).eraseDups :=
      List.mem_eraseDups.2 (List.mem_filterMap.2 ⟨_, given, rfl⟩)
    rw [perform, addBinding, addNew_of_mem known]
  | _ => simp [Call.command?, Call.binding?] at merged

/-- Whether a draft is built does not depend on the order of the calls that fill it, and what is built has
the same platforms and the same parts up to their order, no command and no binding twice. A command or a
binding that was given before can be given again at any later time without an effect. -/
theorem build_reordered (name : String) (defaultPlatform : Platform) :
    let built (calls : List Call) := ((start name defaultPlatform).performAll calls).build
    (∀ calls reordered : List Call, calls.Perm reordered →
      ((∃ app, (built calls).result = .ok app) ↔ ∃ other, (built reordered).result = .ok other) ∧
      ∀ app other, (built calls).result = .ok app → (built reordered).result = .ok other →
        app.SameParts other ∧ app.commands.Nodup ∧ app.bindings.Nodup ∧
          other.commands.Nodup ∧ other.bindings.Nodup) ∧
    ∀ (before behind : List Call) (call : Call), call.command? ≠ none ∨ call.binding? ≠ none →
      call ∈ before → built (before ++ call :: behind) = built (before ++ behind) := by
  dsimp only
  refine ⟨fun calls reordered perm => ?_, fun before behind call merged given => ?_⟩
  · have same := described_sameParts name defaultPlatform perm
    simp only [build_performAll_eq_ok_iff, exists_eq_left']
    refine ⟨⟨same.consistent, same.symm.consistent⟩, ?_⟩
    rintro app other ⟨rfl, -⟩ ⟨rfl, -⟩
    exact ⟨same, nodup_eraseDups _, nodup_eraseDups _, nodup_eraseDups _, nodup_eraseDups _⟩
  · have again : (start name defaultPlatform).performAll (before ++ call :: behind) =
        (start name defaultPlatform).performAll (before ++ behind) := by
      rw [performAll_append, performAll_append, performAll, List.foldl_cons, perform_of_given merged given]
      rfl
    rw [again]

/-- Calls that give a command, with other parts between, and a platform twice. -/
def demoCalls : List Call :=
  [.addCommand (.ofExe "run"), .addFile (.ofName "a.zip"), .addPlatforms [.macosX86_64, .linuxX86_64],
    .addCommand (.ofExe "run"), .addBinding (.ofExe "run"),
    .addInterpreter ⟨⟨"perl", by decide⟩, .static ⟨⟨"perl", by decide⟩, false, .empty⟩⟩,
    .addCommand { Command.ofExe "test" with name := some "test" }, .addPlatforms [.linuxX86_64]]

/-- The calls and the same calls from the last to the first fill drafts that are built, with the commands in
different orders. -/
theorem build_reordered_reverse :
    demoCalls.Perm demoCalls.reverse ∧
      ∃ app other, ((start "demo" .linuxS390x).performAll demoCalls).build.result = .ok app ∧
        ((start "demo" .linuxS390x).performAll demoCalls.reverse).build.result = .ok other ∧
        app.commands.map Command.name = [none, some "test"] ∧
        other.commands.map Command.name = [some "test", none] ∧
        app.commands.Perm other.commands ∧ app.platforms = other.platforms := by
  have perm : demoCalls.Perm demoCalls.reverse := (List.reverse_perm _).symm
  have built : ((start "demo" .linuxS390x).performAll demoCalls).build.result =
      .ok (described "demo" .linuxS390x demoCalls) := by rfl
  obtain ⟨reorder, -⟩ := build_reordered "demo" .linuxS390x
  obtain ⟨built_iff, parts⟩ := reorder demoCalls demoCalls.reverse perm
  obtain ⟨other, reversed⟩ := built_iff.1 ⟨_, built⟩
  obtain ⟨same, -⟩ := parts _ _ built reversed
  refine ⟨perm, _, other, built, reversed, ?_, ?_, same.commands, same.platforms⟩
  · rfl
  · cases reversed
    rfl

end ApplicationDraft

end AppBundle
