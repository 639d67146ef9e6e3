import AppBundle.Environment.EnvDraft
import AppBundle.Proofs.Collection
import Mathlib.Data.List.Induction
import Mathlib.Data.String.Basic

/-! # Drafting a change of environment

Each call that fills a draft stores a value in a slot of its own: the default or the replacement of a name, or
the mark of a removal. What a draft holds in a slot is what the last call about the slot has stored there, so
that only the order of the calls about one slot counts. The change that is built says the same; its patterns
are judged by themselves, and of those that are refused the least one is reported, whenever it was given.
-/

namespace AppBundle.EnvDraft

/-- A call that fills a draft. -/
inductive Call where
  | setDefault (name value : String)
  | replace (name value : String)
  | remove (name : String)
  | removeMatching (pattern : String)
deriving DecidableEq

/-- What a call is about. -/
inductive Slot where
  | default (name : String)
  | replacement (name : String)
  | removal (name : String)
  | removalByPattern (pattern : String)
deriving DecidableEq

namespace Call

/-- What a call is about. -/
def slot : Call → Slot
  | setDefault name _ => .default name
  | replace name _ => .replacement name
  | remove name => .removal name
  | removeMatching pattern => .removalByPattern pattern

/-- The value that a call gives, which for a removal is what it removes. -/
def value : Call → String
  | setDefault _ value => value
  | replace _ value => value
  | remove name => name
  | removeMatching pattern => pattern

end Call

/-- The draft after a call. -/
def perform (draft : EnvDraft) : Call → EnvDraft
  | .setDefault name value => draft.setDefault name value
  | .replace name value => draft.replace name value
  | .remove name => draft.remove name
  | .removeMatching pattern => draft.removeMatching pattern

/-- The draft after several calls. -/
def performAll (draft : EnvDraft) (calls : List Call) : EnvDraft := calls.foldl perform draft

/-- What a draft holds in a slot. -/
def stored (draft : EnvDraft) : Slot → Option String
  | .default name => draft.defaults.get? name
  | .replacement name => draft.replacements.get? name
  | .removal name => if name ∈ draft.removedNames then some name else none
  | .removalByPattern pattern => if pattern ∈ draft.removedPatterns then some pattern else none

/-- The value of the last call about a slot. -/
def lastValue? (calls : List Call) (slot : Slot) : Option String :=
  (calls.filter (·.slot = slot)).getLast?.map Call.value

/-- A call stores its value in its slot and leaves all others as they are. -/
theorem stored_perform (draft : EnvDraft) (call : Call) (slot : Slot) :
    (draft.perform call).stored slot = if call.slot = slot then some call.value else draft.stored slot := by
  cases call <;> cases slot <;>
    simp only [perform, setDefault, replace, remove, removeMatching, stored, Call.slot, Call.value,
      SortedMap.get?_insert, SortedSet.mem_insert, Std.compare_eq_iff_eq, Slot.default.injEq,
      Slot.replacement.injEq, Slot.removal.injEq, Slot.removalByPattern.injEq, reduceCtorEq, if_false]
  all_goals grind

/-- The last call about a slot decides what is in it. -/
theorem stored_performAll (draft : EnvDraft) (calls : List Call) (slot : Slot) :
    (draft.performAll calls).stored slot = (lastValue? calls slot).or (draft.stored slot) := by
  induction calls using List.reverseRecOn with
  | nil => rfl
  | append_singleton calls call ih =>
    rw [performAll, List.foldl_concat, ← performAll, stored_perform, ih, lastValue?, lastValue?,
      List.filter_append]
    by_cases about : call.slot = slot
    · simp [about]
    · simp [about]

/-- Drafts that hold the same in every slot are equal. -/
theorem ext_stored {left right : EnvDraft} (same : ∀ slot, left.stored slot = right.stored slot) :
    left = right := by
  have defaults : left.defaults = right.defaults := SortedMap.ext_get? fun name => same (.default name)
  have replacements : left.replacements = right.replacements :=
    SortedMap.ext_get? fun name => same (.replacement name)
  have names : left.removedNames = right.removedNames := SortedSet.ext_mem fun name => by
    have marked := same (.removal name)
    simp only [stored] at marked
    grind
  have patterns : left.removedPatterns = right.removedPatterns := SortedSet.ext_mem fun pattern => by
    have marked := same (.removalByPattern pattern)
    simp only [stored] at marked
    grind
  cases left
  cases right
  cases defaults
  cases replacements
  cases names
  cases patterns
  rfl

/-- Only the order of the calls about one slot counts. -/
theorem performAll_congr {calls reordered : List Call}
    (inOrder : ∀ slot, reordered.filter (·.slot = slot) = calls.filter (·.slot = slot)) (draft : EnvDraft) :
    draft.performAll reordered = draft.performAll calls := by
  refine ext_stored fun slot => ?_
  rw [stored_performAll, stored_performAll, lastValue?, lastValue?, inOrder]

theorem stored_empty (slot : Slot) : empty.stored slot = none := by
  cases slot with
  | default name => rfl
  | replacement name => rfl
  | removal name => rw [stored, if_neg]; exact SortedSet.not_mem_empty name
  | removalByPattern pattern => rw [stored, if_neg]; exact SortedSet.not_mem_empty pattern

section Filled

variable {calls : List Call}

theorem stored_performAll_empty (slot : Slot) : (empty.performAll calls).stored slot = lastValue? calls slot := by
  rw [stored_performAll, stored_empty, Option.or_none]

/-- A slot is filled by a call about it. -/
theorem stored_isSome_iff {slot : Slot} :
    ((empty.performAll calls).stored slot).isSome = true ↔ ∃ call ∈ calls, call.slot = slot := by
  rw [stored_performAll_empty, lastValue?, Option.isSome_map, List.getLast?_isSome, ne_eq,
    List.filter_eq_nil_iff]
  simp

theorem mem_removedNames_iff {name : String} :
    name ∈ (empty.performAll calls).removedNames ↔ .remove name ∈ calls := by
  have filled := @stored_isSome_iff calls (.removal name)
  rw [stored, Option.isSome_ite] at filled
  rw [filled]
  constructor
  · rintro ⟨call, given, about⟩
    cases call <;> cases about
    exact given
  · exact fun given => ⟨_, given, rfl⟩

theorem mem_removedPatterns_iff {pattern : String} :
    pattern ∈ (empty.performAll calls).removedPatterns ↔ .removeMatching pattern ∈ calls := by
  have filled := @stored_isSome_iff calls (.removalByPattern pattern)
  rw [stored, Option.isSome_ite] at filled
  rw [filled]
  constructor
  · rintro ⟨call, given, about⟩
    cases call <;> cases about
    exact given
  · exact fun given => ⟨_, given, rfl⟩

end Filled

section Building

/-- A text is no pattern. -/
def Refused (text : String) : Prop := ∀ pattern, NamePattern.parse text ≠ .ok pattern

theorem parse_eq_error_iff {text : String} {error : ModelError} :
    NamePattern.parse text = .error error ↔ error = .invalidPattern text ∧ Refused text := by
  rw [Refused]
  unfold NamePattern.parse
  split
  · simp
  · simp [eq_comm]

/-- The least of the patterns that are given and refused. -/
structure LeastRefused (calls : List Call) (text : String) : Prop where
  given : .removeMatching text ∈ calls
  refused : Refused text
  least : ∀ other, .removeMatching other ∈ calls → Refused other → text ≤ other

/-- A change of environment says what calls have given. -/
structure Collects (calls : List Call) (env : Env) : Prop where
  defaults : ∀ name, env.defaults.get? name = lastValue? calls (.default name)
  replacements : ∀ name, env.replacements.get? name = lastValue? calls (.replacement name)
  removedNames : ∀ name, name ∈ env.removedNames ↔ .remove name ∈ calls
  removedPatterns : ∀ text, (∃ pattern ∈ env.removedPatterns, pattern.text = text) ↔
    .removeMatching text ∈ calls

variable {draft : EnvDraft} {env : Env} {error : ModelError}

theorem build_eq_error_iff :
    draft.build = .error error ↔
      ∃ text ∈ draft.removedPatterns, error = .invalidPattern text ∧ Refused text ∧
        ∀ other ∈ draft.removedPatterns, Refused other → text ≤ other := by
  have member (text : String) : text ∈ draft.removedPatterns ↔
      ∃ stored, draft.removedPatterns.members.get? text = some stored := Option.isSome_iff_exists
  rw [build, bind_pure_comp, Except.map_eq_error_iff, mapM_eq_error_iff, SortedSet.toList,
    SortedMap.failsFirst_keys_iff]
  simp only [member, parse_eq_error_iff]
  constructor
  · rintro ⟨text, stored, ⟨present, ⟨_, -, refused⟩, least⟩, rfl, -⟩
    refine ⟨text, ⟨stored, present⟩, rfl, refused, ?_⟩
    rintro other ⟨value, found⟩ otherRefused
    by_contra below
    exact least other value (compare_lt_iff_lt.2 (not_le.1 below)) found ⟨_, rfl, otherRefused⟩
  · rintro ⟨text, ⟨stored, present⟩, rfl, refused, least⟩
    refine ⟨text, stored, ⟨present, ⟨_, rfl, refused⟩, ?_⟩, rfl, refused⟩
    rintro other value below found ⟨_, -, otherRefused⟩
    exact not_le.2 (compare_lt_iff_lt.1 below) (least other ⟨value, found⟩ otherRefused)

/-- Patterns keep the texts that they are read from. -/
theorem map_text_of_mapM {texts : List String} {patterns : List NamePattern}
    (read : texts.mapM NamePattern.parse = .ok patterns) : patterns.map NamePattern.text = texts := by
  rw [← List.forall₂_eq_eq_eq, List.forall₂_map_left_iff]
  exact (mapM_eq_ok_iff.1 read).flip.imp fun _ _ => NamePattern.text_of_parse

theorem exists_text_ofList_iff {patterns : List NamePattern} {text : String} :
    (∃ pattern ∈ SortedSet.ofList patterns, pattern.text = text) ↔ text ∈ patterns.map NamePattern.text := by
  simp only [SortedSet.mem_ofList_iff, List.mem_map]

theorem build_eq_ok_iff_exists_read :
    draft.build = .ok env ↔
      ∃ patterns, draft.removedPatterns.toList.mapM NamePattern.parse = .ok patterns ∧
        ⟨draft.defaults, draft.replacements, draft.removedNames, .ofList patterns⟩ = env := by
  rw [build, bind_pure_comp, Except.map_eq_ok_iff]

theorem build_eq_ok_iff :
    draft.build = .ok env ↔
      env.defaults = draft.defaults ∧ env.replacements = draft.replacements ∧
        env.removedNames = draft.removedNames ∧
        ∀ text, (∃ pattern ∈ env.removedPatterns, pattern.text = text) ↔ text ∈ draft.removedPatterns := by
  rw [build_eq_ok_iff_exists_read]
  constructor
  · rintro ⟨patterns, read, rfl⟩
    refine ⟨rfl, rfl, rfl, fun text => ?_⟩
    rw [exists_text_ofList_iff, map_text_of_mapM read, SortedSet.mem_toList_iff]
  · rintro ⟨defaults, replacements, names, texts⟩
    -- Every text of the draft is the text of one of the patterns, and so it can be read.
    obtain ⟨patterns, read⟩ : ∃ patterns,
        draft.removedPatterns.toList.mapM NamePattern.parse = .ok patterns := by
      refine exists_mapM_eq_ok_iff.2 fun text listed => ?_
      obtain ⟨pattern, -, rfl⟩ := (texts text).2 (SortedSet.mem_toList_iff.1 listed)
      exact ⟨pattern, pattern.parse_text⟩
    have same : SortedSet.ofList patterns = env.removedPatterns := by
      refine SortedSet.ext_mem fun pattern => ?_
      have byText (set : SortedSet NamePattern) :
          pattern ∈ set ↔ ∃ other ∈ set, other.text = pattern.text :=
        ⟨fun member => ⟨pattern, member, rfl⟩,
          fun ⟨_, member, text⟩ => NamePattern.ext_text text ▸ member⟩
      rw [byText, byText env.removedPatterns, texts, exists_text_ofList_iff, map_text_of_mapM read,
        SortedSet.mem_toList_iff]
    refine ⟨patterns, read, ?_⟩
    cases env
    cases defaults
    cases replacements
    cases names
    cases same
    rfl

end Building

section Calls

variable {calls : List Call} {env : Env} {error : ModelError}

theorem build_performAll_eq_ok_iff : (empty.performAll calls).build = .ok env ↔ Collects calls env := by
  have defaults : env.defaults = (empty.performAll calls).defaults ↔
      ∀ name, env.defaults.get? name = lastValue? calls (.default name) := by
    simp only [← stored_performAll_empty]
    exact ⟨fun same name => same ▸ rfl, SortedMap.ext_get?⟩
  have replacements : env.replacements = (empty.performAll calls).replacements ↔
      ∀ name, env.replacements.get? name = lastValue? calls (.replacement name) := by
    simp only [← stored_performAll_empty]
    exact ⟨fun same name => same ▸ rfl, SortedMap.ext_get?⟩
  have names : env.removedNames = (empty.performAll calls).removedNames ↔
      ∀ name, name ∈ env.removedNames ↔ .remove name ∈ calls := by
    simp only [← mem_removedNames_iff]
    exact ⟨fun same name => same ▸ Iff.rfl, SortedSet.ext_mem⟩
  rw [build_eq_ok_iff, defaults, replacements, names]
  simp only [mem_removedPatterns_iff]
  constructor
  · rintro ⟨defaults, replacements, names, texts⟩
    exact ⟨defaults, replacements, names, texts⟩
  · rintro ⟨defaults, replacements, names, texts⟩
    exact ⟨defaults, replacements, names, texts⟩

theorem build_performAll_eq_error_iff :
    (empty.performAll calls).build = .error error ↔
      ∃ text, LeastRefused calls text ∧ error = .invalidPattern text := by
  rw [build_eq_error_iff]
  simp only [mem_removedPatterns_iff]
  constructor
  · rintro ⟨text, given, rfl, refused, least⟩
    exact ⟨text, ⟨given, refused, least⟩, rfl⟩
  · rintro ⟨text, ⟨given, refused, least⟩, rfl⟩
    exact ⟨text, given, rfl, refused, least⟩

/-- A change can be built if every pattern that was given is one. -/
theorem exists_build_performAll_iff :
    (∃ env, (empty.performAll calls).build = .ok env) ↔
      ∀ text, .removeMatching text ∈ calls → ∃ pattern, NamePattern.parse text = .ok pattern := by
  have patterns : (∃ env, (empty.performAll calls).build = .ok env) ↔
      ∃ patterns, (empty.performAll calls).removedPatterns.toList.mapM NamePattern.parse = .ok patterns := by
    simp only [build_eq_ok_iff_exists_read]
    constructor
    · rintro ⟨env, patterns, read, -⟩
      exact ⟨patterns, read⟩
    · rintro ⟨patterns, read⟩
      exact ⟨_, patterns, read, rfl⟩
  rw [patterns, exists_mapM_eq_ok_iff]
  simp only [SortedSet.mem_toList_iff, mem_removedPatterns_iff]

/-- What becomes of the calls that fill a draft. A change is built exactly if every given pattern is one, and
then it has for each name the default and the replacement that were given last, and removes what was given for
removal. Otherwise the least pattern that is none is reported. Calls in another order, in which those about the
same thing keep theirs, give the same change or the same error, and no call makes up for a pattern that is
none. -/
theorem build_collected (calls : List Call) :
    let built (calls : List Call) := (empty.performAll calls).build
    ((∃ env, built calls = .ok env) ↔
      ∀ text, .removeMatching text ∈ calls → ∃ pattern, NamePattern.parse text = .ok pattern) ∧
    (∀ env, built calls = .ok env ↔ Collects calls env) ∧
    (∀ error, built calls = .error error ↔
      ∃ text, LeastRefused calls text ∧ error = .invalidPattern text) ∧
    (∀ reordered, (∀ slot, reordered.filter (·.slot = slot) = calls.filter (·.slot = slot)) →
      built reordered = built calls) ∧
    ∀ text further, .removeMatching text ∈ calls → Refused text →
      ∀ env, built (calls ++ further) ≠ .ok env := by
  dsimp only
  refine ⟨exists_build_performAll_iff, fun env => build_performAll_eq_ok_iff, fun error => ?_,
    fun reordered inOrder => ?_, fun text further given refused env built => ?_⟩
  · exact build_performAll_eq_error_iff
  · rw [performAll_congr inOrder]
  · obtain ⟨pattern, read⟩ := exists_build_performAll_iff.1 ⟨env, built⟩ text (List.mem_append_left _ given)
    exact refused pattern read

/-- Two texts that are no patterns, given in descending order; the least one is reported. -/
example : ((empty.performAll [.removeMatching "[", .setDefault "A" "1", .removeMatching "("]).build.map
    fun env => env.removedPatterns.toList.map NamePattern.text) = .error (.invalidPattern "(") := by rfl

end Calls

end AppBundle.EnvDraft
