import AppBundle.Collection.SortedSet
import AppBundle.Proofs.Outcome

/-! # Laws of sorted maps and sets

Replacing the values of a map keeps its keys, and a map that comes from a traversal of another one, or from
a function of its entries, has the same keys with the results under them. A map is built again from its own
entries and a set from its own members, and of a list in which no key is repeated the map holds every entry.
The keys of a map and the members of a set are those that were put into it. Where a traversal fails it does so
at the least key that is refused. What is found under a key in a
map that was filled from a list is what the list says about the key, read from its end or from its front.
-/

namespace AppBundle

section Entries

variable {κ ν : Type} [DecidableEq κ]

theorem lookup_cons_eq_ite (key : κ) (entry : κ × ν) (rest : List (κ × ν)) :
    (entry :: rest).lookup key = if key = entry.1 then some entry.2 else rest.lookup key := by
  rw [List.lookup_cons]
  by_cases same : key = entry.1
  · rw [if_pos same, beq_iff_eq.2 same]
  · rw [if_neg same, beq_eq_false_iff_ne.2 same]

/-- Where entries are dropped by their keys, nothing is found under a dropped key and the same as before
under any other. -/
theorem lookup_filter_fst (keep : κ → Bool) (entries : List (κ × ν)) (key : κ) :
    (entries.filter fun entry => keep entry.1).lookup key =
      if keep key then entries.lookup key else none := by
  induction entries with
  | nil => rw [List.filter_nil, List.lookup_nil, ite_self]
  | cons entry rest ih =>
    rw [List.filter_cons, lookup_cons_eq_ite]
    by_cases same : key = entry.1
    · subst same
      cases kept : keep entry.1 <;> simp [lookup_cons_eq_ite, kept, ih]
    · cases kept : keep entry.1 <;> simp [lookup_cons_eq_ite, ih, same]

end Entries

namespace SortedMap

variable {κ ν μ : Type} [Ord κ]

@[simp] theorem length_values (map : SortedMap κ ν) : map.values.length = map.size :=
  List.length_map _

/-- Going through the values of a map is going through its entries without regard to their keys. -/
theorem mapValuesM_eq_mapM {m : Type → Type} [Monad m] [LawfulMonad m] {μ : Type} (f : ν → m μ)
    (map : SortedMap κ ν) : map.mapValuesM f = map.mapM fun _ value => f value := by
  rw [mapValuesM, mapM, SortedMap.values, List.mapM_map]
  rfl

/-- The results of a successful traversal stand under the keys of the values that they come from. -/
theorem forall₂_of_mapM_eq_ok {ε : Type} {f : κ → ν → Except ε μ} {map : SortedMap κ ν}
    {result : SortedMap κ μ} (made : map.mapM f = .ok result) :
    List.Forall₂ (fun old new => old.1 = new.1 ∧ f old.1 old.2 = .ok new.2)
      map.toList result.toList := by
  rw [mapM, bind_pure_comp, Except.map_eq_ok_iff] at made
  obtain ⟨values, collected, rfl⟩ := made
  rw [mapM_eq_ok_iff] at collected
  change List.Forall₂ _ map.toList ((map.toList.map Prod.fst).zip values)
  generalize map.toList = entries at collected ⊢
  induction collected with
  | nil => exact .nil
  | cons same _ ih => exact .cons ⟨rfl, same⟩ ih

theorem keys_of_mapM_eq_ok {ε : Type} {f : κ → ν → Except ε μ} {map : SortedMap κ ν}
    {result : SortedMap κ μ} (made : map.mapM f = .ok result) : result.keys = map.keys := by
  have related := forall₂_of_mapM_eq_ok made
  rw [keys, keys, ← List.forall₂_eq_eq_eq, List.forall₂_map_left_iff, List.forall₂_map_right_iff]
  exact related.flip.imp fun _ _ same => same.1.symm

/-- A traversal succeeds if its function succeeds on every entry. -/
theorem exists_mapM_eq_ok {ε : Type} {f : κ → ν → Except ε μ} {map : SortedMap κ ν}
    (passes : ∀ entry ∈ map.toList, ∃ new, f entry.1 entry.2 = .ok new) :
    ∃ result, map.mapM f = .ok result := by
  obtain ⟨values, collected⟩ := exists_mapM_eq_ok_iff.2 passes
  exact ⟨map.setValues values, by rw [mapM, collected, Except.ok_bind]; rfl⟩

theorem exists_mapM_eq_ok_iff {ε : Type} {f : κ → ν → Except ε μ} {map : SortedMap κ ν} :
    (∃ result, map.mapM f = .ok result) ↔ ∀ entry ∈ map.toList, ∃ new, f entry.1 entry.2 = .ok new := by
  refine ⟨?_, exists_mapM_eq_ok⟩
  rintro ⟨result, made⟩ entry member
  obtain ⟨new, -, -, passed⟩ := exists_mem_of_forall₂ (forall₂_of_mapM_eq_ok made).flip member
  exact ⟨new.2, passed⟩

/-- The map with the same keys whose values are computed from the entries. -/
def mapEntries (f : κ → ν → μ) (map : SortedMap κ ν) : SortedMap κ μ :=
  map.setValues (map.toList.map fun entry => f entry.1 entry.2)

theorem toList_mapEntries (f : κ → ν → μ) (map : SortedMap κ ν) :
    (map.mapEntries f).toList = map.toList.map fun entry => (entry.1, f entry.1 entry.2) :=
  List.zip_map' ..

theorem keys_mapEntries (f : κ → ν → μ) (map : SortedMap κ ν) :
    (map.mapEntries f).keys = map.keys := by
  have entries := congrArg (List.map Prod.fst) (toList_mapEntries f map)
  rw [List.map_map] at entries
  exact entries

theorem ext_toList {left right : SortedMap κ ν} (same : left.toList = right.toList) : left = right := by
  cases left
  cases right
  congr

section SetValues
variable {ρ : Type} {map : SortedMap κ ν} {values : List μ} (length : values.length = map.size)

include length

theorem keys_setValues : (map.setValues values).keys = map.keys :=
  List.map_fst_zip (by rw [keys, List.length_map]; exact Nat.le_of_eq length.symm)

theorem values_setValues : (map.setValues values).values = values :=
  List.map_snd_zip (by rw [keys, List.length_map]; exact Nat.le_of_eq length)

/-- Of values that replace each other the last ones stay. -/
theorem setValues_setValues (others : List ρ) :
    (map.setValues values).setValues others = map.setValues others :=
  ext_toList (congrArg (List.zip · others) (keys_setValues length))

end SetValues

theorem setValues_values (map : SortedMap κ ν) : map.setValues map.values = map := by
  refine ext_toList ?_
  show (map.entries.map Prod.fst).zip (map.entries.map Prod.snd) = map.entries
  rw [List.zip_map', List.map_id']

theorem size_eq_length_keys (map : SortedMap κ ν) : map.size = map.keys.length :=
  (List.length_map _).symm

section Building

variable [Std.TransOrd κ]

theorem insertEntry_of_last {key : κ} {value : ν} {entries : List (κ × ν)}
    (last : ∀ entry ∈ entries, compare entry.1 key = .lt) :
    insertEntry key value entries = entries ++ [(key, value)] := by
  induction entries with
  | nil => rfl
  | cons head rest ih =>
    rw [List.forall_mem_cons] at last
    have above : compare key head.1 = .gt := Std.OrientedCmp.gt_iff_lt.2 last.1
    rw [insertEntry, above]
    exact congrArg (head :: ·) (ih last.2)

/-- Entries that ascend beyond those of a map are stored behind them. -/
theorem toList_insertMany_of_ascending (map : SortedMap κ ν) {entries : List (κ × ν)}
    (ascending : (map.toList ++ entries).Pairwise fun a b => compare a.1 b.1 = .lt) :
    (map.insertMany entries).toList = map.toList ++ entries := by
  induction entries generalizing map with
  | nil => exact (List.append_nil _).symm
  | cons entry entries ih =>
    have last : ∀ other ∈ map.toList, compare other.1 entry.1 = .lt := fun other member =>
      (List.pairwise_append.1 ascending).2.2 other member entry (List.mem_cons_self ..)
    have stored : (map.insert entry.1 entry.2).toList = map.toList ++ [entry] :=
      insertEntry_of_last last
    have onward := ih (map.insert entry.1 entry.2)
    rw [stored, List.append_assoc] at onward
    exact onward ascending

theorem toList_ofList_of_ascending {entries : List (κ × ν)}
    (ascending : entries.Pairwise fun a b => compare a.1 b.1 = .lt) :
    (ofList entries).toList = entries :=
  toList_insertMany_of_ascending empty ascending

theorem ofList_toList (map : SortedMap κ ν) : ofList map.toList = map := by
  have entries : (ofList map.toList).toList = map.toList := toList_ofList_of_ascending map.ascending
  exact ext_toList entries

theorem mem_of_mem_insertMany (map : SortedMap κ ν) {entries : List (κ × ν)} {entry : κ × ν}
    (member : entry ∈ (map.insertMany entries).toList) : entry ∈ map.toList ∨ entry ∈ entries := by
  induction entries generalizing map with
  | nil => exact .inl member
  | cons first entries ih =>
    rcases ih (map.insert first.1 first.2) member with inserted | later
    · rcases mem_insertEntry inserted with rfl | earlier
      · exact .inr (List.mem_cons_self ..)
      · exact .inl earlier
    · exact .inr (List.mem_cons_of_mem _ later)

theorem mem_of_mem_ofList {entries : List (κ × ν)} {entry : κ × ν}
    (member : entry ∈ (ofList entries).toList) : entry ∈ entries :=
  (mem_of_mem_insertMany empty member).resolve_left List.not_mem_nil

theorem get?_insertMany_of_notMem [Std.LawfulEqOrd κ] (map : SortedMap κ ν) {entries : List (κ × ν)}
    {key : κ} (absent : key ∉ entries.map Prod.fst) :
    (map.insertMany entries).get? key = map.get? key := by
  induction entries generalizing map with
  | nil => rfl
  | cons entry entries ih =>
    rw [List.map_cons, List.mem_cons, not_or] at absent
    have other : compare key entry.1 ≠ .eq := fun same => absent.1 (Std.LawfulEqOrd.eq_of_compare same)
    have onward := ih (map.insert entry.1 entry.2) absent.2
    rw [get?_insert, if_neg other] at onward
    exact onward

/-- Entries under different keys are all found. -/
theorem get?_ofList_of_mem [Std.LawfulEqOrd κ] {entries : List (κ × ν)} {key : κ} {value : ν}
    (distinct : (entries.map Prod.fst).Nodup) (member : (key, value) ∈ entries) :
    (ofList entries).get? key = some value := by
  obtain ⟨before, after, rfl⟩ := List.append_of_mem member
  have absent : key ∉ after.map Prod.fst := by
    rw [List.map_append, List.map_cons, List.nodup_append] at distinct
    exact (List.nodup_cons.1 distinct.2.1).1
  have split : ofList (before ++ (key, value) :: after) =
      ((ofList before).insert key value).insertMany after := by
    simp [ofList, insertMany]
  rw [split, get?_insertMany_of_notMem _ absent, get?_insert, if_pos Std.ReflCmp.compare_self]

end Building

section Found

variable [Std.TransOrd κ] [Std.LawfulEqOrd κ]

theorem mem_keys_iff {map : SortedMap κ ν} {key : κ} :
    key ∈ map.keys ↔ ∃ value, map.get? key = some value := by
  rw [keys, List.mem_map]
  simp only [get?_eq_some_iff, toList]
  constructor
  · rintro ⟨⟨_, value⟩, member, rfl⟩
    exact ⟨value, member⟩
  · rintro ⟨value, member⟩
    exact ⟨(key, value), member, rfl⟩

theorem get?_mapEntries_eq_some_iff {f : κ → ν → μ} {map : SortedMap κ ν} {key : κ} {new : μ} :
    (map.mapEntries f).get? key = some new ↔ ∃ old, map.get? key = some old ∧ f key old = new := by
  simp only [get?_eq_some_iff, toList_mapEntries, List.mem_map, Prod.mk.injEq, Prod.exists]
  constructor
  · rintro ⟨_, old, member, rfl, same⟩
    exact ⟨old, member, same⟩
  · rintro ⟨old, member, same⟩
    exact ⟨key, old, member, rfl, same⟩

/-- What a traversal stores under a key is what its function makes of the value there. -/
theorem get?_of_mapM_eq_ok {ε : Type} {f : κ → ν → Except ε μ} {map : SortedMap κ ν}
    {result : SortedMap κ μ} (made : map.mapM f = .ok result) {key : κ} {new : μ} :
    result.get? key = some new ↔ ∃ old, map.get? key = some old ∧ f key old = .ok new := by
  have related := forall₂_of_mapM_eq_ok made
  constructor
  · intro found
    obtain ⟨⟨_, old⟩, member, rfl, passed⟩ :=
      exists_mem_of_forall₂ related ((get?_eq_some_iff _).1 found)
    exact ⟨old, (get?_eq_some_iff _).2 member, passed⟩
  · rintro ⟨old, found, passed⟩
    obtain ⟨⟨_, other⟩, member, rfl, again⟩ :=
      exists_mem_of_forall₂ related.flip ((get?_eq_some_iff _).1 found)
    obtain rfl := Except.ok.inj (again.symm.trans passed)
    exact (get?_eq_some_iff _).2 member

theorem mem_keys_insert_iff {map : SortedMap κ ν} {key other : κ} {value : ν} :
    other ∈ (map.insert key value).keys ↔ other = key ∨ other ∈ map.keys := by
  by_cases same : other = key <;> simp [mem_keys_iff, get?_insert, same]

theorem mem_keys_insertMany_iff {map : SortedMap κ ν} {entries : List (κ × ν)} {key : κ} :
    key ∈ (map.insertMany entries).keys ↔ key ∈ map.keys ∨ key ∈ entries.map Prod.fst := by
  induction entries generalizing map with
  | nil => simp [insertMany]
  | cons entry entries ih =>
    have onward := @ih (map.insert entry.1 entry.2)
    rw [mem_keys_insert_iff] at onward
    rw [List.map_cons, List.mem_cons, ← or_assoc, or_comm (a := key ∈ map.keys)]
    exact onward

theorem mem_keys_ofList_iff {entries : List (κ × ν)} {key : κ} :
    key ∈ (ofList entries).keys ↔ key ∈ entries.map Prod.fst := by
  rw [ofList, mem_keys_insertMany_iff]
  exact or_iff_right List.not_mem_nil

end Found

section Least

variable [Std.TransOrd κ] {ε : Type} {error : ε}

/-- The least key of a map whose value is of some kind is `key`, with `value` under it. -/
structure LeastWith (kind : κ → ν → Prop) (map : SortedMap κ ν) (key : κ) (value : ν) : Prop where
  present : map.get? key = some value
  holds : kind key value
  least : ∀ other stored, compare other key = .lt → map.get? other = some stored → ¬ kind other stored

omit [Std.TransOrd κ] in
/-- Only what is stored in the map counts. -/
theorem LeastWith.congr {kind other : κ → ν → Prop} {map : SortedMap κ ν} {key : κ} {value : ν}
    (same : ∀ key value, map.get? key = some value → (kind key value ↔ other key value)) :
    LeastWith kind map key value ↔ LeastWith other map key value := by
  constructor
  · rintro ⟨present, holds, least⟩
    refine ⟨present, (same _ _ present).1 holds, ?_⟩
    intro lower stored below found
    exact mt (same _ _ found).2 (least lower stored below found)
  · rintro ⟨present, holds, least⟩
    refine ⟨present, (same _ _ present).2 holds, ?_⟩
    intro lower stored below found
    exact mt (same _ _ found).1 (least lower stored below found)

/-- In ascending order the first failure is that of the least key. -/
theorem failsFirst_toList_iff [Std.LawfulEqOrd κ] {f : κ × ν → Except ε μ} {map : SortedMap κ ν} :
    FailsFirst f error map.toList ↔
      ∃ key value, LeastWith (fun key value => ∃ error, f (key, value) = .error error) map key value ∧
        f (key, value) = .error error := by
  constructor
  · rintro ⟨before, ⟨key, value⟩, after, split, passed, failed⟩
    have ascending := map.ascending
    rw [← toList, split, List.pairwise_append, List.pairwise_cons] at ascending
    have listed : (key, value) ∈ map.toList := by simp [split]
    refine ⟨key, value, ⟨(get?_eq_some_iff _).2 listed, ⟨error, failed⟩, ?_⟩, failed⟩
    rintro other stored below found ⟨cause, fails⟩
    rw [get?_eq_some_iff, split, List.mem_append, List.mem_cons] at found
    rcases found with earlier | same | later
    · obtain ⟨result, passes⟩ := passed _ earlier
      cases passes.symm.trans fails
    · cases same
      exact Std.OrientedCmp.not_lt_of_lt below below
    · exact Std.OrientedCmp.not_lt_of_lt below (ascending.2.1.1 _ later)
  · rintro ⟨key, value, ⟨present, -, least⟩, failed⟩
    obtain ⟨before, after, split⟩ := List.append_of_mem ((get?_eq_some_iff _).1 present)
    refine ⟨before, (key, value), after, split, ?_, failed⟩
    rintro ⟨other, stored⟩ earlier
    have ascending := map.ascending
    rw [← toList, split, List.pairwise_append] at ascending
    have below := ascending.2.2 _ earlier _ (List.mem_cons_self ..)
    have listed : (other, stored) ∈ map.toList := by simp [split, earlier]
    rw [Except.exists_eq_ok_iff]
    exact fun cause fails => least other stored below ((get?_eq_some_iff _).2 listed) ⟨cause, fails⟩

theorem mapM_eq_error_iff [Std.LawfulEqOrd κ] {f : κ → ν → Except ε μ} {map : SortedMap κ ν} :
    map.mapM f = .error error ↔
      ∃ key value, LeastWith (fun key value => ∃ error, f key value = .error error) map key value ∧
        f key value = .error error := by
  rw [mapM, bind_pure_comp, Except.map_eq_error_iff, AppBundle.mapM_eq_error_iff, failsFirst_toList_iff]

theorem failsFirst_keys_iff [Std.LawfulEqOrd κ] {f : κ → Except ε μ} {map : SortedMap κ ν} :
    FailsFirst f error map.keys ↔
      ∃ key value, LeastWith (fun key _ => ∃ error, f key = .error error) map key value ∧
        f key = .error error := by
  rw [keys, failsFirst_map_iff]
  exact failsFirst_toList_iff

end Least

section Layers

variable [Std.TransOrd κ] [Std.LawfulEqOrd κ] [DecidableEq κ]

omit [Std.TransOrd κ] in
theorem lookup_toList (map : SortedMap κ ν) (key : κ) : map.toList.lookup key = map.get? key := by
  rw [get?, toList]
  induction map.entries with
  | nil => rfl
  | cons entry rest ih => simp [lookup?, lookup_cons_eq_ite, ih]

/-- Of the values that are stored under a key the last one is found. -/
theorem get?_insertMany (map : SortedMap κ ν) (entries : List (κ × ν)) (key : κ) :
    (map.insertMany entries).get? key = (entries.reverse.lookup key).or (map.get? key) := by
  induction entries generalizing map with
  | nil => rfl
  | cons entry rest ih =>
    have onward := ih (map.insert entry.1 entry.2)
    have first : (map.insert entry.1 entry.2).get? key =
        ([entry].lookup key).or (map.get? key) := by
      by_cases same : key = entry.1 <;> simp [get?_insert, lookup_cons_eq_ite, same]
    rw [first, ← Option.or_assoc, ← List.lookup_append, ← List.reverse_cons] at onward
    exact onward

theorem get?_ofList (entries : List (κ × ν)) (key : κ) :
    (ofList entries).get? key = entries.reverse.lookup key := by
  rw [ofList, get?_insertMany, get?_empty, Option.or_none]

theorem lookup_reverse_toList (map : SortedMap κ ν) (key : κ) :
    map.toList.reverse.lookup key = map.get? key := by
  rw [← get?_ofList, ofList_toList]

/-- Of the values that are stored under a key as long as it has none the first one is found. -/
theorem get?_foldl_insertIfNew (map : SortedMap κ ν) (entries : List (κ × ν)) (key : κ) :
    (entries.foldl (fun map entry => map.insertIfNew entry.1 entry.2) map).get? key =
      (map.get? key).or (entries.lookup key) := by
  induction entries generalizing map with
  | nil => exact Option.or_none.symm
  | cons entry rest ih =>
    have first : (map.insertIfNew entry.1 entry.2).get? key =
        (map.get? key).or ([entry].lookup key) := by
      unfold insertIfNew contains
      by_cases same : key = entry.1
      · cases found : map.get? entry.1 <;> simp [found, get?_insert, lookup_cons_eq_ite, same]
      · split <;> simp [get?_insert, lookup_cons_eq_ite, same]
    rw [List.foldl_cons, ih, first, Option.or_assoc, ← List.lookup_append, List.singleton_append]

end Layers

end SortedMap

namespace SortedSet

variable {α : Type} [Ord α] [Std.TransOrd α]

theorem members_insertMany (set : SortedSet α) (values : List α) :
    (set.insertMany values).members = set.members.insertMany (values.map fun value => (value, ())) := by
  induction values generalizing set with
  | nil => rfl
  | cons value values ih => exact ih (set.insert value)

theorem ofList_toList (set : SortedSet α) : ofList set.toList = set := by
  have entries : set.toList.map (fun value => (value, ())) = set.members.toList := by
    simp [toList, SortedMap.keys, SortedMap.toList, Function.comp_def]
  have members : (ofList set.toList).members = set.members := by
    rw [ofList, members_insertMany, entries]
    exact SortedMap.ofList_toList set.members
  exact congrArg mk members

variable [Std.LawfulEqOrd α]

theorem mem_toList_iff {set : SortedSet α} {value : α} : value ∈ set.toList ↔ value ∈ set := by
  show value ∈ set.members.entries.map Prod.fst ↔ (set.members.get? value).isSome = true
  rw [List.mem_map, Option.isSome_iff_exists]
  simp only [SortedMap.get?_eq_some_iff, SortedMap.toList]
  constructor
  · rintro ⟨⟨_, stored⟩, member, rfl⟩
    exact ⟨stored, member⟩
  · rintro ⟨stored, member⟩
    exact ⟨(value, stored), member, rfl⟩

theorem isEmpty_iff {set : SortedSet α} : set.isEmpty = true ↔ ∀ value, value ∉ set := by
  have members : set.isEmpty = set.toList.isEmpty := by
    rw [toList, SortedMap.keys, List.isEmpty_map]
    rfl
  rw [members, List.isEmpty_iff, List.eq_nil_iff_forall_not_mem]
  simp only [mem_toList_iff]

/-- Sets with the same members are equal. -/
theorem ext_mem {left right : SortedSet α} (same : ∀ value, value ∈ left ↔ value ∈ right) :
    left = right := by
  have members : left.members = right.members := by
    refine SortedMap.ext_get? fun value => Option.ext fun stored => ?_
    have found : (left.members.get? value).isSome = true ↔ (right.members.get? value).isSome = true :=
      same value
    rwa [Option.isSome_iff_exists, Option.isSome_iff_exists, Unique.exists_iff, Unique.exists_iff] at found
  exact congrArg mk members

theorem mem_ofList_iff {values : List α} {value : α} : value ∈ ofList values ↔ value ∈ values := by
  rw [ofList, mem_insertMany]
  exact or_iff_left (not_mem_empty value)

theorem isEmpty_ofList (values : List α) : (ofList values).isEmpty = values.isEmpty := by
  rw [Bool.eq_iff_iff, isEmpty_iff, List.isEmpty_iff, List.eq_nil_iff_forall_not_mem]
  simp only [mem_ofList_iff]

end SortedSet

end AppBundle
