/-! # Maps in ascending key order

A `SortedMap` is the list of its entries, each key once, keys ascending. Two maps with the same
look-ups are the same list, so equality of maps is equality of documents written from them. The
lemmas describe every operation through `get?` and say that `get?` determines the map.
-/

namespace AppBundle

/-- A finite map, held as its entries in strictly ascending key order. -/
structure SortedMap (κ ν : Type) [Ord κ] where
  /-- The entries, least key first. -/
  entries : List (κ × ν)
  ascending : entries.Pairwise fun a b => compare a.1 b.1 = .lt
deriving DecidableEq

namespace SortedMap

variable {κ ν : Type} [Ord κ]

/-- The value of the first entry with the given key. -/
def lookup? (key : κ) : List (κ × ν) → Option ν
  | [] => none
  | entry :: rest => if compare key entry.1 = .eq then some entry.2 else lookup? key rest

/-- Put an entry in its place by key, replacing the entry that has the key already. -/
def insertEntry (key : κ) (value : ν) : List (κ × ν) → List (κ × ν)
  | [] => [(key, value)]
  | entry :: rest =>
    match compare key entry.1 with
    | .lt => (key, value) :: entry :: rest
    | .eq => (key, value) :: rest
    | .gt => entry :: insertEntry key value rest

theorem mem_insertEntry {key : κ} {value : ν} {entry : κ × ν} {entries : List (κ × ν)}
    (member : entry ∈ insertEntry key value entries) :
    entry = (key, value) ∨ entry ∈ entries := by
  induction entries with
  | nil => exact .inl (by simpa [insertEntry] using member)
  | cons head rest ih =>
    unfold insertEntry at member
    split at member <;> grind

theorem insertEntry_ascending [Std.TransOrd κ] (key : κ) (value : ν) {entries : List (κ × ν)}
    (ascending : entries.Pairwise fun a b => compare a.1 b.1 = .lt) :
    (insertEntry key value entries).Pairwise fun a b => compare a.1 b.1 = .lt := by
  induction entries with
  | nil => simp [insertEntry]
  | cons head rest ih =>
    rw [List.pairwise_cons] at ascending
    obtain ⟨least, ordered⟩ := ascending
    unfold insertEntry
    split
    · next below =>
      refine List.pairwise_cons.2 ⟨?_, List.pairwise_cons.2 ⟨least, ordered⟩⟩
      intro entry member
      rcases List.mem_cons.1 member with rfl | member
      · exact below
      · exact Std.TransCmp.lt_trans below (least entry member)
    · next same =>
      refine List.pairwise_cons.2 ⟨fun entry member => ?_, ordered⟩
      exact Std.TransCmp.lt_of_eq_of_lt same (least entry member)
    · next above =>
      refine List.pairwise_cons.2 ⟨fun entry member => ?_, ih ordered⟩
      rcases mem_insertEntry member with rfl | member
      · exact Std.OrientedCmp.gt_iff_lt.1 above
      · exact least entry member

/-- The map without entries. -/
def empty : SortedMap κ ν := ⟨[], .nil⟩

instance : EmptyCollection (SortedMap κ ν) := ⟨empty⟩
instance : Inhabited (SortedMap κ ν) := ⟨empty⟩

/-- The value stored under a key. -/
def get? (map : SortedMap κ ν) (key : κ) : Option ν := lookup? key map.entries

/-- Whether a key has a value. -/
def contains (map : SortedMap κ ν) (key : κ) : Bool := (map.get? key).isSome

/-- The entries, least key first. -/
def toList (map : SortedMap κ ν) : List (κ × ν) := map.entries

/-- The keys, ascending. -/
def keys (map : SortedMap κ ν) : List κ := map.entries.map Prod.fst

/-- The values, in the order of their keys. -/
def values (map : SortedMap κ ν) : List ν := map.entries.map Prod.snd

/-- How many entries there are. -/
def size (map : SortedMap κ ν) : Nat := map.entries.length

/-- Whether there are no entries. -/
def isEmpty (map : SortedMap κ ν) : Bool := map.entries.isEmpty

/-- Store a value under a key; an earlier value of the key is replaced. -/
def insert [Std.TransOrd κ] (map : SortedMap κ ν) (key : κ) (value : ν) : SortedMap κ ν :=
  ⟨insertEntry key value map.entries, insertEntry_ascending key value map.ascending⟩

/-- Store a value under a key that has none yet; an earlier value is kept. -/
def insertIfNew [Std.TransOrd κ] (map : SortedMap κ ν) (key : κ) (value : ν) :
    SortedMap κ ν :=
  if map.contains key then map else map.insert key value

/-- Store a list of entries one after the other: the last value of a key stays. -/
def insertMany [Std.TransOrd κ] (map : SortedMap κ ν) (entries : List (κ × ν)) : SortedMap κ ν :=
  entries.foldl (fun map entry => map.insert entry.1 entry.2) map

/-- The map of a list of entries, where the last value of a key counts. -/
def ofList [Std.TransOrd κ] (entries : List (κ × ν)) : SortedMap κ ν := empty.insertMany entries

theorem map_fst_zip_sublist {α β : Type} (keys : List α) (values : List β) :
    ((keys.zip values).map Prod.fst).Sublist keys := by
  induction keys generalizing values with
  | nil => simp
  | cons key keys ih =>
    cases values with
    | nil => simp
    | cons value values => simpa using ih values

/-- The map with the same keys whose values, in key order, are the given ones. Keys beyond the
end of the list are dropped. -/
def setValues {μ : Type} (map : SortedMap κ ν) (values : List μ) : SortedMap κ μ where
  entries := map.keys.zip values
  ascending := by
    have keys : map.keys.Pairwise fun a b => compare a b = .lt :=
      List.pairwise_map.2 map.ascending
    exact List.pairwise_map.1 (keys.sublist (map_fst_zip_sublist _ _))

/-- Apply an effectful function to every key and value, in ascending order of the keys. -/
def mapM {m : Type → Type} [Monad m] {μ : Type} (f : κ → ν → m μ) (map : SortedMap κ ν) :
    m (SortedMap κ μ) := do
  return map.setValues (← map.toList.mapM fun entry => f entry.1 entry.2)

/-- Apply an effectful function to every value, in ascending order of the keys. -/
def mapValuesM {m : Type → Type} [Monad m] {μ : Type} (f : ν → m μ) (map : SortedMap κ ν) :
    m (SortedMap κ μ) := do
  return map.setValues (← map.values.mapM f)

@[simp] theorem get?_empty (key : κ) : (empty : SortedMap κ ν).get? key = none := rfl

theorem lookup?_insertEntry [Std.TransOrd κ] (key other : κ) (value : ν)
    (entries : List (κ × ν)) :
    lookup? other (insertEntry key value entries) =
      if compare other key = .eq then some value else lookup? other entries := by
  induction entries with
  | nil => rfl
  | cons head rest ih =>
    unfold insertEntry
    split
    · rfl
    · next same =>
      have agree : compare other key = compare other head.1 := Std.TransCmp.congr_right same
      simp only [lookup?, agree]
      split <;> rfl
    · next above =>
      simp only [lookup?, ih]
      by_cases hit : compare other head.1 = .eq
      · have apart : compare other key ≠ .eq := by
          intro same
          have := Std.TransCmp.eq_trans (Std.OrientedCmp.eq_symm same) hit
          simp [this] at above
        simp [hit, apart]
      · simp [hit]

theorem get?_insert [Std.TransOrd κ] (map : SortedMap κ ν) (key other : κ) (value : ν) :
    (map.insert key value).get? other =
      if compare other key = .eq then some value else map.get? other :=
  lookup?_insertEntry key other value map.entries

theorem lookup?_eq_some_iff [Std.TransOrd κ] [Std.LawfulEqOrd κ] {entries : List (κ × ν)}
    (ascending : entries.Pairwise fun a b => compare a.1 b.1 = .lt) {key : κ} {value : ν} :
    lookup? key entries = some value ↔ (key, value) ∈ entries := by
  induction entries with
  | nil => simp [lookup?]
  | cons head rest ih =>
    rw [List.pairwise_cons] at ascending
    obtain ⟨least, ordered⟩ := ascending
    obtain ⟨first, stored⟩ := head
    simp only [lookup?, List.mem_cons, Prod.mk.injEq]
    split
    · next same =>
      obtain rfl := Std.LawfulEqOrd.eq_of_compare same
      constructor
      · rintro ⟨⟩; exact .inl ⟨rfl, rfl⟩
      · rintro (⟨-, rfl⟩ | member)
        · rfl
        · have below := least _ member
          simp [Std.ReflCmp.compare_self] at below
    · next apart =>
      rw [ih ordered]
      constructor
      · exact .inr
      · rintro (⟨same, -⟩ | member)
        · exact absurd (Std.compare_eq_iff_eq.2 same) apart
        · exact member

theorem get?_eq_some_iff [Std.TransOrd κ] [Std.LawfulEqOrd κ] (map : SortedMap κ ν) {key : κ}
    {value : ν} : map.get? key = some value ↔ (key, value) ∈ map.toList :=
  lookup?_eq_some_iff map.ascending

/-- Maps with the same look-ups are equal. -/
theorem ext_get? [Std.TransOrd κ] [Std.LawfulEqOrd κ] {left right : SortedMap κ ν}
    (agree : ∀ key, left.get? key = right.get? key) : left = right := by
  have entries : left.entries = right.entries := by
    refine List.Perm.eq_of_pairwise ?_ left.ascending right.ascending ?_
    · intro a b _ _ below above
      have := Std.TransCmp.lt_trans below above
      simp [Std.ReflCmp.compare_self] at this
    · have nodup (map : SortedMap κ ν) : map.entries.Nodup :=
        map.ascending.imp fun {a b} below same => by
          subst same; simp [Std.ReflCmp.compare_self] at below
      refine (List.perm_ext_iff_of_nodup (nodup left) (nodup right)).2 fun entry => ?_
      have := agree entry.1
      rw [← toList, ← toList, ← left.get?_eq_some_iff, ← right.get?_eq_some_iff, this]
  cases left; cases right; congr

end SortedMap

end AppBundle
