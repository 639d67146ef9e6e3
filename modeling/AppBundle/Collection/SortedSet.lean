import AppBundle.Collection.SortedMap

/-! # Sets in ascending order

A `SortedSet` is a `SortedMap` from its members to nothing: each member once, in ascending order.
-/

namespace AppBundle

/-- A finite set, held in strictly ascending order. -/
structure SortedSet (α : Type) [Ord α] where
  /-- The members as the keys of a map that stores nothing under them. -/
  members : SortedMap α Unit
deriving DecidableEq

namespace SortedSet

variable {α : Type} [Ord α]

/-- The set without members. -/
def empty : SortedSet α := ⟨.empty⟩

instance : EmptyCollection (SortedSet α) := ⟨empty⟩
instance : Inhabited (SortedSet α) := ⟨empty⟩

/-- Whether a value is a member. -/
def contains (set : SortedSet α) (value : α) : Bool := set.members.contains value

instance : Membership α (SortedSet α) := ⟨fun set value => set.contains value = true⟩

instance (set : SortedSet α) (value : α) : Decidable (value ∈ set) :=
  inferInstanceAs (Decidable (set.contains value = true))

/-- The members, least first. -/
def toList (set : SortedSet α) : List α := set.members.keys

/-- Whether there are no members. -/
def isEmpty (set : SortedSet α) : Bool := set.members.isEmpty

@[simp] theorem not_mem_empty (value : α) : value ∉ (empty : SortedSet α) := by
  simp [Membership.mem, contains, empty, SortedMap.contains]

variable [Std.TransOrd α]

/-- Add a member; a value that is one already changes nothing. -/
def insert (set : SortedSet α) (value : α) : SortedSet α := ⟨set.members.insert value ()⟩

/-- Add every value of a list. -/
def insertMany (set : SortedSet α) (values : List α) : SortedSet α := values.foldl insert set

/-- The set of the values of a list. -/
def ofList (values : List α) : SortedSet α := empty.insertMany values

theorem mem_insert [Std.LawfulEqOrd α] {set : SortedSet α} {value other : α} :
    other ∈ set.insert value ↔ other = value ∨ other ∈ set := by
  show ((set.members.insert value ()).get? other).isSome = true ↔
    other = value ∨ (set.members.get? other).isSome = true
  rw [SortedMap.get?_insert]
  split
  · next same => simp [Std.LawfulEqOrd.eq_of_compare same]
  · next apart => rw [Std.compare_eq_iff_eq] at apart; simp [apart]

theorem mem_insertMany [Std.LawfulEqOrd α] {set : SortedSet α} {values : List α} {other : α} :
    other ∈ set.insertMany values ↔ other ∈ values ∨ other ∈ set := by
  induction values generalizing set with
  | nil => simp [insertMany]
  | cons value values ih =>
    have step : set.insertMany (value :: values) = (set.insert value).insertMany values := rfl
    rw [step, ih, mem_insert, List.mem_cons]
    grind

end SortedSet

end AppBundle
