import Mathlib.Data.List.Chain
import AppBundle.Unicode.Ranges

/-! # Sets of code points as ranges

Ranges are normal if they are not empty, ascend, and neither overlap nor touch. The operations on ranges keep
them normal, and of normal ranges they make those of the union, the complement, the intersection and the
difference of the sets.
-/

namespace AppBundle.Unicode.Ranges

variable {ranges left right : List (Nat × Nat)} {new : Nat × Nat} {code start : Nat}

/-- Every range begins and ends before the next one, with a gap between them. -/
def Normal (ranges : List (Nat × Nat)) : Prop :=
  (∀ range ∈ ranges, range.1 ≤ range.2) ∧ ranges.Pairwise fun range later => range.2 + 1 < later.1

theorem normal_nil : Normal [] := ⟨nofun, .nil⟩

theorem normal_cons_iff {here : Nat × Nat} : Normal (here :: ranges) ↔
    (here.1 ≤ here.2 ∧ ∀ later ∈ ranges, here.2 + 1 < later.1) ∧ Normal ranges := by
  simp only [Normal, List.forall_mem_cons, List.pairwise_cons]
  exact and_and_and_comm

/-- It is enough to compare neighbours. -/
theorem normal_of_isChain (filled : ∀ range ∈ ranges, range.1 ≤ range.2)
    (apart : ranges.IsChain fun range next => range.2 + 1 < next.1) : Normal ranges := by
  induction apart with
  | nil => exact normal_nil
  | singleton range => exact ⟨filled, List.pairwise_singleton _ _⟩
  | cons_cons gap apart ih =>
    obtain ⟨own, behind⟩ := List.forall_mem_cons.1 filled
    have normal := ih behind
    refine normal_cons_iff.2 ⟨⟨own, List.forall_mem_cons.2 ⟨gap, fun later member => ?_⟩⟩, normal⟩
    obtain ⟨⟨next, past⟩, -⟩ := normal_cons_iff.1 normal
    have := past later member
    omega

theorem contains_cons (here : Nat × Nat) (ranges : List (Nat × Nat)) (code : Nat) :
    contains (here :: ranges) code = ((here.1 ≤ code && code ≤ here.2) || contains ranges code) := rfl

theorem contains_toList (table : Array (Nat × Nat)) (char : Char) :
    contains table.toList char.toNat = inRanges table char := Array.any_toList

/-- Nothing lies in the gap before the ranges. -/
theorem not_contains_of_lt (before : ∀ range ∈ ranges, code < range.1) : contains ranges code = false := by
  refine List.any_eq_false.2 fun range member => ?_
  simp [Nat.not_le.2 (before range member)]

/-- Adding a range leaves a gap before all ranges if there was one. -/
theorem lt_of_mem_insert {bound : Nat} (first : bound < new.1) (others : ∀ range ∈ ranges, bound < range.1) :
    ∀ range ∈ insert new ranges, bound < range.1 := by
  fun_induction insert new ranges with
  | case1 new => exact List.forall_mem_singleton.2 first
  | case2 new here rest => exact List.forall_mem_cons.2 ⟨first, others⟩
  | case3 new here rest _ _ ih =>
    obtain ⟨own, behind⟩ := List.forall_mem_cons.1 others
    exact List.forall_mem_cons.2 ⟨own, ih first behind⟩
  | case4 new here rest _ _ ih =>
    obtain ⟨own, behind⟩ := List.forall_mem_cons.1 others
    exact ih (Nat.lt_min.2 ⟨first, own⟩) behind

theorem Normal.insert (normal : Normal ranges) (filled : new.1 ≤ new.2) : Normal (insert new ranges) := by
  fun_induction Ranges.insert new ranges with
  | case1 new => exact normal_cons_iff.2 ⟨⟨filled, nofun⟩, normal_nil⟩
  | case2 new here rest before =>
    obtain ⟨⟨own, apart⟩, -⟩ := normal_cons_iff.1 normal
    refine normal_cons_iff.2 ⟨⟨filled, List.forall_mem_cons.2 ⟨before, fun later member => ?_⟩⟩, normal⟩
    have := apart later member
    omega
  | case3 new here rest _ after ih =>
    obtain ⟨⟨own, apart⟩, behind⟩ := normal_cons_iff.1 normal
    exact normal_cons_iff.2 ⟨⟨own, lt_of_mem_insert after apart⟩, ih behind filled⟩
  | case4 new here rest _ _ ih =>
    obtain ⟨⟨own, -⟩, behind⟩ := normal_cons_iff.1 normal
    exact ih behind (by dsimp only; omega)

/-- Ranges that meet cover together what the range from the start of the one to the end of the other does. -/
theorem contains_insert (normal : Normal ranges) (filled : new.1 ≤ new.2) :
    contains (insert new ranges) code = ((new.1 ≤ code && code ≤ new.2) || contains ranges code) := by
  fun_induction insert new ranges with
  | case1 new => rfl
  | case2 new here rest => rfl
  | case3 new here rest _ _ ih =>
    obtain ⟨-, behind⟩ := normal_cons_iff.1 normal
    rw [contains_cons, ih behind filled, contains_cons, Bool.or_left_comm]
  | case4 new here rest _ _ ih =>
    obtain ⟨⟨own, -⟩, behind⟩ := normal_cons_iff.1 normal
    rw [ih behind (by dsimp only; omega), contains_cons, ← Bool.or_assoc]
    congr 1
    rw [Bool.eq_iff_iff]
    simp only [Bool.and_eq_true, Bool.or_eq_true, decide_eq_true_eq]
    omega

theorem Normal.union (others : Normal right) (filled : ∀ range ∈ left, range.1 ≤ range.2) :
    Normal (union left right) := by
  induction left with
  | nil => exact others
  | cons range rest ih =>
    obtain ⟨own, behind⟩ := List.forall_mem_cons.1 filled
    exact (ih behind).insert own

theorem contains_union (others : Normal right) (filled : ∀ range ∈ left, range.1 ≤ range.2) :
    contains (union left right) code = (contains left code || contains right code) := by
  induction left with
  | nil => rfl
  | cons range rest ih =>
    obtain ⟨own, behind⟩ := List.forall_mem_cons.1 filled
    exact (contains_insert (others.union behind) own).trans (by rw [ih behind, contains_cons, Bool.or_assoc])

theorem normal_ofCodes (codes : List Nat) : Normal (ofCodes codes) := by
  induction codes with
  | nil => exact normal_nil
  | cons code codes ih => exact ih.insert (Nat.le_refl code)

theorem contains_ofCodes {codes : List Nat} : contains (ofCodes codes) code = true ↔ code ∈ codes := by
  induction codes with
  | nil => simp [ofCodes, contains]
  | cons first codes ih =>
    have own : (decide (first ≤ code) && decide (code ≤ first)) = true ↔ code = first := by
      rw [Bool.and_eq_true, decide_eq_true_eq, decide_eq_true_eq]
      omega
    rw [List.mem_cons, ← ih, ← own, ← Bool.or_eq_true]
    exact iff_of_eq (congrArg (· = true) (contains_insert (normal_ofCodes codes) (Nat.le_refl first)))

section Bounds

variable {bound : Nat} {codes : List Nat}

theorem length_insert_le : (insert new ranges).length ≤ ranges.length + 1 := by
  fun_induction insert new ranges with
  | case1 => exact Nat.le_refl _
  | case2 => exact Nat.le_refl _
  | case3 new here rest apart behind ih => exact Nat.succ_le_succ ih
  | case4 new here rest apart meets ih => exact Nat.le_succ_of_le ih

theorem insert_lt (small : new.2 < bound) (below : ∀ range ∈ ranges, range.2 < bound) :
    ∀ range ∈ insert new ranges, range.2 < bound := by
  fun_induction insert new ranges with
  | case1 new => exact List.forall_mem_singleton.2 small
  | case2 new here rest => exact List.forall_mem_cons.2 ⟨small, below⟩
  | case3 new here rest _ _ ih =>
    rw [List.forall_mem_cons] at below
    exact List.forall_mem_cons.2 ⟨below.1, ih small below.2⟩
  | case4 new here rest _ _ ih =>
    rw [List.forall_mem_cons] at below
    exact ih (Nat.max_lt.2 ⟨small, below.1⟩) below.2

theorem length_ofCodes_le : (ofCodes codes).length ≤ codes.length := by
  induction codes with
  | nil => exact Nat.le_refl _
  | cons code codes ih => exact length_insert_le.trans (Nat.succ_le_succ ih)

theorem ofCodes_lt (below : ∀ code ∈ codes, code < bound) : ∀ range ∈ ofCodes codes, range.2 < bound := by
  induction codes with
  | nil => exact nofun
  | cons code codes ih =>
    rw [List.forall_mem_cons] at below
    exact insert_lt below.1 (ih below.2)

end Bounds

/-- The ranges of the gaps are normal and begin where the search does. -/
theorem normal_gaps (normal : Normal ranges) (after : ∀ range ∈ ranges, start ≤ range.1) :
    Normal (gaps start ranges) ∧ ∀ range ∈ gaps start ranges, start ≤ range.1 := by
  induction ranges generalizing start with
  | nil =>
    unfold gaps
    split
    · next room => exact ⟨normal_cons_iff.2 ⟨⟨room, nofun⟩, normal_nil⟩, List.forall_mem_singleton.2 (Nat.le_refl _)⟩
    · exact ⟨normal_nil, nofun⟩
  | cons here rest ih =>
    obtain ⟨⟨own, apart⟩, behind⟩ := normal_cons_iff.1 normal
    have onward := (List.forall_mem_cons.1 after).1
    obtain ⟨later, beyond⟩ := ih behind fun range member => Nat.le_of_lt (apart range member)
    have past : ∀ range ∈ gaps (here.2 + 1) rest, start ≤ range.1 := fun range member => by
      have := beyond range member
      omega
    unfold gaps
    split
    · next room =>
      refine ⟨normal_cons_iff.2 ⟨⟨Nat.le_sub_one_of_lt room, fun range member => ?_⟩, later⟩,
        List.forall_mem_cons.2 ⟨Nat.le_refl _, past⟩⟩
      have := beyond range member
      omega
    · exact ⟨later, past⟩

/-- The gaps cover what the ranges do not. -/
theorem contains_gaps (normal : Normal ranges) (after : ∀ range ∈ ranges, start ≤ range.1)
    (bounded : code ≤ lastCode) : contains (gaps start ranges) code = (start ≤ code && !contains ranges code) := by
  induction ranges generalizing start with
  | nil =>
    unfold gaps
    split <;> simp [contains] <;> omega
  | cons here rest ih =>
    obtain ⟨⟨own, apart⟩, behind⟩ := normal_cons_iff.1 normal
    have onward := (List.forall_mem_cons.1 after).1
    have later := ih behind fun range member => Nat.le_of_lt (apart range member)
    have outside : code ≤ here.2 → contains rest code = false := fun below =>
      not_contains_of_lt fun range member => by
        have := apart range member
        omega
    unfold gaps
    split
    all_goals
      rw [Bool.eq_iff_iff]
      by_cases below : code ≤ here.2
      · simp [contains_cons, later, outside below]
        omega
      · cases inner : contains rest code <;> simp [contains_cons, later, inner, below] <;> omega

theorem Normal.complement (normal : Normal ranges) : Normal (complement ranges) :=
  (normal_gaps (normal.insert (by decide)) fun _ _ => Nat.zero_le _).1

theorem le_lastCode (char : Char) : char.toNat ≤ lastCode := by
  have valid := char.valid
  simp only [UInt32.isValidChar, Nat.isValidChar] at valid
  change char.val.toNat ≤ 0x10FFFF
  omega

theorem not_surrogate (char : Char) : (surrogates.1 ≤ char.toNat && char.toNat ≤ surrogates.2) = false := by
  have valid := char.valid
  simp only [UInt32.isValidChar, Nat.isValidChar] at valid
  change (decide (0xD800 ≤ char.val.toNat) && decide (char.val.toNat ≤ 0xDFFF)) = false
  rw [Bool.and_eq_false_iff, decide_eq_false_iff_not, decide_eq_false_iff_not]
  omega

/-- The complement of a set has the characters that the set has not. -/
theorem contains_complement (normal : Normal ranges) (char : Char) :
    contains (complement ranges) char.toNat = !contains ranges char.toNat := by
  rw [complement, contains_gaps (normal.insert (by decide)) (fun _ _ => Nat.zero_le _) (le_lastCode char),
    contains_insert normal (by decide), not_surrogate, Bool.false_or, decide_eq_true (Nat.zero_le _),
    Bool.true_and]

theorem Normal.intersection (first : Normal left) (second : Normal right) : Normal (intersection left right) :=
  (second.complement.union first.complement.1).complement

theorem contains_intersection (first : Normal left) (second : Normal right) (char : Char) :
    contains (intersection left right) char.toNat =
      (contains left char.toNat && contains right char.toNat) := by
  have outside := first.complement.1
  rw [intersection, contains_complement (second.complement.union outside),
    contains_union second.complement outside, contains_complement first, contains_complement second,
    Bool.not_or, Bool.not_not, Bool.not_not]

theorem Normal.difference (first : Normal left) (second : Normal right) : Normal (difference left right) :=
  (second.union first.complement.1).complement

theorem contains_difference (first : Normal left) (second : Normal right) (char : Char) :
    contains (difference left right) char.toNat =
      (contains left char.toNat && !contains right char.toNat) := by
  have outside := first.complement.1
  rw [difference, contains_complement (second.union outside), contains_union second outside,
    contains_complement first, Bool.not_or, Bool.not_not]

end AppBundle.Unicode.Ranges
