import Mathlib.Data.List.Chain
import AppBundle.Unicode.CaseFold

/-! # Representatives of case variants

Every character has one representative at most other than itself, and a representative stands for itself. So
two characters are case variants of each other if they have the same representative.
-/

namespace AppBundle.Unicode

namespace FoldRun

variable {run other : FoldRun} {code folded : Nat}

/-- A run holds a code point, and its code points are apart. -/
structure Filled (run : FoldRun) : Prop where
  first_le_last : run.first ≤ run.last
  step_pos : 0 < run.step

theorem mem_pairs_iff (filled : run.Filled) : (code, folded) ∈ run.pairs ↔
    (run.first ≤ code ∧ code ≤ run.last) ∧ (code - run.first) % run.step = 0 ∧
      folded = run.target + (code - run.first) := by
  have ends := filled.first_le_last
  simp only [pairs, List.mem_map, List.mem_range, Nat.lt_succ_iff, Nat.le_div_iff_mul_le filled.step_pos,
    Prod.mk.injEq]
  constructor
  · rintro ⟨place, within, rfl, rfl⟩
    rw [Nat.add_sub_cancel_left]
    exact ⟨by omega, Nat.mul_mod_left .., rfl⟩
  · rintro ⟨within, on, rfl⟩
    have placed := Nat.div_mul_cancel (Nat.dvd_of_mod_eq_zero on)
    exact ⟨(code - run.first) / run.step, by omega, by omega, by rw [placed]⟩

/-- A run sends a code point to the one that it is listed with. -/
theorem fold?_eq_some_iff (filled : run.Filled) :
    run.fold? code = some folded ↔ (code, folded) ∈ run.pairs := by
  rw [mem_pairs_iff filled, fold?, Option.ite_none_right_eq_some, Option.some.injEq, Bool.and_eq_true,
    Bool.and_eq_true, decide_eq_true_eq, decide_eq_true_eq, decide_eq_true_eq, and_assoc,
    eq_comm (a := folded)]

/-- A run sends a representative back to the code point that it is listed with. -/
theorem source?_eq_some_iff (filled : run.Filled) :
    run.source? folded = some code ↔ (code, folded) ∈ run.pairs := by
  have ends := filled.first_le_last
  rw [mem_pairs_iff filled, source?, Option.ite_none_right_eq_some, Option.some.injEq, Bool.and_eq_true,
    Bool.and_eq_true, decide_eq_true_eq, decide_eq_true_eq, decide_eq_true_eq]
  constructor
  · rintro ⟨⟨within, on⟩, rfl⟩
    rw [Nat.add_sub_cancel_left]
    exact ⟨by omega, on, by omega⟩
  · rintro ⟨within, on, rfl⟩
    rw [Nat.add_sub_cancel_left]
    exact ⟨⟨by omega, on⟩, by omega⟩

/-- A run ends before the code points of another one begin. -/
def Before (run other : FoldRun) : Prop :=
  run.first ≤ run.last ∧ run.last < other.first ∧ other.first ≤ other.last

instance (run other : FoldRun) : Decidable (run.Before other) := inferInstanceAs (Decidable (_ ∧ _))

instance : Trans Before Before Before where
  trans := by
    intro first second third earlier later
    unfold Before at *
    omega

/-- Whether no representative of a run is a code point of another one: the representatives lie elsewhere, or
the other run holds every second code point and they are between these. -/
def isClear (run other : FoldRun) : Bool :=
  Nat.blt (run.target + (run.last - run.first)) other.first || Nat.blt other.last run.target ||
    (other.step == 2 && (run.step == 2 || run.first == run.last) && run.target % 2 != other.first % 2)

theorem not_mem_pairs_of_isClear (clear : run.isClear other = true) (filled : run.Filled)
    (also : other.Filled) {next : Nat} (listed : (code, folded) ∈ run.pairs) :
    (folded, next) ∉ other.pairs := by
  intro again
  obtain ⟨within, on, rfl⟩ := (mem_pairs_iff filled).1 listed
  obtain ⟨among, place, -⟩ := (mem_pairs_iff also).1 again
  simp only [isClear, Nat.blt_eq, Bool.or_eq_true, Bool.and_eq_true, beq_iff_eq, bne_iff_ne, ne_eq] at clear
  obtain (before | behind) | ⟨⟨every, single⟩, odd⟩ := clear
  · omega
  · omega
  · rw [every] at place
    obtain every | single := single
    · rw [every] at on
      omega
    · omega

end FoldRun

theorem filled_of_mem : ∀ run ∈ foldRuns.toList, run.Filled := by
  have checked : ∀ run ∈ foldRuns.toList, run.first ≤ run.last ∧ 0 < run.step := by decide +kernel
  exact fun run member => ⟨(checked run member).1, (checked run member).2⟩

theorem foldRuns_ascending : foldRuns.toList.Pairwise FoldRun.Before := by
  have checked : foldRuns.toList.IsChain FoldRun.Before := by decide +kernel
  exact List.isChain_iff_pairwise.1 checked

variable {run other : FoldRun}

theorem apart_of_mem (member : run ∈ foldRuns.toList) (also : other ∈ foldRuns.toList) :
    run = other ∨ run.Before other ∨ other.Before run := by
  obtain ⟨place, within, rfl⟩ := List.getElem_of_mem member
  obtain ⟨spot, inside, rfl⟩ := List.getElem_of_mem also
  have ordered := List.pairwise_iff_getElem.1 foldRuns_ascending
  obtain earlier | rfl | later := Nat.lt_trichotomy place spot
  · exact .inr (.inl (ordered _ _ within inside earlier))
  · exact .inl rfl
  · exact .inr (.inr (ordered _ _ inside within later))

theorem isClear_of_mem (member : run ∈ foldRuns.toList) (also : other ∈ foldRuns.toList) :
    run.isClear other = true := by
  have checked : (foldRuns.toList.all fun run => foldRuns.toList.all run.isClear) = true := by decide +kernel
  exact List.all_eq_true.1 (List.all_eq_true.1 checked run member) other also

/-- A code point has another one for its representative. -/
def Folds (code folded : Nat) : Prop := ∃ run ∈ foldRuns.toList, (code, folded) ∈ run.pairs

namespace Folds

variable {code folded : Nat}

/-- There is one representative at most. -/
theorem unique {another : Nat} (first : Folds code folded) (second : Folds code another) :
    folded = another := by
  obtain ⟨run, member, listed⟩ := first
  obtain ⟨other, also, again⟩ := second
  obtain ⟨within, -, rfl⟩ := (FoldRun.mem_pairs_iff (filled_of_mem run member)).1 listed
  obtain ⟨among, -, rfl⟩ := (FoldRun.mem_pairs_iff (filled_of_mem other also)).1 again
  obtain rfl | ⟨-, before, -⟩ | ⟨-, behind, -⟩ := apart_of_mem member also
  · rfl
  · omega
  · omega

/-- A representative has none itself. -/
theorem not_again {next : Nat} (folds : Folds code folded) : ¬ Folds folded next := by
  rintro ⟨other, also, again⟩
  obtain ⟨run, member, listed⟩ := folds
  exact FoldRun.not_mem_pairs_of_isClear (isClear_of_mem member also) (filled_of_mem run member)
    (filled_of_mem other also) listed again

/-- A code point with a representative and the representative are those of characters. -/
theorem isValidChar (folds : Folds code folded) : code.isValidChar ∧ folded.isValidChar := by
  have checked : ∀ run ∈ foldRuns.toList, (run.last < 0xD800 ∨ 0xDFFF < run.first ∧ run.last < 0x110000) ∧
      (run.target + (run.last - run.first) < 0xD800 ∨
        0xDFFF < run.target ∧ run.target + (run.last - run.first) < 0x110000) := by decide +kernel
  obtain ⟨run, member, listed⟩ := folds
  obtain ⟨within, -, rfl⟩ := (FoldRun.mem_pairs_iff (filled_of_mem run member)).1 listed
  obtain ⟨sources, targets⟩ := checked run member
  unfold Nat.isValidChar
  omega

end Folds

theorem findSome?_eq_some_iff {code folded : Nat} :
    foldRuns.findSome? (·.fold? code) = some folded ↔ Folds code folded := by
  have sent {folded : Nat} (found : foldRuns.findSome? (·.fold? code) = some folded) : Folds code folded := by
    obtain ⟨run, member, folds⟩ := Array.exists_of_findSome?_eq_some found
    have listed := Array.mem_toList_iff.2 member
    exact ⟨run, listed, (FoldRun.fold?_eq_some_iff (filled_of_mem run listed)).1 folds⟩
  refine ⟨sent, fun folds => ?_⟩
  cases found : foldRuns.findSome? (·.fold? code) with
  | none =>
    obtain ⟨run, member, listed⟩ := folds
    have kept := Array.findSome?_eq_none_iff.1 found run (Array.mem_toList_iff.1 member)
    cases kept.symm.trans ((FoldRun.fold?_eq_some_iff (filled_of_mem run member)).2 listed)
  | some another => rw [(sent found).unique folds]

variable {char variant : Char}

theorem Folds.foldCode_eq {folded : Nat} (folds : Folds char.toNat folded) : foldCode char = folded := by
  rw [foldCode, findSome?_eq_some_iff.2 folds, Option.getD_some]

theorem foldCode_eq_or_folds (char : Char) :
    foldCode char = char.toNat ∨ Folds char.toNat (foldCode char) := by
  unfold foldCode
  cases found : foldRuns.findSome? (·.fold? char.toNat) with
  | none => exact .inl rfl
  | some folded => exact .inr (findSome?_eq_some_iff.1 found)

theorem toNat_ofNat {code : Nat} (valid : code.isValidChar) : (Char.ofNat code).toNat = code := by
  rw [Char.ofNat, dif_pos valid]
  rfl

theorem toNat_ofNat_foldCode (char : Char) : (Char.ofNat (foldCode char)).toNat = foldCode char := by
  obtain own | folds := foldCode_eq_or_folds char
  · rw [own, Char.ofNat_toNat]
  · exact toNat_ofNat folds.isValidChar.2

/-- A representative stands for itself. -/
theorem foldCode_ofNat_foldCode (char : Char) : foldCode (Char.ofNat (foldCode char)) = foldCode char := by
  have same := toNat_ofNat_foldCode char
  obtain own | folds := foldCode_eq_or_folds char
  · rw [own, Char.ofNat_toNat, own]
  · obtain own | again := foldCode_eq_or_folds (Char.ofNat (foldCode char))
    · rw [own, same]
    · rw [same] at again
      exact absurd again folds.not_again

/-- Two characters are case variants of each other if and only if they have the same representative. -/
theorem mem_caseVariants_iff : variant ∈ caseVariants char ↔ foldCode variant = foldCode char := by
  simp only [caseVariants, List.mem_cons, List.mem_map, List.mem_filterMap]
  constructor
  · rintro (own | ⟨code, ⟨run, member, sent⟩, rfl⟩)
    · rw [own, foldCode_ofNat_foldCode]
    · have folds : Folds code (foldCode char) :=
        ⟨run, member, (FoldRun.source?_eq_some_iff (filled_of_mem run member)).1 sent⟩
      rw [← toNat_ofNat folds.isValidChar.1] at folds
      exact folds.foldCode_eq
  · intro same
    obtain own | folds := foldCode_eq_or_folds variant
    · exact .inl (by rw [← same, own, Char.ofNat_toNat])
    · rw [same] at folds
      obtain ⟨run, member, listed⟩ := folds
      exact .inr ⟨_, ⟨run, member, (FoldRun.source?_eq_some_iff (filled_of_mem run member)).2 listed⟩,
        Char.ofNat_toNat variant⟩

end AppBundle.Unicode
