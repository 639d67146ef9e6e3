import AppBundle.Proofs.Pattern.Anchors
import AppBundle.Proofs.Pattern.WordTree

/-! # The extent of compact forms

The size of a pattern is that of its compact form, up to what surrounds it. The extent of a form is what it
contributes to this size. Parts in a row contribute their extents, however their literals are joined, and a
class of ASCII characters contributes little for each of them. An anchored pattern is larger than its
alternatives by a fixed number of bytes at most.
-/

namespace AppBundle.Pattern.Compact

variable {direction : Direction}

/-- What a form contributes to the size of a pattern. -/
def extent (direction : Direction) (form : Compact) : Nat := Size.ofBranches (form.sized direction)

theorem extent_holds (assertion : Assertion) : (holds assertion).extent direction = Size.state := rfl

theorem extent_seq (first rest : Compact) :
    (seq first rest).extent direction = first.extent direction + rest.extent direction := rfl

theorem extent_literal (text : List Char) :
    (literal text).extent direction = Size.state * (text.flatMap String.utf8EncodeChar).length := rfl

/-- The extent of forms in a row. -/
def extents (direction : Direction) (forms : List Compact) : Nat := (forms.map (extent direction)).sum

theorem extents_cons (form : Compact) (forms : List Compact) :
    extents direction (form :: forms) = form.extent direction + extents direction forms := rfl

theorem extents_append (first second : List Compact) :
    extents direction (first ++ second) = extents direction first + extents direction second := by
  rw [extents, List.map_append, List.sum_append_nat]
  rfl

theorem extents_parts_le (form : Compact) : extents direction form.parts ≤ form.extent direction := by
  induction form with
  | seq first rest _ ih => exact Nat.add_le_add_left ih _
  | empty => exact Nat.zero_le _
  | _ => exact Nat.le_refl _

/-- Joined literals are as large as they were. -/
theorem extents_join (part : Compact) (rest : List Compact) :
    extents direction (part.join rest) = extents direction (part :: rest) := by
  unfold join
  split
  · simp only [extents_cons, extent_literal, List.flatMap_append, List.length_append, Nat.mul_add,
      Nat.add_assoc]
  · rfl

theorem extents_foldr_join (parts : List Compact) :
    extents direction (parts.foldr join []) = extents direction parts := by
  induction parts with
  | nil => rfl
  | cons part parts ih => rw [List.foldr_cons, extents_join, extents_cons, ih, extents_cons]

theorem join_ne_nil (part : Compact) (rest : List Compact) : part.join rest ≠ [] := by
  unfold join
  split <;> exact List.cons_ne_nil _ _

theorem extent_ofParts {parts : List Compact} (some : parts ≠ []) :
    (ofParts parts).extent direction = extents direction parts := by
  induction parts with
  | nil => exact absurd rfl some
  | cons part parts ih =>
    cases parts with
    | nil => rfl
    | cons next parts =>
      have rest := ih (List.cons_ne_nil next parts)
      exact congrArg (part.extent direction + ·) rest

/-- Forms in a row contribute the extents of their parts. -/
theorem extent_row {forms : List Compact} (some : forms.flatMap parts ≠ []) :
    (row forms).extent direction = extents direction (forms.flatMap parts) := by
  rw [row, extent_ofParts, extents_foldr_join]
  cases parts : forms.flatMap parts with
  | nil => exact absurd parts some
  | cons part parts => exact join_ne_nil _ _

theorem nodes_pos (form : Compact) : 0 < form.nodes := by
  cases form <;> exact Nat.succ_pos _

/-- Nothing is to choose from a single form. -/
theorem choose_single {form : Compact} (single : form.branches = [form]) : choose [form] = form := by
  obtain ⟨fuel, enough⟩ := Nat.exists_eq_add_of_lt (nodes_pos form)
  rw [choose, List.map_singleton, enough]
  simp [total, chooseWithin, single, ofBranches]

/-- A condition is not joined to what stands in front of it. -/
theorem foldr_join_holds (forms : List Compact) (assertion : Assertion) :
    (forms ++ [holds assertion]).foldr join [] = forms.foldr join [] ++ [holds assertion] := by
  induction forms with
  | nil => rfl
  | cons form forms ih =>
    rw [List.cons_append, List.foldr_cons, List.foldr_cons, ih]
    cases forms.foldr join [] with
    | nil => cases form <;> rfl
    | cons next rest => cases form <;> cases next <;> rfl

section Choice

/-- The code point of a single character. -/
def code? : Compact → Option Nat
  | literal [char] => some char.toNat
  | _ => none

/-- The parts of a row. -/
def row? : Compact → Option (List Compact)
  | seq first rest => some (first :: rest.parts)
  | _ => none

/-- A class of ASCII characters takes little space. -/
theorem extent_ofRanges_le {direction : Direction} {ranges : List (Nat × Nat)}
    (ascii : ∀ range ∈ ranges, range.2 < 0x80) :
    (ofRanges ranges).extent direction ≤ 128 + 8 * ranges.length := by
  have oneOf : (oneOf ranges).extent direction ≤ 128 + 8 * ranges.length := by
    have all : (ranges.all fun range => range.2 < 0x80) = true := by simpa using ascii
    have class_size : (Compact.oneOf ranges).extent direction = Size.ofRanges direction ranges := rfl
    rw [class_size, Size.ofRanges, if_pos all, Size.state, Size.transition]
    omega
  have literal (char : Char) : (literal [char]).extent direction ≤ 128 := by
    have few := char.utf8Size_le_four
    rw [extent_literal, List.flatMap_singleton, String.length_utf8EncodeChar, Size.state]
    omega
  unfold ofRanges
  split
  · split
    · exact (literal _).trans (Nat.le_add_right ..)
    · exact oneOf
  · exact oneOf

theorem sized_ofBranches {forms : List Compact} (some : forms ≠ []) :
    (Compact.ofBranches forms).sized direction = forms.flatMap (sized direction) := by
  induction forms with
  | nil => exact absurd rfl some
  | cons form forms ih =>
    cases forms with
    | nil => simp [Compact.ofBranches]
    | cons next forms =>
      have rest := ih (List.cons_ne_nil next forms)
      rw [List.flatMap_cons, ← rest]
      rfl

/-- The size of alternatives of which nothing is left. -/
theorem extent_chooseWithin_empty {fuel count : Nat} (several : 1 < count) :
    (chooseWithin fuel (List.replicate count .empty)).extent direction = 64 + 36 * count := by
  obtain ⟨count, rfl⟩ := Nat.exists_eq_add_of_le' several
  have kept : (List.replicate (count + 2) Compact.empty).flatMap branches = List.replicate (count + 2) .empty := by
    rw [List.flatMap_replicate]
    exact List.flatten_replicate_singleton
  have chosen : chooseWithin fuel (List.replicate (count + 2) .empty) =
      Compact.ofBranches (List.replicate (count + 2) .empty) := by
    cases fuel with
    | zero => rw [chooseWithin, kept]
    | succ fuel =>
      rw [chooseWithin, kept, if_neg (by simp)]
      rfl
  have sizes : (List.replicate (count + 2) Compact.empty).flatMap (sized direction) =
      List.replicate (count + 2) ⟨none, Size.state⟩ := by
    rw [List.flatMap_replicate]
    exact List.flatten_replicate_singleton
  have turns : (List.replicate (count + 2) (Size.Branch.mk none Size.state)).mapM Size.Branch.word? = none := rfl
  rw [chosen, extent, sized_ofBranches (by simp), sizes,
    Size.ofBranches_eq (by rwa [List.length_replicate]), turns, Option.elim, List.map_replicate,
    List.sum_replicate_nat, Size.state, Size.option]
  dsimp only
  omega

end Choice

section Anchored

variable (middle : Compact)

/-- A form up to the end of the text. -/
def toEnd : Compact := row [middle, holds .textEnd]

/-- A form between the ends of the text. -/
def betweenEnds : Compact := row [holds .textStart, middle.toEnd]

theorem parts_to_end : [middle, holds .textEnd].flatMap parts = middle.parts ++ [holds .textEnd] := by
  rw [List.flatMap_cons, List.flatMap_singleton]
  rfl

theorem parts_from_start : [holds .textStart, middle].flatMap parts = holds .textStart :: middle.parts := by
  rw [List.flatMap_cons, List.flatMap_singleton]
  rfl

theorem branches_toEnd : middle.toEnd.branches = [middle.toEnd] := by
  rw [toEnd, row, parts_to_end, foldr_join_holds]
  cases middle.parts.foldr join [] with
  | nil => rfl
  | cons part parts => cases parts <;> rfl

theorem branches_betweenEnds : middle.betweenEnds.branches = [middle.betweenEnds] := by
  have starts (rest : List Compact) : join (holds .textStart) rest = holds .textStart :: rest := by
    cases rest <;> rfl
  rw [betweenEnds, row, parts_from_start, List.foldr_cons, starts]
  cases middle.toEnd.parts.foldr join [] <;> rfl

theorem compact_anchored (expr : Expr) : expr.anchored.compact = (choose expr.alternatives).betweenEnds := by
  have last : (Expr.seq (.holds .textEnd) .empty).alternatives = [holds .textEnd] := rfl
  have rest : (Expr.seq expr (.seq (.holds .textEnd) .empty)).alternatives =
      [(choose expr.alternatives).toEnd] := by
    rw [Expr.alternatives, last]
    rfl
  have all : expr.anchored.alternatives = [(choose expr.alternatives).betweenEnds] := by
    rw [Expr.anchored, Expr.alternatives, rest, choose_single (branches_toEnd _)]
    rfl
  rw [Expr.compact, all, choose_single (branches_betweenEnds _)]

theorem extent_toEnd : middle.toEnd.extent direction = extents direction middle.parts + Size.state := by
  have some : [middle, holds .textEnd].flatMap parts ≠ [] :=
    parts_to_end middle ▸ List.append_ne_nil_of_right_ne_nil _ (List.cons_ne_nil _ _)
  rw [toEnd, extent_row some, parts_to_end, extents_append]
  rfl

theorem extent_betweenEnds :
    middle.betweenEnds.extent direction = Size.state + extents direction middle.toEnd.parts := by
  have some : [holds .textStart, middle.toEnd].flatMap parts ≠ [] :=
    parts_from_start middle.toEnd ▸ List.cons_ne_nil _ _
  rw [betweenEnds, extent_row some, parts_from_start]
  rfl

end Anchored

/-- An automaton is larger than its form by what it needs to begin and to end, and by the marks of the
group. -/
theorem size_between (form : Compact) : form.extent direction + 64 ≤ form.size direction ∧
    form.size direction ≤ form.extent direction + 208 := by
  have begins (held : Bool) :
      32 ≤ (if held then Size.state else 3 * Size.state + 2 * Size.option + Size.transition) ∧
      (if held then Size.state else 3 * Size.state + 2 * Size.option + Size.transition) ≤ 112 := by
    cases held <;> decide
  have grouped : form.extent direction ≤ Size.ofBranches ((group form).sized direction) ∧
      Size.ofBranches ((group form).sized direction) ≤ form.extent direction + 64 := by
    cases direction
    · exact ⟨Nat.le_add_right .., Nat.le_refl _⟩
    · exact ⟨Nat.le_refl _, Nat.le_add_right ..⟩
  have whole : ∃ held : Bool, form.size direction =
      (if held then Size.state else 3 * Size.state + 2 * Size.option + Size.transition) +
        Size.ofBranches ((group form).sized direction) + 32 := ⟨_, rfl⟩
  obtain ⟨held, whole⟩ := whole
  have start := begins held
  constructor <;> omega

section Fits

variable {expr : Expr}

/-- Alternatives that are small enough by themselves are so between the ends of the text. -/
theorem fits_anchored (small : ∀ direction, (choose expr.alternatives).extent direction + 272 ≤ sizeLimit) :
    expr.anchored.fits = true := by
  have each (direction : Direction) : expr.anchored.compact.size direction ≤ sizeLimit := by
    refine Nat.le_trans ?_ (small direction)
    rw [compact_anchored]
    have whole := (@size_between direction (choose expr.alternatives).betweenEnds).2
    have inner := @extents_parts_le direction (choose expr.alternatives)
    have outer := @extents_parts_le direction (choose expr.alternatives).toEnd
    have bound : Size.state = 32 := rfl
    rw [extent_toEnd] at outer
    rw [extent_betweenEnds] at whole
    omega
  rw [Expr.fits, Bool.and_eq_true, decide_eq_true_eq, decide_eq_true_eq]
  exact ⟨each .forwards, each .backwards⟩

/-- Alternatives that are too large are so between the ends of the text, too. -/
theorem not_fits_anchored {first rest : Compact} (several : choose expr.alternatives = either first rest)
    (large : sizeLimit < (either first rest).extent .backwards + 128) : expr.anchored.fits = false := by
  have between : expr.anchored.compact =
      seq (holds .textStart) (seq (either first rest) (holds .textEnd)) := by
    rw [compact_anchored, several]
    rfl
  have whole := (@size_between .backwards expr.anchored.compact).1
  rw [between, extent_seq, extent_seq, extent_holds, extent_holds, Size.state] at whole
  rw [Expr.fits, Bool.and_eq_false_iff, decide_eq_false_iff_not, decide_eq_false_iff_not, between]
  exact .inr (by omega)

end Fits

end AppBundle.Pattern.Compact
