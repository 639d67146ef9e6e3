import AppBundle.Proofs.Pattern.Extent
import AppBundle.Proofs.Pattern.Spelling
import AppBundle.Proofs.Unicode.Ranges

/-! # The size of patterns that spell names

In compact form the letters of an alternative are one literal. Alternatives that are single letters are one
class, those that all go on behind the same word have it in common, and any others are tried in turn. In each
case the pattern grows with its text by no more than a fixed number of bytes for each character. So a text
that is not too long is accepted; but since going on takes up much space in an automaton that reads backwards,
a longer one can be refused.
-/

namespace AppBundle

namespace Pattern

/-- If what is made of each item is known, then so is what is made of all of them. -/
theorem eq_map_of_mapM {α β : Type} {f : α → Option β} {g : α → β} {items : List α} {found : List β}
    (known : ∀ item ∈ items, ∀ value, f item = some value → value = g item)
    (made : items.mapM f = some found) : found = items.map g ∧ ∀ item ∈ items, f item = some (g item) := by
  induction items generalizing found with
  | nil =>
    cases made
    exact ⟨rfl, nofun⟩
  | cons item items ih =>
    rw [List.forall_mem_cons] at known
    rw [List.mapM_cons] at made
    obtain ⟨value, first, made⟩ := Option.bind_eq_some_iff.1 made
    obtain ⟨rest, others, same⟩ := Option.bind_eq_some_iff.1 made
    cases same
    obtain ⟨rfl, each⟩ := ih known.2 others
    obtain rfl := known.1 value first
    exact ⟨rfl, List.forall_mem_cons.2 ⟨first, each⟩⟩

namespace Choice

open AppBundle.Pattern.Compact

variable {choices : List Choice} {direction : Direction}

/-- The characters of a line. -/
def lineRanges : List (Nat × Nat) := (CharSet.complement (.single '\n')).ranges

/-- The compact form of any number of characters in a line. -/
def lineForm : Compact := .repeated (.oneOf lineRanges) 0 none

/-- The compact form of an alternative. -/
def form (choice : Choice) : Compact :=
  if choice.goesOn then .seq (.literal choice.word) lineForm else .literal choice.word

theorem branches_form (choice : Choice) : choice.form.branches = [choice.form] := by
  rw [form]
  split <;> rfl

section Forms

theorem alternatives_letter (char : Char) : (letter char).expr.alternatives = [.literal [char]] := by
  simp [letter, Part.plain, Expr.alternatives, CharSet.single, CharSet.ranges, Compact.ofRanges]

/-- The letters of an alternative are joined. -/
theorem alternatives_row (char : Char) (word : List Char) (goesOn : Bool) :
    (((char :: word).map letter ++ if goesOn then [anything] else []).foldr
      (fun part rest => .seq part.expr rest) Expr.empty).alternatives =
      [if goesOn then .seq (.literal (char :: word)) lineForm else .literal (char :: word)] := by
  induction word generalizing char with
  | nil =>
    rw [List.map_cons, List.cons_append, List.foldr_cons, Expr.alternatives, alternatives_letter]
    cases goesOn <;> rfl
  | cons next word ih =>
    rw [List.map_cons, List.cons_append, List.foldr_cons, Expr.alternatives, alternatives_letter, ih]
    cases goesOn with
    | false => rw [choose_single rfl, choose_single rfl]; rfl
    | true => rw [choose_single rfl, choose_single rfl]; rfl

theorem alternatives_part (choice : Choice) : choice.part.expr.alternatives = [choice.form] := by
  obtain ⟨word, goesOn, filled, ordinary⟩ := choice
  obtain ⟨char, word, rfl⟩ := List.exists_cons_of_ne_nil filled
  have row := alternatives_row char word goesOn
  cases word with
  | nil =>
    cases goesOn with
    | false => exact alternatives_letter char
    | true => exact row
  | cons next word => exact row

theorem alternatives_expr (some : choices ≠ []) : (expr choices).alternatives = choices.map form := by
  have each (choices : List Choice) : ((choices.map part).foldr
      (fun part rest => .either part.expr rest) Expr.never).alternatives = choices.map form := by
    induction choices with
    | nil => rfl
    | cons choice choices ih =>
      rw [List.map_cons, List.foldr_cons, Expr.alternatives, alternatives_part,
        choose_single choice.branches_form, ih, List.map_cons]
  rcases choices with _ | ⟨first, _ | ⟨second, others⟩⟩
  · exact absurd rfl some
  · exact first.alternatives_part
  · exact each (first :: second :: others)

end Forms

section Choosing

/-- The code point of the first letter. -/
def code (choice : Choice) : Nat := (choice.word.head choice.word_ne_nil).toNat

/-- The parts of the alternatives that go on behind a word. -/
def beginning (word : List Char) : List Compact := [.literal word, lineForm]

theorem flatMap_branches (choices : List Choice) :
    (choices.map form).flatMap branches = choices.map form := by
  induction choices with
  | nil => rfl
  | cons choice choices ih =>
    rw [List.map_cons, List.flatMap_cons, branches_form, ih, List.singleton_append]

/-- Alternatives that are all single letters make a class of these. -/
theorem singles?_form {ranges : List (Nat × Nat)} (found : singles? (choices.map form) = some ranges) :
    ranges = Unicode.Ranges.ofCodes (choices.map code) ∧ ∀ choice ∈ choices, choice.goesOn = false := by
  obtain ⟨codes, read, same⟩ := Option.bind_eq_some_iff.1 found
  cases same
  have read : (choices.map form).mapM code? = some codes := read
  have letter {choice : Choice} {value : Nat} (made : choice.form.code? = some value) :
      choice.goesOn = false ∧ value = choice.code := by
    obtain ⟨word, goesOn, filled, ordinary⟩ := choice
    cases goesOn with
    | true => cases made
    | false =>
      rcases word with _ | ⟨char, _ | ⟨next, word⟩⟩
      · exact absurd rfl filled
      · exact ⟨rfl, (Option.some.inj made).symm⟩
      · cases made
  rw [List.mapM_map] at read
  obtain ⟨rfl, each⟩ := eq_map_of_mapM (fun choice _ value made => (letter made).2) read
  exact ⟨rfl, fun choice member => (letter (each choice member)).1⟩

theorem classes?_form (some : choices ≠ []) : classes? (choices.map form) = none := by
  obtain ⟨first, others, rfl⟩ := List.exists_cons_of_ne_nil some
  obtain ⟨word, goesOn, filled, ordinary⟩ := first
  cases goesOn <;> rfl

theorem commonStart_beginning (word other : List Char) :
    commonStart (beginning word) (beginning other) = if word = other then beginning word else [] := by
  have line : lineForm.counts = false := rfl
  by_cases same : word = other
  · subst same
    simp [commonStart, beginning, counts, line]
  · simp [commonStart, beginning, same]

/-- Rows that begin with different words have nothing in common. -/
theorem foldl_commonStart {word : List Char} {start : List Compact} (some : start ≠ [])
    (common : (choices.map fun choice => beginning choice.word).foldl commonStart (beginning word) = start) :
    start = beginning word ∧ ∀ choice ∈ choices, choice.word = word := by
  have nothing (rows : List (List Compact)) : rows.foldl commonStart [] = [] := by
    induction rows with
    | nil => rfl
    | cons row rows ih => exact ih
  induction choices with
  | nil => exact ⟨common.symm, nofun⟩
  | cons choice choices ih =>
    rw [List.map_cons, List.foldl_cons, commonStart_beginning] at common
    split at common
    · next same =>
      obtain ⟨found, all⟩ := ih common
      exact ⟨found, List.forall_mem_cons.2 ⟨same.symm, all⟩⟩
    · rw [nothing] at common
      exact absurd common.symm some

/-- A common beginning is taken out of alternatives if all go on behind the same word, and nothing is left of
them. -/
theorem factor?_form (some : choices ≠ []) {start rests : List Compact}
    (found : factor? (choices.map form) = .some (start, rests)) :
    ∃ word, start = beginning word ∧ rests = List.replicate choices.length .empty ∧
      ∀ choice ∈ choices, choice.goesOn = true ∧ choice.word = word := by
  obtain ⟨rows, read, found⟩ := Option.bind_eq_some_iff.1 found
  have read : (choices.map form).mapM row? = .some rows := read
  have row (choice : Choice) : choice.form.row? =
      if choice.goesOn then .some (beginning choice.word) else none := by
    rw [form]
    cases choice.goesOn <;> rfl
  have read_iff {choice : Choice} {parts : List Compact} (made : choice.form.row? = .some parts) :
      choice.goesOn = true ∧ parts = beginning choice.word := by
    rw [row, Option.ite_none_right_eq_some] at made
    exact ⟨made.1, (Option.some.inj made.2).symm⟩
  rw [List.mapM_map] at read
  obtain ⟨rfl, each⟩ := eq_map_of_mapM (fun choice _ parts made => (read_iff made).2) read
  obtain ⟨first, others, rfl⟩ := List.exists_cons_of_ne_nil some
  rw [List.map_cons, List.tail_cons, List.headD_cons] at found
  dsimp only at found
  split at found
  · cases found
  · next filled =>
    obtain ⟨same, all⟩ := foldl_commonStart (mt List.isEmpty_iff.2 filled) rfl
    rw [same] at found
    cases found
    refine ⟨first.word, rfl, ?_, fun choice member => ⟨(read_iff (each choice member)).1, ?_⟩⟩
    · rw [List.map_cons, List.map_map]
      have left : others.map (fun _ => Compact.empty) = List.replicate others.length .empty := List.map_const'
      exact congrArg (Compact.empty :: ·) left
    · rcases List.mem_cons.1 member with rfl | member
      · rfl
      · exact all choice member

/-- Alternatives become a class, or what they have in common is taken out of them, or they are tried in
turn. -/
theorem choose_form (several : 1 < choices.length) :
    (∃ ranges, singles? (choices.map form) = some ranges ∧
      choose (choices.map form) = .ofRanges ranges) ∨
    (∃ fuel start rests, factor? (choices.map form) = some (start, rests) ∧
      choose (choices.map form) = row (start ++ [chooseWithin fuel rests])) ∨
    choose (choices.map form) = .ofBranches (choices.map form) := by
  have filled : choices ≠ [] := List.ne_nil_of_length_pos (Nat.zero_lt_of_lt several)
  obtain ⟨fuel, positive⟩ : ∃ fuel, total ((choices.map form).map nodes) = fuel + 1 := by
    obtain ⟨first, others, rfl⟩ := List.exists_cons_of_ne_nil filled
    have positive : 0 < total (((first :: others).map form).map nodes) :=
      Nat.add_pos_left (nodes_pos first.form) _
    exact ⟨_, (Nat.succ_pred_eq_of_pos positive).symm⟩
  have many : ¬ (choices.map form).length < 2 := by
    rw [List.length_map]
    exact Nat.not_lt.2 several
  rw [choose, positive, chooseWithin, flatMap_branches, if_neg many, classes?_form filled]
  cases singles? (choices.map form) with
  | some ranges => exact .inl ⟨ranges, rfl, rfl⟩
  | none =>
    cases factor? (choices.map form) with
    | some factored => exact .inr (.inl ⟨fuel, factored.1, factored.2, rfl, rfl⟩)
    | none => exact .inr (.inr rfl)

end Choosing

section Bound

theorem toNat_lt {char : Char} (ordinary : char.isAlphanum = true ∨ char = '_') : char.toNat < 0x80 := by
  rcases ordinary with letter | rfl
  · have ranges : char.isAlphanum = (decide (char.val ≥ 'A'.val ∧ char.val ≤ 'Z'.val) ||
        (char.val ≥ 'a'.val && char.val ≤ 'z'.val) || (char.val ≥ '0'.val && char.val ≤ '9'.val)) := rfl
    have upper : 'Z'.val.toNat = 90 := rfl
    have lower : 'z'.val.toNat = 122 := rfl
    have digit : '9'.val.toNat = 57 := rfl
    have value : char.toNat = char.val.toNat := rfl
    rw [ranges] at letter
    simp only [Bool.or_eq_true, Bool.and_eq_true, decide_eq_true_eq, ge_iff_le, UInt32.le_iff_toNat_le] at letter
    omega
  · decide

/-- Each letter of a word is one byte. -/
theorem length_bytes (choice : Choice) :
    (choice.word.flatMap String.utf8EncodeChar).length = choice.word.length := by
  have single : ∀ char ∈ choice.word, char.utf8Size = 1 := by
    intro char member
    rw [Char.utf8Size_eq_one_iff, UInt32.le_iff_toNat_le]
    exact Nat.le_of_lt_succ (toNat_lt (choice.ordinary char member))
  generalize choice.word = word at single
  induction word with
  | nil => rfl
  | cons char word ih =>
    rw [List.forall_mem_cons] at single
    rw [List.flatMap_cons, List.length_append, String.length_utf8EncodeChar, single.1, ih single.2,
      List.length_cons, Nat.add_comm]

theorem code_lt (choice : Choice) : choice.code < 0x80 :=
  toNat_lt (choice.ordinary _ (List.head_mem choice.word_ne_nil))

theorem extent_word (choice : Choice) :
    (Compact.literal choice.word).extent direction = 32 * choice.word.length := by
  rw [extent_literal, length_bytes]
  rfl

/-- A state that goes on in a line takes up much space in an automaton that reads backwards. -/
theorem extent_lineForm : lineForm.extent .backwards = 1040 := by decide +kernel

theorem extent_lineForm_le : lineForm.extent direction ≤ 1040 := by
  cases direction <;> decide +kernel

/-- What an alternative adds to the size of a pattern at most. -/
def allowance (choice : Choice) : Nat := 269 * (choice.text.length + 1)

theorem length_text (choice : Choice) :
    choice.text.length = choice.word.length + if choice.goesOn then 2 else 0 := by
  rw [text, List.length_append]
  cases choice.goesOn <;> rfl

theorem word_pos (choice : Choice) : 0 < choice.word.length := List.length_pos_of_ne_nil choice.word_ne_nil

theorem extent_form_le (choice : Choice) : choice.form.extent direction + 4 ≤ choice.allowance := by
  have letters := choice.word_pos
  have line := @extent_lineForm_le direction
  rw [allowance, length_text, form]
  cases choice.goesOn with
  | false =>
    rw [if_neg Bool.false_ne_true, if_neg Bool.false_ne_true, extent_word]
    omega
  | true =>
    rw [if_pos rfl, if_pos rfl, extent_seq, extent_word]
    omega

/-- An alternative as it is tried in turn. -/
def branch (direction : Direction) (choice : Choice) : Size.Branch where
  word? := if choice.goesOn then none else
    let word := choice.word.flatMap String.utf8EncodeChar
    some (if direction = .forwards then word else word.reverse)
  size := choice.form.extent direction

theorem sized_form (choice : Choice) : choice.form.sized direction = [choice.branch direction] := by
  obtain ⟨word, goesOn, filled, ordinary⟩ := choice
  cases goesOn <;> rfl

theorem extent_ofBranches (some : choices ≠ []) : (Compact.ofBranches (choices.map form)).extent direction =
    Size.ofBranches (choices.map (branch direction)) := by
  have each (choices : List Choice) :
      (choices.map form).flatMap (sized direction) = choices.map (branch direction) := by
    induction choices with
    | nil => rfl
    | cons choice choices ih =>
      rw [List.map_cons, List.flatMap_cons, sized_form, ih, List.singleton_append, List.map_cons]
  rw [extent, sized_ofBranches (mt List.map_eq_nil_iff.1 some), each]

/-- A class of letters is no larger than the letters may be. -/
theorem extent_class_le {ranges : List (Nat × Nat)} (several : 1 < choices.length)
    (found : singles? (choices.map form) = some ranges) :
    (Compact.ofRanges ranges).extent direction ≤ 64 + (choices.map allowance).sum := by
  obtain ⟨rfl, -⟩ := singles?_form found
  have ascii : ∀ range ∈ Unicode.Ranges.ofCodes (choices.map code), range.2 < 0x80 := by
    refine Unicode.Ranges.ofCodes_lt fun code member => ?_
    obtain ⟨choice, -, rfl⟩ := List.mem_map.1 member
    exact choice.code_lt
  have few := @Unicode.Ranges.length_ofCodes_le (choices.map code)
  have small := @extent_ofRanges_le direction _ ascii
  have each : ∀ choice ∈ choices, 538 ≤ choice.allowance := by
    intro choice _
    have letters := choice.word_pos
    rw [allowance, length_text]
    omega
  have all := List.sum_le_sum each
  rw [List.map_const', List.sum_replicate_nat] at all
  rw [List.length_map] at few
  omega

/-- A word that all alternatives go on behind is needed once. -/
theorem extent_factored_le {fuel : Nat} {start rests : List Compact} (several : 1 < choices.length)
    (found : factor? (choices.map form) = some (start, rests)) :
    (row (start ++ [chooseWithin fuel rests])).extent direction ≤ 64 + (choices.map allowance).sum := by
  have some : choices ≠ [] := List.ne_nil_of_length_pos (Nat.zero_lt_of_lt several)
  obtain ⟨word, rfl, rfl, same⟩ := factor?_form some found
  obtain ⟨first, others, rfl⟩ := List.exists_cons_of_ne_nil some
  obtain ⟨-, rfl⟩ := same first (List.mem_cons_self ..)
  have parts (last : Compact) : (beginning first.word ++ [last]).flatMap Compact.parts =
      .literal first.word :: lineForm :: last.parts := by
    simp [beginning, Compact.parts, lineForm]
  have rest := @extents_parts_le direction (chooseWithin fuel (List.replicate (first :: others).length .empty))
  have line := @extent_lineForm_le direction
  have each : ∀ choice ∈ first :: others, choice.allowance = 269 * (first.word.length + 3) := by
    intro choice member
    rw [allowance, length_text, (same choice member).1, (same choice member).2]
    rfl
  rw [extent_chooseWithin_empty several] at rest
  rw [extent_row (parts _ ▸ List.cons_ne_nil _ _), parts, extents_cons, extents_cons, extent_word,
    List.map_congr_left each, List.map_const', List.sum_replicate_nat]
  generalize (first :: others).length = count at several rest ⊢
  -- Two alternatives pay for the word and for going on; each one pays for what is left of it.
  have paid := Nat.mul_le_mul_right (269 * first.word.length + 771) several
  have split : count * (269 * (first.word.length + 3)) =
      count * (269 * first.word.length + 771) + count * 36 := by
    rw [← Nat.mul_add]
    rfl
  omega

theorem extent_choose_le (some : choices ≠ []) :
    (choose (choices.map form)).extent direction ≤ 64 + (choices.map allowance).sum := by
  rcases choices with _ | ⟨first, _ | ⟨second, others⟩⟩
  · exact absurd rfl some
  · have small := @extent_form_le direction first
    rw [List.map_singleton, choose_single first.branches_form, List.map_singleton, List.sum_singleton]
    omega
  · have several : 1 < (first :: second :: others).length := Nat.le_add_left 2 _
    rcases choose_form several with ⟨ranges, found, chosen⟩ | ⟨fuel, start, rests, found, chosen⟩ | chosen
    · exact chosen ▸ extent_class_le several found
    · exact chosen ▸ extent_factored_le several found
    · rw [chosen, extent_ofBranches some]
      refine Size.ofBranches_le several (fun choice _ => choice.extent_form_le) fun choice _ word found => ?_
      obtain ⟨-, same⟩ := Option.ite_none_left_eq_some.1 found
      have length : word.length = choice.word.length := by
        rw [← choice.length_bytes, ← Option.some.inj same]
        cases direction
        · rfl
        · exact List.length_reverse
      have letters := choice.word_pos
      rw [Size.ofWordBound, length, allowance, length_text, Size.perLetter, Size.option]
      omega

/-- The alternatives may take up so much space for each character of their text. -/
theorem sum_allowance (some : choices ≠ []) :
    (choices.map allowance).sum = 269 * ((joined choices).length + 1) := by
  induction choices with
  | nil => exact absurd rfl some
  | cons first others ih =>
    cases others with
    | nil => simp [joined, allowance]
    | cons second others =>
      rw [List.map_cons, List.sum_cons, ih (List.cons_ne_nil second others), joined_cons_cons, allowance,
        List.length_append, List.length_cons]
      omega

end Bound

section Fits

/-- A text that is not too long stands for automata that are small enough. -/
theorem fits_of_length_le (some : choices ≠ []) (short : (joined choices).length ≤ 38978) :
    (expr choices).anchored.fits = true := by
  refine fits_anchored fun direction => ?_
  have small := @extent_choose_le _ direction some
  rw [sum_allowance some] at small
  rw [alternatives_expr some, sizeLimit]
  omega

variable (onward : ∀ choice ∈ choices, choice.goesOn = true)
  (apart : ∃ first ∈ choices, ∃ second ∈ choices, first.word ≠ second.word)

include onward apart

/-- Alternatives that go on behind different words are tried in turn. -/
theorem choose_of_apart : 1 < choices.length ∧ choose (choices.map form) = .ofBranches (choices.map form) := by
  obtain ⟨first, member, second, present, differ⟩ := apart
  have several : 1 < choices.length := by
    rcases choices with _ | ⟨only, _ | ⟨next, others⟩⟩
    · cases member
    · rw [List.mem_singleton.1 member, List.mem_singleton.1 present] at differ
      exact absurd rfl differ
    · exact Nat.le_add_left 2 _
  refine ⟨several, ?_⟩
  rcases choose_form several with ⟨_, found, _⟩ | ⟨_, _, _, found, _⟩ | chosen
  · have alone := (singles?_form found).2 first member
    rw [onward first member] at alone
    cases alone
  · obtain ⟨word, -, -, same⟩ := factor?_form (List.ne_nil_of_mem member) found
    exact absurd ((same first member).2.trans (same second present).2.symm) differ
  · exact chosen

/-- Read backwards, each alternative that goes on has states of its own for a whole line. -/
theorem extent_of_apart : (choose (choices.map form)).extent .backwards =
    64 + (choices.map fun choice => 32 * choice.word.length + 1044).sum := by
  obtain ⟨several, chosen⟩ := choose_of_apart onward apart
  obtain ⟨first, others, rfl⟩ := List.exists_cons_of_ne_nil
    (List.ne_nil_of_length_pos (Nat.zero_lt_of_lt several))
  have turns : ((first :: others).map (branch .backwards)).mapM Size.Branch.word? = none := by
    have other : (first.branch .backwards).word? = none := if_pos (onward first (List.mem_cons_self ..))
    rw [List.map_cons, List.mapM_cons, other]
    rfl
  have each : ∀ choice ∈ first :: others, 32 * choice.word.length + 1044 =
      (choice.branch .backwards).size + Size.option := by
    intro choice member
    have size : (choice.branch .backwards).size = choice.form.extent .backwards := rfl
    rw [size, form, if_pos (onward choice member), extent_seq, extent_word, extent_lineForm, Size.option]
  rw [chosen, extent_ofBranches (List.cons_ne_nil _ _), Size.ofBranches_eq (by rwa [List.length_map]),
    turns, List.map_congr_left each, Option.elim, List.map_map]
  rfl

/-- Too many alternatives that go on behind different words are refused. -/
theorem not_fits_of_apart
    (large : sizeLimit < 192 + (choices.map fun choice => 32 * choice.word.length + 1044).sum) :
    (expr choices).anchored.fits = false := by
  have extent := extent_of_apart onward apart
  obtain ⟨several, chosen⟩ := choose_of_apart onward apart
  obtain ⟨first, second, others, rfl⟩ : ∃ first second others, choices = first :: second :: others := by
    rcases choices with _ | ⟨first, _ | ⟨second, others⟩⟩
    · cases several
    · exact absurd several (Nat.lt_irrefl 1)
    · exact ⟨first, second, others, rfl⟩
  have turns : choose ((first :: second :: others).map form) =
      .either first.form (.ofBranches ((second :: others).map form)) := chosen
  rw [← alternatives_expr (List.cons_ne_nil _ _)] at turns extent
  refine not_fits_anchored turns ?_
  rw [← turns, extent]
  omega

end Fits

end Choice

end Pattern

end AppBundle
