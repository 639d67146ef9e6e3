import AppBundle.Pattern.CharRanges
import AppBundle.Proofs.Unicode.CaseFold
import AppBundle.Proofs.Unicode.Ranges

/-! # Sets of characters as ranges

The ranges by which the size of a set is judged are those of the characters that the set matches.
-/

namespace AppBundle.Pattern

open Unicode

theorem toNat_lt_of_le {char last : Char} (bound : char ≤ last) (ascii : last.toNat < 0x80) :
    char.toNat < 0x80 :=
  Nat.lt_of_le_of_lt (UInt32.le_iff_toNat_le.1 bound) ascii

theorem toNat_lt_of_isAlpha {char : Char} (letter : char.isAlpha = true) : char.toNat < 0x80 := by
  rcases Bool.or_eq_true_iff.1 letter with upper | lower
  · have bound : char ≤ 'Z' := (of_decide_eq_true upper).2
    exact toNat_lt_of_le bound (by decide)
  · have bound : char ≤ 'z' := of_decide_eq_true (Bool.and_eq_true_iff.1 lower).2
    exact toNat_lt_of_le bound (by decide)

theorem toNat_lt_of_isDigit {char : Char} (digit : char.isDigit = true) : char.toNat < 0x80 := by
  have bound : char ≤ '9' := of_decide_eq_true (Bool.and_eq_true_iff.1 digit).2
  exact toNat_lt_of_le bound (by decide)

theorem toNat_lt_of_isAlphanum {char : Char} (within : char.isAlphanum = true) : char.toNat < 0x80 :=
  (Bool.or_eq_true_iff.1 within).elim toNat_lt_of_isAlpha toNat_lt_of_isDigit

theorem NamedClass.toNat_lt_of_contains (name : NamedClass) {char : Char}
    (within : name.contains char = true) : char.toNat < 0x80 := by
  cases name with
  | alnum => exact toNat_lt_of_isAlphanum within
  | alpha => exact toNat_lt_of_isAlpha within
  | lower => exact toNat_lt_of_isAlpha (Bool.or_eq_true_iff.2 (.inr within))
  | upper => exact toNat_lt_of_isAlpha (Bool.or_eq_true_iff.2 (.inl within))
  | digit => exact toNat_lt_of_isDigit within
  | word =>
    obtain alphanumeric | underscore := Bool.or_eq_true_iff.1 within
    · exact toNat_lt_of_isAlphanum alphanumeric
    · exact of_decide_eq_true underscore ▸ by decide
  | _ =>
    simp [contains, Char.isDigit, Char.le_def, UInt32.le_iff_toNat_le, ← Char.toNat_inj] at within
    omega

/-- Outside all scripts a class with a one-letter escape holds ASCII characters only. -/
theorem EscapedClass.toNat_lt_of_contains (name : EscapedClass) {char : Char}
    (within : name.contains false char = true) : char.toNat < 0x80 := by
  cases name with
  | digit => exact NamedClass.toNat_lt_of_contains .digit within
  | blank => exact NamedClass.toNat_lt_of_contains .space within
  | word => exact NamedClass.toNat_lt_of_contains .word within

theorem contains_asciiRanges {holds : Char → Bool} (ascii : ∀ char, holds char = true → char.toNat < 0x80)
    (char : Char) : Ranges.contains (asciiRanges holds) char.toNat = holds char := by
  rw [Bool.eq_iff_iff, asciiRanges, Ranges.contains_ofCodes, List.mem_filter, List.mem_range,
    Char.ofNat_toNat]
  exact and_iff_right_of_imp (ascii char)

theorem normal_decimalDigitRanges : Ranges.Normal decimalDigitRanges.toList :=
  Ranges.normal_of_isChain (by decide +kernel) (by decide +kernel)

theorem normal_blankRanges : Ranges.Normal blankRanges.toList :=
  Ranges.normal_of_isChain (by decide +kernel) (by decide +kernel)

theorem normal_wordRanges : Ranges.Normal wordRanges.toList :=
  Ranges.normal_of_isChain (by decide +kernel) (by decide +kernel)

theorem EscapedClass.normal_ranges (unicode : Bool) (name : EscapedClass) :
    Ranges.Normal (name.ranges unicode) := by
  cases unicode with
  | false => exact Ranges.normal_ofCodes _
  | true =>
    cases name with
    | digit => exact normal_decimalDigitRanges
    | blank => exact normal_blankRanges
    | word => exact normal_wordRanges

theorem EscapedClass.contains_ranges (unicode : Bool) (name : EscapedClass) (char : Char) :
    Ranges.contains (name.ranges unicode) char.toNat = name.contains unicode char := by
  cases unicode with
  | false => exact contains_asciiRanges (fun _ => name.toNat_lt_of_contains) char
  | true =>
    cases name
    all_goals
      simp only [ranges, contains, if_true]
      exact Ranges.contains_toList _ char

theorem toNat_toLower (char : Char) : char.toLower.toNat =
    if 65 ≤ char.toNat ∧ char.toNat ≤ 90 then char.toNat + 32 else char.toNat := by
  have bounds : (char.val ≥ 'A'.val ∧ char.val ≤ 'Z'.val) ↔ (65 ≤ char.toNat ∧ char.toNat ≤ 90) :=
    and_congr UInt32.le_iff_toNat_le UInt32.le_iff_toNat_le
  unfold Char.toLower
  split
  · next upper =>
    have within := bounds.1 upper
    rw [if_pos within]
    refine (UInt32.toNat_add _ _).trans ?_
    change (char.toNat + 32) % 4294967296 = char.toNat + 32
    omega
  · next other => rw [if_neg (mt bounds.2 other)]

theorem toNat_toUpper (char : Char) : char.toUpper.toNat =
    if 97 ≤ char.toNat ∧ char.toNat ≤ 122 then char.toNat - 32 else char.toNat := by
  have bounds : (char.val ≥ 'a'.val ∧ char.val ≤ 'z'.val) ↔ (97 ≤ char.toNat ∧ char.toNat ≤ 122) :=
    and_congr UInt32.le_iff_toNat_le UInt32.le_iff_toNat_le
  unfold Char.toUpper
  split
  · next lower =>
    have within := bounds.1 lower
    rw [if_pos within]
    refine (UInt32.toNat_add _ _).trans ?_
    change (char.toNat + 4294967264) % 4294967296 = char.toNat - 32
    omega
  · next other => rw [if_neg (mt bounds.2 other)]

section CaseVariants

/-- The code point that stands for all case variants of a character. -/
def representative (unicode : Bool) (char : Char) : Nat :=
  if unicode then foldCode char else char.toLower.toNat

variable {unicode : Bool} {char variant : Char} {code folded : Nat}

theorem mem_foldings_true : (code, folded) ∈ foldings true ↔ Folds code folded := List.mem_flatMap

theorem mem_foldings_false :
    (code, folded) ∈ foldings false ↔ (65 ≤ code ∧ code ≤ 90) ∧ folded = code + 32 := by
  have listed : (code, folded) ∈ foldings false ↔
      (65 ≤ code ∧ code ≤ 90) ∧ (code - 65) % 1 = 0 ∧ folded = 97 + (code - 65) :=
    FoldRun.mem_pairs_iff ⟨by decide, by decide⟩
  rw [listed]
  omega

/-- Two characters are case variants of each other if and only if they have the same representative. -/
theorem mem_caseVariants_iff : variant ∈ caseVariants unicode char ↔
    representative unicode variant = representative unicode char := by
  cases unicode with
  | true => exact Unicode.mem_caseVariants_iff
  | false =>
    simp only [caseVariants, representative, Bool.false_eq_true, if_false, List.mem_cons, List.not_mem_nil,
      or_false, ← Char.toNat_inj, toNat_toLower, toNat_toUpper]
    split_ifs <;> omega

theorem representative_eq_or_mem (unicode : Bool) (char : Char) :
    representative unicode char = char.toNat ∨
      (char.toNat, representative unicode char) ∈ foldings unicode := by
  cases unicode with
  | true => exact (foldCode_eq_or_folds char).imp id mem_foldings_true.2
  | false =>
    simp only [representative, Bool.false_eq_true, if_false, mem_foldings_false, toNat_toLower]
    split <;> omega

theorem representative_eq_of_mem (listed : (char.toNat, folded) ∈ foldings unicode) :
    representative unicode char = folded := by
  cases unicode with
  | true => exact (mem_foldings_true.1 listed).foldCode_eq
  | false =>
    obtain ⟨within, rfl⟩ := mem_foldings_false.1 listed
    exact (toNat_toLower char).trans (if_pos within)

theorem not_mem_foldings_of_mem {next : Nat} (listed : (code, folded) ∈ foldings unicode) :
    (folded, next) ∉ foldings unicode := by
  cases unicode with
  | true => exact fun again => (mem_foldings_true.1 listed).not_again (mem_foldings_true.1 again)
  | false =>
    simp only [mem_foldings_false] at listed ⊢
    omega

/-- A representative stands for itself. -/
theorem representative_of_mem (listed : (code, char.toNat) ∈ foldings unicode) :
    representative unicode char = char.toNat :=
  (representative_eq_or_mem unicode char).resolve_right (not_mem_foldings_of_mem listed)

/-- Code points with a representative, and representatives, are those of characters. -/
theorem exists_char_of_mem (listed : (code, folded) ∈ foldings unicode) :
    (∃ char : Char, char.toNat = code) ∧ ∃ char : Char, char.toNat = folded := by
  have valid : code.isValidChar ∧ folded.isValidChar := by
    cases unicode with
    | true => exact (mem_foldings_true.1 listed).isValidChar
    | false =>
      obtain ⟨within, rfl⟩ := mem_foldings_false.1 listed
      unfold Nat.isValidChar
      omega
  exact ⟨⟨_, toNat_ofNat valid.1⟩, ⟨_, toNat_ofNat valid.2⟩⟩

variable {ranges : List (Nat × Nat)}

/-- Ranges with more code points added to them. -/
theorem contains_union_ofCodes (normal : Ranges.Normal ranges) {codes : List Nat} :
    Ranges.contains (Ranges.union (Ranges.ofCodes codes) ranges) code = true ↔
      code ∈ codes ∨ Ranges.contains ranges code = true := by
  rw [Ranges.contains_union normal (Ranges.normal_ofCodes codes).1, Bool.or_eq_true, Ranges.contains_ofCodes]

/-- The members of a set and their representatives. -/
def withRepresentatives (unicode : Bool) (ranges : List (Nat × Nat)) : List (Nat × Nat) :=
  Ranges.union
    (Ranges.ofCodes (((foldings unicode).filter fun pair => Ranges.contains ranges pair.1).map (·.2))) ranges

theorem normal_withRepresentatives (normal : Ranges.Normal ranges) :
    Ranges.Normal (withRepresentatives unicode ranges) :=
  normal.union (Ranges.normal_ofCodes _).1

theorem contains_withRepresentatives (normal : Ranges.Normal ranges) :
    Ranges.contains (withRepresentatives unicode ranges) code = true ↔
      (∃ source, Ranges.contains ranges source = true ∧ (source, code) ∈ foldings unicode) ∨
        Ranges.contains ranges code = true := by
  refine (contains_union_ofCodes normal).trans (or_congr_left ?_)
  simp [and_comm]

theorem anyCaseRanges_eq (unicode : Bool) (ranges : List (Nat × Nat)) : anyCaseRanges unicode ranges =
    Ranges.union
      (Ranges.ofCodes (((foldings unicode).filter fun pair =>
        Ranges.contains (withRepresentatives unicode ranges) pair.2).map (·.1)))
      (withRepresentatives unicode ranges) := rfl

theorem normal_anyCaseRanges (normal : Ranges.Normal ranges) :
    Ranges.Normal (anyCaseRanges unicode ranges) :=
  (normal_withRepresentatives normal).union (Ranges.normal_ofCodes _).1

/-- The case variants of the members of a set are the characters with the same representatives. -/
theorem contains_anyCaseRanges (normal : Ranges.Normal ranges) :
    Ranges.contains (anyCaseRanges unicode ranges) char.toNat = true ↔
      ∃ variant, representative unicode variant = representative unicode char ∧
        Ranges.contains ranges variant.toNat = true := by
  have all : Ranges.contains (anyCaseRanges unicode ranges) char.toNat = true ↔
      (∃ target, Ranges.contains (withRepresentatives unicode ranges) target = true ∧
          (char.toNat, target) ∈ foldings unicode) ∨
        Ranges.contains (withRepresentatives unicode ranges) char.toNat = true := by
    rw [anyCaseRanges_eq]
    refine (contains_union_ofCodes (normal_withRepresentatives normal)).trans (or_congr_left ?_)
    simp [and_comm]
  rw [all]
  constructor
  · rintro (⟨target, reached, listed⟩ | reached)
    · have own := representative_eq_of_mem listed
      obtain ⟨source, member, sent⟩ | member := (contains_withRepresentatives normal).1 reached
      · obtain ⟨⟨variant, rfl⟩, -⟩ := exists_char_of_mem sent
        exact ⟨variant, (representative_eq_of_mem sent).trans own.symm, member⟩
      · obtain ⟨-, variant, rfl⟩ := exists_char_of_mem listed
        exact ⟨variant, (representative_of_mem listed).trans own.symm, member⟩
    · obtain ⟨source, member, sent⟩ | member := (contains_withRepresentatives normal).1 reached
      · obtain ⟨⟨variant, rfl⟩, -⟩ := exists_char_of_mem sent
        exact ⟨variant, (representative_eq_of_mem sent).trans (representative_of_mem sent).symm, member⟩
      · exact ⟨char, rfl, member⟩
  · rintro ⟨variant, same, member⟩
    have reached :
        Ranges.contains (withRepresentatives unicode ranges) (representative unicode char) = true := by
      rw [contains_withRepresentatives normal, ← same]
      obtain own | listed := representative_eq_or_mem unicode variant
      · exact .inr (own ▸ member)
      · exact .inl ⟨_, member, listed⟩
    obtain own | listed := representative_eq_or_mem unicode char
    · exact .inr (own ▸ reached)
    · exact .inl ⟨_, reached, listed⟩

end CaseVariants

namespace CharSet

/-- The ranges of a set neither overlap nor touch. -/
theorem normal_ranges (set : CharSet) : Ranges.Normal set.ranges := by
  induction set with
  | nothing => exact Ranges.normal_nil
  | range first last =>
    rw [ranges]
    split
    · next filled =>
      exact Ranges.normal_cons_iff.2 ⟨⟨UInt32.le_iff_toNat_le.1 filled, nofun⟩, Ranges.normal_nil⟩
    · exact Ranges.normal_nil
  | codes ranges =>
    exact Ranges.normal_nil.union fun range member => of_decide_eq_true (List.mem_filter.1 member).2
  | escaped name unicode => exact name.normal_ranges unicode
  | named name => exact Ranges.normal_ofCodes _
  | complement set ih => exact ih.complement
  | union left right first second => exact second.union first.1
  | intersection left right first second => exact first.intersection second
  | difference left right first second => exact first.difference second
  | symmetricDifference left right first second =>
    exact (second.difference first).union (first.difference second).1
  | anyCase set unicode ih => exact normal_anyCaseRanges ih

/-- The ranges of a set hold its members and no other characters. -/
theorem contains_ranges (set : CharSet) (char : Char) :
    Ranges.contains set.ranges char.toNat = set.contains char := by
  induction set generalizing char with
  | nothing => rfl
  | range first last =>
    have before : first ≤ char ↔ first.toNat ≤ char.toNat := UInt32.le_iff_toNat_le
    have behind : char ≤ last ↔ char.toNat ≤ last.toNat := UInt32.le_iff_toNat_le
    rw [ranges, contains, decide_eq_decide.2 before, decide_eq_decide.2 behind]
    split
    · exact Bool.or_false _
    · next empty =>
      have apart : ¬ first.toNat ≤ last.toNat := mt UInt32.le_iff_toNat_le.2 empty
      exact (Bool.eq_false_iff.2 fun within => by simp at within; omega).symm
  | codes ranges =>
    have filled : ∀ range ∈ ranges.filter fun range => range.1 ≤ range.2, range.1 ≤ range.2 :=
      fun range member => of_decide_eq_true (List.mem_filter.1 member).2
    rw [CharSet.ranges, Ranges.contains_union Ranges.normal_nil filled, Ranges.contains, List.any_filter]
    refine (Bool.or_false _).trans (congrArg ranges.any (funext fun range => ?_))
    rw [Bool.eq_iff_iff]
    simp only [Bool.and_eq_true, decide_eq_true_eq]
    omega
  | escaped name unicode => exact name.contains_ranges unicode char
  | named name => exact contains_asciiRanges (fun _ => name.toNat_lt_of_contains) char
  | complement set ih => rw [ranges, Ranges.contains_complement set.normal_ranges, ih, contains]
  | union left right first second =>
    rw [ranges, Ranges.contains_union right.normal_ranges left.normal_ranges.1, first, second, contains]
  | intersection left right first second =>
    rw [ranges, Ranges.contains_intersection left.normal_ranges right.normal_ranges, first, second, contains]
  | difference left right first second =>
    rw [ranges, Ranges.contains_difference left.normal_ranges right.normal_ranges, first, second, contains]
  | symmetricDifference left right first second =>
    have onLeft := left.normal_ranges.difference right.normal_ranges
    have onRight := right.normal_ranges.difference left.normal_ranges
    rw [ranges, Ranges.contains_union onRight onLeft.1,
      Ranges.contains_difference left.normal_ranges right.normal_ranges,
      Ranges.contains_difference right.normal_ranges left.normal_ranges, first, second, contains]
    cases left.contains char <;> cases right.contains char <;> rfl
  | anyCase set unicode ih =>
    rw [Bool.eq_iff_iff, ranges, contains_anyCaseRanges set.normal_ranges, contains, List.any_eq_true]
    simp only [mem_caseVariants_iff, ih]

end CharSet

end AppBundle.Pattern
