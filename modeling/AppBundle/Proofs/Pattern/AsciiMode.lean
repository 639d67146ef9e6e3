import AppBundle.Proofs.Pattern.CharRanges
import AppBundle.Proofs.Pattern.FramedClass

/-! # Classes in the ASCII mode

In the ASCII mode a class holds ASCII characters only, however its parts are combined. What lies outside a
part is refused there, and with good reason: outside a set of ASCII characters there are always others. So
every part is refused that reaches beyond ASCII, and no other one.
-/

namespace AppBundle.Pattern

variable {flags : Flags} {text rest : List Char}

/-- A set holds ASCII characters only. -/
def CharSet.IsAscii (set : CharSet) : Prop := ∀ char, set.contains char = true → char.toNat < 0x80

theorem toNat_lt_of_caseVariant {char variant : Char} (related : variant ∈ caseVariants false char)
    (small : variant.toNat < 0x80) : char.toNat < 0x80 := by
  simp only [caseVariants, Bool.false_eq_true, if_false, List.mem_cons, List.not_mem_nil, or_false]
    at related
  obtain rfl | rfl | rfl := related
  · rw [toNat_toLower] at small
    split at small <;> omega
  · rw [toNat_toUpper] at small
    split at small <;> omega
  · exact small

namespace CharSet.IsAscii

variable {left right set : CharSet}

theorem nothing : CharSet.nothing.IsAscii := nofun

theorem range (first : Char) {last : Char} (ascii : last.toNat < 0x80) :
    (CharSet.range first last).IsAscii := by
  intro char within
  simp only [contains, Bool.and_eq_true, decide_eq_true_eq] at within
  exact toNat_lt_of_le within.2 ascii

theorem single {char : Char} (ascii : char.toNat < 0x80) : (CharSet.single char).IsAscii :=
  range char ascii

theorem named (name : NamedClass) : (CharSet.named name).IsAscii :=
  fun _ within => name.toNat_lt_of_contains within

theorem escaped (name : EscapedClass) : (CharSet.escaped name false).IsAscii :=
  fun _ within => name.toNat_lt_of_contains within

theorem union (first : left.IsAscii) (second : right.IsAscii) : (CharSet.union left right).IsAscii := by
  intro char within
  rcases Bool.or_eq_true_iff.1 within with inLeft | inRight
  · exact first char inLeft
  · exact second char inRight

theorem intersection (first : left.IsAscii) : (CharSet.intersection left right).IsAscii :=
  fun char within => first char (Bool.and_eq_true_iff.1 within).1

theorem difference (first : left.IsAscii) : (CharSet.difference left right).IsAscii :=
  fun char within => first char (Bool.and_eq_true_iff.1 within).1

theorem symmetricDifference (first : left.IsAscii) (second : right.IsAscii) :
    (CharSet.symmetricDifference left right).IsAscii := by
  intro char within
  cases inLeft : left.contains char with
  | true => exact first char inLeft
  | false =>
    simp only [contains, inLeft, bne_iff_ne, ne_eq, Bool.false_eq, Bool.not_eq_false] at within
    exact second char within

theorem anyCase (ascii : set.IsAscii) : (CharSet.anyCase set false).IsAscii := by
  intro char within
  obtain ⟨variant, related, member⟩ := List.any_eq_true.1 within
  exact toNat_lt_of_caseVariant related (ascii variant member)

/-- Outside a set of ASCII characters there is one that is not ASCII. -/
theorem not_complement (ascii : set.IsAscii) : ¬ (CharSet.complement set).IsAscii := by
  intro outside
  cases inside : set.contains (Char.ofNat 0x80) with
  | true => exact absurd (ascii _ inside) (by decide)
  | false => exact absurd (outside (Char.ofNat 0x80) (by rw [contains, inside]; rfl)) (by decide)

end CharSet.IsAscii

namespace OpenClass

theorem folded_isAscii {set : CharSet} (mode : flags.unicode = false) (ascii : set.IsAscii) :
    (folded flags set).IsAscii := by
  unfold folded
  split
  · exact mode ▸ ascii.anyCase
  · exact ascii

/-- In the ASCII mode a part is taken if and only if it holds ASCII characters only. -/
theorem signed?_eq_some_iff {set found : CharSet} {negated : Bool} (mode : flags.unicode = false)
    (ascii : set.IsAscii) : signed? flags negated set = some found ↔
      (if negated then .complement set else set) = found ∧ found.IsAscii := by
  cases negated with
  | false =>
    simp only [signed?, Bool.false_eq_true, if_false, Option.some.injEq]
    exact ⟨fun same => ⟨same, same ▸ ascii⟩, And.left⟩
  | true =>
    simp only [signed?, mode, if_true, Bool.false_eq_true, if_false, reduceCtorEq, false_iff]
    rintro ⟨rfl, outside⟩
    exact ascii.not_complement outside

/-- The parts of a class that have been read hold ASCII characters only. -/
structure IsAscii (frame : OpenClass) : Prop where
  items : ∀ item ∈ frame.items, item.set.IsAscii
  left : ∀ operand ∈ frame.left, operand.1.set.IsAscii

namespace IsAscii

variable {frame : OpenClass}

theorem push {item : NestedSet} (parts : frame.IsAscii) (ascii : item.set.IsAscii) :
    (frame.push item).IsAscii where
  items := List.forall_mem_cons.2 ⟨ascii, parts.items⟩
  left := parts.left

theorem foldl_union {items : List NestedSet} (ascii : ∀ item ∈ items, item.set.IsAscii) {set : CharSet}
    (start : set.IsAscii) : (items.foldl (fun set item => .union item.set set) set).IsAscii := by
  induction items generalizing set with
  | nil => exact start
  | cons item items ih =>
    obtain ⟨first, others⟩ := List.forall_mem_cons.1 ascii
    exact ih others (first.union start)

theorem listed (parts : frame.IsAscii) : frame.listed.set.IsAscii := by
  have ascii := parts.items
  unfold OpenClass.listed
  split
  · exact .nothing
  · next item single => exact ascii item (single ▸ List.mem_singleton_self item)
  · exact foldl_union ascii .nothing

theorem joined (parts : frame.IsAscii) (mode : flags.unicode = false) :
    (frame.joined flags).set.IsAscii := by
  unfold OpenClass.joined
  dsimp only
  split
  · exact parts.listed
  · next left operator operand =>
    have first := folded_isAscii mode (parts.left _ operand)
    have second := folded_isAscii mode parts.listed
    cases operator with
    | intersection => exact first.intersection
    | difference => exact first.difference
    | symmetricDifference => exact first.symmetricDifference second

theorem operate (parts : frame.IsAscii) (mode : flags.unicode = false) (operator : SetOperator) :
    (frame.operate flags operator).IsAscii where
  items := nofun
  left := by
    rintro _ ⟨⟩
    exact parts.joined mode

theorem close (parts : frame.IsAscii) (mode : flags.unicode = false) {found : NestedSet}
    (closed : frame.close? flags = some found) : found.set.IsAscii := by
  obtain ⟨set, signed, rfl⟩ := Option.map_eq_some_iff.1 closed
  exact ((signed?_eq_some_iff mode (folded_isAscii mode (parts.joined mode))).1 signed).2

theorem leadingHyphens (parts : frame.IsAscii) (fuel : Nat) (text : List Char) :
    (leadingHyphens flags fuel frame text).1.IsAscii := by
  fun_induction OpenClass.leadingHyphens flags fuel frame text with
  | case1 fuel frame rest ih => exact ih (parts.push (.single (by decide)))
  | case2 => exact parts

theorem leadingBracket {first : OpenClass × List Char} (parts : first.1.IsAscii) :
    (OpenClass.leadingBracket flags first).1.IsAscii := by
  obtain ⟨frame, text⟩ := first
  have bracket : (CharSet.single ']').IsAscii := .single (by decide)
  unfold OpenClass.leadingBracket
  dsimp only
  split
  · exact parts.push bracket
  · exact parts

theorem start (flags : Flags) (text : List Char) : (OpenClass.start flags text).1.IsAscii := by
  have fresh : IsAscii ⟨(negation flags.skip (flags.skip text)).1, none, []⟩ := ⟨nofun, nofun⟩
  rw [start_eq]
  exact (fresh.leadingHyphens _ _).leadingBracket

end IsAscii

end OpenClass

namespace Escape

variable {found : Atom}

theorem exists_of_readCode {count : Nat} (read : readCode flags count text = some (found, rest)) :
    ∃ char, found = .literal char := by
  unfold readCode at read
  split at read
  · obtain ⟨_, _, read⟩ := Option.bind_eq_some_iff.1 read
    obtain ⟨char, _, same⟩ := Option.bind_eq_some_iff.1 read
    cases same
    exact ⟨char, rfl⟩
  · obtain ⟨_, _, read⟩ := Option.bind_eq_some_iff.1 read
    dsimp only at read
    split at read
    · cases read
    · obtain ⟨char, _, same⟩ := Option.bind_eq_some_iff.1 read
      cases same
      exact ⟨char, rfl⟩

theorem exists_of_readBoundary (read : readBoundary flags text = some (found, rest)) :
    ∃ assertion, found = .holds assertion := by
  unfold readBoundary at read
  split at read
  · dsimp only at read
    split at read
    · cases read
    · cases read
      exact ⟨_, rfl⟩
    · obtain ⟨assertion, _, same⟩ := Option.map_eq_some_iff.1 read
      cases same
      exact ⟨assertion, rfl⟩
    · cases read
  · cases read
    exact ⟨_, rfl⟩

theorem unicode_of_readProperty {negated : Bool}
    (read : readProperty flags negated text = some (found, rest)) : flags.unicode = true := by
  obtain ⟨_, _, read⟩ := Option.bind_eq_some_iff.1 read
  dsimp only at read
  split at read
  · assumption
  · cases read

/-- Properties are read outside the ASCII mode only. -/
theorem unicode_of_read {set : CharSet} {negated : Bool}
    (read : read flags text = some (.property set negated, rest)) : flags.unicode = true := by
  cases text with
  | nil => cases read
  | cons char text =>
    change (if isPlain char then _ else _) = _ at read
    split at read
    · cases read
    · split at read
      all_goals first
        | exact unicode_of_readProperty read
        | cases read
        | obtain ⟨_, same⟩ := exists_of_readCode read
          cases same
        | obtain ⟨_, same⟩ := exists_of_readBoundary read
          cases same

end Escape

namespace Bracket

variable {found : NestedSet}

theorem literal?_eq_some {char other : Char} (mode : flags.unicode = false)
    (taken : literal? flags char = some other) : other.toNat < 0x80 := by
  unfold literal? at taken
  split at taken
  · next ascii =>
    cases taken
    simpa [mode] using ascii
  · cases taken

theorem endpoint?_eq_some {bound : Atom} {char : Char} (mode : flags.unicode = false)
    (taken : endpoint? flags bound = some char) : char.toNat < 0x80 := by
  cases bound with
  | literal => exact literal?_eq_some mode taken
  | _ => cases taken

/-- In the ASCII mode an element that is read holds ASCII characters only. -/
theorem single?_isAscii (mode : flags.unicode = false) {first : Atom} {set : CharSet}
    (read : atom flags text = some (first, rest)) (single : single? flags first = some set) :
    set.IsAscii := by
  cases first with
  | literal char =>
    obtain ⟨_, taken, rfl⟩ := Option.map_eq_some_iff.1 single
    exact .single (literal?_eq_some mode taken)
  | escaped name negated =>
    have ascii : (CharSet.escaped name flags.unicode).IsAscii := mode ▸ .escaped name
    exact ((OpenClass.signed?_eq_some_iff mode ascii).1 single).2
  | property set negated =>
    unfold atom at read
    split at read
    · cases read
    · cases mode.symm.trans (Escape.unicode_of_read read)
    · cases read
  | holds assertion => cases single
  | dot => cases single

theorem element_isAscii (mode : flags.unicode = false)
    (read : element flags text = some (found, rest)) : found.set.IsAscii := by
  unfold element at read
  obtain ⟨⟨first, behind⟩, begins, read⟩ := Option.bind_eq_some_iff.1 read
  dsimp only at read
  split at read
  · cases read
  · split at read
    · obtain ⟨set, single, same⟩ := Option.bind_eq_some_iff.1 read
      cases same
      exact single?_isAscii mode begins single
    · obtain ⟨⟨second, after⟩, ends, read⟩ := Option.bind_eq_some_iff.1 read
      obtain ⟨low, _, read⟩ := Option.bind_eq_some_iff.1 read
      obtain ⟨high, upper, read⟩ := Option.bind_eq_some_iff.1 read
      split at read
      · cases read
        exact .range low (endpoint?_eq_some mode upper)
      · cases read
  · obtain ⟨set, single, same⟩ := Option.bind_eq_some_iff.1 read
    cases same
    exact single?_isAscii mode begins single

theorem body_isAscii (mode : flags.unicode = false) {fuel : Nat} {frame : OpenClass} (parts : frame.IsAscii)
    (read : body flags fuel frame text = some (found, rest)) : found.set.IsAscii := by
  induction fuel generalizing frame text found rest with
  | zero => cases read
  | succ fuel ih =>
    unfold body at read
    split at read
    · cases read
    · split at read
      · obtain ⟨set, signed, read⟩ := Option.bind_eq_some_iff.1 read
        have ascii := ((OpenClass.signed?_eq_some_iff mode
          (OpenClass.folded_isAscii mode (.named _))).1 signed).2
        exact ih (parts.push ascii) read
      · obtain ⟨⟨item, behind⟩, nested, read⟩ := Option.bind_eq_some_iff.1 read
        exact ih (parts.push (ih (.start flags _) nested)) read
    · obtain ⟨_, closed, same⟩ := Option.map_eq_some_iff.1 read
      cases same
      exact parts.close mode closed
    · exact ih (parts.operate mode _) read
    · exact ih (parts.operate mode _) read
    · exact ih (parts.operate mode _) read
    · obtain ⟨⟨item, behind⟩, first, read⟩ := Option.bind_eq_some_iff.1 read
      exact ih (parts.push (element_isAscii mode first)) read

/-- In the ASCII mode a class stands for ASCII characters only. -/
theorem read_isAscii (mode : flags.unicode = false) (read : read flags text = some (found, rest)) :
    found.set.IsAscii :=
  body_isAscii mode (.start flags text) read

-- A part that reaches beyond ASCII is refused even if the class as a whole does not.
example : Bracket.read { Flags.initial with unicode := false } ['^', '\\', 'W', ']'] = none := by decide

end Bracket

end AppBundle.Pattern
