import AppBundle.Proofs.Environment.Layers
import AppBundle.Proofs.Pattern.SpelledSize

/-! # Patterns that remove the names they spell

A pattern that lists words, with or without the sign that a name may go on, removes the names that it spells
and no others. It is accepted unless its automata are too large, which those of a text of ordinary length never
are.
-/

namespace AppBundle

open Pattern

namespace NamePattern

variable {choices : List Choice} {pattern : NamePattern}

/-- The text of a pattern that spells names. -/
def spelling (choices : List Choice) : String := .ofList (Choice.joined choices)

theorem parse?_spelling (some : choices ≠ []) : parse? (anchored (spelling choices)) =
    if (Choice.expr choices).anchored.fits then .some (Choice.expr choices).anchored else none := by
  rw [anchored, spelling, String.toList_ofList]
  exact Choice.parse?_joined some

/-- A pattern that spells names is accepted unless its automata are too large. -/
theorem parse_spelling (some : choices ≠ []) :
    (Choice.expr choices).anchored.fits = true ∧ (∃ pattern, parse (spelling choices) = .ok pattern) ∨
      (Choice.expr choices).anchored.fits = false ∧
        parse (spelling choices) = .error (.invalidPattern (spelling choices)) := by
  unfold parse
  split
  · next expr compiled =>
    rw [parse?_spelling some, Option.ite_none_right_eq_some] at compiled
    exact .inl ⟨compiled.1, ⟨spelling choices, expr, _⟩, rfl⟩
  · next compiled =>
    rw [parse?_spelling some, ite_eq_right_iff] at compiled
    have refused : (Choice.expr choices).anchored.fits = false :=
      Bool.eq_false_iff.2 fun fits => nomatch compiled fits
    exact .inr ⟨refused, rfl⟩

/-- A text of up to 38978 characters is accepted. -/
theorem exists_parse_spelling (some : choices ≠ []) (short : (spelling choices).length ≤ 38978) :
    ∃ pattern, parse (spelling choices) = .ok pattern := by
  rw [spelling, String.length_ofList] at short
  have fits := Choice.fits_of_length_le some short
  rcases parse_spelling some with ⟨-, accepted⟩ | ⟨refused, -⟩
  · exact accepted
  · rw [fits] at refused
    cases refused

section Crowd

/-- All names that begin with the given letter. -/
def initial (letter : Char) (ordinary : letter.isAlphanum = true) : Choice where
  word := [letter]
  goesOn := true
  word_ne_nil := List.cons_ne_nil _ _
  ordinary := by
    intro char member
    rw [List.mem_singleton.1 member]
    exact .inl ordinary

/-- Many alternatives that go on, the first one behind another letter than the others. -/
def crowd (count : Nat) : List Choice := initial 'b' rfl :: List.replicate count (initial 'a' rfl)

theorem sum_map_crowd (cost : Choice → Nat) (count : Nat) :
    ((crowd count).map cost).sum = cost (initial 'b' rfl) + count * cost (initial 'a' rfl) := by
  rw [crowd, List.map_cons, List.map_replicate, List.sum_cons, List.sum_replicate_nat]

theorem length_spelling_crowd (count : Nat) : (spelling (crowd count)).length = 4 * count + 3 := by
  have filled : crowd count ≠ [] := List.cons_ne_nil _ _
  have length := (Choice.sum_allowance filled).symm.trans (sum_map_crowd Choice.allowance count)
  have each (letter : Char) (ordinary : letter.isAlphanum = true) : (initial letter ordinary).allowance = 1076 := rfl
  rw [each, each] at length
  rw [spelling, String.length_ofList]
  omega

/-- The automata of a crowd are too large if its text is longer than the bound. -/
theorem not_fits_crowd {count : Nat} (many : 38978 < 4 * count + 3) :
    (Choice.expr (crowd count)).anchored.fits = false := by
  have some : count ≠ 0 := by omega
  have onward : ∀ choice ∈ crowd count, choice.goesOn = true := by
    intro choice member
    rcases List.mem_cons.1 member with rfl | member
    · rfl
    · rw [List.eq_of_mem_replicate member]
      rfl
  have apart : ∃ first ∈ crowd count, ∃ second ∈ crowd count, first.word ≠ second.word :=
    ⟨_, List.mem_cons_self .., _, List.mem_cons_of_mem _ (List.mem_replicate.2 ⟨some, rfl⟩), by decide⟩
  have each (letter : Char) (ordinary : letter.isAlphanum = true) :
      32 * (initial letter ordinary).word.length + 1044 = 1076 := rfl
  refine Choice.not_fits_of_apart onward apart ?_
  rw [sum_map_crowd, each, each, sizeLimit]
  omega

/-- The bound on the length of a text is the best one: of these texts all longer ones are refused. -/
theorem parse_crowd_iff (count : Nat) :
    (∃ pattern, parse (spelling (crowd count)) = .ok pattern) ↔ (spelling (crowd count)).length ≤ 38978 := by
  have filled : crowd count ≠ [] := List.cons_ne_nil _ _
  constructor
  · rintro ⟨pattern, accepted⟩
    rw [length_spelling_crowd]
    by_contra long
    have refused := not_fits_crowd (Nat.lt_of_not_le long)
    rcases parse_spelling filled with ⟨fits, -⟩ | ⟨-, error⟩
    · rw [refused] at fits
      cases fits
    · rw [error] at accepted
      cases accepted
  · exact exists_parse_spelling filled

/-- A crowd of 12001 alternatives is refused. -/
theorem crowd_refused : crowd 12000 ≠ [] ∧ ¬ ∃ pattern, parse (spelling (crowd 12000)) = .ok pattern := by
  refine ⟨List.cons_ne_nil _ _, fun accepted => ?_⟩
  have short := (parse_crowd_iff 12000).1 accepted
  rw [length_spelling_crowd] at short
  exact absurd short (by decide)

end Crowd

/-- In a line, a pattern that spells names matches what one of its alternatives spells. -/
theorem isMatch_spelling_iff (some : choices ≠ []) (parsed : parse (spelling choices) = .ok pattern)
    {name : String} (lineless : '\n' ∉ name.toList) :
    pattern.isMatch name = true ↔ ∃ choice ∈ choices, choice.Spells name.toList := by
  have compiled := pattern.compiled
  rw [text_of_parse parsed] at compiled
  have expr := (parse?_spelling some).symm.trans compiled
  rw [Option.ite_none_right_eq_some] at expr
  rw [isMatch, ← Option.some.inj expr.2, Choice.isMatch_anchored_expr_iff some lineless]

end NamePattern

namespace Env

/-- The change that only removes the names that a pattern matches. -/
def removing (pattern : NamePattern) : Env := { (∅ : Env) with removedPatterns := .ofList [pattern] }

theorem get?_removing (pattern : NamePattern) (base : List (String × String)) (name : String) :
    ((removing pattern).apply base).get? name =
      if pattern.isMatch name = true then none else base.reverse.lookup name := by
  have removes : (removing pattern).Removes name ↔ pattern.isMatch name = true := by
    constructor
    · rintro (listed | ⟨other, member, found⟩)
      · exact absurd listed (SortedSet.not_mem_empty name)
      · rw [← List.mem_singleton.1 (SortedSet.mem_ofList_iff.1 member)]
        exact found
    · intro found
      exact .inr ⟨pattern, SortedSet.mem_ofList_iff.2 (List.mem_singleton_self pattern), found⟩
  have replaced : (removing pattern).replacements.get? name = none := rfl
  have default : (removing pattern).defaults.get? name = none := rfl
  rw [get?_apply, replaced, default, Option.none_or, Option.or_none]
  simp only [removes]

/-- A pattern that lists words, each by itself or with the sign that names may go on behind it, is accepted
unless its automata are too large, which they never are for a text of up to 38978 characters. A name in one
line is matched by it if it is one of the words or begins with one that has the sign. So a change that consists
of this pattern keeps the values of all other names, and of no others. -/
theorem removing_spelling (choices : List Choice) (some : choices ≠ []) :
    ((NamePattern.spelling choices).length ≤ 38978 →
      ∃ pattern, NamePattern.parse (NamePattern.spelling choices) = .ok pattern) ∧
    ((∃ pattern, NamePattern.parse (NamePattern.spelling choices) = .ok pattern) ∨
      (Choice.expr choices).anchored.fits = false ∧ NamePattern.parse (NamePattern.spelling choices) =
        .error (.invalidPattern (NamePattern.spelling choices))) ∧
    ∀ pattern, NamePattern.parse (NamePattern.spelling choices) = .ok pattern →
      (∀ name, '\n' ∉ name.toList →
        (pattern.isMatch name = true ↔ ∃ choice ∈ choices, choice.Spells name.toList)) ∧
      ∀ base, (∀ entry ∈ base, '\n' ∉ entry.1.toList) → ∀ name,
        ((removing pattern).apply base).get? name =
          if ∃ choice ∈ choices, choice.Spells name.toList then none else base.reverse.lookup name := by
  refine ⟨NamePattern.exists_parse_spelling some, (NamePattern.parse_spelling some).imp And.right id,
    fun pattern parsed => ⟨fun name => ?_, fun base lines name => ?_⟩⟩
  · exact NamePattern.isMatch_spelling_iff some parsed
  · rw [get?_removing]
    by_cases lineless : '\n' ∈ name.toList
    -- A name of several lines is not in the base.
    · have absent : base.reverse.lookup name = none := by
        rw [List.lookup_eq_none_iff]
        intro entry member
        have other : name ≠ entry.1 := fun same =>
          lines entry (List.mem_reverse.1 member) (same ▸ lineless)
        exact bne_iff_ne.2 other
      rw [absent, ite_self, ite_self]
    · exact if_congr (NamePattern.isMatch_spelling_iff some parsed lineless) rfl rfl

/-- A name, and all names that begin with a word. -/
def localeNames : List Choice :=
  [⟨['H', 'O', 'M', 'E'], false, List.cons_ne_nil _ _, by simp⟩,
    ⟨['L', 'C', '_'], true, List.cons_ne_nil _ _, by simp⟩]

/-- The names that are spelled are removed, and the other one is kept. -/
theorem removing_localeNames : localeNames ≠ [] ∧ NamePattern.spelling localeNames = "HOME|LC_.*" ∧
    ∃ pattern, NamePattern.parse (NamePattern.spelling localeNames) = .ok pattern ∧
      pattern.isMatch "LC_ALL" = true ∧ ∀ name ∈ ["HOME", "LC_ALL", "PATH"],
        ((removing pattern).apply [("HOME", "/root"), ("LC_ALL", "C"), ("PATH", "/bin")]).get? name =
          if name = "PATH" then some "/bin" else none := by
  have filled : localeNames ≠ [] := List.cons_ne_nil _ _
  have whole := removing_spelling localeNames filled
  obtain ⟨pattern, parsed⟩ := whole.1 (by decide)
  obtain ⟨matched, kept⟩ := whole.2.2 pattern parsed
  have derived := kept [("HOME", "/root"), ("LC_ALL", "C"), ("PATH", "/bin")] (by simp)
  refine ⟨filled, by rfl, pattern, parsed, (matched "LC_ALL" (by decide)).2 (by decide), ?_⟩
  rw [List.forall_mem_cons, List.forall_mem_cons, List.forall_mem_singleton]
  exact ⟨(derived "HOME").trans (by decide), (derived "LC_ALL").trans (by decide),
    (derived "PATH").trans (by decide)⟩

end Env

end AppBundle
