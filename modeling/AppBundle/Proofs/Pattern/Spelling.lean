import AppBundle.Proofs.Pattern.Anchors

/-! # Patterns that spell names

The simplest patterns list the names that are meant, with a vertical bar between them: each alternative is a
word, and the sign for any characters may follow it. Such a text is read to what it spells, one part for each
character, and between the anchors it matches a name if the name is one of the words, or begins with one that
has the sign. Whether the pattern is accepted then depends on the size of its automata alone.
-/

namespace AppBundle.Pattern

/-- An alternative of a pattern that spells names: a word of ASCII letters, digits and underscores that stands
for itself, or for all names that begin with it if they may go on. -/
structure Choice where
  word : List Char
  goesOn : Bool
  word_ne_nil : word ≠ []
  ordinary : ∀ char ∈ word, char.isAlphanum = true ∨ char = '_'

namespace Choice

/-- How an alternative is written. -/
def text (choice : Choice) : List Char := choice.word ++ if choice.goesOn then ['.', '*'] else []

/-- The text of alternatives with vertical bars between them. -/
def joined (choices : List Choice) : List Char := ['|'].intercalate (choices.map text)

/-- A name is the word of an alternative, or begins with it. -/
def Spells (choice : Choice) (name : List Char) : Prop :=
  if choice.goesOn then choice.word <+: name else name = choice.word

instance (choice : Choice) (name : List Char) : Decidable (choice.Spells name) :=
  inferInstanceAs (Decidable (if choice.goesOn then choice.word <+: name else name = choice.word))

/-- A character that stands for itself. -/
def letter (char : Char) : Part := .plain (.oneOf (.single char))

/-- Any number of characters in a line. -/
def anything : Part := (Part.plain (Reader.anyChar .initial)).repeated 0 none

/-- The parts of an alternative. -/
def parts (choice : Choice) : List Part :=
  choice.word.map letter ++ if choice.goesOn then [anything] else []

/-- An alternative as a part of a pattern. -/
def part (choice : Choice) : Part := .sequence choice.parts

/-- The pattern expression of alternatives. -/
def expr (choices : List Choice) : Expr := (Part.choice (choices.map part)).expr

theorem joined_cons_cons (first second : Choice) (others : List Choice) :
    joined (first :: second :: others) = first.text ++ '|' :: joined (second :: others) := by
  simp [joined, List.intercalate_cons_cons]

end Choice

namespace Part

variable {parts : List Part} {bound : Nat}

theorem depth_sequence_le (shallow : ∀ part ∈ parts, part.depth ≤ bound) :
    (sequence parts).depth ≤ bound + 1 := by
  have deepest (parts : List Part) (shallow : ∀ part ∈ parts, part.depth ≤ bound) :
      parts.foldr (fun part depth => max part.depth depth) 0 ≤ bound := by
    induction parts with
    | nil => exact Nat.zero_le _
    | cons part parts ih =>
      rw [List.forall_mem_cons] at shallow
      exact Nat.max_le.2 ⟨shallow.1, ih shallow.2⟩
  rcases parts with _ | ⟨first, _ | ⟨second, others⟩⟩
  · exact Nat.zero_le _
  · exact Nat.le_succ_of_le (shallow first (List.mem_singleton_self first))
  · exact Nat.succ_le_succ (deepest _ shallow)

theorem depth_choice_le (shallow : ∀ part ∈ parts, part.depth ≤ bound) :
    (choice parts).depth ≤ bound + 1 := by
  have deepest (others : List Part) (start : Nat) (low : start ≤ bound)
      (shallow : ∀ part ∈ others, part.depth ≤ bound) :
      others.foldl (fun depth part => max depth part.depth) start ≤ bound := by
    induction others generalizing start with
    | nil => exact low
    | cons part others ih =>
      rw [List.forall_mem_cons] at shallow
      exact ih _ (Nat.max_le.2 ⟨low, shallow.1⟩) shallow.2
  rcases parts with _ | ⟨first, _ | ⟨second, others⟩⟩
  · exact Nat.zero_le _
  · exact Nat.le_succ_of_le (shallow first (List.mem_singleton_self first))
  · rw [List.forall_mem_cons] at shallow
    exact Nat.succ_le_succ (deepest (second :: others) first.depth shallow.1 shallow.2)

/-- A part in the frame of a pattern. -/
def framed (part : Part) : Part :=
  .sequence [.plain (.holds .textStart), part.grouped .plain, .plain (.holds .textEnd)]

theorem depth_framed_le {part : Part} (shallow : part.depth ≤ bound) : part.framed.depth ≤ bound + 2 := by
  refine depth_sequence_le ?_
  rw [List.forall_mem_cons, List.forall_mem_cons, List.forall_mem_singleton]
  exact ⟨Nat.zero_le _, Nat.succ_le_succ shallow, Nat.zero_le _⟩

variable {text : List Char} {start stop : Nat}

/-- A sequence matches what its parts match in a row. -/
theorem spans_sequence : (sequence parts).expr.Spans text start stop ↔
    (parts.foldr (fun part rest => .seq part.expr rest) Expr.empty).Spans text start stop := by
  rcases parts with _ | ⟨first, _ | ⟨second, others⟩⟩
  · exact Iff.rfl
  · simp [sequence, Expr.Spans]
  · exact Iff.rfl

/-- A choice matches what one of its parts matches. -/
theorem spans_choice (some : parts ≠ []) : (choice parts).expr.Spans text start stop ↔
    ∃ part ∈ parts, part.expr.Spans text start stop := by
  have either (parts : List Part) :
      (parts.foldr (fun part rest => .either part.expr rest) Expr.never).Spans text start stop ↔
        ∃ part ∈ parts, part.expr.Spans text start stop := by
    induction parts with
    | nil => simp [Expr.Spans]
    | cons part parts ih => simp [Expr.Spans, ih]
  rcases parts with _ | ⟨first, _ | ⟨second, others⟩⟩
  · exact absurd rfl some
  · simp [choice]
  · exact either (first :: second :: others)

end Part

namespace Reader

variable {fuel : Nat} {names : List (List Char)} {group : Open} {branches parts : List Part}
  {rest : List Char}

/-- The characters that are not read for themselves. -/
def signs : List Char := [')', '|', '(', '[', '?', '*', '+', '{', '\\', '.', '^', '$']

theorem not_mem_signs {char : Char} (ordinary : char.isAlphanum = true ∨ char = '_') : char ∉ signs := by
  have apart : ∀ sign ∈ signs, (sign.isAlphanum || sign = '_') = false := by simp [signs, Char.isAlphanum]
  intro member
  have := apart char member
  simp_all

/-- A character that is no sign is read for itself. -/
theorem body_letter {char : Char} (ordinary : char ∉ signs) :
    body (fuel + 1) .initial names group (char :: rest) =
      body fuel .initial names (group.push (Choice.letter char)) rest := by
  simp only [signs, List.mem_cons, List.not_mem_nil, or_false, not_or] at ordinary
  have single : atom .initial (char :: rest) = some (.literal char, rest) := by simp_all [atom]
  have unskipped : Flags.initial.skip (char :: rest) = char :: rest := rfl
  rw [body.eq_def]
  simp only [unskipped]
  -- Only the last case of the reader is left for a character that is no sign.
  split <;> simp_all
  rfl

theorem body_word {word : List Char} (ordinary : ∀ char ∈ word, char ∉ signs) :
    body (fuel + word.length) .initial names ⟨branches, parts⟩ (word ++ rest) =
      body fuel .initial names ⟨branches, (word.map Choice.letter).reverse ++ parts⟩ rest := by
  induction word generalizing parts with
  | nil => rfl
  | cons char word ih =>
    rw [List.forall_mem_cons] at ordinary
    rw [List.length_cons, ← Nat.add_assoc, List.cons_append, body_letter ordinary.1]
    refine (ih ordinary.2).trans ?_
    simp

theorem body_dot : body (fuel + 1) .initial names group ('.' :: rest) =
    body fuel .initial names (group.push (.plain (anyChar .initial))) rest := rfl

theorem body_dollar : body (fuel + 1) .initial names group ('$' :: rest) =
    body fuel .initial names (group.push (.plain (.holds .textEnd))) rest := rfl

theorem body_bar : body (fuel + 1) .initial names group ('|' :: rest) =
    body fuel .initial names group.branch rest := rfl

theorem body_nil : body (fuel + 1) .initial names group [] = some ⟨group.close, names, []⟩ := rfl

theorem body_star {part : Part} (repeatable : part.repeatable = true) :
    body (fuel + 1) .initial names (group.push part) ('*' :: rest) =
      body fuel .initial names (group.push (part.repeated 0 none)) (skipLazy rest) := by
  have again : (group.push part).repeatLast 0 none = some (group.push (part.repeated 0 none)) := by
    simp [Open.repeatLast, Open.push, repeatable]
  rw [body.eq_def]
  simp only [Flags.skip, Flags.initial, again]
  rfl

/-- An alternative is read to its parts, unless the sign for a lazy repetition follows. -/
theorem body_text (choice : Choice) (eager : skipLazy rest = rest) :
    body (fuel + choice.text.length) .initial names ⟨branches, []⟩ (choice.text ++ rest) =
      body fuel .initial names ⟨branches, choice.parts.reverse⟩ rest := by
  have ordinary := fun char member => not_mem_signs (choice.ordinary char member)
  cases goesOn : choice.goesOn with
  | false =>
    simpa [Choice.text, Choice.parts, goesOn] using @body_word fuel names branches [] rest _ ordinary
  | true =>
    have word := @body_word (fuel + 2) names branches [] ('.' :: '*' :: rest) _ ordinary
    rw [List.append_nil, body_dot, body_star rfl, eager] at word
    have length : fuel + choice.text.length = fuel + 2 + choice.word.length := by
      simp [Choice.text, goesOn]
      omega
    rw [length]
    simpa [Choice.text, Choice.parts, Choice.anything, goesOn, Open.push] using word

/-- A group of alternatives is read to their choice. -/
theorem body_joined {choices : List Choice} (some : choices ≠ []) :
    body (fuel + (Choice.joined choices).length + 1) .initial names ⟨branches, []⟩
        (Choice.joined choices ++ ')' :: rest) =
      .some ⟨.choice (branches.reverse ++ choices.map Choice.part), names, ')' :: rest⟩ := by
  induction choices generalizing branches with
  | nil => exact absurd rfl some
  | cons first others ih =>
    cases others with
    | nil =>
      have read := @body_text (fuel + 1) names branches (')' :: rest) first rfl
      rw [Nat.add_right_comm] at read
      simp only [Choice.joined, List.map_cons, List.map_nil, List.intercalate_singleton, read]
      simp [body, Flags.skip, Flags.initial, Open.close, Open.branch, Choice.part]
    | cons second others =>
      have read := @body_text (fuel + (Choice.joined (second :: others)).length + 1 + 1) names branches
        ('|' :: (Choice.joined (second :: others) ++ ')' :: rest)) first rfl
      have length : fuel + (Choice.joined (first :: second :: others)).length + 1 =
          fuel + (Choice.joined (second :: others)).length + 1 + 1 + first.text.length := by
        rw [Choice.joined_cons_cons, List.length_append, List.length_cons]
        omega
      rw [length, Choice.joined_cons_cons, List.append_assoc, List.cons_append, read, body_bar, Open.branch,
        ih (List.cons_ne_nil second others)]
      simp [Choice.part]

/-- A text that is read to a part up to the end of the group is read between the anchors to the part in its
frame. -/
theorem body_framed {text : List Char} {part : Part}
    (read : body (fuel + 1 + 1) .initial [] .fresh (text ++ [')', '$']) = some ⟨part, [], [')', '$']⟩) :
    body (fuel + 1 + 1 + 1 + 1) .initial [] .fresh (['^', '(', '?', ':'] ++ text ++ [')', '$']) =
      some ⟨part.framed, [], []⟩ := by
  have shape : ['^', '(', '?', ':'] ++ text ++ [')', '$'] =
      '^' :: '(' :: '?' :: ':' :: (text ++ [')', '$']) := rfl
  rw [shape, body_caret, body_plain, read, Option.bind_eq_bind, Option.bind_some]
  dsimp only
  rw [body_dollar, body_nil]
  rfl

end Reader

namespace Choice

variable {choices : List Choice}

theorem depth_part_le (choice : Choice) : choice.part.depth ≤ 2 := by
  refine Part.depth_sequence_le fun part member => ?_
  rw [parts, List.mem_append, List.mem_map] at member
  rcases member with ⟨char, -, rfl⟩ | member
  · exact Nat.zero_le _
  · split at member
    · exact (List.mem_singleton.1 member).symm ▸ Nat.le_refl _
    · cases member

/-- The text of alternatives is read between the anchors to what it spells, and refused only if the automata
of the pattern are too large. -/
theorem parse?_joined (some : choices ≠ []) :
    parse? (['^', '(', '?', ':'] ++ joined choices ++ [')', '$']) =
      if (expr choices).anchored.fits then .some (expr choices).anchored else none := by
  have length : (['^', '(', '?', ':'] ++ joined choices ++ [')', '$']).length + 1 =
      4 + (joined choices).length + 1 + 1 + 1 := by
    simp
    omega
  have read : Reader.body (4 + (joined choices).length + 1) .initial [] .fresh
      (joined choices ++ [')', '$']) = .some ⟨.choice (choices.map part), [], [')', '$']⟩ :=
    Reader.body_joined some
  rw [Nat.add_comm 4] at read length
  have shallow : (Part.choice (choices.map part)).depth ≤ 3 := by
    refine Part.depth_choice_le fun part member => ?_
    obtain ⟨choice, -, rfl⟩ := List.mem_map.1 member
    exact choice.depth_part_le
  have within := (Part.depth_framed_le shallow).trans (by decide : 5 ≤ depthLimit)
  rw [parse?, length, Reader.body_framed read, Option.bind_eq_bind, Option.bind_some]
  simp only [within, true_and]
  rfl

end Choice

section Meaning

variable {text : List Char}

theorem CharSet.contains_single_iff {char other : Char} :
    (single char).contains other = true ↔ other = char := by
  rw [single, contains, Bool.and_eq_true, decide_eq_true_eq, decide_eq_true_eq]
  constructor
  · rintro ⟨above, below⟩
    exact Char.le_antisymm below above
  · rintro rfl
    exact ⟨Char.le_refl other, Char.le_refl other⟩

/-- Any character but a line end is matched by the sign for one. -/
theorem spans_anyChar {start : Nat} (lineless : '\n' ∉ text) (within : start < text.length) :
    (Reader.anyChar .initial).Spans text start (start + 1) := by
  refine ⟨rfl, text[start], List.getElem?_eq_getElem within, ?_⟩
  have other : text[start] ≠ '\n' := fun same => lineless (same ▸ List.getElem_mem within)
  rw [CharSet.contains, Bool.not_eq_true', Bool.eq_false_iff]
  exact mt CharSet.contains_single_iff.1 other

namespace Choice

/-- What is left of a line is matched. -/
theorem spans_anything {start : Nat} (lineless : '\n' ∉ text) (within : start ≤ text.length) :
    anything.expr.Spans text start text.length := by
  have rounds (count : Nat) {start : Nat} (bounded : start + count ≤ text.length) :
      Rounds ((Reader.anyChar .initial).Spans text) count start (start + count) := by
    induction count generalizing start with
    | zero => rfl
    | succ count ih =>
      have here : start < text.length := by omega
      have rest := @ih (start + 1) (by omega)
      rw [Nat.add_assoc, Nat.add_comm 1] at rest
      exact ⟨start + 1, spans_anyChar lineless here, rest⟩
  have all := rounds (text.length - start) (Nat.add_sub_of_le within).le
  rw [Nat.add_sub_of_le within] at all
  exact ⟨text.length - start, Nat.zero_le _, nofun, all⟩

/-- Letters in a row match what they spell. -/
theorem spans_letters {word : List Char} {tail : Expr} {start stop : Nat} :
    ((word.map letter).foldr (fun part rest => .seq part.expr rest) tail).Spans text start stop ↔
      word <+: text.drop start ∧ tail.Spans text (start + word.length) stop := by
  induction word generalizing start with
  | nil => simp
  | cons char word ih =>
    have here : char :: word <+: text.drop start ↔
        text[start]? = some char ∧ word <+: text.drop (start + 1) := by
      rw [List.cons_prefix_iff, ← List.drop_drop, ← List.head?_drop]
      cases text.drop start <;> simp [eq_comm]
    simp only [List.map_cons, List.foldr_cons, letter, Part.plain, Expr.Spans, ih, here,
      CharSet.contains_single_iff, List.length_cons, exists_eq_right, and_assoc, exists_eq_left]
    rw [Nat.add_right_comm, Nat.add_assoc]

/-- In a line an alternative matches as a whole what it spells. -/
theorem spans_part_iff (choice : Choice) (lineless : '\n' ∉ text) :
    choice.part.expr.Spans text 0 text.length ↔ choice.Spells text := by
  rw [part, Part.spans_sequence, parts, List.foldr_append, spans_letters, List.drop_zero, Nat.zero_add,
    Spells]
  cases choice.goesOn with
  | false =>
    constructor
    · rintro ⟨start, length⟩
      exact (start.eq_of_length length).symm
    · rintro same
      exact ⟨same ▸ List.prefix_rfl, congrArg List.length same.symm⟩
  | true =>
    constructor
    · exact And.left
    · intro start
      exact ⟨start, text.length, spans_anything lineless start.length_le, rfl⟩

/-- In a line the pattern of alternatives matches the names that one of them spells. -/
theorem isMatch_anchored_expr_iff {choices : List Choice} (some : choices ≠ []) (lineless : '\n' ∉ text) :
    (expr choices).anchored.isMatch text = true ↔ ∃ choice ∈ choices, choice.Spells text := by
  have parts : choices.map part ≠ [] := mt List.map_eq_nil_iff.1 some
  rw [Expr.isMatch_anchored_iff, expr, Part.spans_choice parts]
  simp only [List.mem_map, exists_exists_and_eq_and, spans_part_iff _ lineless]

end Choice

end Meaning

end AppBundle.Pattern
