import AppBundle.Proofs.Token.Grammar

/-! # Texts in pieces

A text is taken apart from the left: where a well-formed token begins, the whole token is one piece,
and any other character is a piece of its own. `Segmented pieces` says that this is how the text of
`pieces` is taken apart, so that a statement about all texts can be shown by induction on pieces. An
opening `#{` that is not closed, or that is closed behind another opening brace, begins no token; it
never hides one that begins behind it, which is why segmented pieces can be joined at a token.
-/

namespace AppBundle

/-- A part of a text. -/
inductive Piece where
  | literal (char : Char)
  | reference (token : Token)
deriving DecidableEq

namespace Piece

/-- The characters of a piece. -/
def chars : Piece → List Char
  | literal char => [char]
  | reference token => token.chars

/-- The token of a piece. -/
def token? : Piece → Option Token
  | literal _ => none
  | reference token => some token

/-- The text that is made of pieces. -/
def write (pieces : List Piece) : List Char := pieces.flatMap chars

@[simp] theorem write_nil : write [] = [] := rfl

@[simp] theorem write_literal (char : Char) (rest : List Piece) :
    write (.literal char :: rest) = char :: write rest := rfl

@[simp] theorem write_reference (token : Token) (rest : List Piece) :
    write (.reference token :: rest) = token.chars ++ write rest := rfl

@[simp] theorem write_append (left right : List Piece) :
    write (left ++ right) = write left ++ write right := List.flatMap_append

@[simp] theorem write_map_literal (text : List Char) : write (text.map literal) = text := by
  induction text with
  | nil => rfl
  | cons head rest ih => rw [List.map_cons, write_literal, ih]

/-- A well-formed token stands at the front of a text. -/
def StartsToken (text : List Char) : Prop :=
  ∃ token : Token, token.WellFormed ∧ ∃ rest, text = token.chars ++ rest

/-- The pieces are what the text made of them is taken apart into. -/
inductive Segmented : List Piece → Prop where
  | nil : Segmented []
  | reference {token : Token} {rest : List Piece} (formed : token.WellFormed)
    (behind : Segmented rest) : Segmented (.reference token :: rest)
  | literal {char : Char} {rest : List Piece} (plain : ¬ StartsToken (char :: write rest))
    (behind : Segmented rest) : Segmented (.literal char :: rest)

theorem startsToken_open_iff {after : List Char} :
    StartsToken ('#' :: '{' :: after) ↔ ∃ token rest, Token.readBody? after = some (token, rest) := by
  constructor
  · rintro ⟨token, formed, rest, same⟩
    refine ⟨token, rest, Token.readBody?_eq_some_iff.2 ⟨formed, ?_⟩⟩
    simpa [Token.chars] using same
  · rintro ⟨token, rest, read⟩
    obtain ⟨formed, rfl⟩ := Token.readBody?_eq_some_iff.1 read
    exact ⟨token, formed, rest, by simp [Token.chars]⟩

theorem StartsToken.head {char : Char} {rest : List Char} (starts : StartsToken (char :: rest)) :
    char = '#' ∧ rest.head? = some '{' := by
  obtain ⟨token, -, behind, same⟩ := starts
  simp only [Token.chars, List.cons_append, List.cons.injEq] at same
  simp [same.1, same.2]

/-- Every text can be taken apart. -/
theorem exists_segmented (text : List Char) : ∃ pieces, Segmented pieces ∧ write pieces = text := by
  -- A token is taken off as a whole, so the induction is on the length.
  induction bound : text.length using Nat.strong_induction_on generalizing text with
  | _ size ih =>
    by_cases starts : StartsToken text
    · obtain ⟨token, formed, rest, rfl⟩ := starts
      have shorter : rest.length < size := by
        rw [← bound, List.length_append, Token.chars, List.length_cons]
        omega
      obtain ⟨pieces, segmented, same⟩ := ih rest.length shorter rest rfl
      exact ⟨.reference token :: pieces, .reference formed segmented, by rw [write_reference, same]⟩
    · cases text with
      | nil => exact ⟨[], .nil, rfl⟩
      | cons char rest =>
        have shorter : rest.length < size := by rw [← bound]; exact Nat.lt_succ_self _
        obtain ⟨pieces, segmented, rfl⟩ := ih rest.length shorter rest rfl
        exact ⟨.literal char :: pieces, .literal starts segmented, rfl⟩

theorem Segmented.wellFormed {pieces : List Piece} (segmented : Segmented pieces) {token : Token}
    (member : .reference token ∈ pieces) : token.WellFormed := by
  induction segmented with
  | nil => cases member
  | reference formed _ ih =>
    rcases List.mem_cons.1 member with same | member
    · cases same; exact formed
    · exact ih member
  | literal _ _ ih =>
    rcases List.mem_cons.1 member with same | member
    · cases same
    · exact ih member

/-- A token that begins before an opening `#{` ends before it. -/
theorem startsToken_of_append_open {front after : List Char} (nonempty : front ≠ [])
    (starts : StartsToken (front ++ '#' :: '{' :: after)) : StartsToken front := by
  obtain ⟨token, formed, rest, same⟩ := starts
  obtain ⟨noOpen, -⟩ := formed.braces_notMem_inner
  match front, nonempty with
  | [_], _ => simp [Token.chars] at same
  | first :: second :: body, _ =>
    simp only [Token.chars, List.cons_append, List.append_assoc, List.cons.injEq, List.nil_append]
      at same
    obtain ⟨rfl, rfl, same⟩ := same
    rcases List.append_eq_append_iff.1 same with ⟨passed, inner, tail⟩ | ⟨left, inner, tail⟩
    · -- The brace of the opening would stand inside the token or at its end.
      match passed with
      | [] => simp at tail
      | [_] => simp at tail
      | _ :: second :: _ =>
        simp only [List.cons_append, List.cons.injEq] at tail
        exact absurd (by simp [inner, ← tail.2.1]) noOpen
    · cases left with
      | nil => simp at tail
      | cons brace left =>
        simp only [List.cons_append, List.cons.injEq] at tail
        exact ⟨token, formed, left, by simp [Token.chars, inner, ← tail.1]⟩

/-- Segmented pieces can be joined at a token: neither what stands open in front of it nor what
follows it changes how the text is taken apart. -/
theorem Segmented.append_token {front behind : List Piece} {token : Token}
    (segmented : Segmented front) (formed : token.WellFormed) (rest : Segmented behind) :
    Segmented (front ++ .reference token :: behind) := by
  induction segmented with
  | nil => exact .reference formed rest
  | reference first _ ih => exact .reference first ih
  | literal plain _ ih =>
    refine .literal (fun starts => plain ?_) ih
    change StartsToken (_ :: write (_ ++ _ :: _)) at starts
    rw [write_append, write_reference, Token.chars] at starts
    exact startsToken_of_append_open (List.cons_ne_nil _ _) starts

/-- A part of segmented pieces that is cut off at either end is segmented. -/
theorem Segmented.of_append {front behind : List Piece} (segmented : Segmented (front ++ behind)) :
    Segmented front ∧ Segmented behind := by
  induction front with
  | nil => exact ⟨.nil, segmented⟩
  | cons piece front ih =>
    cases segmented with
    | reference formed rest => exact ⟨.reference formed (ih rest).1, (ih rest).2⟩
    | literal plain rest =>
      refine ⟨.literal (fun starts => plain ?_) (ih rest).1, (ih rest).2⟩
      obtain ⟨token, formed, left, same⟩ := starts
      refine ⟨token, formed, left ++ write behind, ?_⟩
      change _ :: write (front ++ behind) = _
      rw [write_append, ← List.cons_append, same, List.append_assoc]

private theorem chars_append_inj {left right : Token} (leftFormed : left.WellFormed)
    (rightFormed : right.WellFormed) {a b : List Char} (same : left.chars ++ a = right.chars ++ b) :
    left = right ∧ a = b := by
  simp only [Token.chars, List.cons_append, List.append_assoc, List.cons.injEq, true_and,
    List.nil_append] at same
  have read := leftFormed.readBody?_inner a
  rw [same, rightFormed.readBody?_inner b] at read
  simpa [eq_comm] using read

/-- A text is taken apart in one way only. -/
theorem Segmented.unique {left right : List Piece} (leftSegmented : Segmented left)
    (rightSegmented : Segmented right) (same : write left = write right) : left = right := by
  induction leftSegmented generalizing right with
  | nil =>
    cases rightSegmented with
    | nil => rfl
    | reference => simp [Token.chars] at same
    | literal => simp at same
  | reference formed _ ih =>
    cases rightSegmented with
    | nil => simp [Token.chars] at same
    | reference formedRight behind =>
      obtain ⟨rfl, rest⟩ := chars_append_inj formed formedRight same
      rw [ih behind rest]
    | literal plain => exact absurd ⟨_, formed, _, same.symm⟩ plain
  | literal plain _ ih =>
    cases rightSegmented with
    | nil => simp at same
    | reference formedRight => exact absurd ⟨_, formedRight, _, same⟩ plain
    | literal _ behind =>
      obtain ⟨rfl, rest⟩ := List.cons.inj same
      rw [ih behind rest]

/-- The tokens among pieces, in their order. -/
def tokens (pieces : List Piece) : List Token := pieces.filterMap token?

@[simp] theorem tokens_nil : tokens [] = [] := rfl

@[simp] theorem tokens_literal (char : Char) (rest : List Piece) :
    tokens (.literal char :: rest) = tokens rest := rfl

@[simp] theorem tokens_reference (token : Token) (rest : List Piece) :
    tokens (.reference token :: rest) = token :: tokens rest := rfl

@[simp] theorem tokens_append (left right : List Piece) :
    tokens (left ++ right) = tokens left ++ tokens right := List.filterMap_append

/-- Where a token stands among the tokens, it stands among the pieces. -/
theorem tokens_eq_append_cons_iff {pieces : List Piece} {token : Token} {left right : List Token} :
    tokens pieces = left ++ token :: right ↔
      ∃ front behind, pieces = front ++ .reference token :: behind ∧
        tokens front = left ∧ tokens behind = right := by
  constructor
  · intro split
    induction pieces generalizing left with
    | nil => cases left <;> cases split
    | cons piece rest ih =>
      cases piece with
      | literal char =>
        obtain ⟨front, behind, rfl, rfl, rfl⟩ := ih split
        exact ⟨.literal char :: front, behind, rfl, rfl, rfl⟩
      | reference first =>
        rw [tokens_reference] at split
        cases left with
        | nil =>
          obtain ⟨rfl, rfl⟩ := List.cons.inj split
          exact ⟨[], rest, rfl, rfl, rfl⟩
        | cons head left =>
          obtain ⟨rfl, splitRest⟩ := List.cons.inj split
          obtain ⟨front, behind, rfl, rfl, rfl⟩ := ih splitRest
          exact ⟨.reference first :: front, behind, rfl, rfl, rfl⟩
  · rintro ⟨front, behind, rfl, rfl, rfl⟩
    rw [tokens_append, tokens_reference]

theorem mem_tokens_iff {pieces : List Piece} {token : Token} :
    token ∈ tokens pieces ↔ .reference token ∈ pieces := by
  induction pieces with
  | nil => simp
  | cons piece rest ih => cases piece <;> simp [ih]

/-- The tokens among the pieces of a text are those that occur in it. -/
theorem Segmented.mem_tokens_iff_occursIn {pieces : List Piece} (segmented : Segmented pieces)
    {token : Token} :
    token ∈ tokens pieces ↔ token.OccursIn (String.ofList (write pieces)) := by
  rw [mem_tokens_iff]
  constructor
  · intro member
    obtain ⟨front, behind, rfl⟩ := List.append_of_mem member
    refine ⟨segmented.wellFormed member, String.ofList (write front), String.ofList (write behind), ?_⟩
    simp [← String.ofList_append]
  · rintro ⟨formed, before, behind, same⟩
    obtain ⟨left, leftSegmented, leftText⟩ := exists_segmented before.toList
    obtain ⟨right, rightSegmented, rightText⟩ := exists_segmented behind.toList
    have joined := leftSegmented.append_token formed rightSegmented
    have written : write pieces = write (left ++ .reference token :: right) := by
      have characters := congrArg String.toList same
      simpa [leftText, rightText] using characters
    rw [segmented.unique joined written]
    exact List.mem_append_right _ (List.mem_cons_self ..)

end Piece

end AppBundle
