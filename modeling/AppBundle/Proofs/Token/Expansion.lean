import AppBundle.Proofs.Token.Pieces

/-! # Scanning and expanding by pieces

Both scanners see a text as its pieces: `scan` lists the references among them, and expanding a text is
expanding its pieces one after the other. The scanner that expands may decline a token and then goes on
inside it, where it finds nothing, since a well-formed token holds no other opening. From this follows
that expansion is compositional around every well-formed token, for resolvers in any monad: with state
and failure this fixes the order of the calls and which error wins.
-/

namespace AppBundle

namespace Piece

/-- An opening `#{` at which no token begins is a literal, and so is the brace in it. -/
private theorem readBody?_eq_none {after : List Char}
    (plain : ¬ StartsToken ('#' :: '{' :: after)) : Token.readBody? after = none := by
  rw [Option.eq_none_iff_forall_ne_some]
  rintro ⟨token, rest⟩ read
  exact plain (startsToken_open_iff.2 ⟨token, rest, read⟩)

/-- Listing the tokens of a text lists the references among its pieces. -/
theorem Segmented.scanChars_write {pieces : List Piece} (segmented : Segmented pieces) :
    Token.scanChars (write pieces) = tokens pieces := by
  induction segmented with
  | nil => exact Token.scanChars_nil
  | @reference token rest formed _ ih =>
    have read := formed.readBody?_inner (write rest)
    rw [write_reference, Token.chars, List.cons_append, List.cons_append, List.append_assoc,
      List.singleton_append, Token.scanChars_token read, ih, tokens_reference]
  | @literal char rest plain _ ih =>
    rw [write_literal, tokens_literal, ← ih]
    by_cases opening : char = '#' ∧ (write rest).head? = some '{'
    · obtain ⟨rfl, brace⟩ := opening
      obtain ⟨after, same⟩ : ∃ after, write rest = '{' :: after := List.head?_eq_some_iff.1 brace
      rw [same] at plain ⊢
      rw [Token.scanChars_open (readBody?_eq_none plain), Token.scanChars_cons (by simp)]
    · exact Token.scanChars_cons opening

variable {m : Type → Type} [Monad m] (resolve : Token → m (Option String))

/-- What expansion puts in the place of a piece. -/
def expand : Piece → m (List Char)
  | literal char => pure [char]
  | reference token => return ((← resolve token).map String.toList).getD token.chars

/-- Expand pieces one after the other. -/
def expandAll : List Piece → m (List Char)
  | [] => pure []
  | piece :: rest => return (← piece.expand resolve) ++ (← expandAll rest)

@[simp] theorem expandAll_nil : expandAll resolve [] = pure [] := rfl

variable [LawfulMonad m]

@[simp] theorem expandAll_literal (char : Char) (rest : List Piece) :
    expandAll resolve (.literal char :: rest) = (char :: ·) <$> expandAll resolve rest := by
  simp [expandAll, expand]

theorem expandAll_reference (token : Token) (rest : List Piece) :
    expandAll resolve (.reference token :: rest) = (do
      let text? ← resolve token
      let behind ← expandAll resolve rest
      return (text?.map String.toList).getD token.chars ++ behind) := by
  simp [expandAll, expand]

theorem expandAll_append (left right : List Piece) :
    expandAll resolve (left ++ right) = (do
      let front ← expandAll resolve left
      let back ← expandAll resolve right
      return front ++ back) := by
  induction left with
  | nil => simp
  | cons piece rest ih =>
    simp only [List.cons_append, expandAll, ih, bind_assoc, pure_bind, List.append_assoc]

/-- Without an opening brace there is nothing to expand. -/
theorem expandChars_append {text : List Char} (noOpen : '{' ∉ text) {char : Char}
    (other : char ≠ '{') (rest : List Char) :
    Token.expandChars resolve (text ++ char :: rest) =
      (text ++ ·) <$> Token.expandChars resolve (char :: rest) := by
  induction text with
  | nil => simp
  | cons head tail ih =>
    rw [List.mem_cons, not_or] at noOpen
    have plain : ¬ (head = '#' ∧ (tail ++ char :: rest).head? = some '{') := by
      rintro ⟨-, brace⟩
      cases tail with
      | nil => exact other (by simpa using brace)
      | cons second _ => exact noOpen.2 (by simp_all)
    rw [List.cons_append, Token.expandChars_cons resolve plain, ih noOpen.2]
    simp

/-- Expanding a text is expanding its pieces one after the other. -/
theorem Segmented.expandChars_write {pieces : List Piece} (segmented : Segmented pieces) :
    Token.expandChars resolve (write pieces) = expandAll resolve pieces := by
  induction segmented with
  | nil => exact Token.expandChars_nil resolve
  | @reference token rest formed _ ih =>
    have read := formed.readBody?_inner (write rest)
    -- A declined token is gone through character by character.
    have declined : Token.expandChars resolve (token.inner.toList ++ '}' :: write rest) =
        (fun behind => token.inner.toList ++ '}' :: behind) <$> expandAll resolve rest := by
      rw [expandChars_append resolve formed.braces_notMem_inner.1 (by decide),
        Token.expandChars_cons resolve (by simp), ih]
      simp
    rw [write_reference, Token.chars, List.cons_append, List.cons_append, List.append_assoc,
      List.singleton_append, Token.expandChars_token resolve read, expandAll_reference]
    refine bind_congr fun text? => ?_
    cases text? with
    | some text => simp [ih]
    | none => simp [declined, Token.chars]
  | @literal char rest plain _ ih =>
    rw [write_literal, expandAll_literal, ← ih]
    by_cases opening : char = '#' ∧ (write rest).head? = some '{'
    · obtain ⟨rfl, brace⟩ := opening
      obtain ⟨after, same⟩ : ∃ after, write rest = '{' :: after := List.head?_eq_some_iff.1 brace
      rw [same] at plain ⊢
      rw [Token.expandChars_open resolve (readBody?_eq_none plain),
        Token.expandChars_cons resolve (by simp)]
      simp
    · rw [Token.expandChars_cons resolve opening]
      simp

end Piece

namespace Token

/-- No well-formed token stands anywhere in a text. -/
def TokenFree (text : String) : Prop :=
  ∀ before inner behind : String, text = before ++ "#\x7b" ++ inner ++ "\x7d" ++ behind →
    '}' ∉ inner.toList → parse? inner = none

theorem toList_written (token : Token) : ("#\x7b" ++ token.inner ++ "\x7d").toList = token.chars := by
  simp [chars]

theorem parse?_eq_some_iff {inner : String} {token : Token} (closed : '}' ∉ inner.toList) :
    parse? inner = some token ↔ token.WellFormed ∧ inner = token.inner := by
  rw [parse?, parseChars?_eq_some_iff closed, String.toList_inj]

/-- Every text is written by segmented pieces. -/
theorem exists_pieces (text : String) :
    ∃ pieces, Piece.Segmented pieces ∧ Piece.write pieces = text.toList :=
  Piece.exists_segmented text.toList

theorem scan_eq_tokens {text : String} {pieces : List Piece} (segmented : Piece.Segmented pieces)
    (written : Piece.write pieces = text.toList) : scan text = Piece.tokens pieces := by
  rw [scan, ← written, segmented.scanChars_write]

/-- Listing the tokens of a text finds every token that occurs in it and no other. -/
theorem mem_scan_iff {token : Token} {text : String} : token ∈ scan text ↔ token.OccursIn text := by
  obtain ⟨pieces, segmented, written⟩ := exists_pieces text
  rw [scan_eq_tokens segmented written, segmented.mem_tokens_iff_occursIn, written,
    String.ofList_toList]

/-- Where a token is found, it is written in the text, with the tokens found before it in front of it
and those found after it behind it. -/
theorem scan_eq_append_cons_iff {text : String} {token : Token} {left right : List Token} :
    scan text = left ++ token :: right ↔ token.WellFormed ∧ ∃ before behind : String,
      text = before ++ ("#\x7b" ++ token.inner ++ "\x7d") ++ behind ∧
        scan before = left ∧ scan behind = right := by
  constructor
  · intro found
    obtain ⟨pieces, segmented, written⟩ := exists_pieces text
    rw [scan_eq_tokens segmented written, Piece.tokens_eq_append_cons_iff] at found
    obtain ⟨front, behind, rfl, rfl, rfl⟩ := found
    obtain ⟨frontSegmented, rest⟩ := segmented.of_append
    cases rest with
    | reference formed behindSegmented =>
      refine ⟨formed, String.ofList (Piece.write front), String.ofList (Piece.write behind), ?_,
        scan_eq_tokens frontSegmented (String.toList_ofList).symm,
        scan_eq_tokens behindSegmented (String.toList_ofList).symm⟩
      rw [← String.toList_inj, ← written]
      simp [← toList_written]
  · rintro ⟨formed, before, behind, rfl, rfl, rfl⟩
    obtain ⟨left, leftSegmented, leftWritten⟩ := exists_pieces before
    obtain ⟨right, rightSegmented, rightWritten⟩ := exists_pieces behind
    have joined := leftSegmented.append_token formed rightSegmented
    rw [scan_eq_tokens leftSegmented leftWritten, scan_eq_tokens rightSegmented rightWritten,
      scan_eq_tokens joined, Piece.tokens_append, Piece.tokens_reference]
    simp [← toList_written, leftWritten, rightWritten]

variable {m : Type → Type} [Monad m] [LawfulMonad m] (resolve : Token → m (Option String))

theorem expandM_eq_expandAll {text : String} {pieces : List Piece}
    (segmented : Piece.Segmented pieces) (written : Piece.write pieces = text.toList) :
    expandM resolve text = String.ofList <$> Piece.expandAll resolve pieces := by
  rw [expandM, ← written, segmented.expandChars_write]

theorem expandM_append_token (before behind : String) {token : Token} (formed : token.WellFormed) :
    expandM resolve (before ++ ("#\x7b" ++ token.inner ++ "\x7d") ++ behind) = (do
      let front ← expandM resolve before
      let text? ← resolve token
      let back ← expandM resolve behind
      return front ++ text?.getD ("#\x7b" ++ token.inner ++ "\x7d") ++ back) := by
  obtain ⟨left, leftSegmented, leftWritten⟩ := exists_pieces before
  obtain ⟨right, rightSegmented, rightWritten⟩ := exists_pieces behind
  have joined := leftSegmented.append_token formed rightSegmented
  have written : Piece.write (left ++ .reference token :: right) =
      (before ++ ("#\x7b" ++ token.inner ++ "\x7d") ++ behind).toList := by
    rw [String.toList_append, String.toList_append, toList_written, ← leftWritten, ← rightWritten,
      Piece.write_append, Piece.write_reference, List.append_assoc]
  rw [expandM_eq_expandAll resolve joined written,
    expandM_eq_expandAll resolve leftSegmented leftWritten,
    expandM_eq_expandAll resolve rightSegmented rightWritten, Piece.expandAll_append,
    Piece.expandAll_reference]
  have joinTexts (front back : List Char) (text? : Option String) :
      String.ofList (front ++ ((text?.map String.toList).getD token.chars ++ back)) =
        String.ofList front ++ text?.getD ("#\x7b" ++ token.inner ++ "\x7d") ++ String.ofList back := by
    cases text? <;> simp [← toList_written, ← String.toList_inj]
  simp [joinTexts]

/-- Pieces without a reference are copied, whatever the resolver does. -/
theorem expandAll_eq_pure {pieces : List Piece} (free : Piece.tokens pieces = []) :
    Piece.expandAll resolve pieces = pure (Piece.write pieces) := by
  induction pieces with
  | nil => rfl
  | cons piece rest ih =>
    cases piece with
    | literal char => rw [Piece.expandAll_literal, ih (by simpa using free)]; simp
    | reference token => simp at free

/-- A text is free of tokens exactly if none is found in it. -/
theorem tokenFree_iff {text : String} : TokenFree text ↔ scan text = [] := by
  rw [List.eq_nil_iff_forall_not_mem]
  constructor
  · intro free token member
    obtain ⟨formed, before, behind, same⟩ := mem_scan_iff.1 member
    have closed := formed.braces_notMem_inner.2
    have unread := free before token.inner behind
      (by rw [same, ← toList_written, String.ofList_toList]; simp only [String.append_assoc]) closed
    rw [(parse?_eq_some_iff closed).2 ⟨formed, rfl⟩] at unread
    cases unread
  · rintro none before inner behind rfl closed
    rw [Option.eq_none_iff_forall_ne_some]
    intro token read
    obtain ⟨formed, rfl⟩ := (parse?_eq_some_iff closed).1 read
    refine none token (mem_scan_iff.2 ⟨formed, before, behind, ?_⟩)
    rw [← toList_written, String.ofList_toList]
    simp only [String.append_assoc]

theorem expandM_eq_pure {text : String} (free : scan text = []) : expandM resolve text = pure text := by
  obtain ⟨pieces, segmented, written⟩ := exists_pieces text
  rw [scan_eq_tokens segmented written] at free
  rw [expandM_eq_expandAll resolve segmented written, expandAll_eq_pure resolve free, written]
  simp

/-- Around a well-formed token, expanding a text is expanding what stands in front of the token,
resolving the token and expanding what stands behind it, in this order; a declined token stays as it
is. A text without well-formed tokens is returned as it is, and the resolver is not asked. With
`ExceptT ε (StateM σ)` for the monad the resolver has a state and may fail, and the first failure is
that of the whole. -/
theorem expandM_compositional :
    (∀ (before inner behind : String) (token : Token),
      '}' ∉ inner.toList → parse? inner = some token →
      expandM resolve (before ++ "#\x7b" ++ inner ++ "\x7d" ++ behind) = (do
        let front ← expandM resolve before
        let text? ← resolve token
        let back ← expandM resolve behind
        return front ++ text?.getD ("#\x7b" ++ inner ++ "\x7d") ++ back)) ∧
    ∀ text : String, TokenFree text → expandM resolve text = pure text := by
  refine ⟨?_, fun text free => expandM_eq_pure resolve (tokenFree_iff.1 free)⟩
  intro before inner behind token closed parsed
  obtain ⟨formed, rfl⟩ := (parse?_eq_some_iff closed).1 parsed
  rw [← expandM_append_token resolve before behind formed]
  simp only [String.append_assoc]

/-- A resolver with a state and a failure: it notes every token that it is asked about, declines
`b` and fails on `bad`. -/
def noting (token : Token) : ExceptT String (StateM (List Token)) (Option String) := do
  modify (· ++ [token])
  if token.id = "bad" then throw token.id
  return if token.id = "b" then none else some token.id

/-- Two openings stand unclosed in front of a declined token, and the resolver fails behind it; the
other text has a malformed token and an opening that is closed nowhere. -/
theorem expandM_unclosed_openings :
    '}' ∉ "b".toList ∧ parse? "b" = some ⟨"b", none⟩ ∧
      expandM noting ("#\x7bx#\x7b" ++ "#\x7b" ++ "b" ++ "\x7d" ++ "#\x7bbad\x7d#\x7bc\x7d") = (do
        let front ← expandM noting "#\x7bx#\x7b"
        let text? ← noting ⟨"b", none⟩
        let back ← expandM noting "#\x7bbad\x7d#\x7bc\x7d"
        return front ++ text?.getD ("#\x7b" ++ "b" ++ "\x7d") ++ back) ∧
      TokenFree "#\x7ba:\x7d##\x7bx\x7b" ∧
      expandM noting "#\x7ba:\x7d##\x7bx\x7b" = pure "#\x7ba:\x7d##\x7bx\x7b" := by
  have closed : '}' ∉ "b".toList := by decide
  have read : parse? "b" = some ⟨"b", none⟩ := by decide
  have free : TokenFree "#\x7ba:\x7d##\x7bx\x7b" := tokenFree_iff.2 (by cbv)
  obtain ⟨around, elsewhere⟩ := expandM_compositional noting
  exact ⟨closed, read, around _ _ _ _ closed read, free, elsewhere _ free⟩

end Token

end AppBundle
