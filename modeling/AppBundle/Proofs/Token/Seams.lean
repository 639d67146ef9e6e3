import AppBundle.Proofs.Token.Occurrences
import AppBundle.Proofs.Token.Passes

/-! # The tokens of an expanded text

A resolver may put texts that begin with an opening brace in the places of tokens. Behind a number sign that
is copied, the brace makes an opening, and a token can be read across the seam. The inserted text holds the
brace that closes it, so that this token depends neither on what stands in front of the number sign nor on
what follows. If the inserted texts hold no number sign, the tokens of an expanded text are the declined
ones and those at such seams, and expanding it once more leaves it as it is exactly if the resolver declines
all of them.
-/

namespace AppBundle

namespace Piece

variable {ε : Type}

/-- What a resolver puts in the place of a token holds a closing brace. -/
def Closes (resolve : Token → Except ε (Option String)) : Prop :=
  ∀ token text, resolve token = .ok (some text) → '}' ∈ text.toList

/-- A token is read from what a resolver puts behind a number sign. -/
def Arises (resolve : Token → Except ε (Option String)) (token : Token) (pieces : List Piece) : Prop :=
  ∃ other text, [.literal '#', .reference other] <:+: pieces ∧ resolve other = .ok (some text) ∧
    Token.atFront? ('#' :: text.toList) = some token

variable {resolve : Token → Except ε (Option String)} {token : Token} {pieces results : List Piece}

@[simp] theorem not_arises_nil : ¬ Arises resolve token [] := by
  rintro ⟨other, text, behind, -⟩
  exact absurd (List.eq_nil_of_infix_nil behind) (List.cons_ne_nil _ _)

theorem arises_reference {other : Token} :
    Arises resolve token (.reference other :: pieces) ↔ Arises resolve token pieces := by
  simp [Arises, List.infix_cons_iff, List.cons_prefix_cons]

theorem arises_literal {char : Char} :
    Arises resolve token (.literal char :: pieces) ↔
      (char = '#' ∧ ∃ other text rest, pieces = .reference other :: rest ∧
        resolve other = .ok (some text) ∧ Token.atFront? ('#' :: text.toList) = some token) ∨
      Arises resolve token pieces := by
  have front (other : Token) : [.literal '#', .reference other] <+: Piece.literal char :: pieces ↔
      char = '#' ∧ ∃ rest, pieces = .reference other :: rest := by
    rw [List.cons_prefix_cons, literal.injEq, eq_comm (a := '#')]
    simp only [List.IsPrefix, List.singleton_append, eq_comm (b := pieces)]
  simp only [Arises, List.infix_cons_iff, front]
  constructor
  · rintro ⟨other, text, ⟨sign, rest, same⟩ | behind, found, read⟩
    · exact .inl ⟨sign, other, text, rest, same, found, read⟩
    · exact .inr ⟨other, text, behind, found, read⟩
  · rintro (⟨sign, other, text, rest, same, found, read⟩ | ⟨other, text, behind, found, read⟩)
    · exact ⟨other, text, .inl ⟨sign, rest, same⟩, found, read⟩
    · exact ⟨other, text, .inr behind, found, read⟩

/-- The token that begins at a character after a pass, if none began there before. -/
theorem Pass.atFront?_literal_iff (pass : Pass resolve pieces results) (refers : Refers resolve)
    (closes : Closes resolve) {char : Char} (plain : ¬ StartsToken (char :: write pieces)) :
    Token.atFront? (char :: write results) = some token ↔
      char = '#' ∧ ∃ other text rest, pieces = .reference other :: rest ∧
        resolve other = .ok (some text) ∧ Token.atFront? ('#' :: text.toList) = some token := by
  have seam {other : Token} {text : String} (found : resolve other = .ok (some text))
      (after : List Piece) : Token.atFront? ('#' :: write (text.toList.map .literal ++ after)) =
        Token.atFront? ('#' :: text.toList) := by
    rw [write_append, write_map_literal, ← List.cons_append]
    exact Token.atFront?_append (List.mem_cons_of_mem _ (closes _ _ found)) _
  constructor
  · intro read
    have ⟨formed, rest, same⟩ := Token.atFront?_eq_some_iff.1 read
    obtain ⟨rfl, other, text, _, after, rfl, found, rfl⟩ :=
      pass.exists_replaced_of_startsToken refers plain ⟨token, formed, rest, same.symm⟩
    rw [seam found] at read
    exact ⟨rfl, other, text, _, rfl, found, read⟩
  · rintro ⟨rfl, other, text, _, rfl, found, read⟩
    cases pass with
    | declined left => cases found.symm.trans left
    | replaced answered =>
      cases found.symm.trans answered
      rw [seam found, read]

/-- After a pass the declined tokens are found, and those that arise behind number signs. -/
theorem Pass.mem_filterMap_tails_iff (pass : Pass resolve pieces results) (refers : Refers resolve)
    (closes : Closes resolve) (segmented : Segmented pieces) :
    token ∈ (write results).tails.filterMap Token.atFront? ↔
      token ∈ tokens pieces ∧ resolve token = .ok none ∨ Arises resolve token pieces := by
  induction pass with
  | nil => simp [Token.atFront?]
  | literal behind ih =>
    cases segmented with
    | literal plain segmented =>
    rw [write_literal, List.tails_cons, List.mem_filterMap]
    simp only [List.mem_cons, exists_eq_or_imp, behind.atFront?_literal_iff refers closes plain,
      ← List.mem_filterMap, ih segmented, tokens_literal, arises_literal]
    exact or_left_comm
  | @declined other _ _ left _ ih =>
    cases segmented with
    | reference formed segmented =>
    rw [write_reference, filterMap_tails_chars_append formed, List.mem_cons, ih segmented,
      tokens_reference, List.mem_cons, arises_reference]
    by_cases same : token = other
    · simp [same, left]
    · simp [same]
  | @replaced other text _ _ found _ ih =>
    cases segmented with
    | reference formed segmented =>
    rw [write_append, write_map_literal, filterMap_tails_append_of_free (refers _ _ found).2,
      ih segmented, tokens_reference, List.mem_cons, arises_reference]
    by_cases same : token = other
    · simp [same, found]
    · simp [same]

/-- A pass leaves a text as it is exactly if every token is declined. -/
theorem Pass.write_eq_iff (pass : Pass resolve pieces results) (refers : Refers resolve) :
    write results = write pieces ↔ ∀ token ∈ tokens pieces, resolve token = .ok none := by
  induction pass with
  | nil => simp
  | literal _ ih => rw [write_literal, write_literal, List.cons_inj_right, ih, tokens_literal]
  | declined left _ ih =>
    rw [write_reference, write_reference, List.append_cancel_left_eq, ih, tokens_reference,
      List.forall_mem_cons, and_iff_right left]
  | @replaced other text _ _ found _ _ =>
    -- The text in the place of the token begins with another character.
    obtain ⟨tail, same⟩ := List.head?_eq_some_iff.1 (refers _ _ found).1
    refine iff_of_false ?_ fun declines => ?_
    · simp [same, Token.chars]
    · cases found.symm.trans (declines other (List.mem_cons_self ..))

/-- Where a number sign is written in front of a token, the two stand next to each other among the pieces. -/
theorem exists_infix_pieces (formed : token.WellFormed) {text : List Char}
    (marked : '#' :: token.chars <:+: text) :
    ∃ pieces, Segmented pieces ∧ write pieces = text ∧
      [.literal '#', .reference token] <:+: pieces := by
  obtain ⟨before, behind, rfl⟩ := marked
  obtain ⟨front, frontSegmented, frontWritten⟩ := exists_segmented (before ++ ['#'])
  obtain ⟨back, backSegmented, rfl⟩ := exists_segmented behind
  refine ⟨_, frontSegmented.append_token formed backSegmented, ?_, ?_⟩
  · simp [frontWritten]
  · -- The last piece in front of the token is not a token, which would end with a brace.
    rcases List.eq_nil_or_concat front with rfl | ⟨front, piece, rfl⟩
    · simp at frontWritten
    · cases piece with
      | literal char =>
        have last : write front = before ∧ char = '#' := by simpa using frontWritten
        exact ⟨front, back, by simp [last.2]⟩
      | reference other =>
        have last := congrArg List.getLast? frontWritten
        simp [Token.chars, List.getLast?_cons] at last

end Piece

namespace Token

open Piece

variable {ε : Type} {resolve : Token → Except ε (Option String)} {token : Token} {text result : String}

/-- Behind a number sign a text without number signs has one token at most. -/
theorem mem_scan_sign_iff {inserted : String} (free : '#' ∉ inserted.toList) :
    token ∈ scan ("#" ++ inserted) ↔ atFront? ('#' :: inserted.toList) = some token := by
  have rest := filterMap_tails_append_of_free free []
  rw [List.append_nil] at rest
  have characters : ("#" ++ inserted).toList = '#' :: inserted.toList := by simp
  rw [scan_eq_occurrences, occurrences, characters, List.tails_cons, List.mem_filterMap]
  simp only [List.mem_cons, exists_eq_or_imp, ← List.mem_filterMap, rest]
  simp [atFront?]

/-- The tokens of an expanded text are those that were declined and those that arise where a text was put
behind a number sign. -/
theorem mem_scan_expandM_iff (refers : Refers resolve) (closes : Closes resolve)
    (done : expandM resolve text = .ok result) :
    token ∈ scan result ↔
      token ∈ scan text ∧ resolve token = .ok none ∨
      ∃ other ∈ scan text, '#' :: other.chars <:+: text.toList ∧
        ∃ inserted, resolve other = .ok (some inserted) ∧ token ∈ scan ("#" ++ inserted) := by
  have found {pieces : List Piece} (segmented : Segmented pieces)
      (written : write pieces = text.toList) :
      token ∈ scan result ↔
        token ∈ scan text ∧ resolve token = .ok none ∨ Arises resolve token pieces := by
    obtain ⟨results, pass, same⟩ := (expandM_eq_ok_iff segmented written).1 done
    rw [scan_eq_occurrences, occurrences, ← same, scan_eq_tokens segmented written]
    exact pass.mem_filterMap_tails_iff refers closes segmented
  constructor
  · intro member
    obtain ⟨pieces, segmented, written⟩ := exists_pieces text
    refine ((found segmented written).1 member).imp_right ?_
    rintro ⟨other, inserted, seam, replaced, read⟩
    obtain ⟨front, back, same⟩ := seam
    have listed : other ∈ scan text := by
      rw [scan_eq_tokens segmented written, ← same]
      simp
    have marked : '#' :: other.chars <:+: text.toList := by
      rw [← written, ← same]
      exact ⟨write front, write back, by simp⟩
    exact ⟨other, listed, marked, inserted, replaced,
      (mem_scan_sign_iff (refers _ _ replaced).2).2 read⟩
  · rintro (declined | ⟨other, listed, marked, inserted, replaced, read⟩)
    · obtain ⟨pieces, segmented, written⟩ := exists_pieces text
      exact (found segmented written).2 (.inl declined)
    · obtain ⟨pieces, segmented, written, seam⟩ := exists_infix_pieces (mem_scan_iff.1 listed).1 marked
      refine (found segmented written).2 (.inr ⟨other, inserted, seam, replaced, ?_⟩)
      exact (mem_scan_sign_iff (refers _ _ replaced).2).1 read

/-- Expanding a text leaves it as it is exactly if all of its tokens are declined. -/
theorem expandM_eq_self_iff (refers : Refers resolve) :
    expandM resolve text = .ok text ↔ ∀ token ∈ scan text, resolve token = .ok none := by
  obtain ⟨pieces, segmented, written⟩ := exists_pieces text
  rw [expandM_eq_ok_iff segmented written, scan_eq_tokens segmented written, ← written]
  constructor
  · rintro ⟨results, pass, same⟩
    exact (pass.write_eq_iff refers).1 same
  · intro declines
    exact ⟨pieces, .refl declines, rfl⟩

/-- Expanding an expanded text leaves it as it is exactly if no token arises at a seam that the resolver has a
text for or fails on. -/
theorem expandM_again_iff (refers : Refers resolve) (closes : Closes resolve)
    (done : expandM resolve text = .ok result) :
    expandM resolve result = .ok result ↔
      ∀ other ∈ scan text, '#' :: other.chars <:+: text.toList →
        ∀ inserted, resolve other = .ok (some inserted) →
          ∀ token ∈ scan ("#" ++ inserted), resolve token = .ok none := by
  rw [expandM_eq_self_iff refers]
  simp only [mem_scan_expandM_iff refers closes done]
  constructor
  · intro declines other listed marked inserted replaced token read
    exact declines token (.inr ⟨other, listed, marked, inserted, replaced, read⟩)
  · rintro declines token (⟨-, declined⟩ | ⟨other, listed, marked, inserted, replaced, read⟩)
    · exact declined
    · exact declines other listed marked inserted replaced token read

end Token

end AppBundle
