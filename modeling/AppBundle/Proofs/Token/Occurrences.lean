import AppBundle.Proofs.Token.Expansion
import Mathlib.Data.List.Infix

/-! # Occurrences of tokens

What the tokens of a text are can be said without a scanner that passes over what it has read: at every
place of the text, from the left, the token that begins there if there is one. No token begins inside
another one, so the scanner passes over none of them.
-/

namespace AppBundle

namespace Token

/-- The well-formed token at the front of a text. -/
def atFront? : List Char → Option Token
  | '#' :: '{' :: after => (readBody? after).map Prod.fst
  | _ => none

theorem atFront?_eq_some_iff {text : List Char} {token : Token} :
    atFront? text = some token ↔ token.WellFormed ∧ token.chars <+: text := by
  constructor
  · intro found
    unfold atFront? at found
    split at found
    · obtain ⟨⟨_, rest⟩, read, rfl⟩ := Option.map_eq_some_iff.1 found
      obtain ⟨formed, rfl⟩ := readBody?_eq_some_iff.1 read
      exact ⟨formed, rest, by simp [chars]⟩
    · cases found
  · rintro ⟨formed, rest, rfl⟩
    simp [atFront?, chars, formed.readBody?_inner]

theorem atFront?_eq_none_iff {text : List Char} : atFront? text = none ↔ ¬ Piece.StartsToken text := by
  simp only [Option.eq_none_iff_forall_ne_some, ne_eq, atFront?_eq_some_iff, Piece.StartsToken,
    List.IsPrefix, eq_comm (a := text), not_exists, not_and]

/-- What begins at the front of a text is decided up to its first closing brace. -/
theorem atFront?_append {text : List Char} (closed : '}' ∈ text) (rest : List Char) :
    atFront? (text ++ rest) = atFront? text := by
  have cut (token : Token) (formed : token.WellFormed) :
      token.chars <+: text ++ rest ↔ token.chars <+: text := by
    refine ⟨fun starts => ?_, fun starts => starts.trans (List.prefix_append _ _)⟩
    rcases List.prefix_or_prefix_of_prefix starts (List.prefix_append text rest) with within | beyond
    · exact within
    · -- A text that ends inside a token has no closing brace.
      rw [chars, ← List.cons_append, ← List.cons_append, List.prefix_concat_iff] at beyond
      rcases beyond with whole | inside
      · exact whole ▸ List.prefix_refl _
      · have brace := inside.subset closed
        simp [formed.braces_notMem_inner.2] at brace
  ext token
  simp only [atFront?_eq_some_iff]
  exact and_congr_right (cut token)

/-- The well-formed tokens of a text with repetition, ordered by the places at which they begin. -/
def occurrences (text : String) : List Token := text.toList.tails.filterMap atFront?

end Token

namespace Piece

/-- No token begins where no opening brace follows. -/
theorem filterMap_tails_append {text : List Char} (noOpen : '{' ∉ text) {char : Char}
    (other : char ≠ '{') (rest : List Char) :
    (text ++ char :: rest).tails.filterMap Token.atFront? =
      (char :: rest).tails.filterMap Token.atFront? := by
  induction text with
  | nil => rfl
  | cons head tail ih =>
    rw [List.mem_cons, not_or] at noOpen
    have plain : Token.atFront? (head :: (tail ++ char :: rest)) = none := by
      rw [Token.atFront?_eq_none_iff]
      intro starts
      have brace := starts.head.2
      cases tail with
      | nil => exact other (by simpa using brace)
      | cons second _ => exact noOpen.2 (by simp_all)
    rw [List.cons_append, List.tails_cons, List.filterMap_cons_none plain, ih noOpen.2]

/-- No token begins where no number sign stands. -/
theorem filterMap_tails_append_of_free {text : List Char} (free : '#' ∉ text) (rest : List Char) :
    (text ++ rest).tails.filterMap Token.atFront? = rest.tails.filterMap Token.atFront? := by
  induction text with
  | nil => rfl
  | cons char text ih =>
    rw [List.mem_cons, not_or] at free
    have plain : Token.atFront? (char :: (text ++ rest)) = none := by
      rw [Token.atFront?_eq_none_iff]
      exact fun starts => free.1 starts.head.1.symm
    rw [List.cons_append, List.tails_cons, List.filterMap_cons_none plain, ih free.2]

/-- A token is found where it begins, and no other one begins inside it. -/
theorem filterMap_tails_chars_append {token : Token} (formed : token.WellFormed) (rest : List Char) :
    (token.chars ++ rest).tails.filterMap Token.atFront? =
      token :: rest.tails.filterMap Token.atFront? := by
  have starts : Token.atFront? ('#' :: '{' :: (token.inner.toList ++ '}' :: rest)) = some token := by
    simp [Token.atFront?, formed.readBody?_inner]
  have inside (text : List Char) : Token.atFront? ('{' :: text) = none := by simp [Token.atFront?]
  have closing : Token.atFront? ('}' :: rest) = none := by simp [Token.atFront?]
  rw [Token.chars, List.cons_append, List.cons_append, List.append_assoc, List.singleton_append,
    List.tails_cons, List.filterMap_cons_some starts, List.tails_cons,
    List.filterMap_cons_none (inside _),
    filterMap_tails_append formed.braces_notMem_inner.1 (by decide), List.tails_cons,
    List.filterMap_cons_none closing]

/-- At every place of a text at which a reference stands among its pieces its token begins, and nowhere
else. -/
theorem Segmented.filterMap_tails_write {pieces : List Piece} (segmented : Segmented pieces) :
    (write pieces).tails.filterMap Token.atFront? = tokens pieces := by
  induction segmented with
  | nil => rfl
  | reference formed _ ih =>
    rw [write_reference, filterMap_tails_chars_append formed, ih, tokens_reference]
  | @literal char rest plain _ ih =>
    rw [write_literal, List.tails_cons, List.filterMap_cons_none (Token.atFront?_eq_none_iff.2 plain),
      ih, tokens_literal]

end Piece

/-- The scanner lists the tokens of a text as they occur. -/
theorem Token.scan_eq_occurrences (text : String) : scan text = occurrences text := by
  obtain ⟨pieces, segmented, written⟩ := exists_pieces text
  rw [scan_eq_tokens segmented written, occurrences, ← written, segmented.filterMap_tails_write]

end AppBundle
