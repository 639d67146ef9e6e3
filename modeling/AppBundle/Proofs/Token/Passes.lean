import AppBundle.Proofs.Outcome
import AppBundle.Proofs.Token.Expansion
import Mathlib.Data.List.Chain

/-! # Expanding in several passes

A pass over a text replaces some of its tokens, and the next pass takes apart what the first has left. If
no number sign stands directly in front of a token, and what stands in the place of a token begins with
an opening brace and holds no number sign, then the text after the pass is taken apart where the text
before it was: no token is made, closed or hidden by a replacement. Two passes are then one pass with the
resolver that asks the second one about what the first one declines.
-/

namespace AppBundle

namespace Piece

variable {ε : Type}

/-- The outcome of a pass over pieces that does not fail. -/
inductive Pass (resolve : Token → Except ε (Option String)) : List Piece → List Piece → Prop where
  | nil : Pass resolve [] []
  | literal {char : Char} {pieces results : List Piece} (behind : Pass resolve pieces results) :
    Pass resolve (.literal char :: pieces) (.literal char :: results)
  | declined {token : Token} {pieces results : List Piece} (left : resolve token = .ok none)
    (behind : Pass resolve pieces results) :
    Pass resolve (.reference token :: pieces) (.reference token :: results)
  | replaced {token : Token} {text : String} {pieces results : List Piece}
    (found : resolve token = .ok (some text)) (behind : Pass resolve pieces results) :
    Pass resolve (.reference token :: pieces) (text.toList.map literal ++ results)

/-- No number sign stands directly in front of a token. -/
def Apart (pieces : List Piece) : Prop :=
  pieces.IsChain fun left right => left = .literal '#' → right.token? = none

/-- What a resolver puts in the place of a token begins with an opening brace and holds no number
sign. -/
def Refers (resolve : Token → Except ε (Option String)) : Prop :=
  ∀ token text, resolve token = .ok (some text) →
    text.toList.head? = some '{' ∧ '#' ∉ text.toList

variable {resolve first second : Token → Except ε (Option String)} {pieces results : List Piece}

/-- Expanding pieces succeeds exactly if a pass over them does. -/
theorem expandAll_eq_ok_iff {chars : List Char} :
    expandAll resolve pieces = .ok chars ↔
      ∃ results, Pass resolve pieces results ∧ write results = chars := by
  constructor
  · intro done
    induction pieces generalizing chars with
    | nil =>
      cases done
      exact ⟨[], .nil, rfl⟩
    | cons piece rest ih =>
      cases piece with
      | literal char =>
        rw [expandAll_literal, Except.map_eq_ok_iff] at done
        obtain ⟨tail, done, rfl⟩ := done
        obtain ⟨results, pass, rfl⟩ := ih done
        exact ⟨_, pass.literal, rfl⟩
      | reference token =>
        rw [expandAll_reference] at done
        obtain ⟨text?, asked, done⟩ := Except.bind_eq_ok_iff.1 done
        obtain ⟨tail, behind, done⟩ := Except.bind_eq_ok_iff.1 done
        cases done
        obtain ⟨results, pass, rfl⟩ := ih behind
        cases text? with
        | none => exact ⟨_, pass.declined asked, rfl⟩
        | some text => exact ⟨_, pass.replaced asked, by simp⟩
  · rintro ⟨results, pass, rfl⟩
    induction pass with
    | nil => rfl
    | literal _ ih => rw [expandAll_literal, ih]; rfl
    | declined left _ ih => rw [expandAll_reference, left, ih]; rfl
    | replaced found _ ih => rw [expandAll_reference, found, ih, write_append, write_map_literal]; rfl

/-- A resolver that declines every token among pieces leaves them as they are. -/
theorem Pass.refl (declines : ∀ token ∈ tokens pieces, resolve token = .ok none) :
    Pass resolve pieces pieces := by
  induction pieces with
  | nil => exact .nil
  | cons piece rest ih =>
    cases piece with
    | literal char => exact (ih declines).literal
    | reference token =>
      rw [tokens_reference, List.forall_mem_cons] at declines
      exact (ih declines.2).declined declines.1

/-- Up to the next closing brace a pass leaves everything as it is, if no opening brace stands in
between. -/
theorem Pass.exists_of_closed (pass : Pass resolve pieces results) (refers : Refers resolve)
    {front behind : List Char} (plain : '{' ∉ front)
    (closed : write results = front ++ '}' :: behind) :
    ∃ rest, write pieces = front ++ '}' :: rest := by
  induction pass generalizing front with
  | nil => simp at closed
  | literal _ ih =>
    cases front with
    | nil =>
      obtain ⟨rfl, -⟩ := List.cons.inj closed
      exact ⟨_, rfl⟩
    | cons head front =>
      rw [write_literal, List.cons_append, List.cons.injEq] at closed
      obtain ⟨rest, same⟩ := ih (List.not_mem_of_not_mem_cons plain) closed.2
      exact ⟨rest, by rw [write_literal, closed.1, same, List.cons_append]⟩
  | declined _ _ _ =>
    -- The opening of the token would stand in front of the brace.
    match front with
    | [] => simp [Token.chars] at closed
    | [_] => simp [Token.chars] at closed
    | _ :: second :: _ => simp_all [Token.chars]
  | @replaced token text _ _ found _ _ =>
    obtain ⟨opens, -⟩ := refers token text found
    obtain ⟨tail, same⟩ := List.head?_eq_some_iff.1 opens
    rw [write_append, write_map_literal, same] at closed
    cases front with
    | nil => simp at closed
    | cons head front => simp_all

/-- A token that begins at a character after a pass, and did not before, is read from what the pass has put
behind a number sign. -/
theorem Pass.exists_replaced_of_startsToken (pass : Pass resolve pieces results)
    (refers : Refers resolve) {char : Char} (plain : ¬ StartsToken (char :: write pieces))
    (starts : StartsToken (char :: write results)) :
    char = '#' ∧ ∃ token text rest after, pieces = .reference token :: rest ∧
      resolve token = .ok (some text) ∧ results = text.toList.map .literal ++ after := by
  obtain ⟨rfl, opens⟩ := starts.head
  cases pass with
  | nil => cases opens
  | declined => cases opens
  | replaced found behind => exact ⟨rfl, _, _, _, _, rfl, found, rfl⟩
  | literal behind =>
    -- What closes the token stood there before, and so did the token.
    obtain ⟨token, formed, rest, same⟩ := starts
    simp only [Token.chars, List.cons_append, List.append_assoc, List.cons.injEq, write_literal,
      true_and] at same
    obtain ⟨rfl, closed⟩ := same
    obtain ⟨tail, same⟩ := behind.exists_of_closed refers formed.braces_notMem_inner.1 closed
    exact absurd ⟨token, formed, tail, by simp [Token.chars, same]⟩ plain

theorem segmented_map_literal_append {text : List Char} (free : '#' ∉ text)
    (behind : Segmented pieces) : Segmented (text.map literal ++ pieces) := by
  induction text with
  | nil => exact behind
  | cons char rest ih =>
    rw [List.mem_cons, not_or] at free
    exact .literal (fun starts => free.1 starts.head.1.symm) (ih free.2)

theorem apart_map_literal_append {text : List Char} (free : '#' ∉ text) (behind : Apart pieces) :
    Apart (text.map literal ++ pieces) := by
  induction text with
  | nil => exact behind
  | cons char rest ih =>
    rw [List.mem_cons, not_or] at free
    refine List.isChain_cons.2 ⟨fun _ _ same => ?_, ih free.2⟩
    cases same
    exact absurd rfl free.1

/-- No token stands behind a number sign after a pass if none stood there before. -/
theorem Pass.apart (pass : Pass resolve pieces results) (refers : Refers resolve)
    (apart : Apart pieces) : Apart results := by
  induction pass with
  | nil => exact apart
  | literal behind ih =>
    obtain ⟨next, apart⟩ := List.isChain_cons.1 apart
    refine List.isChain_cons.2 ⟨fun piece member sign => ?_, ih apart⟩
    cases behind with
    | nil => cases member
    | literal => cases member; rfl
    | declined => cases next _ rfl sign
    | replaced => cases next _ rfl sign
  | declined _ _ ih =>
    exact List.isChain_cons.2 ⟨fun _ _ => nofun, ih (List.isChain_cons.1 apart).2⟩
  | replaced found _ ih =>
    exact apart_map_literal_append (refers _ _ found).2 (ih (List.isChain_cons.1 apart).2)

/-- After a pass the text is taken apart where it was taken apart before. -/
theorem Pass.segmented (pass : Pass resolve pieces results) (refers : Refers resolve)
    (apart : Apart pieces) (segmented : Segmented pieces) : Segmented results := by
  induction pass with
  | nil => exact .nil
  | @literal char pieces results behind ih =>
    obtain ⟨next, apart⟩ := List.isChain_cons.1 apart
    cases segmented with
    | literal plain segmented =>
    refine .literal (fun starts => ?_) (ih apart segmented)
    obtain ⟨rfl, _, _, _, _, rfl, -⟩ := behind.exists_replaced_of_startsToken refers plain starts
    cases next _ rfl rfl
  | declined _ _ ih =>
    cases segmented with
    | reference formed segmented => exact .reference formed (ih (List.isChain_cons.1 apart).2 segmented)
  | replaced found _ ih =>
    cases segmented with
    | reference formed segmented =>
      have behind := ih (List.isChain_cons.1 apart).2 segmented
      exact segmented_map_literal_append (refers _ _ found).2 behind

/-- Ask a second resolver about the tokens that the first one declines. -/
def orElse (first second : Token → Except ε (Option String)) (token : Token) :
    Except ε (Option String) := do
  match ← first token with
  | none => second token
  | some text => return some text

theorem orElse_eq_none_iff {token : Token} :
    orElse first second token = .ok none ↔ first token = .ok none ∧ second token = .ok none := by
  rw [orElse]
  rcases first token with error | _ | text
  · exact ⟨nofun, nofun⟩
  · exact (and_iff_right rfl).symm
  · exact ⟨nofun, nofun⟩

theorem orElse_eq_some_iff {token : Token} {text : String} :
    orElse first second token = .ok (some text) ↔
      first token = .ok (some text) ∨ first token = .ok none ∧ second token = .ok (some text) := by
  rw [orElse]
  rcases first token with error | _ | found
  · exact iff_of_false nofun (by simp)
  · simp
  · simp [pure, Except.pure]

theorem pass_map_literal_append_iff {text : List Char} :
    Pass resolve (text.map literal ++ pieces) results ↔
      ∃ rest, results = text.map literal ++ rest ∧ Pass resolve pieces rest := by
  induction text generalizing results with
  | nil => simp
  | cons char text ih =>
    constructor
    · intro pass
      cases pass with
      | literal behind =>
        obtain ⟨rest, rfl, restBehind⟩ := ih.1 behind
        exact ⟨rest, rfl, restBehind⟩
    · rintro ⟨rest, rfl, behind⟩
      exact .literal (ih.2 ⟨rest, rfl, behind⟩)

/-- Two passes are one pass with both resolvers. -/
theorem pass_orElse_iff :
    Pass (orElse first second) pieces results ↔
      ∃ between, Pass first pieces between ∧ Pass second between results := by
  constructor
  · intro pass
    induction pass with
    | nil => exact ⟨[], .nil, .nil⟩
    | literal _ ih =>
      obtain ⟨between, before, behind⟩ := ih
      exact ⟨_, before.literal, behind.literal⟩
    | declined left _ ih =>
      obtain ⟨between, before, behind⟩ := ih
      obtain ⟨none, declined⟩ := orElse_eq_none_iff.1 left
      exact ⟨_, before.declined none, behind.declined declined⟩
    | replaced found _ ih =>
      obtain ⟨between, before, behind⟩ := ih
      rcases orElse_eq_some_iff.1 found with found | ⟨none, found⟩
      · exact ⟨_, before.replaced found, pass_map_literal_append_iff.2 ⟨_, rfl, behind⟩⟩
      · exact ⟨_, before.declined none, behind.replaced found⟩
  · rintro ⟨between, before, behind⟩
    induction before generalizing results with
    | nil =>
      cases behind
      exact .nil
    | literal _ ih =>
      cases behind with
      | literal behind => exact (ih behind).literal
    | declined none _ ih =>
      cases behind with
      | declined left behind => exact (ih behind).declined (orElse_eq_none_iff.2 ⟨none, left⟩)
      | replaced found behind => exact (ih behind).replaced (orElse_eq_some_iff.2 (.inr ⟨none, found⟩))
    | replaced found _ ih =>
      obtain ⟨rest, rfl, restBehind⟩ := pass_map_literal_append_iff.1 behind
      exact (ih restBehind).replaced (orElse_eq_some_iff.2 (.inl found))

end Piece

namespace Token

open Piece

variable {ε : Type} {resolve first second : Token → Except ε (Option String)} {text result : String}

/-- No number sign stands directly in front of a token of a text. -/
def Detached (text : String) : Prop :=
  ∃ pieces, Segmented pieces ∧ Apart pieces ∧ write pieces = text.toList

theorem detached_of_unmarked (free : ¬ "##\x7b".toList <:+: text.toList) : Detached text := by
  obtain ⟨pieces, segmented, written⟩ := exists_pieces text
  refine ⟨pieces, segmented, ?_, written⟩
  rw [Apart, List.isChain_iff_forall_rel_of_append_cons_cons]
  rintro left right front behind rfl rfl
  cases right with
  | literal char => rfl
  | reference token =>
    refine absurd ⟨write front, token.inner.toList ++ '}' :: write behind, ?_⟩ free
    simp [← written, Token.chars]

theorem expandM_eq_ok_iff {pieces : List Piece} (segmented : Segmented pieces)
    (written : write pieces = text.toList) :
    expandM resolve text = .ok result ↔
      ∃ results, Pass resolve pieces results ∧ write results = result.toList := by
  rw [expandM_eq_expandAll resolve segmented written, Except.map_eq_ok_iff]
  simp only [expandAll_eq_ok_iff]
  constructor
  · rintro ⟨_, ⟨results, pass, rfl⟩, rfl⟩
    exact ⟨results, pass, String.toList_ofList.symm⟩
  · rintro ⟨results, pass, same⟩
    exact ⟨_, ⟨results, pass, rfl⟩, by rw [same, String.ofList_toList]⟩

/-- A text remains detached when it is expanded. -/
theorem Detached.of_expandM (detached : Detached text) (refers : Refers resolve)
    (done : expandM resolve text = .ok result) : Detached result := by
  obtain ⟨pieces, segmented, apart, written⟩ := detached
  obtain ⟨results, pass, same⟩ := (expandM_eq_ok_iff segmented written).1 done
  exact ⟨results, pass.segmented refers apart segmented, pass.apart refers apart, same⟩

/-- Expanding a detached text with two resolvers in turn is expanding it once with both. -/
theorem Detached.expandM_orElse (detached : Detached text) (refers : Refers first) :
    expandM (orElse first second) text = .ok result ↔
      ∃ between, expandM first text = .ok between ∧ expandM second between = .ok result := by
  obtain ⟨pieces, segmented, apart, written⟩ := detached
  simp only [expandM_eq_ok_iff segmented written, pass_orElse_iff]
  constructor
  · rintro ⟨results, ⟨between, before, behind⟩, same⟩
    have done := before.segmented refers apart segmented
    refine ⟨String.ofList (write between), ⟨between, before, String.toList_ofList.symm⟩, ?_⟩
    exact (expandM_eq_ok_iff done String.toList_ofList.symm).2 ⟨results, behind, same⟩
  · rintro ⟨middle, ⟨between, before, same⟩, expanded⟩
    have done := before.segmented refers apart segmented
    obtain ⟨results, behind, written⟩ := (expandM_eq_ok_iff done same).1 expanded
    exact ⟨results, ⟨between, before, behind⟩, written⟩

end Token

end AppBundle
