import AppBundle.Proofs.Calls
import AppBundle.Proofs.Token.Expansion

/-! # The calls of an expansion

Expanding a text asks the resolver about the tokens that listing finds, one after the other, and puts the
answers in their places. Which of the tokens it declines has no effect on what is asked later. For a
resolver with a state that may fail the calls are noted together with their answers: they are about the
listed tokens, and end with the first one that fails.
-/

namespace AppBundle

namespace Piece

/-- The text of pieces with the answers, in their order, in the places of the references. -/
def fill : List Piece → List (Option String) → List Char
  | [], _ => []
  | literal char :: rest, answers => char :: fill rest answers
  | reference token :: rest, answers =>
    (answers.head?.join.map String.toList).getD token.chars ++ fill rest answers.tail

/-- Expanding pieces is asking about their tokens in turn and filling in the answers. -/
theorem expandAll_eq_mapM {m : Type → Type} [Monad m] [LawfulMonad m]
    (resolve : Token → m (Option String)) (pieces : List Piece) :
    expandAll resolve pieces = fill pieces <$> (tokens pieces).mapM resolve := by
  induction pieces with
  | nil => simp [fill]
  | cons piece rest ih =>
    cases piece with
    | literal char =>
      rw [expandAll_literal, ih, tokens_literal, Functor.map_map]
      rfl
    | reference token =>
      rw [expandAll_reference, ih, tokens_reference, List.mapM_cons]
      simp only [map_bind, map_pure, bind_map_left, fill, List.head?_cons, Option.join_some,
        List.tail_cons]

end Piece

namespace Token

/-- In every monad, expanding a text is asking about its tokens in turn, with one way of filling in the
answers that depends on the text alone. -/
theorem exists_expandM_eq_mapM_scan (text : String) :
    ∃ fill : List (Option String) → String,
      ∀ {m : Type → Type} [Monad m] [LawfulMonad m] (resolve : Token → m (Option String)),
        expandM resolve text = fill <$> (scan text).mapM resolve := by
  obtain ⟨pieces, segmented, written⟩ := exists_pieces text
  refine ⟨String.ofList ∘ Piece.fill pieces, fun resolve => ?_⟩
  rw [expandM_eq_expandAll resolve segmented written, Piece.expandAll_eq_mapM,
    scan_eq_tokens segmented written, Functor.map_map]
  rfl

/-- A question to a resolver and what came of it. -/
structure Call (ε : Type) where
  token : Token
  answer : Except ε (Option String)

variable {ε σ : Type}

/-- The resolver that also notes every call behind those noted before. -/
def recorded (resolve : Token → ExceptT ε (StateM σ) (Option String)) (token : Token) :
    ExceptT ε (StateM (σ × List (Call ε))) (Option String) :=
  ExceptT.mk fun (state, calls) =>
    let (answer, next) := (resolve token).run.run state
    (answer, next, calls ++ [⟨token, answer⟩])

variable (resolve : Token → ExceptT ε (StateM σ) (Option String))

theorem recorded_eq_recording : recorded resolve = recording Call.mk resolve := rfl

/-- What an expansion asks its resolver. Noting the calls changes neither the result nor the state. If the
expansion succeeds, every call got an answer and there is one call for each token that listing finds, in
the same order, whichever of them the resolver declined. Otherwise the calls are about the first of these
tokens, up to and including the first one that fails, with whose error the expansion ends. -/
theorem expandM_calls (text : String) (state : σ) :
    ∃ outcome final calls,
      (expandM resolve text).run.run state = (outcome, final) ∧
      (expandM (recorded resolve) text).run.run (state, []) = (outcome, final, calls) ∧
      ((∃ result, outcome = .ok result) ∧ (∀ call ∈ calls, ∃ text?, call.answer = .ok text?) ∧
          calls.map Call.token = scan text ∨
        ∃ error front token, outcome = .error error ∧ calls = front ++ [⟨token, .error error⟩] ∧
          (∀ call ∈ front, ∃ text?, call.answer = .ok text?) ∧
          front.map Call.token ++ [token] <+: scan text) := by
  obtain ⟨fill, expanded⟩ := exists_expandM_eq_mapM_scan text
  obtain ⟨outcome, final, calls, plain, withCalls, turn⟩ :=
    run_mapM_recording Call.mk resolve (scan text) state []
  rw [← recorded_eq_recording, List.nil_append] at withCalls
  refine ⟨outcome.map fill, final, calls.map fun call => ⟨call.1, call.2⟩, ?_, ?_, ?_⟩
  · rw [expanded, ExceptT.run_map, StateT.run_map, plain]
    rfl
  · rw [expanded, ExceptT.run_map, StateT.run_map, withCalls]
    rfl
  · cases outcome with
    | ok answers =>
      obtain ⟨asked, answered⟩ := turn.of_ok rfl
      refine .inl ⟨⟨_, rfl⟩, List.forall_mem_map.2 fun call member => ?_, ?_⟩
      · have listed : call.2 ∈ answers.map .ok := answered ▸ List.mem_map_of_mem member
        obtain ⟨text?, -, same⟩ := List.mem_map.1 listed
        exact ⟨text?, same.symm⟩
      · rw [List.map_map]
        exact asked
    | error error =>
      obtain ⟨front, token, rfl, succeed, asked⟩ := turn.of_error rfl
      refine .inr ⟨error, front.map fun call => ⟨call.1, call.2⟩, token, rfl, ?_, ?_, ?_⟩
      · rw [List.map_append, List.map_singleton]
      · exact List.forall_mem_map.2 succeed
      · rw [List.map_map]
        exact asked

end Token

end AppBundle
