import AppBundle.Distribution
import AppBundle.Proofs.Outcome
import AppBundle.Proofs.Token.Expansion

/-! # References to distributions

A token refers to a distribution by its id. It is replaced by a reference to the file, with the named
subpath behind it, and is refused if there is no such subpath. Expanding a text fails on the first token
that is refused. Among distributions with different ids each token refers to one at most, so that the
order in which they are listed has no effect.
-/

namespace AppBundle

section Failure

variable {ε : Type} {resolve : Token → Except ε (Option String)} {error : ε}

theorem Piece.expandAll_eq_error_iff {pieces : List Piece} :
    expandAll resolve pieces = .error error ↔ FailsFirst resolve error (tokens pieces) := by
  induction pieces with
  | nil => simp [pure, Except.pure]
  | cons piece rest ih =>
    cases piece with
    | literal char => rw [expandAll_literal, Except.map_eq_error_iff, ih, tokens_literal]
    | reference token =>
      rw [expandAll_reference, Except.bind_eq_error_iff, tokens_reference, failsFirst_cons, ← ih]
      simp only [bind_pure_comp, Except.map_eq_error_iff, exists_and_right]

/-- Expanding a text fails on the first of its tokens on which the resolver fails. -/
theorem Token.expandM_eq_error_iff {text : String} :
    expandM resolve text = .error error ↔ FailsFirst resolve error (scan text) := by
  obtain ⟨pieces, segmented, written⟩ := exists_pieces text
  rw [expandM_eq_expandAll resolve segmented written, Except.map_eq_error_iff,
    Piece.expandAll_eq_error_iff, scan_eq_tokens segmented written]

end Failure

/-- Identifiers with the same text are equal. -/
theorem Identifier.text_inj {left right : Identifier} (same : left.text = right.text) :
    left = right := by
  cases left; cases right; congr

/-- The text of an identifier has no character that delimits tokens. -/
theorem Identifier.plain_text (identifier : Identifier) : Token.Plain identifier.text.toList := by
  have allowed := List.all_eq_true.1 identifier.plain
  refine ⟨fun member => ?_, fun member => ?_, fun member => ?_⟩
  · exact absurd (allowed _ member) (by decide)
  · exact absurd (allowed _ member) (by decide)
  · exact absurd (allowed _ member) (by decide)

/-- A text is an identifier exactly if it has no character that delimits tokens. -/
theorem Identifier.exists_parse_iff {text : String} :
    (∃ identifier, parse text = .ok identifier) ↔ Token.Plain text.toList := by
  constructor
  · rintro ⟨identifier, parsed⟩
    rw [← text_of_parse parsed]
    exact identifier.plain_text
  · rintro ⟨noOpen, noClose, noColon⟩
    have plain : text.toList.all (fun char => !reservedInIdentifier char) = true := by
      rw [List.all_eq_true]
      intro char member
      simp only [reservedInIdentifier, Bool.not_eq_true', Bool.or_eq_false_iff, decide_eq_false_iff_not]
      exact ⟨⟨fun same => noOpen (same ▸ member), fun same => noClose (same ▸ member)⟩,
        fun same => noColon (same ▸ member)⟩
    exact ⟨⟨text, plain⟩, dif_pos plain⟩

namespace Distribution

/-- A token refers to a distribution and names a subpath that it does not have. -/
def Lacks (dist : Distribution) (token : Token) : Prop :=
  token.id = dist.id.text ∧
    ∃ key, token.key = some key ∧ ∀ entry ∈ dist.placeholders.toList, entry.1.text ≠ key

theorem subpath?_eq_none_iff {dist : Distribution} {key : String} :
    dist.subpath? key = none ↔ ∀ entry ∈ dist.placeholders.toList, entry.1.text ≠ key := by
  have found (identifier : Identifier) : dist.placeholders.get? identifier = none ↔
      ∀ entry ∈ dist.placeholders.toList, entry.1 ≠ identifier := by
    rw [Option.eq_none_iff_forall_ne_some]
    constructor
    · rintro none ⟨name, subpath⟩ member rfl
      exact none subpath ((SortedMap.get?_eq_some_iff _).2 member)
    · intro apart subpath present
      exact apart _ ((SortedMap.get?_eq_some_iff _).1 present) rfl
  unfold subpath?
  split
  · next identifier parsed =>
    rw [found, ← Identifier.text_of_parse parsed]
    have texts (name : Identifier) : name = identifier ↔ name.text = identifier.text :=
      ⟨congrArg _, Identifier.text_inj⟩
    simp only [ne_eq, texts]
  · next refused =>
    refine iff_of_true rfl ?_
    rintro ⟨name, subpath⟩ - rfl
    rw [Identifier.parse_text] at refused
    cases refused

variable {dist : Distribution} {token : Token}

/-- A token of another distribution is declined. -/
theorem expandToken_of_ne (other : token.id ≠ dist.id.text) : dist.expandToken token = .ok none := by
  rw [expandToken, if_pos other]

/-- A token is refused exactly if it names a subpath that its distribution lacks. -/
theorem expandToken_eq_error_iff {error : ModelError} :
    dist.expandToken token = .error error ↔
      dist.Lacks token ∧ ∃ key, token.key = some key ∧ error = .unknownPlaceholder token.id key := by
  by_cases same : token.id = dist.id.text
  · rw [expandToken, if_neg (not_not.2 same)]
    cases asked : token.key with
    | none => simp
    | some key =>
      have lacks_iff : dist.Lacks token ↔ dist.subpath? key = none := by
        simp [Lacks, same, asked, subpath?_eq_none_iff]
      cases present : dist.subpath? key <;> simp [lacks_iff, present, same, eq_comm]
  · rw [expandToken_of_ne same]
    simp [Lacks, same]

/-- What is put in the place of a token begins with the reference to the file. -/
theorem expandToken_eq_some_iff {text : String} :
    dist.expandToken token = .ok (some text) ↔ token.id = dist.id.text ∧
      (token.key = none ∧ text = dist.file.placeholder ∨
        ∃ key subpath, token.key = some key ∧ dist.subpath? key = some subpath ∧
          text = dist.file.placeholder ++ "/" ++ subpath) := by
  by_cases same : token.id = dist.id.text
  · rw [expandToken, if_neg (not_not.2 same)]
    cases asked : token.key with
    | none => simp [same, eq_comm]
    | some key => cases present : dist.subpath? key <;> simp [same, present, eq_comm]
  · rw [expandToken_of_ne same]
    simp [same]

theorem exists_tail_of_expandToken {text : String}
    (replaced : dist.expandToken token = .ok (some text)) :
    ∃ tail, text = dist.file.placeholder ++ tail := by
  obtain ⟨-, ⟨-, whole⟩ | ⟨key, subpath, -, -, below⟩⟩ := expandToken_eq_some_iff.1 replaced
  · exact ⟨"", by rw [whole, String.append_empty]⟩
  · exact ⟨"/" ++ subpath, by rw [below, String.append_assoc]⟩

variable {dists : List Distribution}

/-- Among distributions with different ids a token is expanded by the one that it refers to. -/
theorem expandTokenAmong_of_mem (distinct : (dists.map Distribution.id).Nodup)
    (member : dist ∈ dists) (same : token.id = dist.id.text) :
    expandTokenAmong dists token = dist.expandToken token := by
  have found : dists.find? (·.id.text = token.id) = some dist := by
    induction dists with
    | nil => cases member
    | cons head rest ih =>
      obtain ⟨fresh, distinct⟩ := List.nodup_cons.1 (List.map_cons ▸ distinct)
      rcases List.mem_cons.1 member with rfl | member
      · rw [List.find?_cons_of_pos (by simp [same])]
      · have apart : head.id.text ≠ token.id := fun clash =>
          fresh (Identifier.text_inj (clash.trans same) ▸ List.mem_map_of_mem member)
        rw [List.find?_cons_of_neg (by simpa using apart), ih distinct member]
  rw [expandTokenAmong, found]

/-- A token that refers to none of the distributions is declined. -/
theorem expandTokenAmong_of_forall_ne (other : ∀ dist ∈ dists, token.id ≠ dist.id.text) :
    expandTokenAmong dists token = .ok none := by
  have absent : dists.find? (·.id.text = token.id) = none := by
    rw [List.find?_eq_none]
    intro dist member same
    exact other dist member (by simpa [eq_comm] using same)
  rw [expandTokenAmong, absent]

/-- A token that is replaced refers to one of the distributions, and the text in its place begins with
the reference to the file. -/
theorem exists_mem_of_expandTokenAmong (distinct : (dists.map Distribution.id).Nodup) {text : String}
    (replaced : expandTokenAmong dists token = .ok (some text)) :
    ∃ dist ∈ dists, token.id = dist.id.text ∧ ∃ tail, text = dist.file.placeholder ++ tail := by
  by_cases known : ∃ dist ∈ dists, token.id = dist.id.text
  · obtain ⟨dist, member, own⟩ := known
    rw [expandTokenAmong_of_mem distinct member own] at replaced
    exact ⟨dist, member, own, exists_tail_of_expandToken replaced⟩
  · push Not at known
    rw [expandTokenAmong_of_forall_ne known] at replaced
    cases replaced

/-- In an expanded text the expansion of a token, or the token itself if it is declined, stands between the
expansions of the texts around it. -/
theorem exists_of_expandAmong_eq_ok {before behind expanded : String} {text? : Option String}
    (formed : token.WellFormed) (answered : expandTokenAmong dists token = .ok text?)
    (done : expandAmong dists (before ++ ("#\x7b" ++ token.inner ++ "\x7d") ++ behind) =
      .ok expanded) :
    ∃ front back, expandAmong dists before = .ok front ∧ expandAmong dists behind = .ok back ∧
      expanded = front ++ text?.getD ("#\x7b" ++ token.inner ++ "\x7d") ++ back := by
  rw [expandAmong, Token.expandM_append_token _ _ _ formed, answered] at done
  obtain ⟨front, frontDone, done⟩ := Except.bind_eq_ok_iff.1 done
  rw [Except.ok_bind] at done
  obtain ⟨back, backDone, done⟩ := Except.bind_eq_ok_iff.1 done
  cases done
  exact ⟨front, back, frontDone, backDone, rfl⟩

end Distribution

end AppBundle
