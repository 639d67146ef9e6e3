import AppBundle.Token
import Mathlib.Data.List.TakeWhile

/-! # The grammar of tokens

A token is well-formed if its id and its key hold neither a brace nor a colon and its key, if there is
one, is not empty. Reading the text between the braces accepts exactly what well-formed tokens write
there, so a token is read from one text only. A token that begins somewhere in a text is delimited by
the first closing brace behind it.
-/

namespace AppBundle.Token

/-- Free of the characters that delimit tokens. -/
def Plain (text : List Char) : Prop := '{' ∉ text ∧ '}' ∉ text ∧ ':' ∉ text

/-- What may stand between the braces of a token, without a reading of it. -/
structure WellFormed (token : Token) : Prop where
  id : Plain token.id.toList
  key : ∀ key ∈ token.key, key ≠ "" ∧ Plain key.toList

/-- A token as it stands in a text. -/
def chars (token : Token) : List Char := '#' :: '{' :: (token.inner.toList ++ ['}'])

/-- A well-formed token occurs in a text. -/
def OccursIn (token : Token) (text : String) : Prop :=
  token.WellFormed ∧ ∃ before behind, text = before ++ String.ofList token.chars ++ behind

theorem inner_none (id : String) : (Token.mk id none).inner = id := rfl

theorem inner_some (id key : String) : (Token.mk id (some key)).inner = id ++ ":" ++ key := rfl

/-- No brace stands between the braces of a well-formed token. -/
theorem WellFormed.braces_notMem_inner {token : Token} (formed : token.WellFormed) :
    '{' ∉ token.inner.toList ∧ '}' ∉ token.inner.toList := by
  obtain ⟨id, key⟩ := token
  obtain ⟨⟨idOpen, idClose, -⟩, keyPlain⟩ := formed
  cases key with
  | none => exact ⟨idOpen, idClose⟩
  | some key =>
    obtain ⟨-, keyOpen, keyClose, -⟩ := keyPlain key rfl
    simp only [inner_some, String.toList_append, List.mem_append, not_or]
    exact ⟨⟨⟨idOpen, by decide⟩, keyOpen⟩, ⟨⟨idClose, by decide⟩, keyClose⟩⟩

/-- The grammar of inner texts, written out for an id and a key. -/
theorem wellFormed_and_inner_iff {inner id : String} {key : Option String} :
    (Token.mk id key).WellFormed ∧ inner = (Token.mk id key).inner ↔
      Plain id.toList ∧ (key = none ∧ inner = id ∨
        ∃ subpath, key = some subpath ∧ subpath ≠ "" ∧ Plain subpath.toList ∧
          inner = id ++ ":" ++ subpath) := by
  constructor
  · rintro ⟨⟨idPlain, keyPlain⟩, rfl⟩
    refine ⟨idPlain, ?_⟩
    cases key with
    | none => exact .inl ⟨rfl, rfl⟩
    | some subpath =>
      obtain ⟨nonempty, plain⟩ := keyPlain subpath rfl
      exact .inr ⟨subpath, rfl, nonempty, plain, rfl⟩
  · rintro ⟨idPlain, ⟨rfl, rfl⟩ | ⟨subpath, rfl, nonempty, plain, rfl⟩⟩
    · exact ⟨⟨idPlain, nofun⟩, rfl⟩
    · refine ⟨⟨idPlain, fun other same => ?_⟩, rfl⟩
      obtain rfl := Option.some.inj same
      exact ⟨nonempty, plain⟩

theorem cut_append {stop : Char} {head : List Char} (free : stop ∉ head) (rest : List Char) :
    (head ++ stop :: rest).takeWhile (· ≠ stop) = head ∧
      (head ++ stop :: rest).dropWhile (· ≠ stop) = stop :: rest := by
  have keeps : ∀ char ∈ head, decide (char ≠ stop) = true := by
    intro char member
    exact decide_eq_true fun same => free (same ▸ member)
  rw [List.takeWhile_append_of_pos keeps, List.dropWhile_append_of_pos keeps]
  simp

private theorem cut_of_dropWhile {stop first : Char} {text rest : List Char}
    (found : text.dropWhile (· ≠ stop) = first :: rest) :
    first = stop ∧ stop ∉ text.takeWhile (· ≠ stop) ∧
      text = text.takeWhile (· ≠ stop) ++ stop :: rest := by
  have stops : first = stop := by
    have nonempty : text.dropWhile (· ≠ stop) ≠ [] := by rw [found]; exact List.cons_ne_nil _ _
    have stopped := List.head_dropWhile_not (fun char => decide (char ≠ stop)) nonempty
    simp only [found, List.head_cons] at stopped
    simpa using stopped
  refine ⟨stops, ?_, ?_⟩
  · intro member
    simpa using List.mem_takeWhile_imp member
  · rw [← stops, ← found, stops]
    exact List.takeWhile_append_dropWhile.symm

/-- What a well-formed token writes between its braces is read as that token. -/
theorem WellFormed.parseChars?_inner {token : Token} (formed : token.WellFormed) :
    parseChars? token.inner.toList = some token := by
  have noOpen := formed.braces_notMem_inner.1
  obtain ⟨id, key⟩ := token
  obtain ⟨⟨-, -, idColon⟩, keyPlain⟩ := formed
  cases key with
  | none =>
    rw [inner_none] at noOpen ⊢
    have whole : id.toList.dropWhile (· ≠ ':') = [] := by
      rw [List.dropWhile_eq_nil_iff]
      intro char member
      exact decide_eq_true fun same => idColon (same ▸ member)
    simp only [parseChars?, if_neg noOpen, whole, String.ofList_toList]
  | some key =>
    obtain ⟨keyNonempty, -, -, keyColon⟩ := keyPlain key rfl
    have split : (Token.mk id (some key)).inner.toList = id.toList ++ ':' :: key.toList := by
      simp [inner_some]
    rw [split] at noOpen ⊢
    obtain ⟨taken, dropped⟩ := cut_append idColon key.toList
    have fit : ¬ (key.toList = [] ∨ ':' ∈ key.toList) := by
      simp [keyNonempty, keyColon]
    simp only [parseChars?, if_neg noOpen, dropped, taken, if_neg fit, String.ofList_toList]

/-- Only well-formed tokens are read, and what was read is what they write. -/
theorem wellFormed_of_parseChars? {inner : List Char} {token : Token} (closed : '}' ∉ inner)
    (read : parseChars? inner = some token) : token.WellFormed ∧ inner = token.inner.toList := by
  unfold parseChars? at read
  split at read
  · cases read
  · next noOpen =>
    split at read
    · next whole =>
      cases read
      have noColon : ':' ∉ inner := fun member => by
        simpa using List.dropWhile_eq_nil_iff.1 whole ':' member
      refine ⟨⟨?_, ?_⟩, ?_⟩
      · rw [String.toList_ofList]
        exact ⟨noOpen, closed, noColon⟩
      · intro key absent
        cases absent
      · rw [inner_none, String.toList_ofList]
    · next colon key found =>
      obtain ⟨-, idColon, whole⟩ := cut_of_dropWhile found
      split at read
      · cases read
      · next fit =>
        cases read
        rw [not_or] at fit
        rw [whole] at noOpen closed
        simp only [List.mem_append, List.mem_cons, not_or] at noOpen closed
        refine ⟨⟨?_, ?_⟩, ?_⟩
        · rw [String.toList_ofList]
          exact ⟨noOpen.1, closed.1, idColon⟩
        · intro other same
          obtain rfl := Option.some.inj same
          rw [String.toList_ofList, ne_eq, String.ofList_eq_empty_iff]
          exact ⟨fit.1, noOpen.2.2, closed.2.2, fit.2⟩
        · simpa [inner_some] using whole

theorem parseChars?_eq_some_iff {inner : List Char} {token : Token} (closed : '}' ∉ inner) :
    parseChars? inner = some token ↔ token.WellFormed ∧ inner = token.inner.toList := by
  constructor
  · exact wellFormed_of_parseChars? closed
  · rintro ⟨formed, rfl⟩
    exact formed.parseChars?_inner

/-- Behind an opening `#{` a token is read exactly if one is written there. -/
theorem readBody?_eq_some_iff {after rest : List Char} {token : Token} :
    readBody? after = some (token, rest) ↔
      token.WellFormed ∧ after = token.inner.toList ++ '}' :: rest := by
  constructor
  · intro read
    unfold readBody? at read
    split at read
    · cases read
    · next brace tail found =>
      obtain ⟨_, parsed, same⟩ := Option.map_eq_some_iff.1 read
      cases same
      obtain ⟨-, closed, whole⟩ := cut_of_dropWhile found
      obtain ⟨formed, inner⟩ := wellFormed_of_parseChars? closed parsed
      exact ⟨formed, inner ▸ whole⟩
  · rintro ⟨formed, rfl⟩
    obtain ⟨taken, dropped⟩ := cut_append formed.braces_notMem_inner.2 rest
    simp only [readBody?, dropped, taken, formed.parseChars?_inner, Option.map_some]

/-- What a token writes behind its opening is read back. -/
theorem WellFormed.readBody?_inner {token : Token} (formed : token.WellFormed) (rest : List Char) :
    readBody? (token.inner.toList ++ '}' :: rest) = some (token, rest) :=
  readBody?_eq_some_iff.2 ⟨formed, rfl⟩

end AppBundle.Token
