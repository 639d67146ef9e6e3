/-! # Placeholder tokens

A token is written `#{id}` or `#{id:key}` inside a text. This module reads what stands between the
braces, lists the tokens of a text and expands a text token by token. Listing and expanding are two
recursions over the characters: expanding asks a resolver, which may have effects and may decline a
token, and never reads again what it has put into the text.
-/

namespace AppBundle

/-- A reference to a distribution by id, or to one of its named subpaths. -/
structure Token where
  id : String
  key : Option String
deriving DecidableEq, Repr

namespace Token

/-- What is written between the braces of a token. -/
def inner (token : Token) : String :=
  match token.key with
  | none => token.id
  | some key => token.id ++ ":" ++ key

/-- Read the text between the braces, which holds no closing brace: an id, or an id and a key
around one colon. An opening brace, an empty key and a second colon are refused. -/
def parseChars? (inner : List Char) : Option Token :=
  if '{' ∈ inner then none
  else match inner.dropWhile (· ≠ ':') with
    | [] => some ⟨String.ofList inner, none⟩
    | _ :: key =>
      if key = [] ∨ ':' ∈ key then none
      else some ⟨String.ofList (inner.takeWhile (· ≠ ':')), some (String.ofList key)⟩

/-- Read the text between the braces of a token. -/
def parse? (inner : String) : Option Token := parseChars? inner.toList

/-- With `after` the text behind an opening `#{`, the token that ends at the first closing brace
and the text behind that brace. -/
def readBody? (after : List Char) : Option (Token × List Char) :=
  match after.dropWhile (· ≠ '}') with
  | [] => none
  | _ :: rest => (parseChars? (after.takeWhile (· ≠ '}'))).map (·, rest)

theorem length_lt_of_readBody? {after rest : List Char} {token : Token}
    (read : readBody? after = some (token, rest)) : rest.length < after.length := by
  unfold readBody? at read
  split at read
  · simp at read
  · next brace tail found =>
    obtain ⟨_, _, same⟩ := Option.map_eq_some_iff.1 read
    have bound := (List.dropWhile_sublist (· ≠ '}') (l := after)).length_le
    rw [found] at bound
    simp only [Prod.mk.injEq] at same
    simp only [← same.2, List.length_cons] at bound ⊢
    omega

/-- The well-formed tokens of a text, in order of appearance. -/
def scanChars : List Char → List Token
  | [] => []
  | '#' :: '{' :: after =>
    match _read : readBody? after with
    | some (token, rest) => token :: scanChars rest
    | none => scanChars after
  | _ :: rest => scanChars rest
termination_by text => text.length
decreasing_by
  · have := length_lt_of_readBody? _read; simp only [List.length_cons]; omega
  · simp only [List.length_cons]; omega
  · simp only [List.length_cons]; omega

/-- The well-formed tokens of a text, in order of appearance. -/
def scan (text : String) : List Token := scanChars text.toList

@[simp] theorem scanChars_nil : scanChars [] = [] := by rw [scanChars]

theorem scanChars_token {after rest : List Char} {token : Token}
    (read : readBody? after = some (token, rest)) :
    scanChars ('#' :: '{' :: after) = token :: scanChars rest := by
  rw [scanChars]
  split
  · next found => cases read.symm.trans found; rfl
  · next absent => cases read.symm.trans absent

theorem scanChars_open {after : List Char} (unread : readBody? after = none) :
    scanChars ('#' :: '{' :: after) = scanChars after := by
  rw [scanChars]
  split
  · next found => cases unread.symm.trans found
  · rfl

theorem scanChars_cons {char : Char} {rest : List Char}
    (plain : ¬ (char = '#' ∧ rest.head? = some '{')) :
    scanChars (char :: rest) = scanChars rest := by
  rw [scanChars]
  rintro after rfl rfl
  exact plain ⟨rfl, rfl⟩

variable {m : Type → Type} [Monad m]

/-- Replace every token for which the resolver has a text. What the resolver declines and what is
no token stays as it is; only the opening `#{` of a declined token is passed over, so a token may
begin inside it. -/
def expandChars (resolve : Token → m (Option String)) : List Char → m (List Char)
  | [] => pure []
  | '#' :: '{' :: after =>
    match _read : readBody? after with
    | some (token, rest) => do
      match ← resolve token with
      | some text => return text.toList ++ (← expandChars resolve rest)
      | none => return '#' :: '{' :: (← expandChars resolve after)
    | none => return '#' :: '{' :: (← expandChars resolve after)
  | char :: rest => return char :: (← expandChars resolve rest)
termination_by text => text.length
decreasing_by
  · have := length_lt_of_readBody? _read; simp only [List.length_cons]; omega
  · simp only [List.length_cons]; omega
  · simp only [List.length_cons]; omega
  · simp only [List.length_cons]; omega

@[simp] theorem expandChars_nil (resolve : Token → m (Option String)) :
    expandChars resolve [] = pure [] := by rw [expandChars]

theorem expandChars_token (resolve : Token → m (Option String)) {after rest : List Char}
    {token : Token} (read : readBody? after = some (token, rest)) :
    expandChars resolve ('#' :: '{' :: after) = (do
      match ← resolve token with
      | some text => return text.toList ++ (← expandChars resolve rest)
      | none => return '#' :: '{' :: (← expandChars resolve after)) := by
  rw [expandChars]
  split
  · next found => cases read.symm.trans found; rfl
  · next absent => cases read.symm.trans absent

theorem expandChars_open (resolve : Token → m (Option String)) {after : List Char}
    (unread : readBody? after = none) :
    expandChars resolve ('#' :: '{' :: after) =
      (do return '#' :: '{' :: (← expandChars resolve after)) := by
  rw [expandChars]
  split
  · next found => cases unread.symm.trans found
  · rfl

theorem expandChars_cons (resolve : Token → m (Option String)) {char : Char} {rest : List Char}
    (plain : ¬ (char = '#' ∧ rest.head? = some '{')) :
    expandChars resolve (char :: rest) = (do return char :: (← expandChars resolve rest)) := by
  rw [expandChars]
  rintro after rfl rfl
  exact plain ⟨rfl, rfl⟩

/-- Replace every token of a text for which the resolver has a text, in one pass from the left. -/
def expandM (resolve : Token → m (Option String)) (text : String) : m String :=
  String.ofList <$> expandChars resolve text.toList

end Token

end AppBundle
