import AppBundle.Proofs.Distribution.Reference

/-! # Addressing subpaths

The text that is written for the file of a distribution, or for one of its named subpaths, is a well-formed
token, since identifiers are free of the characters that delimit tokens. So it is expanded to the reference
to the file with the subpath behind it. A subpath can be stored under the empty name too, but it can not be
referred to: a token has no empty key, and the text that would be written for it stays as it is.
-/

namespace AppBundle

namespace Token

/-- Where no opening brace stands, no token is found. -/
theorem scanChars_eq_nil {text : List Char} (noOpen : '{' ∉ text) : scanChars text = [] := by
  induction text with
  | nil => exact scanChars_nil
  | cons char rest ih =>
    rw [List.mem_cons, not_or] at noOpen
    rw [scanChars_cons, ih noOpen.2]
    rintro ⟨-, brace⟩
    exact noOpen.2 (List.mem_of_mem_head? brace)

/-- No token has an empty key. -/
theorem scan_emptyKey {id : String} (plain : Plain id.toList) : scan ("#\x7b" ++ id ++ ":\x7d") = [] := by
  obtain ⟨noOpen, noClose, noColon⟩ := plain
  have text : ("#\x7b" ++ id ++ ":\x7d").toList = '#' :: '{' :: ((id.toList ++ [':']) ++ ['}']) := by simp
  have closed : '}' ∉ id.toList ++ [':'] := by simp [noClose]
  have open' : '{' ∉ id.toList ++ [':'] := by simp [noOpen]
  have malformed : parseChars? (id.toList ++ [':']) = none := by
    rw [parseChars?, if_neg open', (cut_append noColon []).2]
    simp
  have unread : readBody? ((id.toList ++ [':']) ++ ['}']) = none := by
    rw [readBody?, (cut_append closed []).2, (cut_append closed []).1, malformed]
    rfl
  rw [scan, text, scanChars_open unread, scanChars_eq_nil]
  simp [noOpen]

variable {m : Type → Type} [Monad m] [LawfulMonad m] (resolve : Token → m (Option String))

/-- A text that is one token is what the resolver puts in its place. -/
theorem expandM_token {token : Token} (formed : token.WellFormed) :
    expandM resolve ("#\x7b" ++ token.inner ++ "\x7d") =
      (fun text? => text?.getD ("#\x7b" ++ token.inner ++ "\x7d")) <$> resolve token := by
  have alone := expandM_append_token resolve "" "" formed
  have empty : expandM resolve "" = pure "" := expandM_eq_pure resolve scanChars_nil
  simpa [empty] using alone

end Token

namespace Distribution

variable {dist : Distribution}

/-- An identifier alone is a token, and so are two around a colon if the second one is not empty. -/
theorem wellFormed_reference (id : Identifier) (key : Option Identifier)
    (named : ∀ name ∈ key, name.text ≠ "") :
    Token.WellFormed ⟨id.text, key.map Identifier.text⟩ where
  id := id.plain_text
  key := by
    intro text member
    obtain ⟨name, given, rfl⟩ := Option.map_eq_some_iff.1 member
    exact ⟨named name given, name.plain_text⟩

theorem subpath?_text (key : Identifier) : dist.subpath? key.text = dist.placeholders.get? key := by
  rw [subpath?, key.parse_text]

/-- The file of a distribution and each subpath with a name that is not empty are expanded from the text
that is written for them. What would be written for the empty name is no token and stays as it is. -/
theorem expand_references (dist : Distribution) :
    (∀ key subpath, (key, subpath) ∈ dist.placeholders.toList → key.text ≠ "" →
      dist.expand ("#\x7b" ++ dist.id.text ++ ":" ++ key.text ++ "\x7d") =
        .ok ("\x7b" ++ dist.file.id ++ "\x7d/" ++ subpath)) ∧
    dist.expand ("#\x7b" ++ dist.id.text ++ "\x7d") = .ok ("\x7b" ++ dist.file.id ++ "\x7d") ∧
    dist.expand ("#\x7b" ++ dist.id.text ++ ":\x7d") = .ok ("#\x7b" ++ dist.id.text ++ ":\x7d") := by
  refine ⟨fun key subpath stored named => ?_, ?_, ?_⟩
  · have formed := wellFormed_reference dist.id (some key) (by simpa using named)
    have present : dist.subpath? key.text = some subpath := by
      rw [subpath?_text, SortedMap.get?_eq_some_iff]
      exact stored
    have replaced : dist.expandToken ⟨dist.id.text, some key.text⟩ =
        .ok (some (dist.file.placeholder ++ "/" ++ subpath)) :=
      expandToken_eq_some_iff.2 ⟨rfl, .inr ⟨key.text, subpath, rfl, present, rfl⟩⟩
    have written := Token.expandM_token dist.expandToken formed
    rw [Option.map_some, replaced, Token.inner_some] at written
    simpa [expand, File.placeholder, String.append_assoc] using written
  · have formed := wellFormed_reference dist.id none nofun
    have replaced : dist.expandToken ⟨dist.id.text, none⟩ = .ok (some dist.file.placeholder) :=
      expandToken_eq_some_iff.2 ⟨rfl, .inl ⟨rfl, rfl⟩⟩
    have written := Token.expandM_token dist.expandToken formed
    rw [Option.map_none, replaced, Token.inner_none] at written
    exact written
  · exact Token.expandM_eq_pure _ (Token.scan_emptyKey dist.id.plain_text)

/-- A distribution under a number sign, with a subpath under a blank and a number sign and another one under
the empty name. -/
def oddlyNamed : Distribution :=
  ofFile ⟨"#", by decide⟩ (.ofName "f\x7b") "u"
    |>.withPlaceholder ⟨" #", by decide⟩ "a#\x7bb\x7d"
    |>.withPlaceholder ⟨"", by decide⟩ "bin"

/-- The subpath is put behind the reference as it is, with the token in it. -/
theorem expand_oddlyNamed :
    (⟨" #", by decide⟩, "a#\x7bb\x7d") ∈ oddlyNamed.placeholders.toList ∧
      oddlyNamed.expand "#\x7b#: #\x7d" = .ok "\x7bf\x7b\x7d/a#\x7bb\x7d" := by
  have stored : (⟨" #", by decide⟩, "a#\x7bb\x7d") ∈ oddlyNamed.placeholders.toList := by decide +kernel
  have id : oddlyNamed.id.text = "#" := rfl
  have fileId : oddlyNamed.file.id = "f\x7b" := rfl
  have written := (expand_references oddlyNamed).1 _ _ stored (by decide)
  rw [id, fileId] at written
  exact ⟨stored, written⟩

/-- The subpath under the empty name is stored and is not what the text with an empty key is expanded to. -/
theorem expand_emptyKey_ne :
    (⟨"", by decide⟩, "bin") ∈ oddlyNamed.placeholders.toList ∧
      oddlyNamed.expand ("#\x7b" ++ oddlyNamed.id.text ++ ":" ++ "" ++ "\x7d") ≠
        .ok ("\x7b" ++ oddlyNamed.file.id ++ "\x7d/" ++ "bin") := by
  have stored : (⟨"", by decide⟩, "bin") ∈ oddlyNamed.placeholders.toList := by decide +kernel
  have kept : oddlyNamed.expand ("#\x7b" ++ oddlyNamed.id.text ++ ":" ++ "" ++ "\x7d") =
      .ok "#\x7b#:\x7d" := by cbv
  have other : oddlyNamed.file.id = "f\x7b" := rfl
  refine ⟨stored, ?_⟩
  rw [kept, other]
  decide

end Distribution

end AppBundle
