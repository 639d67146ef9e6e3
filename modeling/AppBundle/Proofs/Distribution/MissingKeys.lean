import AppBundle.Proofs.Collection
import AppBundle.Proofs.Distribution.Addressing
import AppBundle.Proofs.Token.Calls

/-! # Missing subpaths

A distribution refuses a text exactly if one of its tokens names a subpath that the distribution lacks, and
the error names the first such key. What stands in a token is always good enough for a key, so every error
can be repaired: once a subpath is stored under the named key, that key is never missed again, and tokens
that were expanded before are expanded as before.
-/

namespace AppBundle

namespace Token

variable {m : Type → Type} [Monad m] [LawfulMonad m] {first second : Token → m (Option String)}
  {text : String}

/-- Resolvers that agree on the tokens of a text expand it alike. -/
theorem expandM_congr (agree : ∀ token ∈ scan text, first token = second token) :
    expandM first text = expandM second text := by
  obtain ⟨fill, expanded⟩ := exists_expandM_eq_mapM_scan text
  have answers : (scan text).mapM first = (scan text).mapM second := by
    generalize scan text = tokens at agree
    induction tokens with
    | nil => rfl
    | cons token rest ih =>
      rw [List.forall_mem_cons] at agree
      rw [List.mapM_cons, List.mapM_cons, agree.1, ih agree.2]
  rw [expanded, expanded, answers]

/-- The key of a token that is found in a text can be taken as an identifier. -/
theorem exists_parse_of_mem_scan {token : Token} {key : String} (found : token ∈ scan text)
    (named : token.key = some key) : key ≠ "" ∧ ∃ name, Identifier.parse key = .ok name := by
  obtain ⟨formed, -⟩ := mem_scan_iff.1 found
  obtain ⟨nonempty, plain⟩ := formed.key key named
  exact ⟨nonempty, Identifier.exists_parse_iff.2 plain⟩

end Token

namespace Distribution

variable {dist : Distribution} {token : Token} {text key : String} {error : ModelError}

/-- A key is the first one in a text that a distribution lacks: it stands in a token that refers to the
distribution, and no token in front of this one has such a key. -/
def FirstLacking (dist : Distribution) (key text : String) : Prop :=
  ∃ before token after, Token.scan text = before ++ token :: after ∧
    (∀ other ∈ before, ¬ dist.Lacks other) ∧ dist.Lacks token ∧ token.key = some key

theorem lacks_iff :
    dist.Lacks token ↔ token.id = dist.id.text ∧
      ∃ key, token.key = some key ∧ dist.subpath? key = none := by
  simp only [Lacks, subpath?_eq_none_iff]

/-- A token passes exactly if the distribution has the subpath that it names. -/
theorem expandToken_passes_iff :
    (∃ text?, dist.expandToken token = .ok text?) ↔ ¬ dist.Lacks token := by
  simp only [Except.exists_eq_ok_iff, ne_eq, expandToken_eq_error_iff]
  constructor
  · intro passes lacks
    have ⟨_, key, named, _⟩ := lacks
    exact passes _ ⟨lacks, key, named, rfl⟩
  · rintro present error ⟨lacks, -⟩
    exact present lacks

/-- Expanding a text fails with the first key in it that the distribution lacks, and with nothing else. -/
theorem expand_eq_error_iff :
    dist.expand text = .error error ↔
      ∃ key, dist.FirstLacking key text ∧ error = .unknownPlaceholder dist.id.text key := by
  simp only [expand, Token.expandM_eq_error_iff, FailsFirst, expandToken_passes_iff,
    expandToken_eq_error_iff]
  constructor
  · rintro ⟨before, token, after, found, sound, lacks, key, named, rfl⟩
    exact ⟨key, ⟨before, token, after, found, sound, lacks, named⟩, by rw [lacks.1]⟩
  · rintro ⟨key, ⟨before, token, after, found, sound, lacks, named⟩, rfl⟩
    exact ⟨before, token, after, found, sound, lacks, key, named, by rw [lacks.1]⟩

/-- Expanding a text succeeds exactly if the distribution has all subpaths that its tokens name. -/
theorem expand_passes_iff :
    (∃ result, dist.expand text = .ok result) ↔ ∀ token ∈ Token.scan text, ¬ dist.Lacks token := by
  rw [Except.exists_eq_ok_iff]
  simp only [expand, ne_eq, Token.expandM_eq_error_iff]
  rw [← forall_ok_iff]
  simp only [expandToken_passes_iff]

section Stored

variable {name : Identifier} {subpath : String}

/-- Storing a subpath changes what is found under its own name only. -/
theorem subpath?_withPlaceholder :
    (dist.withPlaceholder name subpath).subpath? key =
      if key = name.text then some subpath else dist.subpath? key := by
  unfold subpath? withPlaceholder
  cases parsed : Identifier.parse key with
  | ok other =>
    obtain rfl := Identifier.text_of_parse parsed
    have same : other.text = name.text ↔ other = name := ⟨Identifier.text_inj, congrArg _⟩
    simp only [SortedMap.get?_insert, Std.compare_eq_iff_eq, same]
  | error refused =>
    have other : key ≠ name.text := by
      rintro rfl
      rw [Identifier.parse_text] at parsed
      cases parsed
    rw [if_neg other]

/-- What is still missed names another key. -/
theorem lacks_withPlaceholder_iff :
    (dist.withPlaceholder name subpath).Lacks token ↔ dist.Lacks token ∧ token.key ≠ some name.text := by
  simp only [lacks_iff, subpath?_withPlaceholder]
  constructor
  · rintro ⟨own, key, named, absent⟩
    by_cases same : key = name.text
    · simp [same] at absent
    · rw [if_neg same] at absent
      refine ⟨⟨own, key, named, absent⟩, ?_⟩
      rw [named]
      exact fun clash => same (Option.some.inj clash)
  · rintro ⟨⟨own, key, named, absent⟩, other⟩
    have apart : key ≠ name.text := fun same => other (named.trans (congrArg some same))
    exact ⟨own, key, named, by rw [if_neg apart, absent]⟩

/-- A token with another key, or without one, is expanded as before. -/
theorem expandToken_withPlaceholder (other : token.key ≠ some name.text) :
    (dist.withPlaceholder name subpath).expandToken token = dist.expandToken token := by
  unfold expandToken
  cases named : token.key with
  | none => rfl
  | some key =>
    have apart : key ≠ name.text := fun same => other (named.trans (congrArg some same))
    simp only [subpath?_withPlaceholder, if_neg apart]
    rfl

/-- Where the new name is not stored yet, every token that passes is expanded as before. -/
theorem expandToken_withPlaceholder_of_fresh (fresh : name ∉ dist.placeholders.keys)
    (passes : ¬ dist.Lacks token) :
    (dist.withPlaceholder name subpath).expandToken token = dist.expandToken token := by
  by_cases other : token.key = some name.text
  · -- With the new name for its key the token can only refer to another distribution.
    have absent : dist.subpath? name.text = none := by
      rw [subpath?_text, Option.eq_none_iff_forall_ne_some]
      exact fun subpath found => fresh (SortedMap.mem_keys_iff.2 ⟨subpath, found⟩)
    have foreign : token.id ≠ dist.id.text := by
      intro own
      exact passes (lacks_iff.2 ⟨own, name.text, other, absent⟩)
    rw [expandToken_of_ne foreign]
    exact expandToken_of_ne foreign
  · exact expandToken_withPlaceholder other

/-- A key under which a subpath is stored is not the one that is missed. -/
theorem key_ne_of_expand_withPlaceholder
    (failed : (dist.withPlaceholder name subpath).expand text = .error error) :
    ∃ other, other ≠ name.text ∧ error = .unknownPlaceholder dist.id.text other := by
  obtain ⟨other, ⟨_, token, _, _, _, lacks, named⟩, rfl⟩ := expand_eq_error_iff.1 failed
  refine ⟨other, ?_, rfl⟩
  rintro rfl
  exact (lacks_withPlaceholder_iff.1 lacks).2 named

/-- A text that is expanded without a subpath is expanded alike with it. -/
theorem expand_withPlaceholder_of_fresh {result : String} (fresh : name ∉ dist.placeholders.keys)
    (done : dist.expand text = .ok result) :
    (dist.withPlaceholder name subpath).expand text = .ok result := by
  rw [← done]
  apply Token.expandM_congr
  intro token found
  exact expandToken_withPlaceholder_of_fresh fresh (expand_passes_iff.1 ⟨result, done⟩ token found)

end Stored

/-- What goes wrong when a text is expanded, and how it is put right. Expanding fails exactly if some token
of the text refers to the distribution and has a key that it lacks, and the error names the first such key.
This key is not empty and is an identifier. Once a subpath is stored under it, expanding succeeds or fails
with another key. Where expanding succeeds, storing a subpath under a new key does not change the result. -/
theorem expand_missing (dist : Distribution) (text : String) :
    ((∃ error, dist.expand text = .error error) ↔ ∃ token ∈ Token.scan text, dist.Lacks token) ∧
    (∀ error, dist.expand text = .error error ↔
      ∃ key, dist.FirstLacking key text ∧ error = .unknownPlaceholder dist.id.text key) ∧
    (∀ key, dist.FirstLacking key text →
      key ≠ "" ∧ ∃ name, Identifier.parse key = .ok name ∧ ∀ subpath error,
        (dist.withPlaceholder name subpath).expand text = .error error →
          ∃ other, other ≠ key ∧ error = .unknownPlaceholder dist.id.text other) ∧
    ∀ result, dist.expand text = .ok result →
      ∀ name subpath, name ∉ dist.placeholders.keys →
        (dist.withPlaceholder name subpath).expand text = .ok result := by
  refine ⟨?_, fun error => expand_eq_error_iff, ?_, ?_⟩
  · rw [← not_iff_not, not_exists]
    refine Except.exists_eq_ok_iff.symm.trans (expand_passes_iff.trans ?_)
    push Not
    rfl
  · rintro key ⟨before, token, after, found, -, -, named⟩
    have member : token ∈ Token.scan text := found ▸ List.mem_append_right _ (List.mem_cons_self ..)
    obtain ⟨nonempty, name, parsed⟩ := Token.exists_parse_of_mem_scan member named
    refine ⟨nonempty, name, parsed, ?_⟩
    intro subpath error failed
    rw [← Identifier.text_of_parse parsed]
    exact key_ne_of_expand_withPlaceholder failed
  · intro result done name subpath fresh
    exact expand_withPlaceholder_of_fresh fresh done

/-- A distribution with one subpath. -/
def jdk : Distribution :=
  ofFile ⟨"jdk", by decide⟩ (.ofName "jdk.zip") "u/jdk.zip"
    |>.withPlaceholder ⟨"java", by decide⟩ "bin/java"

/-- An opening that is not closed, a token of another distribution, one that is expanded, one that is not
well-formed, and two with keys that are missing. -/
def partlyMissing : String :=
  "#\x7b#\x7bjs:doc\x7d#\x7bjdk:java\x7d#\x7bjdk:\x7d#\x7bjdk:doc\x7d#\x7bjdk:lib\x7d"

/-- The first missing key is named and is not missed any more once it is stored, and a token that was
expanded without it is expanded as before. -/
theorem expand_partlyMissing :
    jdk.FirstLacking "doc" partlyMissing ∧
      jdk.expand partlyMissing = .error (.unknownPlaceholder "jdk" "doc") ∧
      (jdk.withPlaceholder ⟨"doc", by decide⟩ "d").expand partlyMissing ≠
        .error (.unknownPlaceholder "jdk" "doc") ∧
      jdk.expand "#\x7bjdk:java\x7d" = .ok "\x7bjdk.zip\x7d/bin/java" ∧
      (jdk.withPlaceholder ⟨"doc", by decide⟩ "d").expand "#\x7bjdk:java\x7d" =
        .ok "\x7bjdk.zip\x7d/bin/java" := by
  obtain ⟨-, fails, repaired, -⟩ := expand_missing jdk partlyMissing
  have found : Token.scan partlyMissing = [⟨"js", some "doc"⟩, ⟨"jdk", some "java"⟩] ++
      ⟨"jdk", some "doc"⟩ :: [⟨"jdk", some "lib"⟩] := by cbv
  have stored : jdk.placeholders.toList = [(⟨"java", by decide⟩, "bin/java")] := by decide +kernel
  have first : jdk.FirstLacking "doc" partlyMissing := by
    refine ⟨_, _, _, found, ?_, ⟨rfl, "doc", rfl, ?_⟩, rfl⟩
    · intro other member
      rcases List.mem_pair.1 member with rfl | rfl
      · exact fun lacks => absurd lacks.1 (by decide)
      · rintro ⟨-, key, ⟨⟩, absent⟩
        exact absent _ (stored ▸ List.mem_singleton_self _) rfl
    · rw [stored]
      decide
  obtain ⟨-, name, parsed, again⟩ := repaired "doc" first
  obtain rfl : ⟨"doc", by decide⟩ = name := Except.ok.inj parsed
  have done : jdk.expand "#\x7bjdk:java\x7d" = .ok "\x7bjdk.zip\x7d/bin/java" := by decide +kernel
  have fresh : (⟨"doc", by decide⟩ : Identifier) ∉ jdk.placeholders.keys := by decide +kernel
  refine ⟨first, (fails _).2 ⟨"doc", first, rfl⟩, ?_, done, ?_⟩
  · intro failed
    obtain ⟨other, different, same⟩ := again "d" _ failed
    cases same
    exact different rfl
  · exact (expand_missing jdk _).2.2.2 _ done _ "d" fresh

end Distribution

end AppBundle
