import AppBundle.Proofs.Distribution.MissingKeys
import AppBundle.Proofs.Distribution.Passes
import AppBundle.Proofs.Token.Seams

/-! # Expanding twice

A distribution that inserts no number sign leaves an expanded text as it is, with one exception. In front of
a token of the distribution there may stand one more number sign, which is copied. It makes an opening with
the brace that the reference to the file begins with, so that this reference is read as a token. If the id
of the file is the id of the distribution, or this id with a key behind a colon, the token refers to the
distribution itself, and the second pass replaces it or fails on its key.
-/

namespace AppBundle.Distribution

open Piece Token

/-- Behind a number sign the reference to the file is read as a token of the distribution. -/
def ReadsBack (dist : Distribution) : Prop :=
  ∃ token ∈ scan ("#" ++ dist.file.placeholder), token.id = dist.id.text

/-- A number sign stands directly in front of a token of a text that refers to a distribution. -/
def MarkedIn (dist : Distribution) (text : String) : Prop :=
  ∃ token ∈ scan text, token.id = dist.id.text ∧ '#' :: token.chars <:+: text.toList

instance (dist : Distribution) : Decidable dist.ReadsBack :=
  inferInstanceAs (Decidable (∃ token ∈ scan ("#" ++ dist.file.placeholder), token.id = dist.id.text))

instance (dist : Distribution) (text : String) : Decidable (dist.MarkedIn text) :=
  inferInstanceAs (Decidable (∃ token ∈ scan text,
    token.id = dist.id.text ∧ '#' :: token.chars <:+: text.toList))

variable {dist : Distribution} {token : Token} {text once : String}

theorem closes_expandToken : Closes dist.expandToken := by
  intro token text replaced
  obtain ⟨tail, rfl⟩ := exists_tail_of_expandToken replaced
  simp [toList_placeholder]

/-- What is read behind a number sign is decided by the reference to the file. -/
theorem mem_scan_sign_expandToken_iff (unmarked : dist.Unmarked) {other : Token} {inserted : String}
    (replaced : dist.expandToken other = .ok (some inserted)) :
    token ∈ scan ("#" ++ inserted) ↔ token ∈ scan ("#" ++ dist.file.placeholder) := by
  have free := (unmarked.refers other inserted replaced).2
  obtain ⟨tail, rfl⟩ := exists_tail_of_expandToken replaced
  have closed : '}' ∈ '#' :: dist.file.placeholder.toList := by simp [toList_placeholder]
  have freeFile : '#' ∉ dist.file.placeholder.toList := by
    rw [String.toList_append, List.mem_append, not_or] at free
    exact free.1
  rw [mem_scan_sign_iff free, mem_scan_sign_iff freeFile, String.toList_append, ← List.cons_append,
    atFront?_append closed]

/-- The reference to a file is read back exactly if the id of the file is that of the distribution, alone or
with a key. -/
theorem readsBack_iff (unmarked : dist.Unmarked) (noOpen : '{' ∉ dist.file.id.toList)
    (noClose : '}' ∉ dist.file.id.toList) :
    dist.ReadsBack ↔ dist.file.id = dist.id.text ∨
      ∃ key, key ≠ "" ∧ ':' ∉ key.toList ∧ dist.file.id = dist.id.text ++ ":" ++ key := by
  have read : atFront? ('#' :: dist.file.placeholder.toList) = parse? dist.file.id := by
    rw [toList_placeholder, atFront?, readBody?, (cut_append noClose []).1, (cut_append noClose []).2]
    simp [parse?, Function.comp_def]
  have freeFile : '#' ∉ dist.file.placeholder.toList := by
    simpa [toList_placeholder] using unmarked.1
  simp only [ReadsBack, mem_scan_sign_iff freeFile, read, parse?_eq_some_iff noClose]
  constructor
  · rintro ⟨⟨id, key⟩, written, rfl⟩
    obtain ⟨-, ⟨-, same⟩ | ⟨key, -, nonempty, plain, same⟩⟩ := wellFormed_and_inner_iff.1 written
    · exact .inl same
    · exact .inr ⟨key, nonempty, plain.2.2, same⟩
  · rintro (same | ⟨key, nonempty, noColon, same⟩)
    · exact ⟨⟨dist.id.text, none⟩, wellFormed_and_inner_iff.2 ⟨dist.id.plain_text, .inl ⟨rfl, same⟩⟩, rfl⟩
    · have plain : Plain key.toList := by
        simp only [same, String.toList_append, List.mem_append, not_or] at noOpen noClose
        exact ⟨noOpen.2, noClose.2, noColon⟩
      exact ⟨⟨dist.id.text, some key⟩, wellFormed_and_inner_iff.2
        ⟨dist.id.plain_text, .inr ⟨key, rfl, nonempty, plain, same⟩⟩, rfl⟩

/-- A token that refers to a distribution is replaced wherever a text with it is expanded. -/
theorem exists_replaced_of_expand (done : dist.expand text = .ok once) (listed : token ∈ scan text)
    (own : token.id = dist.id.text) : ∃ inserted, dist.expandToken token = .ok (some inserted) := by
  obtain ⟨text?, answered⟩ := expandToken_passes_iff.2 (expand_passes_iff.1 ⟨once, done⟩ token listed)
  cases text? with
  | none => exact absurd own (expandToken_eq_none_iff.1 answered)
  | some inserted => exact ⟨inserted, answered⟩

/-- Expanding an expanded text once more with the same distribution leaves it as it is, unless the reference
to the file is read back and a number sign stood in front of a token that was replaced. -/
theorem expand_again_iff (dist : Distribution) (text once : String) (unmarked : dist.Unmarked)
    (done : dist.expand text = .ok once) :
    dist.expand once = .ok once ↔ ¬ (dist.ReadsBack ∧ dist.MarkedIn text) := by
  rw [expand, expandM_again_iff unmarked.refers closes_expandToken done]
  simp only [expandToken_eq_none_iff]
  constructor
  · rintro declines ⟨⟨token, read, own⟩, other, listed, ownOther, marked⟩
    obtain ⟨inserted, replaced⟩ := exists_replaced_of_expand done listed ownOther
    have seam := (mem_scan_sign_expandToken_iff unmarked replaced).2 read
    exact declines other listed marked inserted replaced token seam own
  · intro apart other listed marked inserted replaced token seam own
    have read := (mem_scan_sign_expandToken_iff unmarked replaced).1 seam
    have ownOther := (expandToken_eq_some_iff.1 replaced).1
    exact apart ⟨⟨token, read, own⟩, other, listed, ownOther, marked⟩

/-- A distribution whose file is addressed by its id. -/
def cpython : Distribution :=
  ofFile ⟨"cpython", by decide⟩ { File.ofName "cpython.tar.gz" with key := some "cpython" } "u"
    |>.withPlaceholder ⟨"bin", by decide⟩ "bin/python3"

/-- A number sign in front of a token of another distribution does no harm. -/
theorem expand_again_cpython :
    cpython.Unmarked ∧
      cpython.expand "##\x7bpy\x7d#\x7bcpython:bin\x7d" = .ok "##\x7bpy\x7d\x7bcpython\x7d/bin/python3" ∧
      cpython.expand "##\x7bpy\x7d\x7bcpython\x7d/bin/python3" =
        .ok "##\x7bpy\x7d\x7bcpython\x7d/bin/python3" := by
  have unmarked : cpython.Unmarked := ⟨by decide, by decide +kernel⟩
  have done : cpython.expand "##\x7bpy\x7d#\x7bcpython:bin\x7d" =
      .ok "##\x7bpy\x7d\x7bcpython\x7d/bin/python3" := by cbv
  have apart : ¬ (cpython.ReadsBack ∧ cpython.MarkedIn "##\x7bpy\x7d#\x7bcpython:bin\x7d") := by
    decide +kernel
  exact ⟨unmarked, done, (expand_again_iff _ _ _ unmarked done).2 apart⟩

/-- The reference that was put behind a number sign is expanded the second time, although neither the id of
the file nor the subpath holds a number sign or a brace. -/
theorem expand_again_cpython_ne :
    (∀ text ∈ cpython.file.id :: cpython.placeholders.values,
      '#' ∉ text.toList ∧ '{' ∉ text.toList ∧ '}' ∉ text.toList) ∧
    cpython.expand "##\x7bcpython\x7d" = .ok "#\x7bcpython\x7d" ∧
      cpython.expand "#\x7bcpython\x7d" ≠ .ok "#\x7bcpython\x7d" := by
  have plain : ∀ text ∈ cpython.file.id :: cpython.placeholders.values,
      '#' ∉ text.toList ∧ '{' ∉ text.toList ∧ '}' ∉ text.toList := by decide +kernel
  have once : cpython.expand "##\x7bcpython\x7d" = .ok "#\x7bcpython\x7d" := by cbv
  have twice : cpython.expand "#\x7bcpython\x7d" = .ok "\x7bcpython\x7d" := by cbv
  refine ⟨plain, once, ?_⟩
  rw [twice]
  decide

end AppBundle.Distribution
