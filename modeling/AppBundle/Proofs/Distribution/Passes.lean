import AppBundle.Proofs.Distribution.Reference
import AppBundle.Proofs.Token.Passes
import Mathlib.Data.List.Permutation

/-! # Distributions in turn

A text may be expanded against several distributions at once, or handed from one distribution to the
next, which then goes over what the others have inserted. If the distributions have different ids and
insert no number sign, and no number sign stands in front of an opening of the text, both ways give the
same result or both fail, in whichever order the distributions have their turn. They may fail with
different errors: in turn, the first distribution that refuses a token decides. Behind a number sign the
reference to a file can become a token of the next distribution, so the last condition is needed.
-/

namespace AppBundle.Distribution

open Piece Token

/-- Hand a text from each distribution to the next. -/
def expandInTurn (dists : List Distribution) (text : String) : Except ModelError String :=
  dists.foldlM (fun text dist => dist.expand text) text

/-- No number sign stands in the id of the file or in a subpath. -/
def Unmarked (dist : Distribution) : Prop :=
  '#' ∉ dist.file.id.toList ∧ ∀ entry ∈ dist.placeholders.toList, '#' ∉ entry.2.toList

variable {dist : Distribution} {dists order : List Distribution} {text result : String}

theorem exists_mem_of_subpath? {key subpath : String} (named : dist.subpath? key = some subpath) :
    ∃ entry ∈ dist.placeholders.toList, entry.2 = subpath := by
  unfold subpath? at named
  split at named
  · exact ⟨_, (SortedMap.get?_eq_some_iff _).1 named, rfl⟩
  · cases named

theorem toList_placeholder : dist.file.placeholder.toList = '{' :: (dist.file.id.toList ++ ['}']) := by
  simp [File.placeholder]

theorem Unmarked.refers (unmarked : dist.Unmarked) : Refers dist.expandToken := by
  obtain ⟨fileId, subpaths⟩ := unmarked
  intro token text replaced
  obtain ⟨-, ⟨-, rfl⟩ | ⟨key, subpath, -, named, rfl⟩⟩ := expandToken_eq_some_iff.1 replaced
  · simp [toList_placeholder, fileId]
  · obtain ⟨entry, member, rfl⟩ := exists_mem_of_subpath? named
    simp [toList_placeholder, fileId, subpaths entry member]

/-- A distribution does not decline a token that refers to it. -/
theorem expandToken_eq_none_iff {token : Token} :
    dist.expandToken token = .ok none ↔ token.id ≠ dist.id.text := by
  refine ⟨fun declined same => ?_, expandToken_of_ne⟩
  rw [expandToken, if_neg (not_not.2 same)] at declined
  cases asked : token.key with
  | none => simp [asked] at declined
  | some key => cases present : dist.subpath? key <;> simp [asked, present] at declined

/-- The remaining distributions are asked about the tokens that the first one declines. -/
theorem expandTokenAmong_cons :
    expandTokenAmong (dist :: dists) = orElse dist.expandToken (expandTokenAmong dists) := by
  funext token
  by_cases same : token.id = dist.id.text
  · rw [expandTokenAmong, List.find?_cons_of_pos (by simp [same]), orElse]
    cases asked : dist.expandToken token with
    | error error => exact asked
    | ok text? =>
      cases text? with
      | none => exact absurd same (expandToken_eq_none_iff.1 asked)
      | some text => exact asked
  · rw [expandTokenAmong, List.find?_cons_of_neg (by simpa [eq_comm] using same), orElse,
      expandToken_of_ne same, Except.ok_bind]
    rfl

/-- Without distributions a text stays as it is. -/
theorem expandAmong_nil : expandAmong [] text = .ok text := by
  obtain ⟨pieces, segmented, written⟩ := exists_pieces text
  have pass : Pass (expandTokenAmong []) pieces pieces := .refl fun _ _ => rfl
  exact (expandM_eq_ok_iff segmented written).2 ⟨pieces, pass, written⟩

/-- Expanding a text against several distributions is expanding it against one after the other. -/
theorem expandAmong_eq_ok_iff_inTurn (detached : Detached text)
    (unmarked : ∀ dist ∈ dists, dist.Unmarked) :
    expandAmong dists text = .ok result ↔ expandInTurn dists text = .ok result := by
  induction dists generalizing text with
  | nil => rw [expandAmong_nil]; rfl
  | cons dist rest ih =>
    rw [List.forall_mem_cons] at unmarked
    rw [expandAmong, expandTokenAmong_cons, detached.expandM_orElse unmarked.1.refers, expandInTurn,
      List.foldlM_cons, Except.bind_eq_ok_iff]
    refine exists_congr fun between => and_congr_right fun done => ?_
    exact ih (detached.of_expandM unmarked.1.refers done) unmarked.2

/-- The order of distributions with different ids has no effect. -/
theorem expandTokenAmong_perm (perm : order.Perm dists)
    (distinct : (dists.map Distribution.id).Nodup) :
    expandTokenAmong order = expandTokenAmong dists := by
  funext token
  have distinctOrder := ((perm.map Distribution.id).nodup_iff).2 distinct
  by_cases known : ∃ dist ∈ dists, token.id = dist.id.text
  · obtain ⟨dist, member, own⟩ := known
    rw [expandTokenAmong_of_mem distinct member own,
      expandTokenAmong_of_mem distinctOrder (perm.mem_iff.2 member) own]
  · push Not at known
    rw [expandTokenAmong_of_forall_ne known]
    exact expandTokenAmong_of_forall_ne fun dist member => known dist (perm.mem_iff.1 member)

/-- Expanding a text against distributions at once and in turn, in any order. -/
theorem expandAmong_eq_inTurn (dists order : List Distribution) (text : String)
    (perm : order.Perm dists) (distinct : (dists.map Distribution.id).Nodup)
    (unmarked : ∀ dist ∈ dists, dist.Unmarked) (free : ¬ "##\x7b".toList <:+: text.toList)
    (result : String) :
    expandAmong dists text = .ok result ↔ expandInTurn order text = .ok result := by
  rw [expandAmong, ← expandTokenAmong_perm perm distinct]
  refine expandAmong_eq_ok_iff_inTurn (detached_of_unmarked free) ?_
  exact fun dist member => unmarked dist (perm.mem_iff.1 member)

/-- A distribution whose file has the id of another distribution, with braces in its subpath. -/
def braced : Distribution where
  id := ⟨"a", by decide⟩
  file := { File.ofName "a.zip" with key := some "b" }
  url := "u/a.zip"
  placeholders := ⟨[(⟨"p", by decide⟩, "x\x7d\x7bb\x7d")], List.pairwise_singleton _ _⟩

/-- The distribution with this id, whose file is referred to by its name. -/
def plain : Distribution := ofFile ⟨"b", by decide⟩ (.ofName "f") "u/f"

/-- An opening in front of the tokens is not closed by what is inserted behind it. -/
theorem expandInTurn_braced_plain :
    [plain, braced].Perm [braced, plain] ∧ ([braced, plain].map Distribution.id).Nodup ∧
      (∀ dist ∈ [braced, plain], dist.Unmarked) ∧
      (¬ "##\x7b".toList <:+: "#\x7bx#\x7ba:p\x7d#\x7bb\x7d\x7d#".toList) ∧
      expandAmong [braced, plain] "#\x7bx#\x7ba:p\x7d#\x7bb\x7d\x7d#" =
        .ok "#\x7bx\x7bb\x7d/x\x7d\x7bb\x7d\x7bf\x7d\x7d#" ∧
      expandInTurn [plain, braced] "#\x7bx#\x7ba:p\x7d#\x7bb\x7d\x7d#" =
        .ok "#\x7bx\x7bb\x7d/x\x7d\x7bb\x7d\x7bf\x7d\x7d#" := by
  have perm : [plain, braced].Perm [braced, plain] := .swap _ _ _
  have distinct : ([braced, plain].map Distribution.id).Nodup := by decide
  have unmarked : ∀ dist ∈ [braced, plain], dist.Unmarked := by
    simp only [List.forall_mem_cons]
    exact ⟨⟨by decide, by decide⟩, ⟨by decide, by decide⟩, by simp⟩
  have free : ¬ "##\x7b".toList <:+: "#\x7bx#\x7ba:p\x7d#\x7bb\x7d\x7d#".toList := by
    decide +kernel
  have once : expandAmong [braced, plain] "#\x7bx#\x7ba:p\x7d#\x7bb\x7d\x7d#" =
      .ok "#\x7bx\x7bb\x7d/x\x7d\x7bb\x7d\x7bf\x7d\x7d#" := by cbv
  refine ⟨perm, distinct, unmarked, free, once, ?_⟩
  exact (expandAmong_eq_inTurn _ _ _ perm distinct unmarked free _).1 once

end AppBundle.Distribution
