import AppBundle.Artifact.FileType
import Mathlib.Data.List.Infix

/-! # Names of archives

A file name announces a kind of archive if it ends in a dot and the extension of that kind. With its dot no
extension of an archive ends another one, so a name announces one kind at most: guessing the kind from the
name is exact, and there is nothing to choose between. The kinds that are no archives are never guessed.
-/

namespace AppBundle.FileType

/-- A file name ends in a dot and the extension of a kind of archive. -/
def Announces (fileName : String) (kind : FileType) : Prop :=
  kind.isArchive = true ∧ ∃ stem, fileName = stem ++ "." ++ kind.extension

/-- The kinds of archives that are considered for a file name. -/
def candidates (fileName : String) : List FileType :=
  all.filter fun kind => kind.isArchive && fits fileName kind

variable {fileName : String} {kind left right : FileType}

theorem mem_all (kind : FileType) : kind ∈ all := by cases kind <;> decide

theorem nodup_all : all.Nodup := by decide

theorem fits_iff_suffix :
    fits fileName kind = true ↔ '.' :: kind.extension.toList <:+ fileName.toList := by
  rw [fits, List.isSuffixOf_iff_suffix]

theorem fits_iff : fits fileName kind = true ↔ ∃ stem, fileName = stem ++ "." ++ kind.extension := by
  rw [fits_iff_suffix]
  constructor
  · rintro ⟨stem, whole⟩
    refine ⟨String.ofList stem, ?_⟩
    rw [← String.toList_inj, ← whole]
    simp
  · rintro ⟨stem, rfl⟩
    exact ⟨stem.toList, by simp⟩

theorem mem_candidates_iff : kind ∈ candidates fileName ↔ Announces fileName kind := by
  rw [candidates, List.mem_filter, Bool.and_eq_true, fits_iff, Announces, and_iff_right (mem_all kind)]

theorem Announces.suffix (announced : Announces fileName kind) :
    '.' :: kind.extension.toList <:+ fileName.toList := fits_iff_suffix.1 (fits_iff.2 announced.2)

/-- Written behind a dot, no extension of an archive ends that of another kind. -/
theorem eq_of_extension_suffix (leftArchive : left.isArchive = true) (rightArchive : right.isArchive = true)
    (inside : '.' :: left.extension.toList <:+ '.' :: right.extension.toList) : left = right := by
  have every : ∀ left ∈ all, ∀ right ∈ all, left.isArchive = true → right.isArchive = true →
      '.' :: left.extension.toList <:+ '.' :: right.extension.toList → left = right := by decide
  exact every left (mem_all left) right (mem_all right) leftArchive rightArchive inside

/-- No file name announces two kinds. -/
theorem Announces.unique (first : Announces fileName left) (second : Announces fileName right) :
    left = right := by
  rcases List.suffix_or_suffix_of_suffix first.suffix second.suffix with inside | inside
  · exact eq_of_extension_suffix first.1 second.1 inside
  · exact (eq_of_extension_suffix second.1 first.1 inside).symm

/-- So there is one candidate at most. -/
theorem length_candidates_le (fileName : String) : (candidates fileName).length ≤ 1 := by
  have distinct : (candidates fileName).Nodup := nodup_all.filter _
  rcases same : candidates fileName with _ | ⟨first, _ | ⟨second, rest⟩⟩
  · exact Nat.zero_le 1
  · exact Nat.le_refl 1
  · have announced : ∀ kind ∈ first :: second :: rest, Announces fileName kind := fun kind member =>
      mem_candidates_iff.1 (same ▸ member)
    have one : first = second := (announced first (by simp)).unique (announced second (by simp))
    simp [same, one] at distinct

/-- The longest extension decides nothing: a kind is guessed if there is a candidate, and it is the only one. -/
theorem candidates_eq (fileName : String) : candidates fileName = (infer? fileName).toList := by
  have few := length_candidates_le fileName
  unfold infer?
  split
  · next missing => exact missing
  · next first others found =>
    rw [candidates, found, List.length_cons] at few
    obtain rfl : others = [] := List.length_eq_zero_iff.1 (by omega)
    exact found

theorem infer?_eq_some_iff : infer? fileName = some kind ↔ Announces fileName kind := by
  rw [← mem_candidates_iff, candidates_eq, Option.mem_toList]

/-- A kind is guessed exactly if it is that of an archive and the file name ends in a dot and its extension.
No file name ends so for two kinds of archives, so that what is guessed is the only candidate, and a kind of
archive is guessed back from every name that was made with its extension. -/
theorem infer?_exact :
    (∀ (fileName : String) (kind : FileType), infer? fileName = some kind ↔
      kind.isArchive = true ∧ ∃ stem, fileName = stem ++ "." ++ kind.extension) ∧
    (∀ fileName : String, ¬ ∃ left right : FileType, left ≠ right ∧
      (left.isArchive = true ∧ ∃ stem, fileName = stem ++ "." ++ left.extension) ∧
      (right.isArchive = true ∧ ∃ stem, fileName = stem ++ "." ++ right.extension)) ∧
    (∀ fileName : String, candidates fileName = (infer? fileName).toList) ∧
    ∀ (stem : String) (kind : FileType), kind.isArchive = true →
      infer? (stem ++ "." ++ kind.extension) = some kind := by
  refine ⟨fun fileName kind => infer?_eq_some_iff, ?_, candidates_eq, ?_⟩
  · rintro fileName ⟨left, right, different, first, second⟩
    exact different (Announces.unique first second)
  · intro stem kind archive
    exact infer?_eq_some_iff.2 ⟨archive, stem, rfl⟩

/-- The stem ends like another archive. -/
theorem infer?_zippedTarball :
    isArchive tarGzip = true ∧ infer? ("kit.zip" ++ "." ++ extension tarGzip) = some tarGzip := by
  have archive : isArchive tarGzip = true := rfl
  obtain ⟨-, -, -, guessed⟩ := infer?_exact
  exact ⟨archive, guessed "kit.zip" tarGzip archive⟩

end AppBundle.FileType
