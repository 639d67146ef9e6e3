import AppBundle.Pattern.Size
import Mathlib.Algebra.Order.BigOperators.Group.List
import Mathlib.Algebra.Order.Ring.Nat
import Mathlib.Data.List.SplitBy

/-! # The size of alternatives

Alternatives that are all words are read by a tree of states, in which words share what they begin with as
far as they follow each other. However the tree branches, it costs no more than a fixed number of bytes for
each letter and each word. Other alternatives have states of their own. So the size of alternatives is bounded
by a sum over them.
-/

namespace AppBundle.Pattern

theorem total_eq_sum (numbers : List Nat) : total numbers = numbers.sum := rfl

namespace Size

/-- The greatest size of what is read for one letter of a word. -/
def perLetter : Nat := 80

/-- A bound on the size of what is read for a word. -/
def ofWordBound (word : List UInt8) : Nat := perLetter * word.length + option

section Sums

variable {α β : Type}

/-- A sum that is not greater in any item, and less by some number in one of them, is less by this number. -/
theorem sum_add_le {items : List α} {low high : α → Nat} {item : α} {excess : Nat}
    (below : ∀ item ∈ items, low item ≤ high item) (member : item ∈ items)
    (less : low item + excess ≤ high item) :
    (items.map low).sum + excess ≤ (items.map high).sum := by
  obtain ⟨before, behind, rfl⟩ := List.append_of_mem member
  have first := List.sum_le_sum fun item member => below item (List.mem_append_left _ member)
  have rest := List.sum_le_sum fun item (member : item ∈ behind) =>
    below item (List.mem_append_right _ (List.mem_cons_of_mem _ member))
  simp only [List.map_append, List.map_cons, List.sum_append_nat, List.sum_cons]
  omega

/-- Items that are grouped by a key are counted in one group at most. -/
theorem sum_groups_le [DecidableEq β] (key : α → Option β) (cost : α → Nat) (items : List α) {keys : List β}
    (distinct : keys.Nodup) :
    (keys.map fun here => ((items.filter fun item => key item = some here).map cost).sum).sum ≤
      (items.map cost).sum := by
  induction keys generalizing items with
  | nil => exact Nat.zero_le _
  | cons first keys ih =>
    obtain ⟨fresh, distinct⟩ := List.nodup_cons.1 distinct
    have parted : (items.map cost).sum =
        ((items.filter fun item => key item = some first).map cost).sum +
          ((items.filter fun item => !decide (key item = some first)).map cost).sum := by
      rw [← List.sum_append_nat, ← List.map_append]
      exact ((List.filter_append_perm ..).map cost).sum_eq.symm
    have others : ∀ here ∈ keys, (items.filter fun item => key item = some here) =
        (items.filter fun item => !decide (key item = some first)).filter fun item =>
          key item = some here := by
      intro here member
      rw [List.filter_filter]
      refine List.filter_congr fun item _ => ?_
      by_cases same : key item = some here
      · have apart : here ≠ first := fun equal => fresh (equal ▸ member)
        simp [same, apart]
      · simp [same]
    rw [List.map_cons, List.sum_cons, parted]
    refine Nat.add_le_add_left ?_ _
    rw [List.map_congr_left fun here member => by rw [others here member]]
    exact ih _ distinct

theorem nodup_eraseDups [BEq α] [LawfulBEq α] (items : List α) : items.eraseDups.Nodup := by
  induction length : items.length using Nat.strong_induction_on generalizing items with
  | _ count ih =>
    cases items with
    | nil => exact List.nodup_nil
    | cons item items =>
      rw [List.eraseDups_cons, List.nodup_cons, List.mem_eraseDups]
      refine ⟨by simp, ih _ ?_ _ rfl⟩
      rw [← length]
      exact Nat.lt_succ_of_le (List.length_filter_le ..)

end Sums

section Words

variable {words run : List (List UInt8)} {child : List (List UInt8) → Nat}

/-- What the letters of words may cost. -/
def ofLetters (words : List (List UInt8)) : Nat := (words.map fun word => perLetter * word.length).sum

/-- The words that begin with a letter, behind it. -/
def behindHead (run : List (List UInt8)) (head : UInt8) : List (List UInt8) :=
  (run.filter fun word => word.head? = some head).map List.tail

/-- The size of what reads words in a row from a common beginning, some of which go on. -/
def ofRun (child : List (List UInt8) → Nat) (run : List (List UInt8)) : Nat :=
  let heads := (run.filterMap List.head?).eraseDups
  (if heads.length = 1 then state else state + transition * heads.length) +
    total (heads.map fun head => child (behindHead run head))

/-- The words in a row that go on. -/
def runs (words : List (List UInt8)) : List (List (List UInt8)) :=
  ((words.dropWhile List.isEmpty).splitBy fun left right => left.isEmpty == right.isEmpty).filter fun run =>
    !run.all List.isEmpty

/-- How often a word ends at a common beginning. -/
def ended (words : List (List UInt8)) : Nat :=
  (if words.head? = some [] then 1 else 0) + (words.dropWhile List.isEmpty).countP List.isEmpty

theorem ofWordsWithin_succ (length : Nat) (words : List (List UInt8)) : ofWordsWithin (length + 1) words =
    if words.all List.isEmpty then 0
    else state + option * ((runs words).length + ended words) +
      total ((runs words).map (ofRun (ofWordsWithin length))) := rfl

theorem ended_le (words : List (List UInt8)) : ended words ≤ words.length := by
  have counted := List.countP_le_length (p := List.isEmpty) (l := words.dropWhile List.isEmpty)
  have shorter := (List.dropWhile_sublist List.isEmpty (l := words)).length_le
  rw [ended]
  split
  · next first =>
    obtain ⟨rest, rfl⟩ := List.head?_eq_some_iff.1 first
    have shorter := (List.dropWhile_sublist List.isEmpty (l := rest)).length_le
    rw [List.dropWhile_cons_of_pos rfl] at counted ⊢
    rw [List.length_cons]
    omega
  · omega

/-- Words in a row are words of the list in turn. -/
theorem sum_runs_le (words : List (List UInt8)) : ((runs words).map ofLetters).sum ≤ ofLetters words := by
  have within : (runs words).flatten.Sublist words := by
    refine (List.Sublist.flatten List.filter_sublist).trans ?_
    rw [List.flatten_splitBy]
    exact List.dropWhile_sublist _
  have flat : ((runs words).map ofLetters).sum = ofLetters (runs words).flatten := by
    rw [ofLetters, List.map_flatten, List.sum_flatten, List.map_map]
    rfl
  rw [flat]
  exact (within.map _).sum_le_sum fun _ _ => Nat.zero_le _

/-- What a word may cost when it has paid for the state of its run. -/
def ofSpare (word : List UInt8) : Nat := perLetter * word.length - (state + option)

/-- A first letter opens at least one word, so the words that it opens pay for the state behind it. -/
theorem ofHead_le {head : UInt8} (opens : head ∈ run.filterMap List.head?)
    (bounded : ∀ words, child words ≤ state + (words.map ofWordBound).sum) :
    transition + child (behindHead run head) ≤
      ((run.filter fun word => word.head? = some head).map ofSpare).sum := by
  obtain ⟨word, present, first⟩ := List.mem_filterMap.1 opens
  have paid : ∀ word ∈ run.filter fun word => word.head? = some head,
      ofWordBound word.tail + (transition + state) = ofSpare word := by
    intro word member
    obtain ⟨rest, rfl⟩ := List.head?_eq_some_iff.1 (of_decide_eq_true (List.mem_filter.1 member).2)
    simp only [ofWordBound, ofSpare, List.tail_cons, List.length_cons, perLetter, transition, state, option]
    omega
  have within : word ∈ run.filter fun word => word.head? = some head :=
    List.mem_filter.2 ⟨present, decide_eq_true first⟩
  have enough := sum_add_le (fun word member => Nat.le.intro (paid word member)) within (paid word within).le
  have child := bounded (behindHead run head)
  rw [behindHead, List.map_map] at child
  simp only [Function.comp_def] at child
  exact (Nat.add_le_add_left child transition).trans (by omega)

/-- What is read behind the first letters of words in a row is paid for by the words. -/
theorem ofRun_le (some : ∃ word ∈ run, word ≠ [])
    (bounded : ∀ words, child words ≤ state + (words.map ofWordBound).sum) :
    ofRun child run + option ≤ ofLetters run := by
  have heads := (List.sum_le_sum fun head member => ofHead_le (List.mem_eraseDups.1 member) bounded).trans
    (sum_groups_le List.head? ofSpare run (nodup_eraseDups _))
  rw [List.sum_map_add, List.map_const', List.sum_replicate_nat, Nat.mul_comm] at heads
  obtain ⟨word, present, filled⟩ := some
  have enough : ofSpare word + (state + option) ≤ perLetter * word.length := by
    have letters := List.length_pos_of_ne_nil filled
    rw [ofSpare, perLetter, state, option]
    omega
  have below : ∀ word ∈ run, ofSpare word ≤ perLetter * word.length := fun word _ => Nat.sub_le ..
  have all := sum_add_le below present enough
  rw [ofRun, total_eq_sum, ofLetters]
  split <;> omega

/-- However words share what they begin with, they are read at a bounded cost for each letter and each
word. -/
theorem ofWordsWithin_le (length : Nat) (words : List (List UInt8)) :
    ofWordsWithin length words ≤ state + (words.map ofWordBound).sum := by
  induction length generalizing words with
  | zero => exact Nat.zero_le _
  | succ length ih =>
    have each : ∀ run ∈ runs words, ofRun (ofWordsWithin length) run + option ≤ ofLetters run := by
      intro run member
      have goesOn := (List.mem_filter.1 member).2
      simp only [Bool.not_eq_true', List.all_eq_false, List.isEmpty_iff] at goesOn
      exact ofRun_le goesOn ih
    have all := (List.sum_le_sum each).trans (sum_runs_le words)
    have few := ended_le words
    rw [List.sum_map_add, List.map_const', List.sum_replicate_nat] at all
    have bound : (words.map ofWordBound).sum = ofLetters words + words.length * option := by
      rw [ofLetters, ← List.sum_replicate_nat, ← List.map_const', ← List.sum_map_add]
      rfl
    rw [ofWordsWithin_succ, bound, total_eq_sum]
    split
    · exact Nat.zero_le _
    · have := Nat.mul_le_mul_right option few
      rw [Nat.mul_comm option, Nat.add_mul]
      omega

/-- Alternatives that are words. -/
theorem ofWords_le (words : List (List UInt8)) : ofWords words ≤ 2 * state + (words.map ofWordBound).sum := by
  rw [ofWords, Nat.two_mul, Nat.add_assoc]
  exact Nat.add_le_add_left (ofWordsWithin_le ..) state

end Words

section Branches

/-- Alternatives that are not all words are tried in turn. -/
theorem ofBranches_eq {branches : List Branch} (several : 1 < branches.length) : ofBranches branches =
    (branches.mapM Branch.word?).elim (2 * state + (branches.map fun branch => branch.size + option).sum)
      ofWords := by
  rw [ofBranches]
  · cases branches.mapM Branch.word? with
    | some words => rfl
    | none =>
      rw [Option.elim, List.sum_map_add, List.map_const', List.sum_replicate_nat, Nat.mul_comm _ option,
        Nat.add_comm (branches.map Branch.size).sum, ← Nat.add_assoc]
      rfl
  · rintro single rfl
    exact absurd several (Nat.lt_irrefl 1)

/-- The size of alternatives is bounded by a sum over them. -/
theorem ofBranches_le {α : Type} {items : List α} {branch : α → Branch} {bound : α → Nat}
    (several : 1 < items.length) (sized : ∀ item ∈ items, (branch item).size + option ≤ bound item)
    (spelled : ∀ item ∈ items, ∀ word ∈ (branch item).word?, ofWordBound word ≤ bound item) :
    ofBranches (items.map branch) ≤ 2 * state + (items.map bound).sum := by
  have words {words : List (List UInt8)} (found : (items.map branch).mapM Branch.word? = some words) :
      (words.map ofWordBound).sum ≤ (items.map bound).sum := by
    clear several sized
    induction items generalizing words with
    | nil =>
      cases found
      exact Nat.le_refl _
    | cons item items ih =>
      rw [List.forall_mem_cons] at spelled
      rw [List.map_cons, List.mapM_cons] at found
      obtain ⟨word, first, found⟩ := Option.bind_eq_some_iff.1 found
      obtain ⟨rest, others, same⟩ := Option.bind_eq_some_iff.1 found
      cases same
      exact Nat.add_le_add (spelled.1 word first) (ih spelled.2 others)
  rw [ofBranches_eq (by rwa [List.length_map])]
  cases found : (items.map branch).mapM Branch.word? with
  | some words' => exact (ofWords_le words').trans (Nat.add_le_add_left (words found) _)
  | none =>
    rw [Option.elim, List.map_map]
    exact Nat.add_le_add_left (List.sum_le_sum sized) _

end Branches

end Size

end AppBundle.Pattern
