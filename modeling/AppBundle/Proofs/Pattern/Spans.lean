import AppBundle.Pattern.Expr
import Mathlib.Data.Finset.Card
import Mathlib.Order.Interval.Finset.Nat

/-! # The matches of an expression

What an expression matches is said by a relation between the places of a text, one clause for each kind of
expression. The places where a match can end, which are computed for a whole set of places at once, are
those that the relation allows. For repetitions this is the correctness of a search that starts from each
place at most once: a place that was passed over was searched before, with fewer rounds.
-/

namespace AppBundle.Pattern

/-- A number of rounds in a row. -/
def Rounds (round : Nat → Nat → Prop) : Nat → Nat → Nat → Prop
  | 0, start, stop => start = stop
  | count + 1, start, stop => ∃ middle, round start middle ∧ Rounds round count middle stop

/-- The place before the character with the given number. -/
def Place.at (text : List Char) (number : Nat) : Place where
  before := if number = 0 then none else text[number - 1]?
  behind := text[number]?

/-- An expression matches a text from one place to another. -/
def Expr.Spans (text : List Char) : Expr → Nat → Nat → Prop
  | empty, start, stop => start = stop
  | never, _, _ => False
  | oneOf set, start, stop => stop = start + 1 ∧ ∃ char, text[start]? = some char ∧ set.contains char = true
  | holds assertion, start, stop => start = stop ∧ (Place.at text start).meets assertion = true
  | seq first second, start, stop => ∃ middle, first.Spans text start middle ∧ second.Spans text middle stop
  | either left right, start, stop => left.Spans text start stop ∨ right.Spans text start stop
  | group body, start, stop => body.Spans text start stop
  | repeated body least most, start, stop =>
    ∃ count, least ≤ count ∧ (∀ bound ∈ most, count ≤ max least bound) ∧
      Rounds (body.Spans text) count start stop

/-- Whether a place is in a set of places. -/
def At (here : List Bool) (place : Nat) : Prop := here[place]? = some true

namespace At

variable {left right here : List Bool} {place : Nat}

theorem lt_length (present : At here place) : place < here.length :=
  (List.getElem?_eq_some_iff.1 present).1

theorem zipWith_iff {α β : Type} {f : α → β → Bool} {first : List α} {second : List β} :
    At (List.zipWith f first second) place ↔
      ∃ a b, first[place]? = some a ∧ second[place]? = some b ∧ f a b = true :=
  List.getElem?_zipWith_eq_some

/-- Places of two sets of the same width are combined one by one. -/
theorem combine_iff {f : Bool → Bool → Bool} (outside : f false false = false)
    (same : left.length = right.length) :
    At (List.zipWith f left right) place ↔ f (left.getD place false) (right.getD place false) = true := by
  rw [zipWith_iff, List.getD_eq_getElem?_getD, List.getD_eq_getElem?_getD]
  by_cases within : place < left.length
  · simp [List.getElem?_eq_getElem within, List.getElem?_eq_getElem (same ▸ within)]
  · have beyond : right.length ≤ place := same ▸ Nat.le_of_not_lt within
    simp [List.getElem?_eq_none (Nat.le_of_not_lt within), List.getElem?_eq_none beyond, outside]

theorem iff_getD : At here place ↔ here.getD place false = true := by
  rw [At, List.getD_eq_getElem?_getD]
  cases here[place]? <;> simp

theorem unite_iff (same : left.length = right.length) :
    At (Expr.unite left right) place ↔ At left place ∨ At right place := by
  rw [Expr.unite, combine_iff rfl same, Bool.or_eq_true, iff_getD, iff_getD]

theorem without_iff (same : left.length = right.length) :
    At (Expr.without left right) place ↔ At left place ∧ ¬ At right place := by
  rw [Expr.without, combine_iff rfl same, Bool.and_eq_true, Bool.not_eq_true', iff_getD, iff_getD,
    Bool.not_eq_true]

theorem not_nowhere : ¬ At (Expr.nowhere here) place := by
  rw [At, Expr.nowhere, List.getElem?_map, Option.map_eq_some_iff]
  rintro ⟨_, _, ⟨⟩⟩

theorem any_iff : here.any id = true ↔ ∃ place, At here place := by
  rw [List.any_eq_true]
  constructor
  · rintro ⟨_, member, present⟩
    obtain ⟨place, found⟩ := List.getElem?_of_mem member
    exact ⟨place, found.trans (congrArg some present)⟩
  · rintro ⟨place, present⟩
    exact ⟨true, List.mem_of_getElem? present, rfl⟩

end At

theorem Place.getElem?_list {text : List Char} {number : Nat} {place : Place} :
    (Place.list text)[number]? = some place ↔ number ≤ text.length ∧ Place.at text number = place := by
  have placed : ∀ (before : Option Char) (number : Nat),
      (listFrom before text)[number]? = some place ↔ number ≤ text.length ∧
        ⟨if number = 0 then before else text[number - 1]?, text[number]?⟩ = place := by
    induction text with
    | nil => intro before number; cases number <;> simp [listFrom]
    | cons char text ih =>
      intro before number
      cases number with
      | zero => simp [listFrom]
      | succ number =>
        rw [listFrom, List.getElem?_cons_succ, ih]
        cases number <;> simp
  exact placed none number

theorem Place.length_list (text : List Char) : (Place.list text).length = text.length + 1 := by
  have placed : ∀ before, (listFrom before text).length = text.length + 1 := by
    induction text with
    | nil => exact fun _ => rfl
    | cons char text ih => exact fun _ => congrArg (· + 1) (ih _)
  exact placed none

/-- A step on sets of places, of which there are as many as `width` says, computes a relation: it leads to
the places to which the relation leads from one of the set. -/
structure Computes (width : Nat) (step : List Bool → List Bool) (relation : Nat → Nat → Prop) : Prop where
  length {here : List Bool} : here.length = width → (step here).length = width
  iff {here : List Bool} {stop : Nat} : here.length = width →
    (At (step here) stop ↔ ∃ start, At here start ∧ relation start stop)

namespace Computes

variable {width : Nat} {step other : List Bool → List Bool} {relation second : Nat → Nat → Prop}

theorem stay : Computes width id Eq where
  length full := full
  iff _ := by simp

theorem nowhere : Computes width Expr.nowhere fun _ _ => False where
  length full := by simpa [Expr.nowhere] using full
  iff _ := by simp [At.not_nowhere]

theorem comp (first : Computes width step relation) (last : Computes width other second) :
    Computes width (fun here => other (step here))
      fun start stop => ∃ middle, relation start middle ∧ second middle stop where
  length full := last.length (first.length full)
  iff full := by
    rw [last.iff (first.length full)]
    simp only [first.iff full, ← exists_and_right, ← exists_and_left, and_assoc]
    exact exists_comm

theorem unite (first : Computes width step relation) (last : Computes width other second) :
    Computes width (fun here => Expr.unite (step here) (other here))
      fun start stop => relation start stop ∨ second start stop where
  length full := by simp [Expr.unite, first.length full, last.length full]
  iff full := by
    rw [At.unite_iff ((first.length full).trans (last.length full).symm), first.iff full, last.iff full,
      ← exists_or]
    simp only [← and_or_left]

theorem congr (computes : Computes width step relation)
    (same : ∀ start stop, relation start stop ↔ second start stop) : Computes width step second where
  length := computes.length
  iff full := by simp only [computes.iff full, same]

/-- Steps that are taken no more once they change nothing are all the steps. -/
theorem after_eq_iterate (step : List Bool → List Bool) (count : Nat) (here : List Bool) :
    Expr.after step count here = step^[count] here := by
  induction count generalizing here with
  | zero => rfl
  | succ count ih =>
    rw [Expr.after, Function.iterate_succ_apply]
    split
    · next fixed => rw [fixed, Function.iterate_fixed fixed]
    · exact ih (step here)

theorem after (computes : Computes width step relation) (count : Nat) :
    Computes width (Expr.after step count) (Rounds relation count) := by
  rw [funext (after_eq_iterate step count)]
  induction count with
  | zero => exact stay
  | succ count ih => exact computes.comp ih

/-- The places that are not in a set. -/
def unseen (width : Nat) (seen : List Bool) : Finset Nat :=
  (Finset.range width).filter fun place => ¬ seen.getD place false = true

theorem mem_unseen_iff {seen : List Bool} {place : Nat} :
    place ∈ unseen width seen ↔ place < width ∧ ¬ At seen place := by
  rw [unseen, Finset.mem_filter, Finset.mem_range, At.iff_getD]

theorem length_reached (computes : Computes width step relation) (fuel : Nat) {seen here : List Bool}
    (known : seen.length = width) (full : here.length = width) :
    (Expr.reached step fuel seen here).length = width := by
  induction fuel generalizing seen here with
  | zero => exact nowhere.length full
  | succ fuel ih =>
    have next := computes.length full
    rw [Expr.reached]
    split
    · simp [Expr.unite, Expr.without, next, known, ih]
    · exact full

/-- A search finds no other places than those that it can reach. -/
theorem exists_of_reached (computes : Computes width step relation) {fuel : Nat}
    {seen here : List Bool} (known : seen.length = width) (full : here.length = width) {stop : Nat}
    (found : At (Expr.reached step fuel seen here) stop) :
    ∃ count < fuel, ∃ start, At here start ∧ Rounds relation (count + 1) start stop := by
  induction fuel generalizing seen here with
  | zero => exact absurd found At.not_nowhere
  | succ fuel ih =>
    have next := computes.length full
    have widened : (Expr.unite seen (step here)).length = width := by simp [Expr.unite, known, next]
    have narrowed : (Expr.without (step here) seen).length = width := by simp [Expr.without, known, next]
    rw [Expr.reached] at found
    split at found
    · rw [At.unite_iff (next.trans (computes.length_reached fuel widened narrowed).symm)] at found
      rcases found with now | later
      · obtain ⟨start, present, round⟩ := (computes.iff full).1 now
        exact ⟨0, fuel.succ_pos, start, present, stop, round, rfl⟩
      · obtain ⟨count, within, middle, reached, rounds⟩ := ih widened narrowed later
        obtain ⟨start, present, round⟩ :=
          (computes.iff full).1 ((At.without_iff (next.trans known.symm)).1 reached).1
        exact ⟨count + 1, Nat.succ_lt_succ within, start, present, middle, round, rounds⟩
    · next nothing => exact absurd (At.any_iff.2 ⟨stop, found⟩) nothing

/-- Fewer places are unseen once another one is seen. -/
theorem card_unseen_lt {seen next : List Bool} {place : Nat} (known : seen.length = width)
    (full : next.length = width) (present : At next place) (fresh : ¬ At seen place) :
    (unseen width (Expr.unite seen next)).card < (unseen width seen).card := by
  have same := known.trans full.symm
  refine Finset.card_lt_card ((Finset.ssubset_iff_of_subset fun other member => ?_).2 ⟨place, ?_, ?_⟩)
  · rw [mem_unseen_iff, At.unite_iff same, not_or] at member
    exact mem_unseen_iff.2 ⟨member.1, member.2.1⟩
  · exact mem_unseen_iff.2 ⟨full ▸ present.lt_length, fresh⟩
  · rw [mem_unseen_iff, At.unite_iff same]
    exact fun member => member.2 (.inr present)

/-- A place can be reached in fewer rounds from one that was searched before. -/
def Earlier (relation : Nat → Nat → Prop) (seen here : List Bool) (count stop : Nat) : Prop :=
  ∃ fewer < count, ∃ origin, At seen origin ∧ ¬ At here origin ∧ Rounds relation (fewer + 1) origin stop

theorem Earlier.mono {seen here : List Bool} {fewer count stop : Nat}
    (earlier : Earlier relation seen here fewer stop) (less : fewer < count) :
    Earlier relation seen here count stop :=
  have ⟨least, below, rest⟩ := earlier
  ⟨least, Nat.lt_trans below less, rest⟩

theorem not_earlier {here : List Bool} {count stop : Nat} : ¬ Earlier relation here here count stop :=
  fun ⟨_, _, _, old, apart, _⟩ => apart old

/-- A search finds a place that it can reach, unless that is reached earlier. It is bounded by the number
of rounds, or else by the number of places. -/
theorem reached_of_rounds (computes : Computes width step relation) {fuel : Nat}
    {seen here : List Bool} (known : seen.length = width) (full : here.length = width)
    {count start stop : Nat} (enough : count < fuel ∨ (unseen width seen).card < fuel)
    (present : At here start) (rounds : Rounds relation (count + 1) start stop) :
    At (Expr.reached step fuel seen here) stop ∨ Earlier relation seen here count stop := by
  induction fuel generalizing seen here count start with
  | zero => exact absurd enough (by simp)
  | succ fuel outer =>
    have next := computes.length full
    have widened : (Expr.unite seen (step here)).length = width := by simp [Expr.unite, known, next]
    have narrowed : (Expr.without (step here) seen).length = width := by simp [Expr.without, known, next]
    rw [Expr.reached, if_pos (At.any_iff.2 ⟨start, present⟩),
      At.unite_iff (next.trans (computes.length_reached fuel widened narrowed).symm)]
    -- A round that leads back to `here` leaves fewer rounds from there.
    induction count using Nat.strong_induction_on generalizing start with
    | _ count inner =>
    obtain ⟨middle, round, rest⟩ := rounds
    have onward : At (step here) middle := (computes.iff full).2 ⟨start, present, round⟩
    cases count with
    | zero =>
      obtain rfl : middle = stop := rest
      exact .inl (.inl onward)
    | succ count =>
      have again {fewer origin : Nat} (less : fewer < count + 1) (old : At seen origin)
          (rounds : Rounds relation (fewer + 1) origin stop) :
          (At (step here) stop ∨ At (Expr.reached step fuel (Expr.unite seen (step here))
            (Expr.without (step here) seen)) stop) ∨ Earlier relation seen here (count + 1) stop := by
        by_cases current : At here origin
        · have shorter := inner fewer less (enough.imp_left (Nat.lt_trans less)) current rounds
          exact shorter.imp_right (·.mono less)
        · exact .inr ⟨fewer, less, origin, old, current, rounds⟩
      by_cases old : At seen middle
      · exact again (Nat.lt_succ_self count) old rest
      · have fresh : At (Expr.without (step here) seen) middle :=
          (At.without_iff (next.trans known.symm)).2 ⟨onward, old⟩
        have left := card_unseen_lt known next onward old
        rcases outer widened narrowed (enough.imp (by omega) (by omega)) fresh rest with
          later | ⟨fewer, less, origin, before, apart, rounds⟩
        · exact .inl (.inr later)
        · rw [At.unite_iff (known.trans next.symm)] at before
          rw [At.without_iff (next.trans known.symm), not_and_not_right] at apart
          exact again (Nat.lt_succ_of_lt less) (before.elim id apart) rounds

/-- A search with a bound reaches what is reached in as many rounds. -/
theorem reached (computes : Computes width step relation) (fuel : Nat) :
    Computes width (fun here => Expr.reached step fuel here here)
      fun start stop => ∃ count < fuel, Rounds relation (count + 1) start stop where
  length full := computes.length_reached fuel full full
  iff full := by
    constructor
    · intro found
      obtain ⟨count, within, start, present, rounds⟩ := computes.exists_of_reached full full found
      exact ⟨start, present, count, within, rounds⟩
    · rintro ⟨start, present, count, within, rounds⟩
      exact (computes.reached_of_rounds full full (.inl within) present rounds).resolve_right not_earlier

/-- A search with as many rounds as there are places reaches all that is reached. -/
theorem reached_all (computes : Computes width step relation) :
    Computes width (fun here => Expr.reached step width here here)
      fun start stop => ∃ count, Rounds relation (count + 1) start stop where
  length full := computes.length_reached width full full
  iff {here stop} full := by
    constructor
    · intro found
      obtain ⟨count, _, start, present, rounds⟩ := computes.exists_of_reached full full found
      exact ⟨start, present, count, rounds⟩
    · rintro ⟨start, present, count, rounds⟩
      have enough : (unseen width here).card < width := by
        have fewer : unseen width here ⊂ Finset.range width := by
          refine (Finset.ssubset_iff_of_subset (Finset.filter_subset ..)).2
            ⟨start, Finset.mem_range.2 (full ▸ present.lt_length), ?_⟩
          exact fun member => (mem_unseen_iff.1 member).2 present
        simpa using Finset.card_lt_card fewer
      exact (computes.reached_of_rounds full full (.inr enough) present rounds).resolve_right not_earlier

end Computes

/-- Rounds can be taken one part after the other. -/
theorem rounds_add_iff {round : Nat → Nat → Prop} {first second start stop : Nat} :
    Rounds round (first + second) start stop ↔
      ∃ middle, Rounds round first start middle ∧ Rounds round second middle stop := by
  induction first generalizing start with
  | zero => simp [Rounds]
  | succ first ih =>
    rw [Nat.succ_add]
    simp only [Rounds, ih, ← exists_and_right, ← exists_and_left, and_assoc]
    exact exists_comm

namespace Expr

variable {text : List Char}

theorem computes_oneOf (set : CharSet) :
    Computes (text.length + 1) ((oneOf set).ends (Place.list text)) ((oneOf set).Spans text) where
  length full := by simp [ends, full, Place.length_list]
  iff {here stop} full := by
    cases stop with
    | zero => simp [ends, At, Spans]
    | succ stop =>
      have last {found : List Bool} (full : found.length = text.length + 1) :
          At (false :: found.dropLast) (stop + 1) ↔ stop < text.length ∧ At found stop := by
        simp [At, List.getElem?_dropLast, full]
      rw [ends, last (by simp [full, Place.length_list]), At.zipWith_iff]
      constructor
      · rintro ⟨-, _, place, present, placed, met⟩
        obtain ⟨-, rfl⟩ := Place.getElem?_list.1 placed
        rw [Bool.and_eq_true] at met
        obtain ⟨rfl, member⟩ := met
        obtain ⟨char, found, holds⟩ := (Option.any_eq_true ..).1 member
        exact ⟨stop, present, rfl, char, found, holds⟩
      · rintro ⟨start, present, same, char, found, member⟩
        cases same
        have within := (List.getElem?_eq_some_iff.1 found).1
        refine ⟨within, true, _, present, Place.getElem?_list.2 ⟨within.le, rfl⟩, ?_⟩
        simp [Place.at, found, member]

theorem computes_holds (assertion : Assertion) :
    Computes (text.length + 1) ((holds assertion).ends (Place.list text))
      ((holds assertion).Spans text) where
  length full := by simp [ends, full, Place.length_list]
  iff {here stop} full := by
    simp only [ends, At.zipWith_iff, Place.getElem?_list, Spans, Bool.and_eq_true]
    constructor
    · rintro ⟨_, _, present, ⟨-, rfl⟩, rfl, met⟩
      exact ⟨stop, present, rfl, met⟩
    · rintro ⟨_, present, rfl, met⟩
      have within := full ▸ At.lt_length present
      exact ⟨true, _, present, ⟨Nat.le_of_lt_succ within, rfl⟩, rfl, met⟩

section Repetition

variable {body : Expr}
  (computes : Computes (text.length + 1) (body.ends (Place.list text)) (body.Spans text))

include computes

theorem computes_any : Computes (text.length + 1) ((repeated body 0 none).ends (Place.list text))
    ((repeated body 0 none).Spans text) := by
  have search := Computes.stay.unite computes.reached_all
  rw [← Place.length_list] at search ⊢
  refine search.congr fun start stop => ?_
  constructor
  · rintro (rfl | ⟨count, rounds⟩)
    · exact ⟨0, Nat.le_refl 0, nofun, rfl⟩
    · exact ⟨count + 1, Nat.zero_le _, nofun, rounds⟩
  · rintro ⟨count, -, -, rounds⟩
    cases count with
    | zero => exact .inl rounds
    | succ count => exact .inr ⟨count, rounds⟩

theorem computes_above (least : Nat) :
    Computes (text.length + 1) ((repeated body (least + 1) none).ends (Place.list text))
      ((repeated body (least + 1) none).Spans text) := by
  have search := (computes.after least).comp computes.reached_all
  rw [← Place.length_list] at search ⊢
  refine search.congr fun start stop => ?_
  constructor
  · rintro ⟨middle, first, count, rounds⟩
    exact ⟨least + (count + 1), by omega, nofun, rounds_add_iff.2 ⟨middle, first, rounds⟩⟩
  · rintro ⟨count, enough, -, rounds⟩
    obtain ⟨more, rfl⟩ := Nat.exists_eq_add_of_le enough
    rw [Nat.add_right_comm, Nat.add_assoc, rounds_add_iff] at rounds
    obtain ⟨middle, first, rest⟩ := rounds
    exact ⟨middle, first, more, rest⟩

theorem computes_bounded (least most : Nat) :
    Computes (text.length + 1) ((repeated body least (some most)).ends (Place.list text))
      ((repeated body least (some most)).Spans text) := by
  have search := (computes.after least).comp (Computes.stay.unite (computes.reached (most - least)))
  have step (here : List Bool) : (repeated body least (some most)).ends (Place.list text) here =
      unite (after (body.ends (Place.list text)) least here)
        (reached (body.ends (Place.list text)) (most - least)
          (after (body.ends (Place.list text)) least here)
          (after (body.ends (Place.list text)) least here)) := by rw [ends]
  rw [funext step]
  refine search.congr fun start stop => ?_
  constructor
  · rintro ⟨middle, first, rfl | ⟨count, within, rounds⟩⟩
    · exact ⟨least, Nat.le_refl _, fun _ _ => Nat.le_max_left .., first⟩
    · refine ⟨least + (count + 1), Nat.le_add_right .., ?_, rounds_add_iff.2 ⟨middle, first, rounds⟩⟩
      rintro _ ⟨⟩
      omega
  · rintro ⟨count, enough, bounded, rounds⟩
    obtain ⟨more, rfl⟩ := Nat.exists_eq_add_of_le enough
    obtain ⟨middle, first, rest⟩ := rounds_add_iff.1 rounds
    refine ⟨middle, first, ?_⟩
    cases more with
    | zero => exact .inl rest
    | succ more =>
      have within := bounded most rfl
      exact .inr ⟨more, by omega, rest⟩

end Repetition

/-- The places where a match can end are those that can be reached by a match. -/
theorem ends_computes (expr : Expr) :
    Computes (text.length + 1) (expr.ends (Place.list text)) (expr.Spans text) := by
  induction expr with
  | empty => exact Computes.stay
  | never => exact Computes.nowhere
  | oneOf set => exact computes_oneOf set
  | holds assertion => exact computes_holds assertion
  | seq first second left right => exact left.comp right
  | either first second left right => exact left.unite right
  | group body computes => exact computes
  | repeated body least most computes =>
    cases most with
    | some most => exact computes_bounded computes least most
    | none =>
      cases least with
      | zero => exact computes_any computes
      | succ least => exact computes_above computes least

/-- An expression matches in a text if it matches between two of its places. -/
theorem isMatch_iff {expr : Expr} :
    expr.isMatch text = true ↔ ∃ start ≤ text.length, ∃ stop, expr.Spans text start stop := by
  have full : ((Place.list text).map fun _ => true).length = text.length + 1 := by
    rw [List.length_map, Place.length_list]
  have everywhere (start : Nat) : At ((Place.list text).map fun _ => true) start ↔ start ≤ text.length := by
    simp only [At, List.map_const', List.getElem?_replicate, Place.length_list, Nat.lt_succ_iff,
      Option.ite_none_right_eq_some, and_true]
  rw [isMatch, At.any_iff]
  simp only [(ends_computes expr).iff full, everywhere, ← exists_and_left]
  exact exists_comm

end Expr

end AppBundle.Pattern
