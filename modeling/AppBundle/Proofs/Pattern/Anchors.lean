import AppBundle.Environment.NamePattern
import AppBundle.Proofs.Pattern.FramedGroup
import AppBundle.Proofs.Pattern.Spans

/-! # Name patterns and whole names

The anchors of a name pattern hold at the ends of a name only, and the text of the pattern stands in a group
between them. So a pattern that matches a name matches all of it, if its text can be read by itself: then
the group ends where the frame ends it. A text that ends the group by a parenthesis of its own can leave the
frame, and its alternatives are then anchored on one side only.
-/

namespace AppBundle

open Pattern

namespace Pattern

/-- Whether a text can be read by itself up to its end. -/
def standsAlone (text : List Char) : Bool :=
  (Reader.body (text.length + 1) .initial [] .fresh text).any (·.rest.isEmpty)

/-- A text that is a pattern without a frame stands alone. -/
theorem standsAlone_of_parse? {text : List Char} {expr : Expr} (parsed : parse? text = some expr) :
    standsAlone text = true := by
  obtain ⟨closed, read, rest⟩ := Option.bind_eq_some_iff.1 parsed
  rw [Option.ite_none_right_eq_some] at rest
  rw [standsAlone, read, Option.any_some, rest.1.1]
  rfl

namespace Place

variable {text : List Char} {number : Nat}

theorem meets_textStart_iff (within : number ≤ text.length) :
    (Place.at text number).meets .textStart = true ↔ number = 0 := by
  cases number with
  | zero => exact iff_of_true rfl rfl
  | succ number => simp [Place.at, meets, List.getElem?_eq_getElem (Nat.lt_of_succ_le within)]

theorem meets_textEnd_iff (within : number ≤ text.length) :
    (Place.at text number).meets .textEnd = true ↔ number = text.length := by
  simp only [Place.at, meets, Option.isNone_iff_eq_none, List.getElem?_eq_none_iff]
  omega

end Place

namespace Expr

variable {text : List Char} {expr part : Expr}

/-- A match in a text ends in it. -/
theorem Spans.stop_le {start stop : Nat} (spans : expr.Spans text start stop)
    (within : start ≤ text.length) : stop ≤ text.length := by
  have computes : Computes (text.length + 1) (expr.ends (Place.list text)) (expr.Spans text) :=
    ends_computes expr
  have full : (List.replicate (text.length + 1) true).length = text.length + 1 := List.length_replicate
  have present : At (List.replicate (text.length + 1) true) start := by
    rw [At, List.getElem?_replicate, if_pos (Nat.lt_succ_of_le within)]
  have found := ((computes.iff full).2 ⟨start, present, spans⟩).lt_length
  rw [computes.length full] at found
  exact Nat.le_of_lt_succ found

/-- A part between the two anchors. -/
def anchored (part : Expr) : Expr :=
  .seq (.holds .textStart) (.seq part (.seq (.holds .textEnd) .empty))

theorem anchored_spans_iff {start stop : Nat} (within : start ≤ text.length) :
    (anchored part).Spans text start stop ↔
      start = 0 ∧ stop = text.length ∧ part.Spans text 0 text.length := by
  constructor
  · rintro ⟨_, ⟨rfl, first⟩, middle, spans, _, ⟨rfl, last⟩, rfl⟩
    rw [Place.meets_textStart_iff within] at first
    rw [Place.meets_textEnd_iff (spans.stop_le within)] at last
    subst first last
    exact ⟨rfl, rfl, spans⟩
  · rintro ⟨rfl, rfl, spans⟩
    exact ⟨0, ⟨rfl, rfl⟩, _, spans, _, ⟨rfl, (Place.meets_textEnd_iff (Nat.le_refl _)).2 rfl⟩, rfl⟩

/-- An anchored part matches in a text if the part matches all of it. -/
theorem isMatch_anchored_iff : (anchored part).isMatch text = true ↔ part.Spans text 0 text.length := by
  rw [isMatch_iff]
  constructor
  · rintro ⟨start, within, stop, spans⟩
    exact ((anchored_spans_iff within).1 spans).2.2
  · intro spans
    exact ⟨0, Nat.zero_le _, text.length, (anchored_spans_iff (Nat.zero_le _)).2 ⟨rfl, rfl, spans⟩⟩

end Expr

namespace Reader

variable {fuel : Nat} {names : List (List Char)} {group : Open} {rest : List Char}

theorem body_caret : body (fuel + 1) .initial names group ('^' :: rest) =
    body fuel .initial names (group.push (.plain (.holds .textStart))) rest := rfl

theorem body_plain : body (fuel + 1) .initial names group ('(' :: '?' :: ':' :: rest) = (do
    let closed ← body fuel .initial names .fresh rest
    match closed.rest with
    | [] => none
    | _ :: rest => body fuel .initial closed.names (group.push (closed.part.grouped .plain)) rest) := rfl

end Reader

/-- A text that stands alone is read as a part between the anchors of its frame. -/
theorem parse?_anchored {text : List Char} {part : Part} {names : List (List Char)}
    (alone : Reader.body (text.length + 1) .initial [] .fresh text = some ⟨part, names, []⟩) {expr : Expr}
    (parsed : parse? (['^', '(', '?', ':'] ++ text ++ [')', '$']) = some expr) :
    expr = part.expr.anchored := by
  obtain ⟨closed, read, parsed⟩ := Option.bind_eq_some_iff.1 parsed
  have length : (['^', '(', '?', ':'] ++ text ++ [')', '$']).length + 1 =
      text.length + 4 + 1 + 1 + 1 := by simp
  have shape : ['^', '(', '?', ':'] ++ text ++ [')', '$'] =
      '^' :: '(' :: '?' :: ':' :: (text ++ frameEnd) := rfl
  obtain ⟨⟨_, _, left⟩, again, rfl, rfl, frame⟩ :=
    (Reader.body_again (Nat.add_le_add_left (by decide : 1 ≤ 5) _) .initial [] .fresh
      (Framed.append text)).exists_of_some alone
  rw [length, shape, Reader.body_caret, Reader.body_plain, again, Option.bind_eq_bind,
    Option.bind_some] at read
  cases frame with
  | cut => cases read
  | close =>
    obtain rfl := Option.some.inj read
    rw [Option.ite_none_right_eq_some] at parsed
    exact (Option.some.inj parsed.2).symm

end Pattern

namespace NamePattern

variable {pattern : NamePattern} {name : String}

/-- If the text of a pattern stands alone, a name is matched only as a whole. -/
theorem isMatch_iff_spans (alone : standsAlone pattern.text.toList = true) :
    pattern.isMatch name = true ↔ pattern.expr.Spans name.toList 0 name.toList.length := by
  obtain ⟨⟨part, names, rest⟩, read, ended⟩ := (Option.any_eq_true ..).1 alone
  obtain rfl := List.isEmpty_iff.1 ended
  have expr := parse?_anchored read pattern.compiled
  rw [isMatch, expr, Expr.isMatch_anchored_iff, Expr.anchored_spans_iff (Nat.zero_le _)]
  exact (and_iff_right rfl).symm.trans (and_congr_right fun _ => (and_iff_right rfl).symm)

/-- Two names to choose from. -/
def alternatives : NamePattern where
  text := "A|B"
  expr := .anchored (.either (.oneOf (.single 'A')) (.either (.oneOf (.single 'B')) .never))
  compiled := by rfl

/-- Each of the names is matched as a whole, and no longer name is. -/
theorem alternatives_isMatch_iff_spans :
    standsAlone alternatives.text.toList = true ∧ alternatives.expr.Spans "B".toList 0 1 ∧
      ¬ alternatives.expr.Spans "AX".toList 0 2 := by
  have alone : standsAlone alternatives.text.toList = true := by rfl
  have longer : alternatives.isMatch "AX" = false := by rfl
  refine ⟨alone, (isMatch_iff_spans alone).1 (by rfl : alternatives.isMatch "B" = true), fun spans => ?_⟩
  have found : alternatives.isMatch "AX" = true := (isMatch_iff_spans alone).2 spans
  rw [longer] at found
  cases found

/-- The text of this pattern closes the group of the frame and opens another one. Its first alternative is
anchored at the start only and its second one at the end only. -/
def escaping : NamePattern where
  text := "A)|(?:B"
  expr := .either (.seq (.holds .textStart) (.seq (.oneOf (.single 'A')) .empty))
    (.either (.seq (.oneOf (.single 'B')) (.seq (.holds .textEnd) .empty)) .never)
  compiled := by rfl

/-- A text that does not stand alone can be accepted, and then matches a name of which it matches only the
beginning. -/
theorem escaping_not_spans :
    parse "A)|(?:B" = .ok escaping ∧ escaping.isMatch "AX" = true ∧
      ¬ escaping.expr.Spans "AX".toList 0 "AX".toList.length := by
  refine ⟨parse_text escaping, by rfl, ?_⟩
  rintro (⟨_, ⟨rfl, -⟩, _, ⟨rfl, -⟩, ⟨⟩⟩ | ⟨_, ⟨-, char, found, member⟩, -⟩ | nowhere)
  · obtain rfl : 'A' = char := Option.some.inj found
    exact absurd member (by decide)
  · exact nowhere

end NamePattern

end AppBundle
