import AppBundle.Proofs.Token.Occurrences

/-! # Positions of tokens

The tokens of a text are listed with one entry for each position at which a token is written, from the left:
none is left out and none is listed twice, however openings and closing braces are nested in front of it,
behind it or around it. What is written for one token ends before the next one begins. Together with the
grammar of what stands between the braces this says what listing gives without saying how it scans.
Positions are counted in characters.
-/

namespace AppBundle.Token

/-- At a position of a text begin an opening `#{`, an inner text that is read as a token, and the brace that
closes it. -/
structure StandsAt (text : String) (position : Nat) (inner : String) (token : Token) : Prop where
  closed : '}' ∉ inner.toList
  read : parse? inner = some token
  written : ("#\x7b" ++ inner ++ "\x7d").toList <+: text.toList.drop position

/-- The tokens of a text, each with the position at which it begins. -/
def located (text : String) : List (Nat × Token) :=
  (List.range text.length).filterMap fun position =>
    (atFront? (text.toList.drop position)).map (position, ·)

variable {text inner otherInner : String} {position other : Nat} {token otherToken : Token}

/-- What is read back between the braces is what the token writes there. -/
theorem standsAt_iff :
    StandsAt text position inner token ↔
      inner = token.inner ∧ atFront? (text.toList.drop position) = some token := by
  rw [atFront?_eq_some_iff]
  constructor
  · rintro ⟨closed, read, written⟩
    obtain ⟨formed, rfl⟩ := (parse?_eq_some_iff closed).1 read
    exact ⟨rfl, formed, toList_written token ▸ written⟩
  · rintro ⟨rfl, formed, starts⟩
    have closed := formed.braces_notMem_inner.2
    exact ⟨closed, (parse?_eq_some_iff closed).2 ⟨formed, rfl⟩, toList_written token ▸ starts⟩

/-- The text from each place on is what is left behind a number of characters. -/
theorem tails_eq_map_drop (chars : List Char) :
    chars.tails = (List.range (chars.length + 1)).map chars.drop := by
  apply List.ext_getElem
  · simp
  · intro index _ _
    rw [List.getElem_tails, List.getElem_map, List.getElem_range]

/-- Without their positions the located tokens are those that are listed. -/
theorem map_snd_located (text : String) : (located text).map Prod.snd = scan text := by
  have ended : atFront? (text.toList.drop text.toList.length) = none := by
    rw [List.drop_length]
    rfl
  rw [scan_eq_occurrences, occurrences, tails_eq_map_drop, List.range_succ, List.map_append,
    List.map_singleton, List.filterMap_append, List.filterMap_cons_none ended, List.filterMap_nil,
    List.append_nil, List.filterMap_map, located, List.map_filterMap, String.length_toList]
  simp only [Option.map_map, Function.comp_def, Option.map_id']

theorem mem_located_iff :
    (position, token) ∈ located text ↔ ∃ inner, StandsAt text position inner token := by
  simp only [standsAt_iff, exists_and_right, exists_eq, true_and]
  rw [located, List.mem_filterMap]
  constructor
  · rintro ⟨place, -, found⟩
    obtain ⟨_, starts, same⟩ := Option.map_eq_some_iff.1 found
    cases same
    exact starts
  · intro starts
    have within : position < text.length := by
      by_contra beyond
      rw [← String.length_toList, Nat.not_lt] at beyond
      rw [List.drop_of_length_le beyond] at starts
      cases starts
    exact ⟨position, List.mem_range.2 within, by rw [starts, Option.map_some]⟩

/-- The positions of the listed tokens ascend. -/
theorem located_ascending (text : String) :
    (located text).Pairwise fun left right => left.1 < right.1 := by
  apply List.Pairwise.filterMap _ _ List.pairwise_lt_range
  rintro first second before left found right foundRight
  obtain ⟨_, -, rfl⟩ := Option.map_eq_some_iff.1 found
  obtain ⟨_, -, rfl⟩ := Option.map_eq_some_iff.1 foundRight
  exact before

/-- A token at the front of a text ends where another one begins, or before. -/
theorem length_chars_le_of_atFront? {front rest : List Char} (nonempty : front ≠ [])
    (starts : atFront? (front ++ rest) = some token) (behind : atFront? rest = some otherToken) :
    token.chars.length ≤ front.length := by
  obtain ⟨formed, tail, whole⟩ := atFront?_eq_some_iff.1 starts
  obtain ⟨-, after, rfl⟩ := atFront?_eq_some_iff.1 behind
  obtain ⟨first, firstFormed, left, rfl⟩ :=
    Piece.startsToken_of_append_open nonempty ⟨token, formed, tail, whole.symm⟩
  -- Both tokens are at the front of the whole text, so they are one.
  have atFront : first.chars <+: first.chars ++ left ++ (otherToken.chars ++ after) :=
    (List.prefix_append _ _).trans (List.prefix_append _ _)
  cases starts.symm.trans (atFront?_eq_some_iff.2 ⟨firstFormed, atFront⟩)
  rw [List.length_append]
  exact Nat.le_add_right _ _

/-- What is written for a token ends where a later token begins, or before. -/
theorem StandsAt.ends_before (stands : StandsAt text position inner token)
    (later : StandsAt text other otherInner otherToken) (before : position < other) :
    position + ("#\x7b" ++ inner ++ "\x7d").length ≤ other := by
  obtain ⟨rfl, starts⟩ := standsAt_iff.1 stands
  obtain ⟨-, startsLater⟩ := standsAt_iff.1 later
  obtain ⟨gap, rfl⟩ := Nat.exists_eq_add_of_lt before
  have cut : text.toList.drop position =
      (text.toList.drop position).take (gap + 1) ++ text.toList.drop (position + gap + 1) := by
    rw [Nat.add_assoc, ← List.drop_drop, List.take_append_drop]
  have nonempty : (text.toList.drop position).take (gap + 1) ≠ [] := by
    rw [ne_eq, List.take_eq_nil_iff]
    rintro (none | ended)
    · cases none
    · rw [ended] at starts
      cases starts
  have fits := length_chars_le_of_atFront? nonempty (cut ▸ starts) startsLater
  have short : ((text.toList.drop position).take (gap + 1)).length ≤ gap + 1 := List.length_take_le _ _
  rw [← String.length_toList, toList_written]
  omega

/-- What is read as a token and what is listed. An inner text without a closing brace is read exactly if it is
an id, or an id and a key that is not empty around a colon, neither with a brace or a colon of its own, and
the token writes it again. The listed tokens are, in the order of their positions, one for each position at
which a token stands, and no two of these places overlap. -/
theorem scan_exact :
    (∀ (inner id : String) (key : Option String), '}' ∉ inner.toList →
      (parse? inner = some ⟨id, key⟩ ↔
        Plain id.toList ∧ (key = none ∧ inner = id ∨
          ∃ subpath, key = some subpath ∧ subpath ≠ "" ∧ Plain subpath.toList ∧
            inner = id ++ ":" ++ subpath))) ∧
    (∀ (inner : String) (token : Token), '}' ∉ inner.toList → parse? inner = some token →
      token.inner = inner) ∧
    ∀ text : String,
      (located text).map Prod.snd = scan text ∧
      ((located text).Pairwise fun left right => left.1 < right.1) ∧
      (∀ position token,
        (position, token) ∈ located text ↔ ∃ inner, StandsAt text position inner token) ∧
      ∀ position inner token other otherInner otherToken, StandsAt text position inner token →
        StandsAt text other otherInner otherToken → position < other →
          position + ("#\x7b" ++ inner ++ "\x7d").length ≤ other := by
  refine ⟨?_, ?_, fun text => ⟨map_snd_located text, located_ascending text, ?_, ?_⟩⟩
  · intro inner id key closed
    rw [parse?_eq_some_iff closed, wellFormed_and_inner_iff]
  · intro inner token closed read
    exact ((parse?_eq_some_iff closed).1 read).2.symm
  · intro position token
    exact mem_located_iff
  · intro position inner token other otherInner otherToken stands later before
    exact stands.ends_before later before

/-- One token stands inside an opening that is closed too late, another one right behind it; an empty key makes
the last opening no token. -/
def nestedOpening : String := "#\x7b#\x7ba\x7d\x7d#\x7bb:k\x7d#\x7bb:\x7d"

theorem scan_nestedOpening :
    '}' ∉ "b:k".toList ∧ parse? "b:k" = some ⟨"b", some "k"⟩ ∧ (Token.mk "b" (some "k")).inner = "b:k" ∧
      StandsAt nestedOpening 2 "a" ⟨"a", none⟩ ∧ StandsAt nestedOpening 7 "b:k" ⟨"b", some "k"⟩ ∧
      2 + ("#\x7b" ++ "a" ++ "\x7d").length ≤ 7 ∧
      scan nestedOpening = [⟨"a", none⟩, ⟨"b", some "k"⟩] := by
  have closed : '}' ∉ "b:k".toList := by decide
  obtain ⟨grammar, written, listed⟩ := scan_exact
  obtain ⟨asListed, -, -, apart⟩ := listed nestedOpening
  have plain : Plain "b".toList := ⟨by decide, by decide, by decide⟩
  have plainKey : Plain "k".toList := ⟨by decide, by decide, by decide⟩
  have read : parse? "b:k" = some ⟨"b", some "k"⟩ :=
    (grammar "b:k" "b" (some "k") closed).2 ⟨plain, .inr ⟨"k", rfl, by decide, plainKey, rfl⟩⟩
  have first : StandsAt nestedOpening 2 "a" ⟨"a", none⟩ := ⟨by decide, by decide, by decide⟩
  have second : StandsAt nestedOpening 7 "b:k" ⟨"b", some "k"⟩ := ⟨closed, read, by decide⟩
  refine ⟨closed, read, written _ _ closed read, first, second, ?_, ?_⟩
  · exact apart _ _ _ _ _ _ first second (by decide)
  · rw [← asListed]
    decide

end AppBundle.Token
