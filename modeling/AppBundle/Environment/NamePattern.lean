import AppBundle.ModelError
import AppBundle.Pattern.Reader

/-! # Patterns for variable names

A name pattern is a pattern text that is read between anchors, so that it speaks about a name as a
whole. The anchors are put around the text as it stands. Name patterns are compared and ordered by
their text.
-/

namespace AppBundle

/-- The characters of a pattern text between its anchors. -/
def NamePattern.anchored (text : String) : List Char :=
  ['^', '(', '?', ':'] ++ text.toList ++ [')', '$']

/-- A pattern for the names of environment variables. -/
structure NamePattern where
  text : String
  expr : Pattern.Expr
  compiled : Pattern.parse? (NamePattern.anchored text) = some expr

namespace NamePattern

/-- The name pattern of a text, if that is a pattern between its anchors. -/
def parse (text : String) : Except ModelError NamePattern :=
  match compiled : Pattern.parse? (anchored text) with
  | some expr => .ok ⟨text, expr, compiled⟩
  | none => .error (.invalidPattern text)

/-- Whether the anchored pattern is found in a name. -/
def isMatch (pattern : NamePattern) (name : String) : Bool := pattern.expr.isMatch name.toList

/-- A name pattern is determined by its text. -/
theorem ext_text {left right : NamePattern} (texts : left.text = right.text) : left = right := by
  obtain ⟨text, expr, compiled⟩ := left
  obtain ⟨_, other, compiled'⟩ := right
  obtain rfl : text = _ := texts
  obtain rfl := Option.some.inj (compiled.symm.trans compiled')
  rfl

instance : DecidableEq NamePattern := fun left right =>
  if texts : left.text = right.text then isTrue (ext_text texts)
  else isFalse fun same => texts (congrArg text same)

instance : Ord NamePattern := ⟨compareOn text⟩

instance : Std.TransOrd NamePattern :=
  inferInstanceAs (Std.TransCmp (compareOn text))

instance : Std.LawfulEqOrd NamePattern where
  eq_of_compare same := ext_text (Std.LawfulEqOrd.eq_of_compare (α := String) same)

theorem parse_text (pattern : NamePattern) : parse pattern.text = .ok pattern := by
  unfold parse
  split
  · exact congrArg _ (ext_text rfl)
  · next refused => exact absurd (pattern.compiled.symm.trans refused) (by simp)

theorem text_of_parse {text : String} {pattern : NamePattern}
    (parsed : parse text = .ok pattern) : pattern.text = text := by
  unfold parse at parsed
  split at parsed
  · cases parsed; rfl
  · cases parsed

end NamePattern

end AppBundle
