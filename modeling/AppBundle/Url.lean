/-! # File names in locations

The path of a location ends before its first question mark or number sign; the file name is what
follows the last slash of the path.
-/

namespace AppBundle.Url

/-- The part of a location before its query and its fragment. -/
def path (url : List Char) : List Char := url.takeWhile fun char => char ≠ '?' && char ≠ '#'

/-- The characters behind the last slash, or all if there is none. -/
def lastSegment (path : List Char) : List Char := (path.reverse.takeWhile (· ≠ '/')).reverse

/-- The file name in a location, if it is not empty. -/
def fileName? (url : String) : Option String :=
  match lastSegment (path url.toList) with
  | [] => none
  | name => some (String.ofList name)

end AppBundle.Url
