/-! # What can be wrong with a single model value

Each constructor is one cause; `ModelError.message` is the one place that words it.
-/

namespace AppBundle

/-- A text or a reference that the model refuses. -/
inductive ModelError where
  /-- The text holds a character that delimits placeholder tokens. -/
  | invalidIdentifier (text : String)
  /-- No file type has this extension. -/
  | unknownExtension (extension : String)
  /-- A token names a subpath that its distribution does not have. -/
  | unknownPlaceholder (distribution key : String)
  /-- The text is no pattern for variable names. Why it is none is not recorded. -/
  | invalidPattern (pattern : String)
  /-- No platform has this name. -/
  | unknownPlatform (name : String)
deriving DecidableEq, Repr

namespace ModelError

/-- The text shown for an error. That of an invalid pattern ends before the colon behind which the
reader of patterns explains the place and the cause: here a pattern is read or not, without such an
explanation. -/
def message : ModelError → String
  | invalidIdentifier text =>
    "an identifier can not contain any of '\x7b', '\x7d' or ':', given: '" ++ text ++ "'"
  | unknownExtension extension => "no file type matches extension '" ++ extension ++ "'"
  | unknownPlaceholder distribution key =>
    "distribution '" ++ distribution ++ "' has no placeholder named '" ++ key ++ "'"
  | invalidPattern pattern => "invalid env removal pattern '" ++ pattern ++ "'"
  | unknownPlatform name => "unknown platform: '" ++ name ++ "'"

end ModelError

end AppBundle
