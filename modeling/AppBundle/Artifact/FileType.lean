import AppBundle.ModelError

/-! # Kinds of file content

Each kind has one canonical extension. For archives the extension is also how the kind is guessed
from a file name: the longest dotted extension that ends the name decides.
-/

namespace AppBundle

/-- The kind of content that a bundled file holds. -/
inductive FileType where
  | blob
  | directory
  | zip
  | tar
  | tarGzip
  | tarBzip2
  | tarXz
  | tarCompress
  | tarZstd
deriving DecidableEq, Repr

namespace FileType

/-- Every kind of content, in the order in which documents list them. -/
def all : List FileType :=
  [blob, directory, zip, tar, tarGzip, tarBzip2, tarXz, tarCompress, tarZstd]

/-- The canonical extension, without a leading dot. -/
def extension : FileType → String
  | blob => "blob"
  | directory => "directory"
  | zip => "zip"
  | tar => "tar"
  | tarGzip => "tar.gz"
  | tarBzip2 => "tar.bz2"
  | tarXz => "tar.xz"
  | tarCompress => "tar.Z"
  | tarZstd => "tar.zst"

/-- The kind whose extension is the given text, letter case included. -/
def ofExtension? (extension : String) : Option FileType := all.find? (·.extension = extension)

/-- The kind whose extension is the given text. -/
def parse (extension : String) : Except ModelError FileType :=
  match ofExtension? extension with
  | some kind => .ok kind
  | none => .error (.unknownExtension extension)

/-- Whether the content is a single file that packs others. -/
def isArchive : FileType → Bool
  | blob | directory => false
  | _ => true

/-- Whether a file name ends in a dot and the extension of a kind. -/
def fits (fileName : String) (kind : FileType) : Bool :=
  ('.' :: kind.extension.toList).isSuffixOf fileName.toList

/-- Of two kinds the one with the longer extension, the second if they are equally long. -/
def longer (left right : FileType) : FileType :=
  if right.extension.length < left.extension.length then left else right

/-- The kind of archive that a file name announces: the one with the longest fitting extension. -/
def infer? (fileName : String) : Option FileType :=
  match all.filter (fun kind => kind.isArchive && fits fileName kind) with
  | [] => none
  | first :: others => some (others.foldl longer first)

theorem ofExtension?_extension (kind : FileType) : ofExtension? kind.extension = some kind := by
  cases kind <;> rfl

theorem parse_extension (kind : FileType) : parse kind.extension = .ok kind := by
  cases kind <;> rfl

end FileType

end AppBundle
