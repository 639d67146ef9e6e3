import AppBundle.Document.Record

/-! # Digests

A digest says how large a file is and what its content hash is. How the hash is computed is the
business of whoever checks it.
-/

namespace AppBundle

open Document

/-- The content hash of a file, as recorded. -/
structure Fingerprint where
  text : String
deriving DecidableEq, Repr

namespace Fingerprint

/-- The document of a fingerprint. -/
def toJson (fingerprint : Fingerprint) : Json := .string fingerprint.text

/-- Read a fingerprint, which can be any text. -/
def decoder : Decoder Fingerprint := fun format value => Fingerprint.mk <$> string format value

end Fingerprint

/-- Expected size and content hash of a file. -/
structure Digest where
  size : UInt64
  fingerprint : Fingerprint
deriving DecidableEq, Repr

namespace Digest

/-- The hash and the size on one line. -/
def display (digest : Digest) : String := digest.fingerprint.text ++ ":" ++ toString digest.size

/-- The document of a digest. -/
def toJson (digest : Digest) : Json :=
  .object [("size", .ofNat digest.size.toNat), ("fingerprint", digest.fingerprint.toJson)]

/-- The fields of a digest. -/
def record : Record Digest :=
  Digest.mk <$> .required "size" natural64 <*> .required "fingerprint" Fingerprint.decoder

/-- Read a digest from its document. -/
def decoder : Decoder Digest := record.decoder "Digest"

end Digest

end AppBundle
