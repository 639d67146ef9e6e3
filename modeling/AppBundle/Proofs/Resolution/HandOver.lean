import AppBundle.Resolution
import AppBundle.Proofs.Document.RoundTrip

/-! # Reading a resolution that was handed over

The text of a resolution is one object with a member for each part of the resolution, in a fixed order.
Every part is read back from it as it was, so the text keeps apart any two resolutions that differ
somewhere: in a list, in a name that is absent in one and empty in the other, or in one character of a
text.
-/

namespace AppBundle.Resolution

open Document

/-- The parts of a resolution, all of which have to be there. -/
def record : Record Resolution :=
  Resolution.mk
    <$> .required "application" string
    <*> .required "platform" (refined Platform.parse)
    <*> .required "load_dotenv" bool
    <*> .required "eager" (list Distribution.decoder)
    <*> .required "lazy" (list Distribution.decoder)
    <*> .required "unavailable" (list (refined Identifier.parse))
    <*> .required "files" (list File.decoder)
    <*> .required "commands" (list Command.decoder)
    <*> .required "bindings" (list Command.decoder)

/-- Read a resolution from its document. -/
def decoder : Decoder Resolution := record.decoder "Resolution"

theorem decoder_undoes_toJson : Undoes .json decoder toJson := by
  rintro ⟨application, platform, loadDotenv, eager, onDemand, unavailable, files, commands, bindings⟩
  have dists := Distribution.decoder_undoes_toJson.list
  have fields : record.Reads .json _ (Resolution.mk application platform loadDotenv eager onDemand
      unavailable files commands bindings) :=
    Record.reads_pure Resolution.mk
      |>.field (undoes_string application)
      |>.field (Platform.parse_undoes_name platform)
      |>.field (undoes_bool loadDotenv)
      |>.field (dists eager)
      |>.field (dists onDemand)
      |>.field (Identifier.parse_undoes_text.list unavailable)
      |>.field (File.decoder_undoes_toJson.list files)
      |>.field (Command.decoder_undoes_toJson.list commands)
      |>.field (Command.decoder_undoes_toJson.list bindings)
  exact fields.decoder (by decide) "Resolution"

/-- The handed over text is read as an object with the parts of the resolution in their order, and from
that object the resolution is read back. No two resolutions are handed over as the same text. -/
theorem canonicalJson_faithful :
    (∀ resolution, ∃ members, Json.parse? resolution.canonicalJson = some (.object members) ∧
      members.map Prod.fst = record.names ∧ decoder .json (.object members) = .ok resolution) ∧
    Function.Injective canonicalJson := by
  constructor
  · intro resolution
    exact ⟨_, Json.parse?_render resolution.toJson, rfl, decoder_undoes_toJson resolution⟩
  · exact Json.render_injective.comp decoder_undoes_toJson.injective

end AppBundle.Resolution
