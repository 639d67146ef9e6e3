import AppBundle.Application.Draft
import AppBundle.Environment.EnvDraft
import AppBundle.Json.Reader
import AppBundle.Resolution
import AppBundle.Proofs.Token.Grammar
import AppBundle.Proofs.Token.Pieces
import AppBundle.Proofs.Token.Expansion
import AppBundle.Proofs.Token.Calls
import AppBundle.Proofs.Token.Positions
import AppBundle.Proofs.Artifact.ArchiveNames
import AppBundle.Proofs.Distribution.Reference
import AppBundle.Proofs.Command.Strings
import AppBundle.Proofs.Application.Consistency
import AppBundle.Proofs.Application.Assembly
import AppBundle.Proofs.Application.Inconsistency
import AppBundle.Proofs.Resolution.Selection
import AppBundle.Proofs.Resolution.Failure
import AppBundle.Proofs.Provider.Identity
import AppBundle.Proofs.Resolution.References
import AppBundle.Proofs.Resolution.Rearrangement
import AppBundle.Proofs.Distribution.Passes
import AppBundle.Proofs.Document.RoundTrip
import AppBundle.Proofs.Resolution.HandOver
import AppBundle.Proofs.Provider.Coverage
import AppBundle.Proofs.Provider.Agreement
import AppBundle.Proofs.Pattern.Anchors
import AppBundle.Proofs.Pattern.AsciiMode
import AppBundle.Proofs.Environment.Layers
import AppBundle.Proofs.Resolution.Partition
import AppBundle.Proofs.Resolution.Log
import AppBundle.Proofs.Resolution.Preservation
import AppBundle.Proofs.Application.Reordering
import AppBundle.Proofs.Distribution.Addressing
import AppBundle.Proofs.Provider.Defects
import AppBundle.Proofs.Provider.Screening
import AppBundle.Proofs.Distribution.MissingKeys
import AppBundle.Proofs.Provider.Locations
import AppBundle.Proofs.Distribution.Idempotence
import AppBundle.Proofs.Text.Clean
import AppBundle.Proofs.Text.Filling
import AppBundle.Proofs.Url
import AppBundle.Proofs.Provider.Table
import AppBundle.Proofs.Provider.Acceptance
import AppBundle.Proofs.Provider.Leftover
import AppBundle.Proofs.Provider.CleanLocations
import AppBundle.Proofs.Provider.PathNames
import AppBundle.Proofs.Environment.Drafting
import AppBundle.Proofs.Command.Visits
import AppBundle.Proofs.Environment.SpelledNames
