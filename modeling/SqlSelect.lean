import SqlSelect.CommandLine.Run
import SqlSelect.Main
import SqlSelect.Proofs.Aliases
import SqlSelect.Proofs.Arguments
import SqlSelect.Proofs.Builder
import SqlSelect.Proofs.Calls
import SqlSelect.Proofs.Compact
import SqlSelect.Proofs.Confinement
import SqlSelect.Proofs.Conjunctions
import SqlSelect.Proofs.Declarations
import SqlSelect.Proofs.Defects
import SqlSelect.Proofs.Dialects
import SqlSelect.Proofs.DocumentJson
import SqlSelect.Proofs.Events
import SqlSelect.Proofs.FieldNames
import SqlSelect.Proofs.Filling
import SqlSelect.Proofs.Flaws
import SqlSelect.Proofs.Following
import SqlSelect.Proofs.Fragments
import SqlSelect.Proofs.Frozen
import SqlSelect.Proofs.Growth
import SqlSelect.Proofs.Indented
import SqlSelect.Proofs.Likeness
import SqlSelect.Proofs.Maps
import SqlSelect.Proofs.Mentions
import SqlSelect.Proofs.Moments
import SqlSelect.Proofs.Noninterference
import SqlSelect.Proofs.Outline
import SqlSelect.Proofs.Outputs
import SqlSelect.Proofs.Phrases
import SqlSelect.Proofs.Precedence
import SqlSelect.Proofs.Quoting
import SqlSelect.Proofs.Readability
import SqlSelect.Proofs.Reading
import SqlSelect.Proofs.Rebuilding
import SqlSelect.Proofs.References
import SqlSelect.Proofs.Rejections
import SqlSelect.Proofs.Relabeling
import SqlSelect.Proofs.Renaming
import SqlSelect.Proofs.Resolution
import SqlSelect.Proofs.Respelling
import SqlSelect.Proofs.Results
import SqlSelect.Proofs.Series
import SqlSelect.Proofs.Sharing
import SqlSelect.Proofs.Transcription
import SqlSelect.Proofs.Transparency
import SqlSelect.Proofs.Unquoted
import SqlSelect.Proofs.Walk
import SqlSelect.Proofs.Wording
import SqlSelect.Session
