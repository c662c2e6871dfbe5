import SoloScript.Asset
import SoloScript.Build
import SoloScript.Command.Options
import SoloScript.Command.Run
import SoloScript.Config.Basic
import SoloScript.Config.Field
import SoloScript.Config.Load
import SoloScript.Config.Reader
import SoloScript.Failure
import SoloScript.File.Artifact
import SoloScript.File.Fault
import SoloScript.File.Operation
import SoloScript.File.Path
import SoloScript.File.Tree
import SoloScript.File.Walk
import SoloScript.Http.Escape
import SoloScript.Http.Exchange
import SoloScript.Http.Fetch
import SoloScript.Http.Host
import SoloScript.Http.Name
import SoloScript.Http.Name.Composition
import SoloScript.Http.Name.Direction
import SoloScript.Http.Name.Joining
import SoloScript.Http.Name.Mark
import SoloScript.Http.Name.Spelling
import SoloScript.Http.Path
import SoloScript.Http.Punycode
import SoloScript.Http.Scheme
import SoloScript.Http.Url
import SoloScript.Http.Url.Reader
import SoloScript.Json.Cursor
import SoloScript.Json.Fault
import SoloScript.Json.NumberLiteral
import SoloScript.Json.StringLiteral
import SoloScript.Json.Value
import SoloScript.Log.Event
import SoloScript.Log.Filter
import SoloScript.Main
import SoloScript.Number.Shortest
import SoloScript.Resolution
import SoloScript.Script.Assemble
import SoloScript.Script.Base64
import SoloScript.Script.BinaryLiteral
import SoloScript.Script.Body
import SoloScript.Script.Fragments
import SoloScript.Script.TemplateLiteral
import SoloScript.Text.Hex
import SoloScript.Text.Quoted
import SoloScript.Text.Ranges
import SoloScript.Text.Similarity
import SoloScript.Text.Substring
import SoloScript.Text.Terminal
import SoloScript.Text.Utf8
import SoloScript.Text.Visible
import SoloScript.Proofs.Script.TemplateLiteral
import SoloScript.Proofs.Script.Base64
import SoloScript.Proofs.Script.BinaryLiteral
import SoloScript.Proofs.Outcome
import SoloScript.Proofs.Resolution
import SoloScript.Proofs.Config.Sources
import SoloScript.Proofs.Build.Success
import SoloScript.Proofs.File.Path
import SoloScript.Proofs.File.Tree
import SoloScript.Proofs.File.Walk
import SoloScript.Proofs.File.Slot
import SoloScript.Proofs.File.Directories
import SoloScript.Proofs.File.Artifact
import SoloScript.Proofs.Build.Failure
import SoloScript.Proofs.File.Operation
import SoloScript.Proofs.Text.Utf8
import SoloScript.Proofs.Script.Balance
import SoloScript.Proofs.Script.Body
import SoloScript.Proofs.Script.Location
import SoloScript.Proofs.Asset
import SoloScript.Proofs.Resolution.Agreement
import SoloScript.Proofs.Resolution.FirstFailure
import SoloScript.Proofs.File.Limits
import SoloScript.Proofs.File.Admission
import SoloScript.Proofs.File.Replacement
import SoloScript.Proofs.File.Storage
import SoloScript.Proofs.Build.Course
import SoloScript.Proofs.Build.Store
import SoloScript.Proofs.File.Overwrite
import SoloScript.Proofs.File.Readback
import SoloScript.Proofs.Script.Replacement
import SoloScript.Proofs.Build.Overwrite
import SoloScript.Proofs.Build.Sequence
import SoloScript.Proofs.Script.Commutation
import SoloScript.Proofs.Script.Overwrite
import SoloScript.Proofs.Script.Fragments
import SoloScript.Proofs.Script.Statements
import SoloScript.Proofs.Build.Diagnosis
import SoloScript.Proofs.Command.Run
import SoloScript.Proofs.Script.Reach
import SoloScript.Proofs.Script.ByteScan
import SoloScript.Proofs.Script.Locality
import SoloScript.Proofs.Script.Precedence
import SoloScript.Proofs.Config.Reader
import SoloScript.Proofs.Script.Prefixes
import SoloScript.Proofs.Resolution.Progress
import SoloScript.Proofs.Config.Overrides
import SoloScript.Proofs.Config.Elements
import SoloScript.Proofs.Config.Limits
import SoloScript.Proofs.Command.Spelling
import SoloScript.Proofs.Http.Exchange
import SoloScript.Proofs.Http.Url
import SoloScript.Proofs.Http.Fetch
