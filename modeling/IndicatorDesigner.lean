import IndicatorDesigner.Numeric.Power
import IndicatorDesigner.Numeric.Binary64
import IndicatorDesigner.Numeric.Shortest
import IndicatorDesigner.Numeric.Word
import IndicatorDesigner.Text.CodePoint
import IndicatorDesigner.Text.Hexadecimal
import IndicatorDesigner.Text.Split
import IndicatorDesigner.Text.Printable
import IndicatorDesigner.Text.DecimalDigit
import IndicatorDesigner.Text.Blank
import IndicatorDesigner.Text.UpperCase
import IndicatorDesigner.Text.Quoted
import IndicatorDesigner.Text.Utf8
import IndicatorDesigner.Numeric.Numeral
import IndicatorDesigner.Numeric.Decimal
import IndicatorDesigner.Value.Basic
import IndicatorDesigner.Value.Printer
import IndicatorDesigner.Json.Reader
import IndicatorDesigner.Json.Printer
import IndicatorDesigner.Json.Encoding
import IndicatorDesigner.Settings.Feature
import IndicatorDesigner.Settings.Choice
import IndicatorDesigner.Settings.Defaults
import IndicatorDesigner.Settings.Bounds
import IndicatorDesigner.Config.Basic
import IndicatorDesigner.Config.Build
import IndicatorDesigner.Config.Key
import IndicatorDesigner.Value.Digest
import IndicatorDesigner.Script.Literal
import IndicatorDesigner.Script.Field
import IndicatorDesigner.Script.Block
import IndicatorDesigner.Script.Document
import IndicatorDesigner.Cache.Capacity
import IndicatorDesigner.Cache.Recency
import IndicatorDesigner.Cache.Basic
import IndicatorDesigner.Request.Issue
import IndicatorDesigner.Request.Coercion
import IndicatorDesigner.Request.Basic
import IndicatorDesigner.Log.Level
import IndicatorDesigner.Log.Line
import IndicatorDesigner.Log.Logger
import IndicatorDesigner.Preview.Payload
import IndicatorDesigner.Preview.Message
import IndicatorDesigner.Preview.Hub
import IndicatorDesigner.Preview.Session
import IndicatorDesigner.Settings.Catalog
import IndicatorDesigner.Http.Response
import IndicatorDesigner.Http.Target
import IndicatorDesigner.Http.Service
import IndicatorDesigner.Storage.Path
import IndicatorDesigner.Storage.Workspace
import IndicatorDesigner.Clipboard
import IndicatorDesigner.Environment
import IndicatorDesigner.CommandLine.Flag
import IndicatorDesigner.CommandLine.Usage
import IndicatorDesigner.CommandLine.Token
import IndicatorDesigner.CommandLine.Arguments
import IndicatorDesigner.CommandLine.Run
import IndicatorDesigner.Main
import IndicatorDesigner.Proofs.Rendering
import IndicatorDesigner.Proofs.Lines
import IndicatorDesigner.Proofs.Reading
import IndicatorDesigner.Proofs.Inputs
import IndicatorDesigner.Proofs.Literals
import IndicatorDesigner.Proofs.Acceptance
import IndicatorDesigner.Proofs.LeastRecentlyUsed
import IndicatorDesigner.Proofs.Transparency
import IndicatorDesigner.Proofs.Answers
import IndicatorDesigner.Proofs.Independence
import IndicatorDesigner.Proofs.Dependence
import IndicatorDesigner.Proofs.Entries
import IndicatorDesigner.Proofs.Issues
import IndicatorDesigner.Proofs.Agreement
import IndicatorDesigner.Proofs.Trace
import IndicatorDesigner.Proofs.Outcome
import IndicatorDesigner.Proofs.Recency
import IndicatorDesigner.Proofs.Rounding
import IndicatorDesigner.Proofs.Sameness
import IndicatorDesigner.Proofs.Uses
import IndicatorDesigner.Proofs.Score
import IndicatorDesigner.Proofs.Inclusion
import IndicatorDesigner.Proofs.Normalization
import IndicatorDesigner.Proofs.Signals
import IndicatorDesigner.Proofs.Limits
import IndicatorDesigner.Proofs.OpenSessions
import IndicatorDesigner.Proofs.FieldByField
import IndicatorDesigner.Proofs.Statuses
import IndicatorDesigner.Proofs.Replies
import IndicatorDesigner.Proofs.Accounting
import IndicatorDesigner.Proofs.FrontEnds
import IndicatorDesigner.Proofs.Storage
import IndicatorDesigner.Proofs.Emission
import IndicatorDesigner.Proofs.Vocabulary
import IndicatorDesigner.Proofs.Variables
import IndicatorDesigner.Proofs.Skeleton
import IndicatorDesigner.Proofs.Format
import IndicatorDesigner.Proofs.TwoPlaces
import IndicatorDesigner.Proofs.Totality
import IndicatorDesigner.Proofs.Overriding
import IndicatorDesigner.Proofs.KeyOrder
import IndicatorDesigner.Proofs.Identity
import IndicatorDesigner.Proofs.Restoring
import IndicatorDesigner.Proofs.Routing
