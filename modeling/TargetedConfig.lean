import TargetedConfig.Anomaly
import TargetedConfig.Binary64.Basic
import TargetedConfig.Binary64.Decimal
import TargetedConfig.Binary64.Literal
import TargetedConfig.Context
import TargetedConfig.Digest.Sha256
import TargetedConfig.Display
import TargetedConfig.Engine
import TargetedConfig.Failure
import TargetedConfig.Journal
import TargetedConfig.Json.Text
import TargetedConfig.Json.Token
import TargetedConfig.Json.Value
import TargetedConfig.Launch
import TargetedConfig.Numeral
import TargetedConfig.OrderedMap
import TargetedConfig.Parameter.Basic
import TargetedConfig.Parameter.Resolution
import TargetedConfig.Pattern.Basic
import TargetedConfig.Pattern.Class
import TargetedConfig.Pattern.Match
import TargetedConfig.Pattern.Matcher
import TargetedConfig.Pattern.Reader
import TargetedConfig.Pattern.Search
import TargetedConfig.Pattern.Token
import TargetedConfig.Proofs.Ledger
import TargetedConfig.Proofs.OrderedMap
import TargetedConfig.Proofs.Targeting.Evaluation
import TargetedConfig.Relation
import TargetedConfig.Session
import TargetedConfig.Settings
import TargetedConfig.Settings.Assignment
import TargetedConfig.Settings.Reference
import TargetedConfig.Targeting.Bucket
import TargetedConfig.Targeting.Comparison
import TargetedConfig.Targeting.Condition
import TargetedConfig.Targeting.Evaluation
import TargetedConfig.Targeting.Operator
import TargetedConfig.Template.Basic
import TargetedConfig.Template.Decoding
import TargetedConfig.Template.Encoding
import TargetedConfig.Template.Field
import TargetedConfig.Template.IntegerText
import TargetedConfig.Template.Text
import TargetedConfig.Template.Violation
import TargetedConfig.Text.Blank
import TargetedConfig.Text.Case
import TargetedConfig.Text.Digit
import TargetedConfig.Text.Identifier
import TargetedConfig.Text.Integer
import TargetedConfig.Text.Name
import TargetedConfig.Text.Name.Alias
import TargetedConfig.Text.Name.Ancient
import TargetedConfig.Text.Name.Asian
import TargetedConfig.Text.Name.European
import TargetedConfig.Text.Name.Forms
import TargetedConfig.Text.Name.Pictographs
import TargetedConfig.Text.Name.Scripts
import TargetedConfig.Text.Name.Signs
import TargetedConfig.Text.Name.Symbols
import TargetedConfig.Text.Name.Table
import TargetedConfig.Text.Quoted
import TargetedConfig.Text.Range
import TargetedConfig.Text.Word
import TargetedConfig.Value
import TargetedConfig.Version
import TargetedConfig.Proofs.Targeting.Named
import TargetedConfig.Proofs.Parameter.Resolution
import TargetedConfig.Proofs.Engine.Configuration
import TargetedConfig.Proofs.Engine.Served
import TargetedConfig.Proofs.Targeting.Faults
import TargetedConfig.Proofs.Engine.Failures
import TargetedConfig.Proofs.Binary64.Rounding
import TargetedConfig.Proofs.Binary64.Shortest
import TargetedConfig.Proofs.Json.Number
import TargetedConfig.Proofs.Json.Text
import TargetedConfig.Proofs.Json.Limits
import TargetedConfig.Proofs.Json.Keys
import TargetedConfig.Proofs.Template.Reread
import TargetedConfig.Proofs.Template.RoundTrip
import TargetedConfig.Proofs.Template.Readers
import TargetedConfig.Proofs.Template.Decoded
import TargetedConfig.Proofs.Template.NormalForm
import TargetedConfig.Proofs.Targeting.Alike
import TargetedConfig.Proofs.Engine.Reload
import TargetedConfig.Proofs.Ledger.Trail
import TargetedConfig.Proofs.Targeting.Meaning
import TargetedConfig.Proofs.Targeting.Reporting
import TargetedConfig.Proofs.Engine.Reporting
import TargetedConfig.Proofs.Session.Basic
import TargetedConfig.Proofs.Session.Caching
import TargetedConfig.Proofs.Session.Correlation
import TargetedConfig.Proofs.Targeting.Depth
import TargetedConfig.Proofs.Context
import TargetedConfig.Proofs.Engine.Lookups
import TargetedConfig.Proofs.Engine.Priority
import TargetedConfig.Proofs.Targeting.Replacement
import TargetedConfig.Proofs.Targeting.Slices
import TargetedConfig.Proofs.Relation
import TargetedConfig.Proofs.Version.Order
import TargetedConfig.Proofs.Version.Reading
import TargetedConfig.Proofs.Targeting.Versions
import TargetedConfig.Proofs.Pattern.Matching
import TargetedConfig.Proofs.Targeting.Texts
import TargetedConfig.Proofs.Binary64.Monotone
import TargetedConfig.Proofs.Targeting.Numbers
import TargetedConfig.Proofs.Binary64.Magnitude
import TargetedConfig.Proofs.Context.Numbers
import TargetedConfig.Proofs.Context.Layout
import TargetedConfig.Proofs.Parameter.Accounting
import TargetedConfig.Proofs.Template.Merging
import TargetedConfig.Proofs.Engine.Placement
import TargetedConfig.Proofs.Targeting.Independence
import TargetedConfig.Proofs.Json.Reading
import TargetedConfig.Proofs.Template.Shape
import TargetedConfig.Proofs.Template.Fields
import TargetedConfig.Proofs.Template.Edits
import TargetedConfig.Proofs.Text.Integer
import TargetedConfig.Proofs.Binary64.Nearest
import TargetedConfig.Proofs.Value
import TargetedConfig.Proofs.Context.Building
import TargetedConfig.Proofs.Template.Audit
import TargetedConfig.Proofs.Version.Preorder
import TargetedConfig.Proofs.Pattern.Words
import TargetedConfig.Proofs.Pattern.Regular
import TargetedConfig.Proofs.Binary64.Notation
import TargetedConfig.Proofs.Binary64.Overflow
import TargetedConfig.Proofs.Binary64.Parsing
