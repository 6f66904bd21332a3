import EntityModel.Charset.Chart
import EntityModel.Charset.Chart.Big5
import EntityModel.Charset.Chart.Cns11643
import EntityModel.Charset.Chart.Gb2312
import EntityModel.Charset.Chart.GbExtension
import EntityModel.Charset.Chart.Hkscs
import EntityModel.Charset.Chart.JisExtension
import EntityModel.Charset.Chart.JisX0208
import EntityModel.Charset.Chart.JisX0212
import EntityModel.Charset.Chart.KsX1001
import EntityModel.Charset.Chinese
import EntityModel.Charset.Decoder
import EntityModel.Charset.Iso2022
import EntityModel.Charset.Japanese
import EntityModel.Charset.Korean
import EntityModel.Charset.Name
import EntityModel.Charset.Page
import EntityModel.Charset.Page.Cyrillic
import EntityModel.Charset.Page.Iso
import EntityModel.Charset.Page.Macintosh
import EntityModel.Charset.Page.National
import EntityModel.Charset.Page.Pc
import EntityModel.Charset.Page.Windows
import EntityModel.Charset.Unicode
import EntityModel.CodeModel.Capability
import EntityModel.CodeModel.Listing
import EntityModel.CodeModel.Model
import EntityModel.CodeModel.Registry
import EntityModel.CodeModel.Store
import EntityModel.CodeModel.Type
import EntityModel.Compilation.Attempt
import EntityModel.Compilation.Draft
import EntityModel.Compilation.Members
import EntityModel.Compilation.Operations
import EntityModel.Counters.Amount
import EntityModel.Counters.Basic
import EntityModel.Counters.Path
import EntityModel.Csdl.Alias
import EntityModel.Csdl.Association
import EntityModel.Csdl.Container
import EntityModel.Csdl.Document
import EntityModel.Csdl.Reading
import EntityModel.Csdl.Schema
import EntityModel.Csdl.Type
import EntityModel.Csdl.Value
import EntityModel.Edm.Expression
import EntityModel.Edm.Graph
import EntityModel.Edm.Listing
import EntityModel.Edm.Name
import EntityModel.Edm.Schema
import EntityModel.Environment
import EntityModel.Failure.Basic
import EntityModel.Failure.Report
import EntityModel.Json.Encoding
import EntityModel.Json.Printer
import EntityModel.Json.Reader
import EntityModel.Json.Value
import EntityModel.Literal
import EntityModel.Moment
import EntityModel.Numeral.Arithmetic
import EntityModel.Numeral.Binary64
import EntityModel.Numeral.Integer
import EntityModel.Numeral.Radix
import EntityModel.Proofs.Alignment
import EntityModel.Proofs.CodeModel.Completion
import EntityModel.Proofs.CodeModel.Likeness
import EntityModel.Proofs.CodeModel.Lineage
import EntityModel.Proofs.CodeModel.Reach
import EntityModel.Proofs.CodeModel.Registration
import EntityModel.Proofs.CodeModel.Registry
import EntityModel.Proofs.CodeModel.Reprojection
import EntityModel.Proofs.CodeModel.Store
import EntityModel.Proofs.CodeModel.Walk
import EntityModel.Proofs.Compilation.Annotation
import EntityModel.Proofs.Compilation.Attachment
import EntityModel.Proofs.Compilation.Change
import EntityModel.Proofs.Compilation.Closure
import EntityModel.Proofs.Compilation.Counterpart
import EntityModel.Proofs.Compilation.Declaration
import EntityModel.Proofs.Compilation.Depiction
import EntityModel.Proofs.Compilation.Descent
import EntityModel.Proofs.Compilation.Ending
import EntityModel.Proofs.Compilation.Filling
import EntityModel.Proofs.Compilation.Image
import EntityModel.Proofs.Compilation.Import
import EntityModel.Proofs.Compilation.Key
import EntityModel.Proofs.Compilation.Likeness
import EntityModel.Proofs.Compilation.Method
import EntityModel.Proofs.Compilation.Offering
import EntityModel.Proofs.Compilation.Order
import EntityModel.Proofs.Compilation.Primitive
import EntityModel.Proofs.Compilation.Rearrangement
import EntityModel.Proofs.Compilation.Reference
import EntityModel.Proofs.Compilation.Registered
import EntityModel.Proofs.Compilation.Relocation
import EntityModel.Proofs.Compilation.Service
import EntityModel.Proofs.Compilation.Sharing
import EntityModel.Proofs.Compilation.Signature
import EntityModel.Proofs.Compilation.Stage
import EntityModel.Proofs.Compilation.Strictness
import EntityModel.Proofs.Compilation.Success
import EntityModel.Proofs.Compilation.Vocabulary
import EntityModel.Proofs.Compilation.Yield
import EntityModel.Proofs.Counters.Request
import EntityModel.Proofs.Csdl.Alias
import EntityModel.Proofs.Csdl.Annotation
import EntityModel.Proofs.Csdl.Container
import EntityModel.Proofs.Csdl.Document
import EntityModel.Proofs.Csdl.Encoding
import EntityModel.Proofs.Csdl.Expression
import EntityModel.Proofs.Csdl.Insertion
import EntityModel.Proofs.Csdl.Likeness
import EntityModel.Proofs.Csdl.Location
import EntityModel.Proofs.Csdl.Navigation
import EntityModel.Proofs.Csdl.Pruning
import EntityModel.Proofs.Csdl.Reading
import EntityModel.Proofs.Csdl.Relocation
import EntityModel.Proofs.Csdl.Restyling
import EntityModel.Proofs.Csdl.Spelling
import EntityModel.Proofs.Csdl.Stray
import EntityModel.Proofs.Literal
import EntityModel.Proofs.Outcome
import EntityModel.Proofs.Restriction.Assembly
import EntityModel.Proofs.Restriction.Denial
import EntityModel.Proofs.Restriction.Exchange
import EntityModel.Proofs.Restriction.Fault
import EntityModel.Proofs.Restriction.Reading
import EntityModel.Proofs.Restriction.Resolution
import EntityModel.Proofs.Restriction.Run
import EntityModel.Proofs.Restriction.Simulation
import EntityModel.Proofs.Restriction.Terms
import EntityModel.Proofs.Service.Report
import EntityModel.Proofs.Settings.Escape
import EntityModel.Proofs.Surface.Likeness
import EntityModel.Proofs.Surface.Navigation
import EntityModel.Proofs.Surface.Reprojection
import EntityModel.Proofs.Text.Split
import EntityModel.Restriction.Ledger
import EntityModel.Restriction.Reading
import EntityModel.Service.Address
import EntityModel.Service.Answer
import EntityModel.Service.Request
import EntityModel.Service.Routing
import EntityModel.Service.Submission
import EntityModel.Service.Target
import EntityModel.Settings.Basic
import EntityModel.Settings.Loading
import EntityModel.Settings.Validation
import EntityModel.SourceFile
import EntityModel.Surface.Basic
import EntityModel.Surface.Format
import EntityModel.Table
import EntityModel.Text.Base64
import EntityModel.Text.Blank
import EntityModel.Text.Bytes
import EntityModel.Text.DecimalDigit
import EntityModel.Text.Half
import EntityModel.Text.HexDigit
import EntityModel.Text.Lower
import EntityModel.Text.Printable
import EntityModel.Text.Quoted
import EntityModel.Text.Split
import EntityModel.Text.Upper
import EntityModel.Text.WordMark
import EntityModel.Value
import EntityModel.Vocabulary.Capabilities
import EntityModel.Vocabulary.Loading
import EntityModel.Xml.Assembly
import EntityModel.Xml.Declaration
import EntityModel.Xml.Doctype
import EntityModel.Xml.Document
import EntityModel.Xml.Encoding
import EntityModel.Xml.Expansion
import EntityModel.Xml.Head
import EntityModel.Xml.Markup
import EntityModel.Xml.Namespace
import EntityModel.Xml.Reckoning
import EntityModel.Xml.Scan
import EntityModel.Xml.Tree
import EntityModel.Xml.Uri
import EntityModel.Yaml.Content
import EntityModel.Yaml.Cursor
import EntityModel.Yaml.Node
import EntityModel.Yaml.Number
import EntityModel.Yaml.Resolution
import EntityModel.Yaml.Scalar
import EntityModel.Yaml.Tag
import EntityModel.Yaml.Token
import EntityModel.Proofs.Counters.Path
import EntityModel.Proofs.CodeModel.Path
import EntityModel.Proofs.Csdl.Role
import EntityModel.Proofs.Csdl.Growth
import EntityModel.Proofs.Json.Layout
import EntityModel.Proofs.Surface.Rendering
import EntityModel.Proofs.Counters.Family
import EntityModel.Proofs.Csdl.Literal
