import DesignExport.Cache.Digest
import DesignExport.Cache.ParseCache
import DesignExport.Code.Basic
import DesignExport.Code.Component
import DesignExport.Code.Css
import DesignExport.Code.Page
import DesignExport.Code.Utility
import DesignExport.CommandLine.Arguments
import DesignExport.CommandLine.Artifact
import DesignExport.CommandLine.Command
import DesignExport.CommandLine.Folder
import DesignExport.CommandLine.Report
import DesignExport.CommandLine.Session
import DesignExport.Fault.Basic
import DesignExport.Fault.Category
import DesignExport.Fault.Problem
import DesignExport.Figma.Address
import DesignExport.Figma.Client
import DesignExport.Figma.Document
import DesignExport.Figma.HostName
import DesignExport.Figma.ServiceUrl
import DesignExport.Figma.Token
import DesignExport.Figma.Url
import DesignExport.Input.CssText
import DesignExport.Input.Sanitizer
import DesignExport.Json.Basic
import DesignExport.Json.Body
import DesignExport.Json.Printer
import DesignExport.Json.Reader
import DesignExport.Json.Writing
import DesignExport.Keyed
import DesignExport.Main
import DesignExport.Number.Binary64
import DesignExport.Number.Reading
import DesignExport.Number.Shortest
import DesignExport.Proofs.Scan
import DesignExport.Proofs.Text
import DesignExport.Scan
import DesignExport.Service.Basic
import DesignExport.Service.Conversion
import DesignExport.Settings
import DesignExport.Sheet.AtBlock
import DesignExport.Sheet.Basic
import DesignExport.Sheet.ComponentName
import DesignExport.Sheet.Declarations
import DesignExport.Sheet.Layer
import DesignExport.Sheet.Outline
import DesignExport.Sheet.Reading
import DesignExport.Sheet.Selector
import DesignExport.Sheet.Token
import DesignExport.Store.Basic
import DesignExport.Store.Error
import DesignExport.Store.Operation
import DesignExport.Store.Records
import DesignExport.Store.Row
import DesignExport.Store.Database
import DesignExport.Text.Basic
import DesignExport.Text.Blank
import DesignExport.Text.Charset
import DesignExport.Text.DecimalDigit
import DesignExport.Text.Hexadecimal
import DesignExport.Text.Interval
import DesignExport.Text.LabelChar
import DesignExport.Text.Lowercase
import DesignExport.Text.Newline
import DesignExport.Text.Percent
import DesignExport.Text.Printable
import DesignExport.Text.Punycode
import DesignExport.Text.Quoted
import DesignExport.Text.Similarity
import DesignExport.Text.Terminal
import DesignExport.Text.Utf8
import DesignExport.Text.Wide
import DesignExport.Text.WordChar
import DesignExport.UnknownName
import DesignExport.Web.Basic
import DesignExport.Web.Request
import DesignExport.Web.Resource
import DesignExport.Web.Response
import DesignExport.Proofs.Sheet.LayerExport
import DesignExport.Proofs.Sheet.LabelComments
import DesignExport.Proofs.Sheet.NestedRules
import DesignExport.Proofs.Erasure
import DesignExport.Proofs.Input.Sanitizer
import DesignExport.Proofs.Store.Newest
import DesignExport.Proofs.Service.Outcome
import DesignExport.Proofs.Service.JobLifecycle
import DesignExport.Proofs.Cache.FirstInFirstOut
import DesignExport.Proofs.Sheet.Declarations
import DesignExport.Proofs.Sheet.ComponentName
import DesignExport.Proofs.Sheet.AtBlocks
import DesignExport.Proofs.Sheet.WrittenBlocks
import DesignExport.Proofs.Sheet.BlockDepth
import DesignExport.Proofs.Sheet.RuleBraces
import DesignExport.Proofs.Code.WrittenBraces
import DesignExport.Proofs.Sheet.Variables
import DesignExport.Proofs.Sheet.WrittenSheet
import DesignExport.Proofs.Code.UtilityClasses
import DesignExport.Proofs.Code.VariableBlock
import DesignExport.Proofs.Code.ComponentSource
import DesignExport.Proofs.Code.PageEndings
import DesignExport.Proofs.Web.Handling
import DesignExport.Proofs.Web.Recording
import DesignExport.Proofs.Web.ReaderState
import DesignExport.Proofs.Web.UncaughtProblems
import DesignExport.Proofs.Web.PreviewAgreement
import DesignExport.Proofs.Interleaving
import DesignExport.Proofs.Store.Separation
import DesignExport.Proofs.Store.Integrity
import DesignExport.Proofs.Service.Calls
import DesignExport.Proofs.Service.Interleaving
import DesignExport.Proofs.Sheet.Containment
import DesignExport.Proofs.Number.Rounding
import DesignExport.Proofs.Number.Digits
import DesignExport.Proofs.Number.Shortest
import DesignExport.Proofs.Number.WrittenDecimal
import DesignExport.Proofs.Number.ReadDecimal
import DesignExport.Proofs.Json.WrittenNumbers
import DesignExport.Proofs.Json.WrittenTexts
import DesignExport.Proofs.Json.RoundTrip
import DesignExport.Proofs.Json.ReadValues
import DesignExport.Proofs.Store.Representation
import DesignExport.Proofs.Store.LastWriter
import DesignExport.Proofs.Sheet.Outline
import DesignExport.Proofs.Sheet.Composition
import DesignExport.Proofs.Sheet.ScanAgreement
import DesignExport.Proofs.Removal
import DesignExport.Proofs.Input.SanitizedText
import DesignExport.Proofs.Sheet.NameSource
import DesignExport.Proofs.Code.BindingName
import DesignExport.Proofs.CommandLine.Session
import DesignExport.Proofs.CommandLine.WrittenFiles
import DesignExport.Proofs.Sheet.DeclarationLines
import DesignExport.Proofs.Sheet.WrappedValues
import DesignExport.Proofs.Sheet.LayerBoundaries
import DesignExport.Proofs.Sheet.LayerDeclarations
import DesignExport.Proofs.Sheet.LayerNames
import DesignExport.Proofs.Sheet.TokenIndex
import DesignExport.Proofs.Places
import DesignExport.Proofs.Sheet.ReadColons
import DesignExport.Proofs.Code.UtilityComposition
import DesignExport.Proofs.Sheet.ElementTags
import DesignExport.Proofs.Service.FailureMessage
import DesignExport.Proofs.Utf8Order
import DesignExport.Proofs.Store.Listing
import DesignExport.Proofs.Cache.Eviction
import DesignExport.Proofs.Figma.Authority
import DesignExport.Proofs.Figma.FileIdentifier
import DesignExport.Proofs.Figma.FetchedDocument
import DesignExport.Proofs.CommandLine.Fetch
import DesignExport.Proofs.CommandLine.FetchOutcome
import DesignExport.Proofs.Encoding
import DesignExport.Proofs.Json.JoinedHalves
import DesignExport.Proofs.Service.Invariant
import DesignExport.Proofs.Service.StoredRows
import DesignExport.Proofs.Web.Invariant
import DesignExport.Proofs.Web.StoredRows
