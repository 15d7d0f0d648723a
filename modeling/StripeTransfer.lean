import StripeTransfer.Buffer
import StripeTransfer.Command.Basic
import StripeTransfer.Command.Form
import StripeTransfer.Command.Help
import StripeTransfer.Command.Perform
import StripeTransfer.Command.Program
import StripeTransfer.Command.Words
import StripeTransfer.Digest.Sha256
import StripeTransfer.Extent.Plan
import StripeTransfer.Extent.Shard
import StripeTransfer.Extent.Span
import StripeTransfer.Files.Cause
import StripeTransfer.Files.Disk
import StripeTransfer.Files.PatternFile
import StripeTransfer.Files.Slot
import StripeTransfer.Layout.Basic
import StripeTransfer.Layout.Listing
import StripeTransfer.Layout.Tool
import StripeTransfer.Log.Filter
import StripeTransfer.Log.Level
import StripeTransfer.Main
import StripeTransfer.Measure.Bandwidth
import StripeTransfer.Measure.Header
import StripeTransfer.Measure.Report
import StripeTransfer.Measure.Summary
import StripeTransfer.Number.Binary64
import StripeTransfer.Number.ByteSize
import StripeTransfer.Number.Decimal
import StripeTransfer.Number.Literal
import StripeTransfer.Number.Word
import StripeTransfer.Pattern
import StripeTransfer.Settings.Config
import StripeTransfer.Settings.Decode
import StripeTransfer.Settings.Inline
import StripeTransfer.Settings.Value
import StripeTransfer.Settings.Written
import StripeTransfer.Signature.Credentials
import StripeTransfer.Signature.Fields
import StripeTransfer.Signature.Instant
import StripeTransfer.Signature.Percent
import StripeTransfer.Signature.Sign
import StripeTransfer.Store.Client
import StripeTransfer.Store.EntityTag
import StripeTransfer.Store.Markup
import StripeTransfer.Store.Message
import StripeTransfer.Store.Practice
import StripeTransfer.Tasks
import StripeTransfer.Text.Ascii
import StripeTransfer.Text.Blank
import StripeTransfer.Text.CaseFold
import StripeTransfer.Text.Hidden
import StripeTransfer.Text.Numeral
import StripeTransfer.Text.Quoted
import StripeTransfer.Text.Utf8
import StripeTransfer.Text.WordChar
import StripeTransfer.Transfer.Error
import StripeTransfer.Transfer.Run
import StripeTransfer.Transfer.Strategy
import StripeTransfer.Transfer.Worker
import StripeTransfer.Upload.Error
import StripeTransfer.Upload.Manifest
import StripeTransfer.Upload.Session
import StripeTransfer.Upload.Source
import StripeTransfer.Web.Domain
import StripeTransfer.Web.Host
import StripeTransfer.Web.Url
import StripeTransfer.Yaml.Cursor
import StripeTransfer.Yaml.Node
import StripeTransfer.Yaml.Scalar
import StripeTransfer.Yaml.Token
import StripeTransfer.Proofs.Text.Lead
import StripeTransfer.Proofs.Text.Blank
import StripeTransfer.Proofs.Text.Pieces
import StripeTransfer.Proofs.Text.Numeral
import StripeTransfer.Proofs.Text.CaseFold
import StripeTransfer.Proofs.Extent.Contiguous
import StripeTransfer.Proofs.Extent.Plan
import StripeTransfer.Proofs.Extent.Pages
import StripeTransfer.Proofs.Bytes
import StripeTransfer.Proofs.Extent.Owners
import StripeTransfer.Proofs.Extent.Aligned
import StripeTransfer.Proofs.Layout.Touched
import StripeTransfer.Proofs.Files.Content
import StripeTransfer.Proofs.Tasks
import StripeTransfer.Proofs.Transfer.Worker
import StripeTransfer.Proofs.Buffer
import StripeTransfer.Proofs.Pattern
import StripeTransfer.Proofs.Transfer.Run
import StripeTransfer.Proofs.Transfer.Acceptance
import StripeTransfer.Proofs.Transfer.WriteRun
import StripeTransfer.Proofs.Transfer.ReadRun
import StripeTransfer.Proofs.Transfer.Sharded
import StripeTransfer.Proofs.Upload.Manifest
import StripeTransfer.Proofs.Upload.Exchange
import StripeTransfer.Proofs.Upload.Parts
import StripeTransfer.Proofs.Upload.Transmission
import StripeTransfer.Proofs.Upload.Source
import StripeTransfer.Proofs.Upload.Course
import StripeTransfer.Proofs.Upload.Stored
import StripeTransfer.Proofs.Upload.Copies
import StripeTransfer.Proofs.Upload.Retries
import StripeTransfer.Proofs.Upload.Script
import StripeTransfer.Proofs.Upload.Attempts
import StripeTransfer.Proofs.Upload.Modes
import StripeTransfer.Proofs.Upload.Released
import StripeTransfer.Proofs.Transfer.Process
import StripeTransfer.Proofs.Transfer.Concurrent
import StripeTransfer.Proofs.Web.Path
import StripeTransfer.Proofs.Signature.Percent
import StripeTransfer.Proofs.Signature.Query
import StripeTransfer.Proofs.Signature.Fields
import StripeTransfer.Proofs.Signature.Canonical
import StripeTransfer.Proofs.Signature.Verification
import StripeTransfer.Proofs.Store.Client
import StripeTransfer.Proofs.Store.Address
import StripeTransfer.Proofs.Transfer.SpanRead
import StripeTransfer.Proofs.Store.Markup
import StripeTransfer.Proofs.Store.EntityTag
import StripeTransfer.Proofs.Upload.ObjectTag
import StripeTransfer.Proofs.Layout.Listing
import StripeTransfer.Proofs.Signature.Profiles
import StripeTransfer.Proofs.Signature.KeyFiles
import StripeTransfer.Proofs.Transfer.Aggregate
import StripeTransfer.Proofs.Number.Order
import StripeTransfer.Proofs.Regions
import StripeTransfer.Proofs.Measure.Summary
import StripeTransfer.Proofs.Number.Result
import StripeTransfer.Proofs.Number.Word
import StripeTransfer.Proofs.Measure.Report
