import Grounded.Backend.Basic
import Grounded.Backend.Batch
import Grounded.Backend.Client
import Grounded.Backend.Completion
import Grounded.Backend.Embedding
import Grounded.Chat.Engine
import Grounded.Chat.Message
import Grounded.Chat.Session
import Grounded.Chunk.Basic
import Grounded.Chunk.Record
import Grounded.Chunk.Section
import Grounded.Chunk.Segmenter
import Grounded.Cli.Arguments
import Grounded.Cli.Command
import Grounded.Cli.Doctor
import Grounded.Cli.Footprint
import Grounded.Cli.Preflight
import Grounded.Cli.Report
import Grounded.Cli.Run
import Grounded.Cli.Usage
import Grounded.Config.Environment
import Grounded.Config.Prompts
import Grounded.Config.Settings
import Grounded.Error
import Grounded.Files.Disk
import Grounded.Files.Path
import Grounded.Files.Tree
import Grounded.Html.Builder
import Grounded.Html.Dom
import Grounded.Html.Entity
import Grounded.Html.Extract
import Grounded.Html.Parse
import Grounded.Html.Reference
import Grounded.Html.Rules
import Grounded.Html.Token
import Grounded.Html.Tokenizer
import Grounded.Html.Tree
import Grounded.Index.Basic
import Grounded.Index.Build
import Grounded.Index.Instant
import Grounded.Index.Manifest
import Grounded.Index.Matrix
import Grounded.Index.Npy
import Grounded.Index.Store
import Grounded.Json.Basic
import Grounded.Json.Read
import Grounded.Json.Write
import Grounded.Main
import Grounded.Number.Decimal
import Grounded.Number.Double
import Grounded.Number.Numeral
import Grounded.Number.Single
import Grounded.Proofs.Numeral
import Grounded.Retrieval.Basic
import Grounded.Source.CodeItem
import Grounded.Source.CodeTree
import Grounded.Source.Domain
import Grounded.Source.Ingestor
import Grounded.Source.Markdown
import Grounded.Source.Page
import Grounded.Text.Alphabetic
import Grounded.Text.Blank
import Grounded.Text.Casing
import Grounded.Text.Digit
import Grounded.Text.Digits
import Grounded.Text.Find
import Grounded.Text.Line
import Grounded.Text.Paragraph
import Grounded.Text.Ranges
import Grounded.Text.Title
import Grounded.Text.Utf8
import Grounded.Text.Word
import Grounded.Toml.Basic
import Grounded.Toml.Read
import Grounded.Toml.Scalar
import Grounded.Toml.Write
import Grounded.Web.Exchange
import Grounded.Web.Host
import Grounded.Web.Url
import Grounded.Web.Wire
import Grounded.Proofs.NpyHeader
import Grounded.Proofs.NpyRoundTrip
import Grounded.Proofs.JsonRoundTrip
import Grounded.Proofs.DiskWrite
import Grounded.Proofs.SaveLoad
import Grounded.Proofs.Running
import Grounded.Proofs.SourceKind
import Grounded.Proofs.BatchAlign
import Grounded.Proofs.BuildAlign
import Grounded.Proofs.RawIndex
import Grounded.Proofs.IndexBounds
import Grounded.Proofs.Trimming
import Grounded.Proofs.ParagraphBreaks
import Grounded.Proofs.TopPassages
import Grounded.Proofs.Segments
import Grounded.Proofs.JsonLookahead
import Grounded.Proofs.CutFiles
import Grounded.Proofs.SaveStops
import Grounded.Proofs.Recording
import Grounded.Proofs.AnswerRules
import Grounded.Proofs.BatchTrace
import Grounded.Proofs.EmbeddingOrder
import Grounded.Proofs.HiddenText
import Grounded.Proofs.NestedContent
import Grounded.Proofs.ParagraphJoins
import Grounded.Proofs.SectionFold
import Grounded.Proofs.SegmentParagraphs
import Grounded.Proofs.MarkdownOutline
import Grounded.Proofs.TreeWalk
import Grounded.Proofs.SourceLabels
import Grounded.Proofs.ItemOrder
import Grounded.Proofs.DomainTexts
import Grounded.Proofs.CheckoutPlace
import Grounded.Proofs.Conversations
import Grounded.Proofs.TemplateText
import Grounded.Proofs.CustomVariables
import Grounded.Proofs.FailureReplies
import Grounded.Proofs.FileChanges
import Grounded.Proofs.UnreadableFiles
import Grounded.Proofs.BuildFailures
import Grounded.Proofs.SearchReady
import Grounded.Proofs.Utf8Text
import Grounded.Proofs.PageAddresses
import Grounded.Proofs.SitePages
import Grounded.Proofs.TextLines
import Grounded.Proofs.LookBack
import Grounded.Proofs.WholeItems
import Grounded.Proofs.MarkdownLines
import Grounded.Proofs.FullSegments
import Grounded.Proofs.StableSegments
import Grounded.Proofs.GrownTexts
import Grounded.Proofs.RetrievalRuns
import Grounded.Proofs.BatchSizes
import Grounded.Proofs.DamagedMatrices
import Grounded.Proofs.Blanks
import Grounded.Proofs.TemplateParts
import Grounded.Proofs.HeaderDictionary
import Grounded.Proofs.HeaderOrder
import Grounded.Proofs.KnowledgeBlocks
import Grounded.Proofs.SectionGroups
import Grounded.Proofs.PageOutline
import Grounded.Proofs.HeadingLabels
import Grounded.Proofs.SignatureEnds
