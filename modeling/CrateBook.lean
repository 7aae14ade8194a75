import CrateBook.Text.Blank
import CrateBook.Text.Digits
import CrateBook.Text.Spans
import CrateBook.Text.UnseenData
import CrateBook.Text.Lines
import CrateBook.Text.Pieces
import CrateBook.Text.Letters
import CrateBook.Text.Utf8
import CrateBook.Json.Reader
import CrateBook.Json.Writer
import CrateBook.Markdown.Reference
import CrateBook.Html.Node
import CrateBook.Page.Skip
import CrateBook.Page.Rule
import CrateBook.Markdown.Basic
import CrateBook.Page.Markdown
import CrateBook.Page.Stray
import CrateBook.Html.EntityData
import CrateBook.Html.CharRef
import CrateBook.Html.Token
import CrateBook.Html.Nesting
import CrateBook.Html.Tree
import CrateBook.Html.Selector
import CrateBook.Error
import CrateBook.Path
import CrateBook.Library.Name
import CrateBook.Library.ItemPath
import CrateBook.Library.PageName
import CrateBook.Rustdoc.Docs
import CrateBook.Listing.Page
import CrateBook.Text.Quoted
import CrateBook.Json.Access
import CrateBook.Rustdoc.Ty.Basic
import CrateBook.Rustdoc.Ty.Text
import CrateBook.Rustdoc.Ty.Read
import CrateBook.Rustdoc.Kind
import CrateBook.Rustdoc.Generics
import CrateBook.Rustdoc.Item
import CrateBook.Rustdoc.Crate
import CrateBook.Rustdoc.Function
import CrateBook.Rustdoc.Field
import CrateBook.Rustdoc.Variant
import CrateBook.Rustdoc.Implementation
import CrateBook.Rustdoc.Declaration
import CrateBook.Rustdoc.ItemPage
import CrateBook.Listing.Fragment
import CrateBook.Listing.Count
import CrateBook.Rustdoc.Overview
import CrateBook.Listing.Index
import CrateBook.Yaml.Cursor
import CrateBook.Yaml.Scalar
import CrateBook.Yaml.Token
import CrateBook.Yaml.Node
import CrateBook.Yaml.Value
import CrateBook.Digest.Sha256
import CrateBook.Config.Merge
import CrateBook.Config.Basic
import CrateBook.Disk
import CrateBook.Notice
import CrateBook.Corpus.Sidecar
import CrateBook.Corpus.Report
import CrateBook.Corpus.Change
import CrateBook.Corpus.Resolver
import CrateBook.Cargo
import CrateBook.Build.Page
import CrateBook.Build.Html
import CrateBook.Build.Dump
import CrateBook.Workspace
import CrateBook.Browse
import CrateBook.Command.Options
import CrateBook.Command.Line
import CrateBook.Command.Run
import CrateBook.Snapshot
import CrateBook.Main
import CrateBook.Proofs.Json.Members
import CrateBook.Proofs.Json.RoundTrip
import CrateBook.Proofs.Build.Accounting
import CrateBook.Proofs.Build.Dump
import CrateBook.Proofs.Build.Keeping
import CrateBook.Proofs.Page.Conservation
import CrateBook.Proofs.Page.Frame
import CrateBook.Proofs.Page.Skipping
import CrateBook.Proofs.Page.LineStarts
import CrateBook.Proofs.Build.Isolation
import CrateBook.Proofs.Browse.Current
import CrateBook.Proofs.Browse.Building
import CrateBook.Proofs.Browse.Lasting
import CrateBook.Proofs.Browse.Session
import CrateBook.Proofs.Browse.Convergence
import CrateBook.Proofs.Build.Stopping
import CrateBook.Proofs.Build.Entries
import CrateBook.Proofs.Build.Below
import CrateBook.Proofs.Corpus.Reported
import CrateBook.Proofs.Browse.Tasks
import CrateBook.Proofs.Browse.Served
import CrateBook.Proofs.Browse.Spelling
import CrateBook.Proofs.Build.Agreement
import CrateBook.Proofs.Build.Faults
import CrateBook.Proofs.Command.Status
import CrateBook.Proofs.Listing.Page
import CrateBook.Proofs.Listing.Links
import CrateBook.Proofs.Listing.Agreement
import CrateBook.Proofs.Page.Plain
import CrateBook.Proofs.Rustdoc.Overview
import CrateBook.Proofs.Text.Lines
import CrateBook.Proofs.Text.Words
import CrateBook.Proofs.Page.Extension
import CrateBook.Proofs.Config.Canonical
import CrateBook.Proofs.Build.IdForms
import CrateBook.Proofs.Build.TableOrder
import CrateBook.Proofs.Markdown.References
import CrateBook.Proofs.Page.Respacing
import CrateBook.Proofs.Page.Repetition
import CrateBook.Proofs.Rustdoc.Filling.Aliases
import CrateBook.Proofs.Rustdoc.Substitution.Reading
import CrateBook.Proofs.Rustdoc.Syntax.Recorded
import CrateBook.Proofs.Library.Grammar
import CrateBook.Proofs.Corpus.Loading
import CrateBook.Proofs.Rustdoc.VariantTable
import CrateBook.Proofs.Page.Code
import CrateBook.Proofs.Rustdoc.Documentation
import CrateBook.Proofs.Page.Lists
import CrateBook.Proofs.Rustdoc.VariantPayload
import CrateBook.Proofs.Config.Defaults
import CrateBook.Proofs.Cargo.Generated
