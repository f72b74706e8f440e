import DiagramDesk.Engine.Scripted
import DiagramDesk.Main
import DiagramDesk.Proofs.Pipeline
import DiagramDesk.Proofs.Share.Token
import DiagramDesk.Proofs.Text.Trim
import DiagramDesk.Proofs.Text.Lines
import DiagramDesk.Proofs.Text.Document
import DiagramDesk.Proofs.Diagram.Content
import DiagramDesk.Proofs.Diagram.Tidy
import DiagramDesk.Proofs.Diagram.Layout
import DiagramDesk.Proofs.Diagram.Format
import DiagramDesk.Proofs.Session.Coherence
import DiagramDesk.Proofs.Session.Requests
import DiagramDesk.Proofs.Session.Arrival
import DiagramDesk.Proofs.Share.Link
import DiagramDesk.Proofs.Engine.Check
import DiagramDesk.Proofs.Share.Mangled
import DiagramDesk.Proofs.Flags.Merge
import DiagramDesk.Proofs.Number.Rounding
import DiagramDesk.Proofs.Number.Shortest
import DiagramDesk.Proofs.Number.Reading
import DiagramDesk.Proofs.Files.Tree
import DiagramDesk.Proofs.Flags.Saved
import DiagramDesk.Proofs.Flags.Defaults
import DiagramDesk.Proofs.Flags.Concatenation
import DiagramDesk.Proofs.Flags.Lines
import DiagramDesk.Proofs.Engine.Mark
import DiagramDesk.Proofs.Session.Jump
import DiagramDesk.Proofs.Text.Scan
import DiagramDesk.Proofs.Svg.Markup
import DiagramDesk.Proofs.Svg.Reference
import DiagramDesk.Proofs.Svg.Styles
import DiagramDesk.Proofs.Fonts.Cache
import DiagramDesk.Proofs.Svg.Root
import DiagramDesk.Proofs.Svg.Sanitize
import DiagramDesk.Proofs.Fonts.Inline
import DiagramDesk.Proofs.Fonts.Locality
import DiagramDesk.Proofs.Fonts.Threads
import DiagramDesk.Proofs.Export.Delivery
import DiagramDesk.Proofs.Session.Output
import DiagramDesk.Proofs.Session.Watching
import DiagramDesk.Proofs.Session.SharedFile
import DiagramDesk.Proofs.Text.Character
import DiagramDesk.Proofs.Diagram.Canonical
import DiagramDesk.Proofs.Diagram.Nesting
import DiagramDesk.Proofs.Cli.Defaults
import DiagramDesk.Proofs.Url.Sibling
import DiagramDesk.Proofs.Embed
import DiagramDesk.Proofs.Share.Transport
import DiagramDesk.Proofs.Share.Accepted
import DiagramDesk.Proofs.Diagram.FrontMatter
import DiagramDesk.Proofs.Engine.Preamble
import DiagramDesk.Proofs.Url.Ends
import DiagramDesk.Proofs.Share.Opened
import DiagramDesk.Proofs.Share.Query
import DiagramDesk.Proofs.Share.Pasted
import DiagramDesk.Proofs.Session.FailedSave
import DiagramDesk.Proofs.Embed.Page
import DiagramDesk.Proofs.Diagnostic
import DiagramDesk.Proofs.Editor
import DiagramDesk.Proofs.Editor.Cursor
import DiagramDesk.Proofs.Editor.Places
import DiagramDesk.Proofs.Svg.Quotes
import DiagramDesk.Proofs.Viewport
import DiagramDesk.Proofs.Failure
import DiagramDesk.Proofs.Share.Snippet
import DiagramDesk.Proofs.Session.Debouncer
import DiagramDesk.Proofs.Codec.Decoder
import DiagramDesk.Proofs.Picture.Png
