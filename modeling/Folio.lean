import Folio.Json
import Folio.Slug
import Folio.Text.Blank
import Folio.Text.Punctuation
import Folio.Node.Properties
import Folio.Node.Basic
import Folio.Node.Html
import Folio.Node.Json
import Folio.Tree.Walk
import Folio.Markdown.Event
import Folio.Tree.Builder
import Folio.Text.Search
import Folio.Markup.Token
import Folio.Markup.Fragment
import Folio.Text.Percent
import Folio.Image.Url
import Folio.Image.Policy
import Folio.Document.Basic
import Folio.Image.Transform
import Folio.Document.Headings
import Folio.Document.Subtext
import Folio.Callout.Entry
import Folio.Callout.Icon
import Folio.Callout.Theme
import Folio.Callout.Options
import Folio.Callout.Marker
import Folio.Callout.Split
import Folio.Callout.Render
import Folio.Code.Highlight
import Folio.Code.Library
import Folio.Yaml.Cursor
import Folio.Yaml.Text
import Folio.Yaml.Token
import Folio.Yaml.Tree
import Folio.Yaml.Scalar
import Folio.Yaml.Value
import Folio.Yaml.Field
import Folio.Callout.Reading
import Folio.Frontmatter
import Folio.Image.Reading
import Folio.Settings
import Folio.Callout.Json
import Folio.Text.EntityTable
import Folio.Text.Entity
import Folio.Markdown.Line
import Folio.Markdown.Leaf
import Folio.Markdown.Block
import Folio.Markdown.Label
import Folio.Markdown.HtmlTag
import Folio.Markdown.Autolink
import Folio.Markdown.Outline
import Folio.Markdown.Layout
import Folio.Markdown.Inline
import Folio.Markdown.Flank
import Folio.Markdown.Emphasis
import Folio.Markdown.Content
import Folio.Markdown.Parse
import Folio.Processor
import Folio.Files
import Folio.Command.Arguments
import Folio.Command.Help
import Folio.Command.Run
import Folio.Program.Lexicon
import Folio.Program.Palette
import Folio.Main
import Folio.Proofs.Runs
import Folio.Proofs.Splice
import Folio.Proofs.Traversal
import Folio.Proofs.Content
import Folio.Proofs.Preorder
import Folio.Proofs.MarkerText
import Folio.Proofs.FirstLine
import Folio.Proofs.Opening
import Folio.Proofs.CalloutEnding
import Folio.Proofs.CalloutSettled
import Folio.Proofs.Nesting
import Folio.Proofs.ImageContent
import Folio.Proofs.Growth
import Folio.Proofs.Building
import Folio.Proofs.Regular
import Folio.Proofs.Unambiguous
import Folio.Proofs.Skeleton
import Folio.Proofs.FragmentTags
import Folio.Proofs.FragmentReading
import Folio.Proofs.FreshSlugs
import Folio.Proofs.Outermost
import Folio.Proofs.HeadingIds
import Folio.Proofs.HeadingLinks
import Folio.Proofs.KeptIds
import Folio.Proofs.FirstUse
import Folio.Proofs.ImageFolding
import Folio.Proofs.UrlAuthority
import Folio.Proofs.UrlParts
import Folio.Proofs.UrlCase
import Folio.Proofs.Patterns
import Folio.Proofs.HostCase
import Folio.Proofs.EffectivePort
import Folio.Proofs.CalloutAliases
import Folio.Proofs.NodeJson
import Folio.Proofs.SettingsValue
import Folio.Proofs.MarkerKind
import Folio.Proofs.OutlineKeys
import Folio.Proofs.CodeApart
import Folio.Proofs.Presentation
import Folio.Proofs.MarkerLayout
import Folio.Proofs.TitleMarker
import Folio.Proofs.CalloutContent
import Folio.Proofs.CalloutShape
import Folio.Proofs.Search
import Folio.Proofs.LowerCase
import Folio.Proofs.Clusters
import Folio.Proofs.SluggerCalls
import Folio.Proofs.FrontmatterBlock
import Folio.Proofs.SlugCharacters
import Folio.Proofs.MarkupNodes
import Folio.Proofs.HtmlBlocks
import Folio.Proofs.Moves
import Folio.Proofs.OpenContent
import Folio.Proofs.BlockLines
import Folio.Proofs.TextNormal
import Folio.Proofs.TextPieces
import Folio.Proofs.Surroundings
import Folio.Proofs.TableShape
import Folio.Proofs.Footnotes
import Folio.Proofs.SourceSpelling
import Folio.Proofs.CodeBlocks
import Folio.Proofs.EntryPatches
import Folio.Proofs.AliasEntries
import Folio.Proofs.PropertyEdits
import Folio.Proofs.CharacterNumbers
import Folio.Proofs.SmallPrint
