import Folio.Callout.Render
import Folio.Document.Headings
import Folio.Document.Subtext
import Folio.Frontmatter
import Folio.Image.Transform
import Folio.Markdown.Parse
import Folio.Settings
import Folio.Tree.Builder

/-! Processors of Markdown documents. A processor is built once from settings; each document it renders
starts afresh. The transforms run in a fixed order: subtext, collecting images, highlighting, those
of the user, folding images, heading ids, heading anchors, callouts. -/

namespace Folio

/-- The tree of a Markdown text. -/
def parseMarkdown (o : Markdown.Options) (text : String) : List Node :=
  buildTree (Markdown.parse o text)

structure Processor where
  options : Markdown.Options
  transforms : List Transform

/-- A rendered document. -/
structure Rendered where
  html : String
  metadata : Metadata
  deriving Inhabited

namespace Processor

/-- The highlighter that the settings ask for, over the library `l`. -/
def highlighter? (l : Code.Library) (s : Settings) : Option Code.Highlighter :=
  match s.highlighting with
  | .colored => some (Code.colored l s.palette)
  | .classed => some (Code.classed l)
  | .off => none

/-- The processor for settings, with transforms of the user and perhaps a highlighter in place of the
one in the settings. -/
def assemble (l : Code.Library) (s : Settings) (highlighter : Option Code.Highlighter)
    (user : List Transform) : Processor where
  options := { extensions := s.extensions, smart := s.smartPunctuation }
  transforms :=
    (if s.subtext then [Folio.subtext] else []) ++
      [Image.collect s.images] ++
      ((highlighter <|> highlighter? l s).map fun h => Code.highlight h s.excludedLanguages).toList ++
      user ++
      [Image.foldProperties, headingIds s.keepHyphens] ++
      (if s.headingAnchors then [Folio.headingAnchors] else []) ++
      (s.callouts.map fun o => Callout.transform o.resolve).toList

/-- The processor for settings that are valid. -/
def build (l : Code.Library) (s : Settings) (highlighter : Option Code.Highlighter)
    (user : List Transform) : Except SettingsError Processor := do
  s.validate
  return assemble l s highlighter user

def transformNames (p : Processor) : List String :=
  p.transforms.map (·.name)

/-- Renders a Markdown text; fails only if the walk of a transform takes more steps than `limit`. -/
def render (p : Processor) (limit : Nat) (frontmatter : Table Json) (text : String) :
    Option Rendered :=
  let d : Document := ⟨parseMarkdown p.options text, { frontmatter }⟩
  (applyAll limit p.transforms d).map fun d => ⟨Html.ofNodes d.nodes, d.metadata⟩

/-- Renders a document after taking out its front matter; the front matter may be faulty. -/
def renderDocument (p : Processor) (limit : Nat) (source : String) :
    Option (Option Rendered) :=
  match Frontmatter.parse? source .remove with
  | none => some none
  | some d => (p.render limit d.fields d.content).map some

/-- What is said about a document at `path` whose front matter is faulty. -/
def faultyMessage (path : String) : String :=
  "Failed to parse Markdown file \"" ++ path ++ "\":\n" ++ Frontmatter.errorMessage

end Processor

def Heading.toJson (h : Heading) : Json :=
  .object [("depth", .int h.depth), ("slug", .string h.slug), ("text", .string h.text)]

def Metadata.toJson (m : Metadata) : Json :=
  .object [("headings", .array (m.headings.map Heading.toJson)),
    ("local_image_paths", .strings m.relativeImages),
    ("remote_image_paths", .strings m.remoteImages),
    ("frontmatter", .ofTable m.frontmatter)]

def Rendered.toJson (r : Rendered) : Json :=
  .object [("html", .string r.html), ("metadata", r.metadata.toJson)]

end Folio
