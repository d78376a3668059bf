import Folio.Markdown.Leaf
import Folio.Text.Search

/-! Markup in a line of text, read after its `<`. All readers give what follows the markup. -/

namespace Folio.Markdown

def skipTagSpace (s : List Char) : List Char :=
  s.dropWhile isAsciiSpace

def tagName? (s : List Char) : Option (List Char) :=
  match s with
  | c :: s =>
    if c.isAlpha then some (s.dropWhile fun c => c.isAlphanum || c = '-')
    else none
  | [] => none

def attributeName? (s : List Char) : Option (List Char) :=
  match s with
  | c :: s =>
    if c.isAlpha || c = '_' || c = ':' then
      some (s.dropWhile fun c => c.isAlphanum || ['_', '.', ':', '-'].contains c)
    else none
  | [] => none

/-- Reads a value: in quotes anything but the quote, and without quotes no white space and none of the
signs of markup. -/
def attributeValue? (s : List Char) : Option (List Char) :=
  match s with
  | [] => none
  | q :: rest =>
    if q = '"' ∨ q = '\'' then
      match rest.dropWhile (· ≠ q) with
      | _ :: rest => some rest
      | [] => none
    else if isAsciiSpace q || ['=', '>', '<', '`'].contains q then none
    else
      some (s.dropWhile fun c => !(isAsciiSpace c || ['"', '\'', '=', '>', '<', '`'].contains c))

def attribute? (s : List Char) : Option (List Char) := do
  let rest ← attributeName? s
  match skipTagSpace rest with
  | '=' :: value => attributeValue? (skipTagSpace value)
  | _ => some rest

/-- Reads the attributes and the end of an opening tag. White space comes before every attribute. -/
def attributes? : List Char → Nat → Option (List Char)
  | _, 0 => none
  | s, fuel + 1 =>
    match skipTagSpace s with
    | '>' :: rest => some rest
    | '/' :: '>' :: rest => some rest
    | t => if t.length = s.length then none else (attribute? t).bind (attributes? · fuel)

/-- Reads an opening or a closing tag. -/
def htmlTag? (s : List Char) : Option (List Char) :=
  match s with
  | '/' :: s => do
    match (← tagName? s).dropWhile isInlineSpace with
    | '>' :: rest => some rest
    | _ => none
  | _ => (tagName? s).bind fun s => attributes? s (s.length + 1)

/-- Whether a tag is all that stands on a line. -/
def isLoneTag (s : List Char) : Bool :=
  (htmlTag? s).any isBlankLine

def after? (t s : List Char) : Option (List Char) :=
  (Text.cut? t s).map (·.2)

/-- Reads a comment, a processing instruction, a declaration or a section of plain data. -/
def htmlAside? (s : List Char) : Option (List Char) :=
  match s with
  | '?' :: s => after? ['?', '>'] s
  | '!' :: '-' :: '-' :: s =>
    match s with
    | '>' :: rest => some rest
    | '-' :: '>' :: rest => some rest
    | _ => after? ['-', '-', '>'] s
  | '!' :: s =>
    match Text.dropPrefix? "[CDATA[".toList s, s with
    | some data, _ =>
      let brackets := data.dropWhile (· ≠ ']')
      match brackets.dropWhile (· = ']') with
      | '>' :: rest => if brackets.isEmpty then none else some rest
      | _ => none
    | none, c :: _ => if c.isAlpha then after? ['>'] s else none
    | none, [] => none
  | _ => none

end Folio.Markdown
