import Folio.Markdown.Event
import Folio.Markdown.Line
import Folio.Text.Entity
import Folio.Text.Punctuation

/-! How blocks without blocks inside them start: rules, headings, code fences, HTML, the delimiter rows
of tables. All of these look at a line after its indentation. -/

namespace Folio.Markdown

/-- At least three equal signs `*`, `-` or `_`, with blanks between them. -/
def isRule (s : List Char) : Bool :=
  match s with
  | c :: _ =>
    (c = '*' || c = '-' || c = '_') && s.all (fun d => d = c || isSpaceOrTab d) &&
      3 ≤ s.count c
  | [] => false

/-- The level of a heading that starts with number signs, and its text. -/
def atxHeading? (s : List Char) : Option (Nat × List Char) :=
  let level := (s.takeWhile (· = '#')).length
  let rest := s.drop level
  if 1 ≤ level ∧ level ≤ 6 ∧ rest.head?.all isInlineSpace then
    some (level, rest.dropWhile isInlineSpace)
  else none

/-- The level that a line under a paragraph gives it as a heading. -/
def setextLevel? (s : List Char) : Option Nat :=
  match s with
  | c :: _ =>
    if (c = '=' ∨ c = '-') ∧ isBlankLine (s.dropWhile (· = c)) then
      some (if c = '=' then 1 else 2)
    else none
  | [] => none

/-- The sign and the length of a code fence, and the text after it. -/
def fence? (s : List Char) : Option (Char × Nat × List Char) :=
  match s with
  | c :: _ =>
    let n := (s.takeWhile (· = c)).length
    let rest := s.drop n
    if (c = '~' ∨ c = '`' ∧ !rest.contains '`') ∧ 3 ≤ n then some (c, n, rest) else none
  | [] => none

/-- Whether a line ends a code block that a fence of `n` signs `c` began. -/
def closesFence (c : Char) (n : Nat) (s : List Char) : Bool :=
  n ≤ (s.takeWhile (· = c)).length && (s.dropWhile (· = c)).all (· = ' ')

/-- Elements whose content is taken as it stands, to their end tag. -/
def rawTags : List String := ["pre", "style", "script", "textarea"]

/-- What ends an HTML block that goes on over blank lines, by the text after its `<`. -/
def htmlEnd? (s : List Char) : Option (List Char) :=
  let opens (tag : String) : Bool :=
    (s.take tag.length).map Char.toLower == tag.toList &&
      match s.drop tag.length with
      | [] => true
      | c :: _ => isInlineSpace c || c = '>'
  match rawTags.find? opens with
  | some tag => some (['<', '/'] ++ tag.toList ++ ['>'])
  | none =>
    if ['!', '-', '-'].isPrefixOf s then some ['-', '-', '>']
    else if ['?'].isPrefixOf s then some ['?', '>']
    else if "![CDATA[".toList.isPrefixOf s then some [']', ']', '>']
    else
      match s with
      | '!' :: c :: _ => if c.isAlpha then some ['>'] else none
      | _ => none

/-- Elements that start an HTML block, which ends at a blank line. -/
def htmlBlockTags : List String :=
  ["address", "article", "aside", "base", "basefont", "blockquote", "body", "caption", "center",
    "col", "colgroup", "dd", "details", "dialog", "dir", "div", "dl", "dt", "fieldset",
    "figcaption", "figure", "footer", "form", "frame", "frameset", "h1", "h2", "h3", "h4", "h5",
    "h6", "head", "header", "hr", "html", "iframe", "legend", "li", "link", "main", "menu",
    "menuitem", "nav", "noframes", "ol", "optgroup", "option", "p", "param", "search", "section",
    "summary", "table", "tbody", "td", "tfoot", "th", "thead", "title", "tr", "track", "ul"]

/-- Whether the text after a `<` starts an HTML block by the name of an element. -/
def startsHtmlElement (s : List Char) : Bool :=
  let s := if s.head? = some '/' then s.tail else s
  let name := (s.takeWhile Char.isAlphanum).map Char.toLower
  htmlBlockTags.contains (.ofList name) &&
    match s.drop name.length with
    | [] => true
    | '/' :: '>' :: _ => true
    | c :: _ => isSpaceOrTab c || c = '>'

/-- A column of a delimiter row while it is read: its alignment so far, whether nothing but blanks
stands in it, and whether it has a hyphen. -/
structure DelimiterColumn where
  alignment : Alignment := .unset
  fresh : Bool := true
  hyphen : Bool := false

namespace DelimiterColumn

def colon (d : DelimiterColumn) : DelimiterColumn :=
  let alignment := match d.fresh, d.alignment with
    | true, .unset => .left
    | false, .left => .center
    | false, .unset => .right
    | _, a => a
  { d with alignment, fresh := false }

end DelimiterColumn

def delimiterColumns (d : DelimiterColumn) : List Char → Option (List Alignment)
  | [] => some (if d.fresh then [] else [d.alignment])
  | c :: s =>
    if c = ' ' then delimiterColumns d s
    else if c = ':' then delimiterColumns d.colon s
    else if c = '-' then delimiterColumns { d with fresh := false, hyphen := true } s
    else if c = '|' then
      if d.hyphen then (delimiterColumns {} s).map (d.alignment :: ·) else none
    else none

/-- The alignments that the delimiter row of a table gives its columns. -/
def delimiterRow? (s : List Char) : Option (List Alignment) :=
  if s.contains '|' && s.contains '-' then
    delimiterColumns {} (if s.head? = some '|' then s.tail else s)
  else none

/-- The pipes of a line that no backslash precedes, and the text after the last one. -/
def scanPipes (escaped : Bool) (count : Nat) (after : List Char) :
    List Char → Nat × List Char
  | [] => (count, after)
  | c :: s =>
    if c = '|' ∧ !escaped then scanPipes false (count + 1) s s
    else scanPipes (c = '\\') count after s

/-- The number of columns of a line as the head of a table, if it has a pipe at all. -/
def headColumns? (s : List Char) : Option Nat :=
  let (pipes, after) := scanPipes false 0 [] s
  if pipes = 0 then none
  else
    let inner := if (s.dropWhile isInlineSpace).head? = some '|' then pipes - 1 else pipes
    some (if isBlankLine after then inner else inner + 1)

/-- Cuts a row of a table at the pipes that no backslash precedes. -/
def cutAtPipe (escaped : Bool) : List Char → List Char × List Char
  | [] => ([], [])
  | c :: s =>
    if c = '|' ∧ !escaped then ([], c :: s)
    else
      let (cell, rest) := cutAtPipe (c = '\\') s
      (c :: cell, rest)

/-- Turns an escaped pipe into a plain one. -/
def unescapePipes : List Char → List Char
  | '\\' :: '|' :: s => '|' :: unescapePipes s
  | c :: s => c :: unescapePipes s
  | [] => []

def dropRightSpaces (s : List Char) : List Char :=
  (s.reverse.dropWhile isInlineSpace).reverse

/-- The cells of a row. -/
def rowCells (s : List Char) : Nat → List (List Char)
  | 0 => []
  | fuel + 1 =>
    let s := (if s.head? = some '|' then s.tail else s).dropWhile isInlineSpace
    if s.isEmpty then []
    else
      let (cell, rest) := cutAtPipe false s
      unescapePipes (dropRightSpaces cell) :: rowCells rest fuel

/-- The block of attributes `{…}` at the end of a heading: the text in front of it and its inside. -/
def attributeBlock? (s : List Char) : Option (List Char × List Char) :=
  match (s.reverse.dropWhile isSpaceOrTab) with
  | '}' :: r =>
    let plain (c : Char) : Bool := !(['{', '}', '<', '>', '\\', '\n'].contains c)
    match r.dropWhile plain with
    | '{' :: before => some (before.reverse, (r.takeWhile plain).reverse)
    | _ => none
  | _ => none

structure HeadingAttributes where
  id : Option String := none
  classes : List String := []
  others : List (String × Option String) := []
  deriving Repr, Inhabited

/-- Reads an attribute: `#id`, `.class`, `name=value` or `name`. -/
def HeadingAttributes.add (a : HeadingAttributes) (word : List Char) : HeadingAttributes :=
  match word with
  | '#' :: id => { a with id := some (.ofList id) }
  | '.' :: cls => { a with classes := a.classes ++ [.ofList cls] }
  | _ =>
    let name := String.ofList (word.takeWhile (· ≠ '='))
    let value := match word.dropWhile (· ≠ '=') with
      | _ :: v => some (String.ofList v)
      | [] => none
    { a with others := a.others ++ [(name, value)] }

/-- White space that separates attributes. -/
def isAttributeSpace (c : Char) : Bool :=
  c = ' ' || c = '\t' || c = '\n' || c = '\x0c' || c = '\r'

/-- Reads the attributes in a block; a word of a single byte says nothing. -/
def headingAttributes (s : List Char) : HeadingAttributes :=
  ((s.splitOnP isAttributeSpace).filter fun w => 2 ≤ (String.ofList w).utf8ByteSize).foldl
    HeadingAttributes.add {}

/-- The text of a heading without the number signs that close it. -/
def dropClosingSigns (s : List Char) : List Char :=
  let r := s.reverse.dropWhile (· = ' ')
  match r.dropWhile (· = '#') with
  | [] => []
  | ' ' :: before => (before.dropWhile (· = ' ')).reverse
  | _ => r.reverse

end Folio.Markdown
