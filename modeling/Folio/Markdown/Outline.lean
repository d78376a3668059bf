import Folio.Markdown.HtmlTag
import Folio.Markdown.Label

/-! Reading the block structure of a document line by line. The blocks that are open around the present
line form a stack; the line first has to continue them, then may open further ones, and at last
belongs to a leaf: a paragraph, a code block, an HTML block or a table. -/

namespace Folio.Markdown

structure Options where
  /-- Whether tables, footnotes, strikethrough and task lists are known. -/
  extensions : Bool := true
  /-- Whether quotes, dashes and dots turn into typographic ones. -/
  smart : Bool := true
  deriving DecidableEq, Repr

/-- A kind of block that holds other blocks. -/
inductive Holder
  | root
  | quote
  | list (sign : Char) (start : Nat) (tight : Bool)
  /-- A list item, with the indentation that its content needs. -/
  | item (indent : Nat)
  | footnote (label : String)
  deriving Repr, Inhabited

structure OpenBlock where
  holder : Holder
  /-- The blocks in it so far, last first. -/
  blocks : List Block := []
  deriving Inhabited

/-- A leaf that the next line may continue. -/
inductive Leaf
  | paragraph (task : Option Bool) (text : Passage)
  /-- A fenced code block: indentation, sign and length of the fence, and the lines, last first. -/
  | fenced (indent : Nat) (sign : Char) (count : Nat) (info : String) (lines : List String)
  /-- Indented code: its lines, and the blank ones after them, last first. -/
  | indented (lines blanks : List String)
  /-- An HTML block with the text that ends it, if a blank line does not. -/
  | html (ending : Option (List Char)) (pieces : List HtmlPiece)
  /-- A table; its rows, last first, are absent before its delimiter row has been passed. -/
  | table (alignments : List Alignment) (head : List (List Char))
      (rows : Option (List (List (List Char))))
  deriving Inhabited

structure Outline where
  top : OpenBlock := ⟨.root, []⟩
  below : List OpenBlock := []
  leaf : Option Leaf := none
  /-- Whether the last line was blank, where that may make a list loose. -/
  lastBlank : Bool := false
  /-- Whether a list item was begun on the last line and is still empty. -/
  emptyItem : Bool := false
  /-- The mark of a task that waits for its paragraph. -/
  task : Option Bool := none
  definitions : Definitions := {}
  deriving Inhabited

def isListHolder : Holder → Bool
  | .list .. => true
  | _ => false

def isItemHolder : Holder → Bool
  | .item _ => true
  | _ => false

def Holder.loosen : Holder → Holder
  | .list sign start _ => .list sign start false
  | h => h

/-- The block that a holder becomes when it ends. -/
def OpenBlock.closed (b : OpenBlock) : List Block :=
  let blocks := b.blocks.reverse
  match b.holder with
  | .root => blocks
  | .quote => [.quote blocks]
  | .list sign start tight =>
    [.list (if sign = '.' ∨ sign = ')' then some start else none) tight blocks]
  | .item _ => [.item blocks]
  | .footnote label => [.footnote label blocks]

/-- Whether a line continues a holder, and what is left of it. -/
def Holder.continue? (o : Options) (h : Holder) (r : Rest) : Option Rest :=
  let indented (n : Nat) : Option Rest :=
    let (missing, r') := r.skipColumns n
    if missing = 0 || r'.atEnd then some r' else none
  match h with
  | .quote => (r.skipColumns 3).2.skipQuoteSign?
  | .item n => indented n
  | .footnote _ => if o.extensions then indented 4 else some r
  | _ => some r

/-- How many holders, from the outermost one, a line continues, and what is left of it. -/
def continueHolders (o : Options) (r : Rest) : List Holder → Nat × Rest
  | [] => (0, r)
  | h :: hs =>
    match h.continue? o r with
    | none => (0, r)
    | some r =>
      let (n, r) := continueHolders o r hs
      (n + 1, r)

/-- The sign and number of a list marker at the start of `s`, its width, and what follows it. -/
def listMarker? (s : List Char) : Option (Char × Nat × Nat × List Char) :=
  match s with
  | [] => none
  | c :: rest =>
    if c = '-' ∨ c = '+' ∨ c = '*' then some (c, 0, 1, rest)
    else
      let digits := s.takeWhile Char.isDigit
      match s.drop digits.length with
      | d :: rest =>
        if (d = '.' ∨ d = ')') ∧ digits.length ≤ 9 then
          (Text.number? 10 digits).map fun n => (d, n, digits.length + 1, rest)
        else none
      | [] => none

/-- Whether a list item at the start of `s` may interrupt a paragraph: it has text, and it starts a
list. With `anyItem` every item may. -/
def itemInterrupts (anyItem : Bool) (s : List Char) : Bool :=
  match listMarker? s with
  | none => false
  | some (_, n, width, rest) =>
    if rest.head?.all isSpaceOrTab then
      anyItem || (width = 1 || n = 1) && !isBlankLine rest
    else false

/-- Reads the label of a footnote definition up to its colon. -/
def footnoteLabel? (s : List Char) : Option (List Char × List Char) :=
  match s with
  | '[' :: '^' :: s =>
    match label? false s with
    | some (label, ':' :: rest) => some (label, rest)
    | _ => none
  | _ => none

/-- Whether a line, after its indentation, ends a paragraph or a table in front of it. The flags tell
whether the line continues all open blocks, and whether it is a table. -/
def interrupts (o : Options) (current inTable : Bool) (s : List Char) : Bool :=
  s.isEmpty || isRule s || (atxHeading? s).isSome || (fence? s).isSome || s.head? = some '>' ||
    itemInterrupts (!current || inTable) s ||
    (match s with
      | '<' :: s => (htmlEnd? s).isSome || startsHtmlElement s
      | _ => false) ||
    o.extensions && (footnoteLabel? s).isSome

namespace Outline

def stack (s : Outline) : List OpenBlock :=
  s.top :: s.below

/-- The holders from the outermost to the innermost. -/
def holders (s : Outline) : List Holder :=
  (s.stack.map (·.holder)).reverse

def addBlocks (s : Outline) (bs : List Block) : Outline :=
  { s with top.blocks := bs.reverse ++ s.top.blocks }

def push (s : Outline) (h : Holder) : Outline :=
  { s with top := ⟨h, []⟩, below := s.top :: s.below }

/-- Ends the innermost open block. -/
def pop (s : Outline) : Outline :=
  match s.below with
  | [] => s
  | outer :: below =>
    let emptyItem := match s.top.holder with
      | .list _ _ true => false
      | _ => s.emptyItem
    { s with top := outer, below, emptyItem }.addBlocks s.top.closed

def popTo (n : Nat) (s : Outline) : Nat → Outline
  | 0 => s
  | fuel + 1 => if n < s.below.length + 1 then popTo n s.pop fuel else s

/-- Ends a list item that began with a blank line and goes on with another one. -/
def finishEmptyItem (s : Outline) : Outline :=
  let s := if s.emptyItem && s.lastBlank && isItemHolder s.top.holder then s.pop else s
  { s with emptyItem := false }

/-- Makes the list around the innermost block loose. -/
def loosenOuter (s : Outline) : Outline :=
  match s.below with
  | [] => s
  | b :: below => { s with below := { b with holder := b.holder.loosen } :: below }

/-- Ends a list in front of a block that is no item of it. A blank line before a block in an item makes
the list loose. -/
def finishList (s : Outline) : Outline :=
  let s := s.finishEmptyItem
  let s := if isListHolder s.top.holder then s.pop else s
  if s.lastBlank then { s.loosenOuter with lastBlank := false } else s

/-- Continues the list with this sign, or starts one. -/
def enterList (s : Outline) (sign : Char) (start : Nat) : Outline :=
  let s := s.finishEmptyItem
  let matched : Bool := match s.top.holder with
    | .list c _ _ => c = sign
    | _ => false
  if matched then
    if s.lastBlank then
      { s with top := { s.top with holder := s.top.holder.loosen }, lastBlank := false }
    else s
  else { s.finishList.push (.list sign start true) with lastBlank := false }

/-- The alignments of the table that starts with a line, judged by the line after it. -/
def tableStart? (o : Options) (s : Outline) (line : List Char) (next : Option Line) :
    Option (List Alignment) := do
  if !o.extensions then none
  let columns ← headColumns? line
  let (n, r) := continueHolders o { text := (← next).text } s.holders
  if n ≠ s.holders.length then none
  let (missing, r) := r.skipColumns 4
  if missing = 0 then none
  let alignments ← delimiterRow? r.text
  if alignments.length = columns ∧ 0 < columns then some alignments else none

/-- Fills a row up to `n` cells, or cuts it off there. -/
def fitRow (n : Nat) (cells : List (List Char)) : List (List Char) :=
  cells.take n ++ List.replicate (n - cells.length) []

/-- The lines of an HTML block, where pieces come last first. -/
def htmlLine (pieces : List HtmlPiece) (blanks : Nat) (text : List Char) (l : Line) :
    List HtmlPiece :=
  let pieces := if blanks = 0 then pieces
    else .blanks (.ofList (List.replicate blanks ' ')) :: pieces
  .line (.ofList (text ++ l.newline)) :: pieces

def containsText (t s : List Char) : Bool :=
  (Text.cut? t s).isSome

/-- Ends the open leaf. Definitions at the start of a paragraph are taken off it, and nothing may be
left. -/
def closeLeaf (s : Outline) : Outline :=
  match s.leaf with
  | none => s
  | some leaf =>
    let s := { s with leaf := none }
    match leaf with
    | .paragraph task text =>
      let (definitions, text) := s.definitions.extract text (text.text.length + 1)
      let s := { s with definitions }
      if text.isEmpty then { s with task } else s.addBlocks [.paragraph task text]
    | .fenced _ _ _ info lines => s.addBlocks [.code (some info) lines.reverse]
    | .indented lines _ => s.addBlocks [.code none lines.reverse]
    | .html _ pieces => s.addBlocks [.html pieces.reverse]
    | .table alignments head rows =>
      s.addBlocks [.table alignments head (rows.getD []).reverse]

/-- Opens a paragraph with its first line, or a table if the next line is a delimiter row. A line that
defines the target of a link is not the head of a table. -/
def openParagraph (o : Options) (s : Outline) (text : List Char) (next : Option Line) : Outline :=
  let leaf := match definition? text, s.tableStart? o text next with
    | none, some alignments =>
      .table alignments (fitRow alignments.length (rowCells text (text.length + 1))) none
    | _, _ => .paragraph s.task ⟨text, []⟩
  { s with leaf := some leaf, task := none }

/-- Adds a heading. -/
def addHeading (s : Outline) (level : Nat) (attributes : HeadingAttributes) (text : Passage) :
    Outline :=
  s.addBlocks [.heading level attributes text]

def atxHeading (s : Outline) (level : Nat) (text : List Char) : Outline :=
  let (content, attributes) := match attributeBlock? text with
    | some (content, inner) => (content, headingAttributes inner)
    | none => (text, {})
  s.addHeading level attributes ⟨dropClosingSigns content, []⟩

/-- Opens the leaf that a line, after its indentation, starts. -/
def openLeaf (o : Options) (s : Outline) (spare indent : Nat) (text : List Char) (l : Line)
    (next : Option Line) : Outline :=
  let html (ending : Option (List Char)) : Outline :=
    let s := { s with leaf := some (.html ending (htmlLine [] (max spare indent) text l)) }
    if ending.any (containsText · text) then s.closeLeaf else s
  match text with
  | '<' :: inner =>
    match htmlEnd? inner with
    | some ending => html (some ending)
    | none =>
      if startsHtmlElement inner || isLoneTag inner then html none
      else s.openParagraph o text next
  | _ =>
    if isRule text then s.addBlocks [.rule]
    else
      match atxHeading? text, fence? text with
      | some (level, content), _ => s.atxHeading level content
      | _, some (sign, count, info) =>
        let info := unescaped (dropRightSpaces (info.dropWhile isInlineSpace))
        { s with leaf := some (.fenced indent sign count info []) }
      | none, none => s.openParagraph o text next

end Outline

end Folio.Markdown
