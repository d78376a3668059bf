import Folio.Markdown.Autolink
import Folio.Markdown.Emphasis
import Folio.Markdown.Flank
import Folio.Markdown.HtmlTag
import Folio.Markdown.Outline

/-! Reading the text of a passage: code spans, markup, references, links and images, line breaks, and the
signs of emphasis and quotation. The text is read once from left to right. A closing bracket decides
what the bracket it closes begins. -/

namespace Folio.Markdown

/-- What a text means beyond itself: the dialect and the definitions of the document. -/
structure Context where
  options : Options
  definitions : Definitions

inductive BracketKind
  | link
  | image
  /-- A bracket around a link, which can begin none. -/
  | plain
  deriving DecidableEq, Repr

/-- A bracket that has not been closed. -/
structure Bracket where
  kind : BracketKind
  /-- The text after it. -/
  inside : List Char
  /-- The pieces before it, back to the bracket around it, last first. -/
  before : List Piece

structure Reader where
  source : Passage
  /-- The character before, unless a line begins. -/
  previous : Option Char := none
  /-- The text since the last piece, last character first. -/
  word : List Char := []
  /-- The pieces after the innermost bracket, last first. -/
  pieces : List Piece := []
  /-- The open brackets, innermost first. -/
  brackets : List Bracket := []
  /-- The closing brackets of labels that have been looked up, by the length of the text behind. -/
  closers : List Nat := []

/-- A part of a passage with its line breaks written as `f` says. -/
def spread (f : Lead → List Char) : List Char → List Lead → List Char
  | '\n' :: s, l :: ls => f l ++ spread f s ls
  | c :: s, ls => c :: spread f s ls
  | [], _ => []

/-- Finds the run of exactly `n` backticks after which the text goes on; `run` of them stand before. -/
def afterBackticks? (n run : Nat) : List Char → Option (List Char)
  | [] => if run = n then some [] else none
  | c :: s =>
    if c = '\x60' then afterBackticks? n (run + 1) s
    else if run = n then some (c :: s)
    else afterBackticks? n 0 s

/-- The text of a code span: a space at both ends is dropped, unless there is nothing but spaces. -/
def codeText (s : List Char) : List Char :=
  if s.all (· = ' ') then s
  else if s.head? = some ' ' ∧ s.getLast? = some ' ' then s.tail.dropLast
  else s

/-- Hyphens as dashes: long ones if the number is a multiple of three, short ones if it is even, and else
as few short ones as possible after the long ones. -/
def dashes (n : Nat) : List Char :=
  let (long, short) :=
    match n % 6 with
    | 0 | 3 => (n / 3, 0)
    | 2 | 4 => (0, n / 2)
    | 1 => (n / 3 - 1, 2)
    | _ => (n / 3, 1)
  List.replicate long '—' ++ List.replicate short '–'

def Bracket.sign (b : Bracket) : List Char :=
  match b.kind with
  | .image => ['!', '[']
  | _ => ['[']

namespace Reader

/-- Turns the text that has been read into a piece. -/
def flush (r : Reader) : Reader :=
  if r.word.isEmpty then r
  else { r with word := [], pieces := .inline (.text r.word.reverse) :: r.pieces }

/-- Goes on behind a part of the source. -/
def advance (r : Reader) (rest : List Char) (previous : Option Char) : Reader :=
  { r with source := r.source.advance rest, previous }

def add (r : Reader) (p : Piece) : Reader :=
  let r := r.flush
  { r with pieces := p :: r.pieces }

/-- Takes characters of a line as text. -/
def take (r : Reader) (s : List Char) : Reader :=
  { r with
    source := { r.source with text := r.source.text.drop s.length }
    word := s.reverse ++ r.word
    previous := s.getLast? }

/-- The part of the source before `rest`, with its line breaks written as `f` says. -/
def upTo (r : Reader) (f : Lead → List Char) (rest : List Char) : List Char :=
  spread f (r.source.text.take (r.source.text.length - rest.length)) r.source.leads

def lineBreak (r : Reader) (rest : List Char) (i : Inline) : Reader :=
  (r.add (.inline i)).advance rest none

/-- Reads the end of a line; two blanks before it make it a hard one. -/
def softBreak (r : Reader) (rest : List Char) : Reader :=
  let blanks := r.word.takeWhile isInlineSpace
  { r with word := r.word.drop blanks.length }.lineBreak rest
    (if 2 ≤ blanks.length then .hardBreak else .softBreak)

/-- Reads a code span that opens with `n` backticks; `rest` stands behind them. -/
def code? (r : Reader) (n : Nat) (rest : List Char) : Option Reader := do
  let after ← if n = 0 then none else afterBackticks? n 0 rest
  let inside := rest.take (rest.length - after.length - n)
  let text := codeText (spread (fun l => ' ' :: l.indent) inside r.source.leads)
  return (r.add (.inline (.code (.ofList text)))).advance after (some '\x60')

def codeOrText (r : Reader) : Reader :=
  let ticks := r.source.text.takeWhile (· = '\x60')
  (r.code? ticks.length (r.source.text.drop ticks.length)).getD (r.take ticks)

/-- Reads a backslash and what it makes plain. The first backtick of a run may be one. -/
def escape (r : Reader) (rest : List Char) : Reader :=
  match rest with
  | '\n' :: rest => r.lineBreak rest .hardBreak
  | c :: _ =>
    if c = '\x60' then
      let r := { r with source := { r.source with text := rest } }
      let ticks := rest.takeWhile (· = '\x60')
      let r' := { r with word := '\x60' :: r.word }
      (r'.code? (ticks.length - 1) (rest.drop ticks.length)).getD (r.take ticks)
    else if Text.isAsciiPunctuation c then
      { r with source := { r.source with text := rest } }.take [c]
    else r.take ['\\']
  | [] => r.take ['\\']

/-- Reads what an opening angle bracket begins. -/
def markup (r : Reader) (rest : List Char) : Reader :=
  let link (email : Bool) (found : List Char × List Char) : Reader :=
    let url := String.ofList found.1
    (r.add (.inline (.link url "" email [.text found.1]))).advance found.2 (some '>')
  let html (f : Lead → List Char) (after : List Char) : Reader :=
    (r.add (.inline (.html (.ofList (r.upTo f after))))).advance after (some '>')
  match uri? rest, mailAddress? rest, htmlTag? rest, htmlAside? rest with
  | some found, _, _, _ => link false found
  | none, some found, _, _ => link true found
  | none, none, some after, _ => html (fun l => l.ending ++ l.indent) after
  | none, none, none, some after => html (fun l => l.ending ++ l.margin ++ l.indent) after
  | none, none, none, none => r.take ['<']

def reference (r : Reader) (rest : List Char) : Reader :=
  match Text.entity? rest with
  | some (chars, rest) => (r.add (.inline (.text chars))).advance rest (some ';')
  | none => r.take ['&']

/-- Reads a run of a sign of emphasis. More than two tildes are none. -/
def emphasis (r : Reader) (sign : Char) : Reader :=
  let signs := r.source.text.takeWhile (· = sign)
  let n := signs.length
  let after := r.source.text.drop n
  let opens := opensAt sign n r.previous after.head?
  let closes := closesAt sign n r.previous after.head?
  if (opens || closes) && (sign ≠ '~' || n ≤ 2) then
    (r.add (.run sign n opens closes)).advance after (some sign)
  else r.take signs

def quote (r : Reader) (sign : Char) (rest : List Char) : Reader :=
  let opens := opensAt sign 1 r.previous rest.head?
  let closes := closesAt sign 1 r.previous rest.head?
  (r.add (.quote sign opens closes)).advance rest (some sign)

/-- Reads `old` as other characters. -/
def replace (r : Reader) (old new : List Char) : Reader :=
  (r.add (.inline (.text new))).advance (r.source.text.drop old.length) old.getLast?

def openBracket (r : Reader) (kind : BracketKind) (rest : List Char) : Reader :=
  let r := r.flush
  { r with pieces := [], brackets := ⟨kind, rest, r.pieces⟩ :: r.brackets }.advance rest (some '[')

/-- The pieces after brackets that begin nothing, which are text. -/
def unwind (pieces : List Piece) : List Bracket → List Piece
  | [] => pieces
  | b :: bs => unwind (pieces ++ .inline (.text b.sign) :: b.before) bs

/-- Makes the innermost bracket and a closing one text. -/
def bracketAsText (r : Reader) (b : Bracket) (outer : List Bracket) : Reader :=
  let r := r.flush
  { r with pieces := unwind r.pieces [b], brackets := outer }.take [']']

/-- Makes what stands after the innermost bracket a link or an image. No link holds another one. -/
def closeLink (r : Reader) (b : Bracket) (outer : List Bracket) (t : Target) (rest : List Char)
    (last : Char) : Reader :=
  let r := r.flush
  let content := settle r.pieces.reverse
  let (i, outer) :=
    if b.kind = .image then (Inline.image t.url t.title content, outer)
    else
      (Inline.link t.url t.title false content,
        outer.map fun b => if b.kind = .link then { b with kind := .plain } else b)
  { r with pieces := .inline i :: b.before, brackets := outer }.advance rest (some last)

/-- Reads a label or the label of a footnote, with its opening bracket before it. -/
def labelOrNote? (o : Options) (s : List Char) : Option (Bool × List Char × List Char) :=
  let note := match s with
    | '^' :: s => if o.extensions && s.head? != some ']' then label? false s else none
    | _ => none
  match note with
  | some (label, rest) => some (true, label, rest)
  | none => (label? true s).map fun (label, rest) => (false, label, rest)

/-- Reads a bracket as a reference to what its own text names; `after` is what follows the reference if
it leads to a link, and `rest` if it is a footnote. -/
def namedReference (x : Context) (r : Reader) (b : Bracket) (outer : List Bracket)
    (rest after : List Char) : Reader :=
  if r.closers.contains rest.length then r.bracketAsText b outer
  else
    match labelOrNote? x.options b.inside with
    | none => r.bracketAsText b outer
    | some (note, label, tail) =>
      if tail.length ≠ rest.length then r.bracketAsText b outer
      else if note then
        if x.definitions.hasFootnote label then
          let before := if b.kind = .image then .inline (.text ['!']) :: b.before else b.before
          let pieces := unwind (.inline (.footnote (.ofList label)) :: before) outer
          { r with word := [], pieces, brackets := [] }.advance rest (some ']')
        else r.bracketAsText b outer
      else
        match x.definitions.target? label with
        | some t => r.closeLink b outer t after ']'
        | none => r.bracketAsText b outer

/-- Reads a bracket by the label after it or, if there is none, by its own text. -/
def bracketReference (x : Context) (r : Reader) (b : Bracket) (outer : List Bracket)
    (rest : List Char) : Reader :=
  match rest with
  | '[' :: ']' :: after => r.namedReference x b outer rest after
  | '[' :: s =>
    match labelOrNote? x.options s with
    | some (false, label, after) =>
      let r := { r with closers := after.length :: r.closers }
      match x.definitions.target? label with
      | some t => r.closeLink b outer t after ']'
      | none => r.bracketAsText b outer
    | _ => r.namedReference x b outer rest rest
  | _ => r.namedReference x b outer rest rest

def closeBracket (x : Context) (r : Reader) (rest : List Char) : Reader :=
  match r.brackets with
  | [] => r.take [']']
  | b :: outer =>
    if b.kind = .plain then r.bracketAsText b outer
    else
      match rest with
      | '(' :: s =>
        match inlineTarget? s with
        | some (t, after) => r.closeLink b outer t after ')'
        | none => r.bracketReference x b outer rest
      | _ => r.bracketReference x b outer rest

/-- Reads what starts with the character `c`, which `rest` follows. -/
def step (x : Context) (r : Reader) (c : Char) (rest : List Char) : Reader :=
  match c with
  | '\n' => r.softBreak rest
  | '\\' => r.escape rest
  | '\x60' => r.codeOrText
  | '<' => if rest.head? = some '\\' then r.take [c] else r.markup rest
  | '&' => r.reference rest
  | '[' => r.openBracket .link rest
  | ']' => r.closeBracket x rest
  | '*' | '_' => r.emphasis c
  | '~' => if x.options.extensions then r.emphasis c else r.take [c]
  | '!' =>
    match rest with
    | '[' :: rest => r.openBracket .image rest
    | _ => r.take [c]
  | '\'' | '"' => if x.options.smart then r.quote c rest else r.take [c]
  | '.' =>
    if x.options.smart && ['.', '.'].isPrefixOf rest then r.replace ['.', '.', '.'] ['…']
    else r.take [c]
  | '-' =>
    let signs := r.source.text.takeWhile (· = '-')
    if x.options.smart && 2 ≤ signs.length then r.replace signs (dashes signs.length)
    else r.take signs
  | _ => r.take [c]

def run (x : Context) (r : Reader) : Nat → Reader
  | 0 => r
  | fuel + 1 =>
    match r.source.text with
    | [] => r
    | c :: rest => run x (r.step x c rest) fuel

/-- Ends the text. Blanks at its end do not count. -/
def finish (r : Reader) : List Inline :=
  let r := { r with word := r.word.dropWhile isInlineSpace }.flush
  settle (unwind r.pieces r.brackets).reverse

end Reader

/-- The content that the text of a passage means. -/
def contentOf (x : Context) (p : Passage) : List Inline :=
  ({ source := p : Reader }.run x (p.text.length + 1)).finish

end Folio.Markdown
