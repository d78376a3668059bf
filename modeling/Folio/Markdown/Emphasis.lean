import Folio.Markdown.Inline

/-! Settling what emphasis signs and quotation marks stand for. Runs of signs are read from left to
right; one that closes takes the nearest run that opens and fits, and what stands between them becomes
emphasized. Signs that find no partner are text. -/

namespace Folio.Markdown

/-- A run that may still open emphasis. -/
structure Opener where
  sign : Char
  /-- Its length in the document. -/
  run : Nat
  /-- The signs of it that are left. -/
  count : Nat
  /-- Whether it may close emphasis as well. -/
  both : Bool
  /-- Whether closing runs that may open, and those that may not, have passed it by for good. -/
  shut : Bool × Bool := (false, false)
  /-- What stands before it, back to the opener around it, last first. -/
  before : List Inline
  deriving Inhabited

/-- Emphasis under construction: the open runs, innermost first, and the content after the innermost one,
last first. -/
structure Chain where
  openers : List Opener := []
  content : List Inline := []
  deriving Inhabited

/-- The lengths of two runs that may both open and close do not add up to a multiple of three, unless
both are multiples themselves. Tildes match in equal numbers only. -/
def Opener.fits (o : Opener) (sign : Char) (run : Nat) (both : Bool) : Bool :=
  o.sign = sign && !(if both then o.shut.1 else o.shut.2) &&
    (sign != '~' || o.run = run) &&
    (!both && !o.both || (o.run + run) % 3 != 0 || run % 3 = 0)

/-- An opener that a run without a partner leaves behind takes no more runs of its kind. Stars would not
fit later either. -/
def Opener.pass (o : Opener) (sign : Char) (both : Bool) : Opener :=
  if o.sign ≠ sign then o
  else if sign = '~' then { o with shut := (true, true) }
  else if sign = '_' then { o with shut := (o.shut.1 || both, o.shut.2 || !both) }
  else o

namespace Chain

def push (c : Chain) (i : Inline) : Chain :=
  { c with content := i :: c.content }

/-- Turns the innermost open runs into text, as many as there are in `os`, last first. -/
def dissolve (content : List Inline) : List Opener → List Inline
  | [] => content
  | o :: os =>
    dissolve (content ++ .text (List.replicate o.count o.sign) :: o.before) os

/-- The content between two runs, of which `n` signs count: pairs of signs make it strong, from the
inside, and a single one emphasizes it. -/
def wrap (sign : Char) (content : List Inline) : Nat → Inline
  | 0 => .emphasis content
  | 1 => if sign = '~' then .strikethrough content else .emphasis content
  | 2 => if sign = '~' then .strikethrough content else .strong content
  | n + 2 => wrap sign [.strong content] n

/-- Closes emphasis at a run of which `count` signs are left; gives the signs that stay without a
partner. -/
def close (c : Chain) (sign : Char) (run : Nat) (both : Bool) : Nat → Nat → Chain × Nat
  | count, 0 => (c, count)
  | count, fuel + 1 =>
    if count = 0 then (c, 0)
    else
      match c.openers.findIdx? (·.fits sign run both) with
      | none => ({ c with openers := c.openers.map (·.pass sign both) }, count)
      | some k =>
        match c.openers.drop k with
        | [] => (c, count)
        | o :: outer =>
          let content := (dissolve c.content (c.openers.take k)).reverse
          let n := min count o.count
          let wrapped := wrap sign content n
          let c : Chain :=
            if n < o.count then
              ⟨{ o with count := o.count - n, shut := (false, false) } :: outer, [wrapped]⟩
            else ⟨outer, wrapped :: o.before⟩
          close c sign run both (count - n) fuel

/-- Adds a run of signs. -/
def run (c : Chain) (sign : Char) (count : Nat) (opens closes : Bool) : Chain :=
  let (c, left) := if closes then c.close sign count opens count count else (c, count)
  if left = 0 then c
  else if opens then
    { openers := ⟨sign, count, left, closes, (false, false), c.content⟩ :: c.openers, content := [] }
  else c.push (.text (List.replicate left sign))

end Chain

/-- Whether the next single quote that opens or closes anything closes. -/
def quoteCloses : List Piece → Bool
  | [] => false
  | .quote '\'' opens closes :: ps => closes || !opens && quoteCloses ps
  | _ :: ps => quoteCloses ps

/-- Turns quotation marks into curved ones; the flags tell which kinds of quotation are open. -/
def curlQuotes (single double : Bool) : List Piece → List Piece
  | [] => []
  | .quote '\'' opens closes :: ps =>
    if single && closes then .inline (.text ['’']) :: curlQuotes false double ps
    else if opens then
      .inline (.text [if quoteCloses ps then '‘' else '’']) :: curlQuotes true double ps
    else .inline (.text ['’']) :: curlQuotes single double ps
  | .quote _ opens closes :: ps =>
    if double && closes then .inline (.text ['”']) :: curlQuotes single false ps
    else .inline (.text ['“']) :: curlQuotes single (double || opens) ps
  | p :: ps => p :: curlQuotes single double ps

def Chain.add (c : Chain) : Piece → Chain
  | .inline i => c.push i
  | .run sign count opens closes => c.run sign count opens closes
  | .quote sign _ _ => c.push (.text [sign])

/-- The content that a row of pieces makes. -/
def settle (ps : List Piece) : List Inline :=
  let c := (curlQuotes false false ps).foldl Chain.add {}
  (Chain.dissolve c.content c.openers).reverse

end Folio.Markdown
