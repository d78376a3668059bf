import Folio.Node.Properties
import Folio.Text.Search

/-! The tokens of a markup fragment: tags with their attributes, texts, and references, up to the
first fault. -/

namespace Folio.Markup

inductive FragmentError
  /-- A tag, comment or reference that does not end, or tags that do not match. -/
  | malformed
  | badAttribute
  | unclosed (tag : String)
  deriving DecidableEq, Repr, Inhabited

def FragmentError.message : FragmentError → String
  | .malformed => "invalid markup: "
  | .badAttribute => "invalid attribute: "
  | .unclosed tag => "unclosed element <" ++ tag ++ ">"

inductive Token
  | openTag (tag : String) (properties : Properties)
  /-- A tag such as `<br/>` that is an element of its own. -/
  | emptyTag (tag : String) (properties : Properties)
  | closeTag (tag : String)
  | text (value : String)
  /-- A reference such as `&amp;`, by the name between its marks. -/
  | reference (name : String)
  /-- A comment, a declaration or a processing instruction. -/
  | skipped
  | fault (error : FragmentError)
  deriving Repr, Inhabited

def isSpace (c : Char) : Bool :=
  c = ' ' || c = '\t' || c = '\r' || c = '\n'

/-- The references that attribute values may hold by name. -/
def namedCharacter? : String → Option Char
  | "lt" => some '<'
  | "gt" => some '>'
  | "amp" => some '&'
  | "apos" => some '\''
  | "quot" => some '"'
  | _ => none

/-- The character that a reference in an attribute value stands for: one of the five names, or the
number of any character but the null one. -/
def attributeCharacter? (name : List Char) : Option Char :=
  match name with
  | '#' :: 'x' :: digits => numbered (Text.number? 16 digits)
  | '#' :: digits => numbered (Text.number? 10 digits)
  | _ => namedCharacter? (.ofList name)
where
  numbered (n : Option Nat) : Option Char :=
    n.bind fun n => if n = 0 then none else Text.scalar? n

/-- An attribute value with its references resolved; `held` is the name of a reference that is still
open, last character first. -/
def unescapeFrom : Option (List Char) → List Char → Option (List Char)
  | none, [] => some []
  | some _, [] => none
  | none, c :: s => if c = '&' then unescapeFrom (some []) s else (unescapeFrom none s).map (c :: ·)
  | some held, c :: s =>
    if c = ';' then do
      let d ← attributeCharacter? held.reverse
      let rest ← unescapeFrom none s
      return d :: rest
    else if c = '&' then none
    else unescapeFrom (some (c :: held)) s

def unescape? (s : List Char) : Option (List Char) :=
  unescapeFrom none s

/-- Name and raw value of the first attribute in `s`, and what follows it. -/
def attribute? (s : List Char) : Option (List Char × List Char × List Char) :=
  match s with
  | [] => none
  | first :: s =>
    let ends (c : Char) : Bool := c = '=' || isSpace c
    let name := first :: s.takeWhile (!ends ·)
    match (s.dropWhile (!ends ·)).dropWhile isSpace with
    | '=' :: s =>
      match s.dropWhile isSpace with
      | [] => none
      | quote :: s =>
        if quote = '"' ∨ quote = '\'' then
          match s.dropWhile (· ≠ quote) with
          | [] => none
          | _ :: rest => some (name, s.takeWhile (· ≠ quote), rest)
        else none
    | _ => none

/-- The attributes of a tag as properties; every name may occur once. -/
def attributes (p : Properties) (s : List Char) : Except FragmentError Properties :=
  let s' := s.dropWhile isSpace
  if s'.isEmpty then .ok p
  else
    match attribute? s' with
    | none => .error .badAttribute
    | some (name, value, rest) =>
      if p.contains (.ofList name) then .error .badAttribute
      else
        match unescape? value with
        | none => .error .malformed
        | some value =>
          if rest.length < s.length then
            attributes (p.set (.ofList name) (.text (.ofList value))) rest
          else .error .badAttribute
termination_by s.length

/-- The inside of a tag and what follows its `>`; a `>` between quotes does not count. -/
def tagBody? : Option Char → List Char → Option (List Char × List Char)
  | _, [] => none
  | none, c :: s =>
    if c = '>' then some ([], s)
    else
      (tagBody? (if c = '"' ∨ c = '\'' then some c else none) s).map fun (b, r) => (c :: b, r)
  | some quote, c :: s =>
    (tagBody? (if c = quote then none else some quote) s).map fun (b, r) => (c :: b, r)

/-- The token of a tag with the inside `body`. -/
def tagToken (body : List Char) : Token :=
  let isEmptyTag := body.getLast? = some '/'
  let body := if isEmptyTag then body.dropLast else body
  let name := String.ofList (body.takeWhile (!isSpace ·))
  match attributes {} (body.dropWhile (!isSpace ·)) with
  | .error e => .fault e
  | .ok p => if isEmptyTag then .emptyTag name p else .openTag name p

/-- What follows the `>` that ends a document type, with `depth` brackets open. -/
def afterDoctype? : Nat → List Char → Option (List Char)
  | _, [] => none
  | depth, c :: s =>
    if c = '<' then afterDoctype? (depth + 1) s
    else if c = '>' then
      match depth with
      | 0 => some s
      | d + 1 => afterDoctype? d s
    else afterDoctype? depth s

def startsWithIgnoringCase (p s : List Char) : Bool :=
  p.isPrefixOf ((s.take p.length).map Char.toUpper)

/-- The token that starts with `<!`. -/
def declaration? (s : List Char) : Option (Token × List Char) :=
  match s with
  | '-' :: '-' :: s => (Text.cut? "-->".toList s).map fun (_, rest) => (.skipped, rest)
  | '[' :: 'C' :: 'D' :: 'A' :: 'T' :: 'A' :: '[' :: s =>
    (Text.cut? "]]>".toList s).map fun (value, rest) => (.text (.ofList value), rest)
  | _ =>
    if startsWithIgnoringCase "DOCTYPE".toList s then
      match (s.drop 7).dropWhile isSpace with
      | [] => none
      | '>' :: _ => none
      | s => (afterDoctype? 0 s).map (.skipped, ·)
    else none

/-- The name in a closing tag; blanks after a name do not count. -/
def closingName (body : List Char) : String :=
  .ofList (if body.all isSpace then body else (body.reverse.dropWhile isSpace).reverse)

/-- The token that starts with `<`. -/
def markup? (s : List Char) : Option (Token × List Char) :=
  match s with
  | '!' :: s => declaration? s
  | '?' :: '>' :: _ => none
  | '?' :: s => (Text.cut? "?>".toList s).map fun (_, rest) => (.skipped, rest)
  | '/' :: s => (tagBody? none s).map fun (body, rest) => (.closeTag (closingName body), rest)
  | s => (tagBody? none s).map fun (body, rest) => (tagToken body, rest)

/-- The token that starts with `&`. -/
def reference? (s : List Char) : Option (Token × List Char) :=
  let ends (c : Char) : Bool := c = ';' || c = '&' || c = '<'
  match s.dropWhile (!ends ·) with
  | ';' :: rest => some (.reference (.ofList (s.takeWhile (!ends ·))), rest)
  | _ => none

def isPlain (c : Char) : Bool :=
  c ≠ '<' && c ≠ '&'

def token? (s : List Char) : Option (Token × List Char) :=
  match s with
  | '<' :: s => markup? s
  | '&' :: s => reference? s
  | s => some (.text (.ofList (s.takeWhile isPlain)), s.dropWhile isPlain)

/-- The tokens of `s` in order; a fault is the last one. -/
def tokens (s : List Char) : List Token :=
  if s.isEmpty then []
  else
    match token? s with
    | none => [.fault .malformed]
    | some (t, rest) => if rest.length < s.length then t :: tokens rest else [.fault .malformed]
termination_by s.length

end Folio.Markup
