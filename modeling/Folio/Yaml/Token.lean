import Folio.Yaml.Text

/-! The tokens of a YAML text. Indentation turns into tokens for the start and the end of blocks. A
scalar turns out to be a key only at the `:` after it; so the scanner remembers where a key may have
started and puts the token for it there afterwards. -/

namespace Folio.Yaml

inductive ScalarStyle
  | plain
  | quoted
  | literal
  | folded
  deriving DecidableEq, Repr

inductive Token
  | streamEnd
  | versionDirective (major minor : Nat)
  | tagDirective (handle leader : List Char)
  | documentStart
  | documentEnd
  | blockSequenceStart
  | blockMappingStart
  | blockEnd
  | flowSequenceStart
  | flowSequenceEnd
  | flowMappingStart
  | flowMappingEnd
  | blockEntry
  | flowEntry
  | key
  | value
  | aliasOf (name : List Char)
  | anchor (name : List Char)
  | tag (handle suffix : List Char)
  | scalar (style : ScalarStyle) (text : List Char)
  deriving DecidableEq, Repr

/-- A place where a key may have started: before the token with this number. -/
structure KeyMark where
  token : Nat
  /-- Whether something other than a key would break the block here. -/
  required : Bool
  index : Nat
  line : Nat
  column : Nat

structure Scanner where
  cursor : Cursor
  tokens : List Token := []
  /-- Column of the innermost block, and those of the blocks around it. -/
  indent : Int := -1
  indents : List Int := []
  keyAllowed : Bool := true
  /-- The possible key at this level and in each flow collection around it. -/
  key : Option KeyMark := none
  outerKeys : List (Option KeyMark) := []

namespace Scanner

def inFlow (s : Scanner) : Bool :=
  !s.outerKeys.isEmpty

def emit (s : Scanner) (t : Token) : Scanner :=
  { s with tokens := s.tokens ++ [t] }

def insertAt (s : Scanner) (i : Nat) (t : Token) : Scanner :=
  { s with tokens := s.tokens.take i ++ t :: s.tokens.drop i }

def allowKey (s : Scanner) (allowed : Bool) : Scanner :=
  { s with keyAllowed := allowed }

/-- Opens a block at a column beyond the present indentation. -/
def openBlock (s : Scanner) (column : Nat) (t : Token) (i : Nat) : Scanner :=
  if !s.inFlow && s.indent < column then
    { s.insertAt i t with indent := column, indents := s.indent :: s.indents }
  else s

/-- Closes the blocks that start to the right of a column. -/
def closeBlocks (column : Int) (s : Scanner) : Nat → Scanner
  | 0 => s
  | fuel + 1 =>
    if !s.inFlow && column < s.indent then
      closeBlocks column { s.emit .blockEnd with
        indent := s.indents.headD (-1), indents := s.indents.tail } fuel
    else s

def closeBlocksTo (s : Scanner) (column : Int) : Scanner :=
  closeBlocks column s (s.indents.length + 1)

/-- Gives up on a possible key; a required one is then missing. -/
def dropKey (s : Scanner) : Option Scanner :=
  if s.key.any (·.required) then none else some { s with key := none }

/-- Remembers that a key may start here. -/
def markKey (s : Scanner) : Option Scanner :=
  if s.keyAllowed then
    s.dropKey.map fun s =>
      let c := s.cursor
      let required := !s.inFlow && s.indent == c.column
      { s with key := some ⟨s.tokens.length, required, c.index, c.line, c.column⟩ }
  else some s

/-- Whether the text has gone too far for a key to end here: to another line, or too long. -/
def isStale (c : Cursor) (k : KeyMark) : Bool :=
  k.line < c.line || k.index + 1024 < c.index

def dropStale (c : Cursor) (k : Option KeyMark) : Option (Option KeyMark) :=
  match k with
  | none => some none
  | some k => if isStale c k then (if k.required then none else some none) else some (some k)

def dropStaleKeys (s : Scanner) : Option Scanner := do
  let key ← dropStale s.cursor s.key
  let outerKeys ← s.outerKeys.mapM (dropStale s.cursor)
  return { s with key, outerKeys }

/-- Passes over blanks, comments and line breaks in front of a token. -/
def skipGap (s : Scanner) : Nat → Scanner
  | 0 => s
  | fuel + 1 =>
    let c := s.cursor
    let c := if c.index = 0 && c.isAt '\ufeff' then { c with rest := c.rest.tail } else c
    let c := if c.column = 0 && c.isAt '\ufeff' then c.skip else c
    let tabs := s.inFlow || !s.keyAllowed
    let c := (c.takeWhile fun d => d = ' ' || tabs && d = '\t').2.skipComment
    if c.atBreak then
      skipGap { s with cursor := c.skipBreak, keyAllowed := s.keyAllowed || !s.inFlow } fuel
    else { s with cursor := c }

def isNameChar (c : Char) : Bool :=
  '0' ≤ c && c ≤ '9' || 'A' ≤ c && c ≤ 'Z' || 'a' ≤ c && c ≤ 'z' || c = '_' || c = '-'

def isUriChar (verbatim : Bool) (c : Char) : Bool :=
  isNameChar c || ";/?:@&=+$.!~*'()".toList.contains c || verbatim && [',', '[', ']'].contains c

/-- Bytes of a text with the escapes of a tag resolved. -/
def uriBytes? (verbatim : Bool) : List Char → Option (List UInt8 × List Char)
  | [] => some ([], [])
  | c :: rest =>
    if c = '%' then
      match rest with
      | h :: l :: rest => do
        let b ← Text.number? 16 [h, l]
        let (bs, rest) ← uriBytes? verbatim rest
        return (.ofNat b :: bs, rest)
      | _ => none
    else if isUriChar verbatim c then do
      let (bs, rest) ← uriBytes? verbatim rest
      return (String.utf8EncodeChar c ++ bs, rest)
    else some ([], c :: rest)

/-- Reads the name inside a tag. -/
def readUri (verbatim : Bool) (c : Cursor) : Option (List Char × Cursor) := do
  let (bytes, rest) ← uriBytes? verbatim c.rest
  let text ← String.fromUTF8? ⟨⟨bytes⟩⟩
  return (text.toList, c.skipMany (c.rest.length - rest.length))

/-- Reads a tag as its handle and its suffix. -/
def readTag (inFlow : Bool) (c : Cursor) : Option (Token × Cursor) := do
  let (handle, suffix, c) ←
    if c.ahead 1 (· = '<') then do
      let (suffix, c) ← readUri true (c.skipMany 2)
      if suffix.isEmpty || !c.isAt '>' then none
      pure ([], suffix, c.skip)
    else do
      let (name, c') := c.skip.takeWhile isNameChar
      if c'.isAt '!' then
        let (suffix, c') ← readUri false c'.skip
        if suffix.isEmpty then none
        pure ('!' :: name ++ ['!'], suffix, c')
      else
        let (suffix, c') ← readUri false c'
        let suffix := name ++ suffix
        if suffix.isEmpty then pure ([], ['!'], c') else pure (['!'], suffix, c')
  if c.gapAhead 0 || inFlow && c.isAt ',' then return (.tag handle suffix, c) else none

/-- Reads the name of an anchor or an alias. -/
def readAnchor (c : Cursor) : Option (List Char × Cursor) :=
  let (name, c) := c.skip.takeWhile isNameChar
  if name.isEmpty then none
  else if c.gapAhead 0 || c.ahead 0 ("?:,]\x7d%@".toList ++ ['\x60']).contains then some (name, c)
  else none

/-- Reads the end of a line that may hold a comment. -/
def readLineEnd (c : Cursor) : Option Cursor :=
  let c := (c.takeWhile isSpaceOrTab).2.skipComment
  if c.atEnd || c.atBreak then some c.skipBreak else none

/-- Reads a directive. -/
def readDirective (c : Cursor) : Option (Token × Cursor) := do
  let (name, c) := c.skip.takeWhile isNameChar
  if name.isEmpty || !c.gapAhead 0 then none
  let c := (c.takeWhile isSpaceOrTab).2
  let isDigit (d : Char) : Bool := '0' ≤ d && d ≤ '9'
  if name = "YAML".toList then do
    let (major, c) := c.takeWhile isDigit
    if 9 < major.length || !c.isAt '.' then none
    let (minor, c) := c.skip.takeWhile isDigit
    if 9 < minor.length then none
    let c ← readLineEnd c
    return (.versionDirective (← Text.number? 10 major) (← Text.number? 10 minor), c)
  else if name = "TAG".toList then do
    if !c.isAt '!' then none
    let (inner, c) := c.skip.takeWhile isNameChar
    let (handle, c) ←
      if c.isAt '!' then pure ('!' :: inner ++ ['!'], c.skip)
      else if inner.isEmpty then pure (['!'], c)
      else none
    if !c.atSpace then none
    let (leader, c) ← readUri true (c.takeWhile isSpaceOrTab).2
    if leader.isEmpty || !c.gapAhead 0 then none
    let c ← readLineEnd c
    return (.tagDirective handle leader, c)
  else none

/-- A token of one character. -/
def sign (s : Scanner) (t : Token) : Scanner :=
  { s.emit t with cursor := s.cursor.skip }

def openFlow (s : Scanner) (t : Token) : Option Scanner :=
  s.markKey.map fun s =>
    { s.sign t with key := none, outerKeys := s.key :: s.outerKeys, keyAllowed := true }

def closeFlow (s : Scanner) (t : Token) : Option Scanner :=
  s.dropKey.map fun s =>
    match s.outerKeys with
    | [] => { s.sign t with keyAllowed := false }
    | key :: outerKeys => { s.sign t with key, outerKeys, keyAllowed := false }

def blockEntry (s : Scanner) : Option Scanner := do
  if !s.inFlow && !s.keyAllowed then none
  let s := s.openBlock s.cursor.column .blockSequenceStart s.tokens.length
  let s ← s.dropKey
  return (s.allowKey true).sign .blockEntry

def explicitKey (s : Scanner) : Option Scanner := do
  if !s.inFlow && !s.keyAllowed then none
  let s := s.openBlock s.cursor.column .blockMappingStart s.tokens.length
  let s ← s.dropKey
  return (s.allowKey (!s.inFlow)).sign .key

def value (s : Scanner) : Option Scanner :=
  match s.key with
  | some k =>
    let s := (s.insertAt k.token .key).openBlock k.column .blockMappingStart k.token
    some ({ s with key := none, keyAllowed := false }.sign .value)
  | none =>
    if s.inFlow then some ((s.allowKey false).sign .value)
    else if s.keyAllowed then
      let s := s.openBlock s.cursor.column .blockMappingStart s.tokens.length
      some ((s.allowKey true).sign .value)
    else none

/-- Reads a token that may be or start a key. -/
def keyToken (s : Scanner) (read : Cursor → Option (Token × Cursor)) : Option Scanner := do
  let s ← s.markKey
  let (t, c) ← read s.cursor
  return { s.emit t with cursor := c, keyAllowed := false }

def plainScalar (s : Scanner) : Option Scanner := do
  let s ← s.markKey
  let c := s.cursor
  let (text, broken, c) ←
    readPlain s.inFlow (s.indent + 1).toNat [] {} c (c.rest.length + 1)
  return { s.emit (.scalar .plain text) with cursor := c, keyAllowed := broken }

def blockScalar (s : Scanner) (literal : Bool) : Option Scanner := do
  let s ← s.dropKey
  let (text, c) ← readBlock literal s.indent s.cursor.skip
  return { s.emit (.scalar (if literal then .literal else .folded) text) with
    cursor := c, keyAllowed := true }

/-- Ends all blocks in front of a document mark or a directive. -/
def breakDocument (s : Scanner) : Option Scanner :=
  ((s.closeBlocksTo (-1)).dropKey).map (·.allowKey false)

def readQuotedToken (single : Bool) (c : Cursor) : Option (Token × Cursor) :=
  (readQuoted single [] c.skip (c.rest.length + 1)).map fun (text, c) => (.scalar .quoted text, c)

/-- Characters that start no plain scalar. -/
def indicators : List Char :=
  "-?:,[]\x7b\x7d#&*!|>'\"%@".toList ++ ['\x60']

/-- Reads the token that starts with `d`. -/
def tokenAt (s : Scanner) (d : Char) : Option Scanner :=
  let c := s.cursor
  let gap := c.gapAhead 1
  if c.column = 0 ∧ d = '%' then do
    let s ← s.breakDocument
    let (t, c) ← readDirective c
    return { s.emit t with cursor := c }
  else if c.atDocumentMark then
    s.breakDocument.map fun s =>
      { s.emit (if d = '-' then .documentStart else .documentEnd) with cursor := c.skipMany 3 }
  else if d = '[' then s.openFlow .flowSequenceStart
  else if d = '{' then s.openFlow .flowMappingStart
  else if d = ']' then s.closeFlow .flowSequenceEnd
  else if d = '}' then s.closeFlow .flowMappingEnd
  else if d = ',' then s.dropKey.map fun s => (s.allowKey true).sign .flowEntry
  else if d = '-' && gap then s.blockEntry
  else if d = '?' && (s.inFlow || gap) then s.explicitKey
  else if d = ':' && (s.inFlow || gap) then s.value
  else if d = '*' then s.keyToken fun c => (readAnchor c).map fun (name, c) => (.aliasOf name, c)
  else if d = '&' then s.keyToken fun c => (readAnchor c).map fun (name, c) => (.anchor name, c)
  else if d = '!' then s.keyToken (readTag s.inFlow)
  else if d = '|' && !s.inFlow then s.blockScalar true
  else if d = '>' && !s.inFlow then s.blockScalar false
  else if d = '\'' then s.keyToken (readQuotedToken true)
  else if d = '"' then s.keyToken (readQuotedToken false)
  else if !(isSpaceOrTab d || indicators.contains d) || d = '-' && !c.ahead 1 isSpaceOrTab ||
      !s.inFlow && (d = '?' || d = ':') && !gap then s.plainScalar
  else none

/-- Reads tokens to the end of the text. -/
def run (s : Scanner) : Nat → Option (List Token)
  | 0 => none
  | fuel + 1 => do
    let s := s.skipGap (s.cursor.rest.length + 1)
    let s ← s.dropStaleKeys
    let s := s.closeBlocksTo s.cursor.column
    match s.cursor.head? with
    | none =>
      let s ← (s.closeBlocksTo (-1)).dropKey
      return s.tokens ++ [.streamEnd]
    | some d => (← s.tokenAt d).run fuel

end Scanner

/-- Whether a character may stand in a YAML text at all. -/
def isAllowed (c : Char) : Bool :=
  let n := c.toNat
  n == 0x09 || n == 0x0A || n == 0x0D || 0x20 ≤ n && n ≤ 0x7E || n == 0x85 ||
    0xA0 ≤ n && n ≤ 0xFFFD || 0x10000 ≤ n

/-- The tokens of a text, unless it is malformed. -/
def tokens? (s : List Char) : Option (List Token) :=
  if s.all isAllowed then
    let scanner : Scanner := { cursor := { rest := s } }
    scanner.run (2 * s.length + 2)
  else none

end Folio.Yaml
