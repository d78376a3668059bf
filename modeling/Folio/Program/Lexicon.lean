/-! The words of languages that code is written in, and splitting a line of code by them. -/

namespace Folio.Program

/-- What a piece of code is to its reader; operators count as keywords. -/
inductive Role
  | plain | keyword | name | quoted | number | comment
  deriving DecidableEq, Repr

structure Lexicon where
  /-- The names that the language goes by. -/
  languages : List String
  keywords : List String
  /-- The keywords that the name of something new follows. -/
  definers : List String
  /-- What begins a comment that ends with its line. -/
  commentSign : List Char
  /-- The signs that a quoted text stands between. -/
  quoteSigns : List Char
  operators : List Char
  deriving Repr

def rust : Lexicon where
  languages := ["rust", "rs"]
  keywords := ["as", "break", "const", "continue", "else", "enum", "extern", "fn", "for", "if",
    "impl", "in", "let", "loop", "match", "mod", "move", "mut", "pub", "ref", "return", "static",
    "struct", "trait", "type", "unsafe", "use", "where", "while"]
  definers := ["fn", "struct", "enum", "trait", "mod"]
  commentSign := ['/', '/']
  quoteSigns := ['"']
  operators := ['=', '+', '*', '/', '%', '&', '|', '^']

def python : Lexicon where
  languages := ["python", "py"]
  keywords := ["and", "as", "assert", "async", "await", "break", "class", "continue", "def", "del",
    "elif", "else", "except", "finally", "for", "from", "global", "if", "import", "in", "is",
    "lambda", "nonlocal", "not", "or", "pass", "raise", "return", "try", "while", "with", "yield"]
  definers := ["def", "class"]
  commentSign := ['#']
  quoteSigns := ['"', '\'']
  operators := ['=', '+', '-', '*', '/', '%', '<', '>', '!', '&', '|', '^', '~']

def lexicons : List Lexicon := [rust, python]

def lexiconFor? (language : String) : Option Lexicon :=
  lexicons.find? (·.languages.contains (.ofList (language.toList.map Char.toLower)))

def isWordChar (c : Char) : Bool :=
  c.isAlphanum || c = '_'

/-- The length of the rest of a text quoted by `sign`, its closing sign included. -/
def quotedLength (sign : Char) : List Char → Nat
  | [] => 0
  | '\\' :: _ :: s => quotedLength sign s + 2
  | c :: s => if c = sign then 1 else quotedLength sign s + 1

/-- The first piece of a line; `defining` tells whether a name is expected. -/
def Lexicon.piece (l : Lexicon) (defining : Bool) (s : List Char) : Role × List Char :=
  if l.commentSign.isPrefixOf s then (.comment, s)
  else
    match s with
    | [] => (.plain, [])
    | c :: rest =>
      let word := s.takeWhile isWordChar
      if l.quoteSigns.contains c then (.quoted, s.take (1 + quotedLength c rest))
      else if l.operators.contains c then (.keyword, [c])
      else if word.isEmpty then (.plain, [c])
      else if c.isDigit then (.number, word)
      else if l.keywords.contains (.ofList word) then (.keyword, word)
      else (if defining then .name else .plain, word)

/-- The pieces of a line. -/
def Lexicon.pieces (l : Lexicon) (defining : Bool) (s : List Char) :
    Nat → List (Role × List Char)
  | 0 => []
  | fuel + 1 =>
    if s.isEmpty then []
    else
      let (role, text) := l.piece defining s
      let defining := match role with
        | .keyword => l.definers.contains (.ofList text)
        | .name => false
        | _ => defining
      (role, text) :: l.pieces defining (s.drop text.length) fuel

end Folio.Program
