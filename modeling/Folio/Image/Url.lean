import Folio.Text.Blank
import Folio.Text.Search

/-! The parts of an absolute URL that decide which remote images a document may use. -/

namespace Folio.Image

/-- Scheme and host are in lower case; the port is empty when it is the scheme's own. -/
structure Url where
  scheme : List Char
  host : List Char
  port : List Char
  path : List Char
  deriving DecidableEq, Repr

def isSchemeChar (c : Char) : Bool :=
  c.isAlpha || c.isDigit || c = '+' || c = '.' || c = '-'

/-- Scheme and rest of a text that starts with a scheme and a colon. -/
def scheme? (s : List Char) : Option (List Char × List Char) :=
  match s with
  | [] => none
  | c :: _ =>
    if c.isAlpha then
      match s.dropWhile isSchemeChar with
      | ':' :: rest => some (s.takeWhile isSchemeChar, rest)
      | _ => none
    else none

/-- Drops user information, which ends at the first `@` before any `/`, `?` or `#`. -/
def dropUserInfo (s : List Char) : List Char :=
  match s.dropWhile fun c => c ≠ '@' && c ≠ '/' && c ≠ '?' && c ≠ '#' with
  | '@' :: rest => rest
  | _ => s

def isHostChar (c : Char) : Bool :=
  c ≠ ':' && c ≠ '/' && c ≠ '?' && c ≠ '#'

/-- Host and rest; a host in brackets keeps them. -/
def host (s : List Char) : List Char × List Char :=
  match s with
  | '[' :: inner =>
    match inner.dropWhile (· ≠ ']') with
    | _ :: rest => ('[' :: inner.takeWhile (· ≠ ']') ++ [']'], rest)
    | [] => (s.takeWhile isHostChar, s.dropWhile isHostChar)
  | _ => (s.takeWhile isHostChar, s.dropWhile isHostChar)

/-- Port and rest. -/
def port (s : List Char) : List Char × List Char :=
  match s with
  | ':' :: rest => (rest.takeWhile Char.isDigit, rest.dropWhile Char.isDigit)
  | _ => ([], s)

/-- Host, port and rest of what follows the scheme. -/
def authority (s : List Char) : List Char × List Char × List Char :=
  match s with
  | '/' :: '/' :: s =>
    let (h, s) := host (dropUserInfo s)
    let (p, s) := port s
    (h, p, s)
  | _ => ([], [], s)

def defaultPort? (scheme : List Char) : Option (List Char) :=
  if scheme = "http".toList then some "80".toList
  else if scheme = "https".toList then some "443".toList
  else none

namespace Url

/-- Takes a URL apart; blanks around it do not count, and what follows `?` or `#` is dropped. -/
def parse? (s : List Char) : Option Url :=
  (scheme? (Text.trim s)).map fun (scheme, rest) =>
    let scheme := scheme.map Char.toLower
    let (h, p, rest) := authority rest
    let path := rest.takeWhile fun c => c ≠ '?' && c ≠ '#'
    { scheme
      host := h.map Char.toLower
      port := if defaultPort? scheme = some p then [] else p
      path := if path.isEmpty && !h.isEmpty then ['/'] else path }

end Url

end Folio.Image
