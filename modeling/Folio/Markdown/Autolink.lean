import Folio.Markdown.Leaf

/-! Addresses between angle brackets, read after the opening one. The readers give the address and what
follows the closing bracket. -/

namespace Folio.Markdown

/-- Reads a URI: a scheme of two to thirty-two characters, a colon, and no space, control character or
angle bracket after it. -/
def uri? (s : List Char) : Option (List Char × List Char) :=
  let inScheme (c : Char) : Bool := c.isAlphanum || ['.', '-', '+'].contains c
  let inPath (c : Char) : Bool := 0x20 < c.toNat && c != '<' && c != '>'
  let scheme := s.takeWhile inScheme
  match s.dropWhile inScheme with
  | ':' :: path =>
    match path.dropWhile inPath with
    | '>' :: rest =>
      if scheme.head?.any Char.isAlpha ∧ 2 ≤ scheme.length ∧ scheme.length ≤ 32 then
        some (scheme ++ ':' :: path.takeWhile inPath, rest)
      else none
    | _ => none
  | _ => none

/-- The signs that the name of a mailbox may hold besides letters and digits. -/
def mailboxSigns : List Char :=
  ['.', '!', '#', '$', '%', '&', '\'', '*', '+', '/', '=', '?', '^', '_', '\x60', '\x7b', '|',
    '\x7d', '~', '-']

/-- A part of a domain: up to sixty-three letters, digits and hyphens, with no hyphen at an end. -/
def isDomainLabel (s : List Char) : Bool :=
  !s.isEmpty && s.length ≤ 63 && s.head? != some '-' && s.getLast? != some '-' &&
    s.all fun c => c.isAlphanum || c = '-'

/-- Reads the address of a mailbox. -/
def mailAddress? (s : List Char) : Option (List Char × List Char) :=
  let address := s.takeWhile (· ≠ '>')
  let mailbox := address.takeWhile (· ≠ '@')
  match address.drop mailbox.length, s.drop address.length with
  | _ :: domain, _ :: rest =>
    if !mailbox.isEmpty &&
        mailbox.all (fun c => c.isAlphanum || mailboxSigns.contains c) &&
        (domain.splitOnP (· = '.')).all isDomainLabel then
      some (address, rest)
    else none
  | _, _ => none

end Folio.Markdown
