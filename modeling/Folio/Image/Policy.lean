import Folio.Image.Url

/-! Policies on remote images: exact host names, and patterns over the parts of a URL. A host pattern
may start with `*.` for one more label or `**.` for any number of them; a path pattern may end in `*`
for one more segment or `**` for any rest. -/

namespace Folio.Image

/-- A pattern leaves open the parts that it does not name. -/
structure RemotePattern where
  scheme : Option String := none
  host : Option String := none
  port : Option String := none
  path : Option String := none
  deriving DecidableEq, Repr, Inhabited

structure Policy where
  hosts : List String := []
  patterns : List RemotePattern := []
  deriving DecidableEq, Repr, Inhabited

/-- Equality up to the case of ASCII letters. -/
def sameIgnoringCase (a b : List Char) : Bool :=
  a.map Char.toLower == b.map Char.toLower

/-- What precedes the tail `t` of `s`. -/
def dropSuffix? (t s : List Char) : Option (List Char) :=
  (Text.dropPrefix? t.reverse s.reverse).map List.reverse

/-- Matches a host against a name, or anything against the empty name. -/
def hostIs (name host : List Char) : Bool :=
  name.isEmpty || sameIgnoringCase name host

/-- Matches a host against a pattern that may start with a wildcard. -/
def hostMatches (pattern host : List Char) : Bool :=
  match pattern with
  | '*' :: '*' :: '.' :: domain => host != domain && (dropSuffix? ('.' :: domain) host).isSome
  | '*' :: '.' :: domain =>
    match dropSuffix? ('.' :: domain) host with
    | some labels => (Text.fields (· = '.') labels).length == 1
    | none => false
  | _ => hostIs pattern host

/-- Matches a path against a pattern that may end in a wildcard. -/
def pathMatches (pattern path : List Char) : Bool :=
  match pattern.reverse with
  | [] => true
  | '*' :: '*' :: start =>
    path != (start.dropWhile (· = '/')).reverse && (Text.dropPrefix? start.reverse path).isSome
  | '*' :: start =>
    match Text.dropPrefix? start.reverse path with
    | some segments => (Text.fields (· = '/') segments).length == 1
    | none => false
  | _ => pattern == path

/-- Matches a scheme, which a pattern may write with colons after it. -/
def schemeMatches (pattern scheme : List Char) : Bool :=
  sameIgnoringCase (Text.dropRightWhile (· = ':') pattern) scheme

def portMatches (pattern port : List Char) : Bool :=
  pattern.isEmpty || pattern == port

/-- A part that the pattern leaves open matches anything. -/
def partMatches (test : List Char → List Char → Bool) (pattern : Option String)
    (part : List Char) : Bool :=
  match pattern with
  | none => true
  | some p => test p.toList part

namespace RemotePattern

def accepts (p : RemotePattern) (url : Url) : Bool :=
  partMatches schemeMatches p.scheme url.scheme && partMatches portMatches p.port url.port &&
    partMatches hostMatches p.host url.host && partMatches pathMatches p.path url.path

end RemotePattern

namespace Policy

def accepts (p : Policy) (url : Url) : Bool :=
  p.hosts.any (hostIs ·.toList url.host) || p.patterns.any (·.accepts url)

/-- Whether `src` is an absolute URL that the policy accepts. -/
def allows (p : Policy) (src : String) : Bool :=
  match Url.parse? src.toList with
  | some url => p.accepts url
  | none => false

end Policy

/-- Where an image of the document comes from. -/
inductive Origin
  /-- A path relative to the document. -/
  | relative
  /-- An absolute URL that the policy allows. -/
  | remote
  deriving DecidableEq, Repr

/-- Paths from the root of a site and URLs outside the policy have no origin here. -/
def origin? (policy : Policy) (src : String) : Option Origin :=
  match Url.parse? src.toList with
  | some url => if policy.accepts url then some .remote else none
  | none => if src.toList.head? = some '/' then none else some .relative

end Folio.Image
