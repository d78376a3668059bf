import Folio.Number.Binary64
import Folio.Table

/-! JSON values and their two written forms: one line, and indented by two spaces. -/

namespace Folio

inductive Json
  | null
  | bool (value : Bool)
  | int (value : Int)
  | float (value : Binary64)
  | string (value : String)
  | array (items : List Json)
  | object (fields : List (String × Json))
  deriving Inhabited

namespace Json

/-- An object with its fields in the order of their names, a repeated name keeping the last value. -/
def ofTable (fields : Table Json) : Json :=
  .object fields

def strings (items : List String) : Json :=
  .array (items.map .string)

def optional (item : Option Json) : Json :=
  item.getD .null

def isObject : Json → Bool
  | .object _ => true
  | _ => false

def hexDigit (n : Nat) : Char :=
  Char.ofNat (if n < 10 then 48 + n else 87 + n)

def escapeChar (c : Char) : List Char :=
  if c = '"' then ['\\', '"']
  else if c = '\\' then ['\\', '\\']
  else if c = '\n' then ['\\', 'n']
  else if c = '\r' then ['\\', 'r']
  else if c = '\t' then ['\\', 't']
  else if c = '\x08' then ['\\', 'b']
  else if c = '\x0c' then ['\\', 'f']
  else if c.toNat < 0x20 then
    ['\\', 'u', '0', '0', hexDigit (c.toNat / 16), hexDigit (c.toNat % 16)]
  else [c]

def quote (s : String) : String :=
  "\"" ++ .ofList (s.toList.flatMap escapeChar) ++ "\""

def floatText (x : Binary64) : String :=
  if x.isFinite then x.text else "null"

mutual

/-- The value on one line, without blanks. -/
def compact : Json → String
  | .null => "null"
  | .bool b => if b then "true" else "false"
  | .int n => toString n
  | .float x => floatText x
  | .string s => quote s
  | .array items => "[" ++ compactItems items ++ "]"
  | .object fields => "\x7b" ++ compactFields fields ++ "\x7d"

def compactItems : List Json → String
  | [] => ""
  | [v] => compact v
  | v :: vs => compact v ++ "," ++ compactItems vs

def compactFields : List (String × Json) → String
  | [] => ""
  | [(k, v)] => quote k ++ ":" ++ compact v
  | (k, v) :: rest => quote k ++ ":" ++ compact v ++ "," ++ compactFields rest

end

def newline (depth : Nat) : String :=
  "\n" ++ .ofList (List.replicate (2 * depth) ' ')

mutual

/-- The value over several lines, each level indented by two more spaces. -/
def pretty (depth : Nat) : Json → String
  | .array (v :: vs) => "[" ++ prettyItems (depth + 1) (v :: vs) ++ newline depth ++ "]"
  | .object (f :: fs) =>
    "\x7b" ++ prettyFields (depth + 1) (f :: fs) ++ newline depth ++ "\x7d"
  | .null => "null"
  | .bool b => if b then "true" else "false"
  | .int n => toString n
  | .float x => floatText x
  | .string s => quote s
  | .array [] => "[]"
  | .object [] => "\x7b\x7d"

def prettyItems (depth : Nat) : List Json → String
  | [] => ""
  | [v] => newline depth ++ pretty depth v
  | v :: vs => newline depth ++ pretty depth v ++ "," ++ prettyItems depth vs

def prettyFields (depth : Nat) : List (String × Json) → String
  | [] => ""
  | [(k, v)] => newline depth ++ quote k ++ ": " ++ pretty depth v
  | (k, v) :: rest =>
    newline depth ++ quote k ++ ": " ++ pretty depth v ++ "," ++ prettyFields depth rest

end

end Json

end Folio
