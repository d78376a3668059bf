import Folio.Callout.Theme

/-! Options for callouts, and the configuration they stand for over a theme. -/

namespace Folio.Callout

/-- The tags of the parts of a callout. -/
structure TagNames where
  container : String := "div"
  title : String := "div"
  content : String := "div"
  foldedContent : String := "div"
  icon : String := "div"
  titleInner : String := "div"
  deriving DecidableEq, Repr, Inhabited

/-- Options as written; what is left out is decided by the theme or by default. -/
structure Options where
  theme : Option Theme := none
  entries : Entries := []
  aliases : Aliases := []
  showIndicator : Option Bool := none
  tagNames : Option TagNames := none
  deriving Repr, Inhabited

/-- An alias that is also the name of a kind. -/
structure Shadowing where
  name : String
  kind : String
  deriving DecidableEq, Repr

def Shadowing.message (s : Shadowing) : String :=
  "Alias `" ++ s.name ++ "` shadows the callout type `" ++ s.kind ++ "`"

namespace Options

/-- The kinds that the options know, in lower case. -/
def knows (o : Options) (kind : String) : Bool :=
  (o.theme.getD default).entries.contains kind ||
    o.entries.keys.any fun k => lowerCase k == kind

/-- The first alias that shadows a kind, by kind and then as listed. -/
def shadowing? (o : Options) : Option Shadowing :=
  o.aliases.findSome? fun (kind, names) =>
    (names.find? fun name => o.knows (lowerCase name)).map fun name =>
      ⟨lowerCase name, lowerCase kind⟩

end Options

/-- Complete configuration of callouts; all kinds and aliases are in lower case. -/
structure Config where
  theme : Theme := default
  entries : Entries := Theme.entries default
  aliases : Aliases := []
  showIndicator : Bool := true
  tagNames : TagNames := {}
  deriving Repr, Inhabited

/-- Puts one entry over those of a table, field by field. -/
def patchEntry (t : Entries) (kind : String) (patch : Entry) : Entries :=
  match t.find? kind with
  | some e => t.insert kind (e.patched patch)
  | none => t.insert kind patch

/-- Lists `name` under `kind` once, unless it is a kind itself. -/
def addAlias (t : Entries) (aliases : Aliases) (kind name : String) : Aliases :=
  if t.contains name then aliases
  else
    let names := (Table.find? aliases kind).getD []
    if names.contains name then aliases else Table.insert aliases kind (names ++ [name])

namespace Options

def resolvedEntries (o : Options) : Entries :=
  o.entries.foldl (fun t (kind, patch) => patchEntry t (lowerCase kind) patch)
    (o.theme.getD default).entries

def resolvedAliases (o : Options) : Aliases :=
  o.aliases.foldl (fun aliases (kind, names) =>
    names.foldl (fun aliases name =>
      addAlias o.resolvedEntries aliases (lowerCase kind) (lowerCase name)) aliases) []

/-- The theme with the options put over it. -/
def resolve (o : Options) : Config where
  theme := o.theme.getD default
  entries := o.resolvedEntries
  aliases := o.resolvedAliases
  showIndicator := o.showIndicator.getD true
  tagNames := o.tagNames.getD {}

end Options

namespace Config

/-- The entries with every alias as a key of its own. -/
def allEntries (c : Config) : Entries :=
  expandAliases c.entries c.aliases

end Config

def TagNames.toJson (t : TagNames) : Json :=
  .object [("non_collapsible_container", .string t.container),
    ("non_collapsible_title", .string t.title), ("non_collapsible_content", .string t.content),
    ("collapsible_content", .string t.foldedContent), ("icon", .string t.icon),
    ("title_inner", .string t.titleInner)]

def entriesToJson (t : Entries) : Json :=
  .ofTable (t.map fun (kind, e) => (kind, e.toJson))

def aliasesToJson (aliases : Aliases) : Json :=
  .ofTable (aliases.map fun (kind, names) => (kind, Json.strings names))

def Options.toJson (o : Options) : Json :=
  .object [("theme", .optional (o.theme.map fun t => .string t.name)),
    ("callouts", entriesToJson o.entries), ("aliases", aliasesToJson o.aliases),
    ("show_indicator", .optional (o.showIndicator.map .bool)),
    ("tag_names", .optional (o.tagNames.map TagNames.toJson))]

end Folio.Callout
