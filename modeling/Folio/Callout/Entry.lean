import Folio.Json

/-! What a callout of one kind looks like. -/

namespace Folio.Callout

/-- One color, or one for light and one for dark surroundings. -/
inductive Color
  | single (color : String)
  | pair (light dark : String)
  deriving DecidableEq, Repr, Inhabited

/-- The look of one kind of callout. Fields may be absent, so that an entry also serves as a change
to another one. -/
structure Entry where
  title : Option String := none
  /-- Inline markup in front of the title. -/
  indicator : Option String := none
  color : Option Color := none
  deriving DecidableEq, Repr, Inhabited

/-- The entry `e` with the fields of `patch` put over it. -/
def Entry.patched (e patch : Entry) : Entry where
  title := patch.title <|> e.title
  indicator := patch.indicator <|> e.indicator
  color := patch.color <|> e.color

/-- Entries by kind. -/
abbrev Entries := Table Entry

/-- For each kind the other names it goes by. -/
abbrev Aliases := Table (List String)

/-- For each name that the aliases add to the kinds of `t`, the kind it stands for: the first one that
lists it. -/
def aliasTargets (t : Entries) (aliases : Aliases) : Table String :=
  aliases.foldl (fun targets (kind, names) =>
    if t.contains kind then
      names.foldl (fun targets name =>
        if t.contains name || Table.contains targets name then targets
        else Table.insert targets name kind) targets
    else targets) []

/-- The entries of `t`, and under each name that the aliases add the entry of its kind. -/
def expandAliases (t : Entries) (aliases : Aliases) : Entries :=
  (aliasTargets t aliases).foldl (fun expanded (name, kind) =>
    match t.find? kind with
    | some e => Table.insert expanded name e
    | none => expanded) t

/-- The color as style properties; a neutral gray stands in for none. -/
def styleText (color : Option Color) : String :=
  let (light, dark) := match color with
    | some (.single c) => (c, c)
    | some (.pair l d) => (l, d)
    | none => ("#888", "#888")
  "--callout-color-light: " ++ light ++ "; --callout-color-dark: " ++ dark ++ ";"

def Color.toJson : Color → Json
  | .single c => .string c
  | .pair l d => .strings [l, d]

/-- Absent fields are left out. -/
def Entry.toJson (e : Entry) : Json :=
  .object ((e.title.map fun s => ("title", Json.string s)).toList ++
    (e.indicator.map fun s => ("indicator", Json.string s)).toList ++
    (e.color.map fun c => ("color", c.toJson)).toList)

end Folio.Callout
