import Folio.Callout.Reading
import Folio.Code.Library
import Folio.Image.Reading

/-! The settings of a processor, read from YAML. -/

namespace Folio

/-- How code blocks are highlighted. -/
inductive Highlighting
  /-- By the colors of a palette. -/
  | colored
  /-- By classes that a style sheet gives colors to. -/
  | classed
  | off
  deriving DecidableEq, Repr, Inhabited

namespace Highlighting

def name : Highlighting → String
  | .colored => "syntect"
  | .classed => "classed"
  | .off => "none"

def named? (name : String) : Option Highlighting :=
  [colored, classed, off].find? (·.name == name)

end Highlighting

structure Settings where
  highlighting : Highlighting := .colored
  palette : String := Code.defaultPalette
  /-- The languages that are not highlighted. -/
  excludedLanguages : List String := ["math"]
  /-- Whether tables, strikethrough, task lists and footnotes are known. -/
  extensions : Bool := true
  smartPunctuation : Bool := true
  /-- Whether slugs keep a hyphen at their end. -/
  keepHyphens : Bool := false
  headingAnchors : Bool := true
  subtext : Bool := true
  /-- Absent if callouts are turned off. -/
  callouts : Option Callout.Options := some {}
  images : Image.Policy := {}
  deriving Inhabited

/-- What can be wrong with settings. -/
inductive SettingsError
  | malformed
  | shadowing (found : Callout.Shadowing)
  deriving Repr

def SettingsError.message : SettingsError → String
  | .malformed => "Failed to parse YAML: "
  | .shadowing a => a.message

namespace Settings

open Yaml (Source Value)

section

variable {β : Type} [Source β]

/-- `false` turns callouts off, and anything else is read leniently. -/
def readCallouts? (t : β) : Option (Option Callout.Options) :=
  (Source.value? t).map fun
    | .bool false => none
    | v => some (.ofValue v)

/-- Palette and excluded languages. -/
def readHighlight? (t : β) : Option (String × List String) := do
  let fields ← Source.fields? t
  let d : Settings := {}
  return (← Yaml.field? fields "theme" d.palette Source.text?,
    ← Yaml.field? fields "exclude_langs" d.excludedLanguages Yaml.texts?)

def readHeadingIds? (t : β) : Option Bool := do
  Yaml.field? (← Source.fields? t) "compat" false Source.flag?

def read? (t : β) : Option Settings := do
  let fields ← Source.fields? t
  let d : Settings := {}
  let (palette, excludedLanguages) ←
    Yaml.field? fields "highlight" (d.palette, d.excludedLanguages) readHighlight?
  return {
    highlighting := ← Yaml.field? fields "syntax_highlight" .colored
      (Yaml.choice? Highlighting.named?)
    palette
    excludedLanguages
    extensions := ← Yaml.field? fields "gfm" true Source.flag?
    smartPunctuation := ← Yaml.field? fields "smartypants" true Source.flag?
    keepHyphens := ← Yaml.field? fields "heading_ids" false readHeadingIds?
    headingAnchors := ← Yaml.field? fields "autolink" true Source.flag?
    subtext := ← Yaml.field? fields "discord_subtext" true Source.flag?
    callouts := ← Yaml.field? fields "callouts" d.callouts readCallouts?
    images := ← Yaml.field? fields "image" {} Image.Policy.read? }

end

/-- Reads settings; a blank text leaves everything at its default. -/
def parse (text : String) : Except SettingsError Settings :=
  if (Text.trim text.toList).isEmpty then .ok {}
  else
    match (Yaml.parse? text).bind read? with
    | some s => .ok s
    | none => .error .malformed

/-- Refuses an alias that shadows a kind of callout. -/
def validate (s : Settings) : Except SettingsError Unit :=
  match s.callouts.bind (·.shadowing?) with
  | some a => .error (.shadowing a)
  | none => .ok ()

def toJson (s : Settings) : Json :=
  .object [("syntax_highlight", .string s.highlighting.name),
    ("highlight", .object [("theme", .string s.palette),
      ("exclude_langs", .strings s.excludedLanguages)]),
    ("gfm", .bool s.extensions), ("smartypants", .bool s.smartPunctuation),
    ("heading_ids", .object [("compat", .bool s.keepHyphens)]),
    ("autolink", .bool s.headingAnchors), ("discord_subtext", .bool s.subtext),
    ("callouts", match s.callouts with
      | some o => o.toJson
      | none => .bool false),
    ("image", s.images.toJson)]

/-- Settings as a YAML value. -/
def toValue (s : Settings) : Value :=
  .ofJson s.toJson

end Settings

end Folio
