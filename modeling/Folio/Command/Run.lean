import Folio.Command.Help
import Folio.Files
import Folio.Processor

/-! Running the commands. Nothing is printed before all that can fail has succeeded. -/

namespace Folio.Command

open Callout (Theme)

/-- What a run leaves behind, besides the files it wrote. -/
structure Outcome where
  exit : Nat := 0
  output : String := ""
  /-- The report of a failure. -/
  report : String := ""
  deriving DecidableEq, Repr

/-- A failure with its causes, the nearest one first. -/
structure Failure where
  message : String
  causes : List String := []
  deriving Repr

namespace Failure

def cause (number : String) (text : String) : String :=
  let indent := "".pushn ' ' (4 + number.length)
  "\n    " ++ number ++ ("\n" ++ indent).intercalate (text.splitOn "\n")

/-- More than one cause are numbered. -/
def report (f : Failure) : String :=
  let causes := match f.causes with
    | [c] => cause "" c
    | cs => "".intercalate (cs.mapIdx fun i c => cause (toString i ++ ": ") c)
  "Error: " ++ f.message ++ if f.causes.isEmpty then "" else "\n\nCaused by:" ++ causes

def invalidSettings (e : SettingsError) : Failure :=
  ⟨"Invalid configuration", [e.message]⟩

end Failure

variable {m : Type → Type} [Monad m]

def attempt {α ε : Type} (describe : ε → Failure) (x : m (Except ε α)) : ExceptT Failure m α :=
  ExceptT.mk do
    match ← x with
    | .ok a => return .ok a
    | .error e => return .error (describe e)

/-- Settings from a file, with the path it has: the named one, or the usual one if it is there. -/
def loadSettings (files : FileAccess m) (path : Option String) :
    ExceptT Failure m (Settings × Option String) := do
  let path ← match path with
    | some path => pure (some path)
    | none => pure (if ← files.present defaultConfig then some defaultConfig else none)
  match path with
  | none => return ({}, none)
  | some path =>
    let failed (causes : List String) : Failure :=
      ⟨"Failed to load configuration from " ++ path, causes⟩
    let text ← attempt (fun e : FileError =>
      failed ["Failed to read config file: " ++ e.message, e.message]) (files.read path)
    let settings ← attempt (fun e : SettingsError =>
      failed [e.message ++ "malformed text", "malformed text"]) (pure (Settings.parse text))
    return (settings, some path)

def withFinalNewline (s : String) : String :=
  if s.endsWith "\n" then s else s ++ "\n"

/-- Renders a file; what it gives is printed, or written to the file `output`. -/
def render (library : Code.Library) (files : FileAccess m) (limit : Nat)
    (config : Option String) (file : String) (output : Option String) (json : Bool)
    (theme : Option Theme) : ExceptT Failure m String := do
  let (settings, _) ← loadSettings files config
  let themed := settings.callouts.map fun o => { o with theme := theme.or o.theme }
  let settings := { settings with callouts := themed }
  let processor ← attempt Failure.invalidSettings (pure (Processor.build library settings none []))
  let source ← attempt (fun e : FileError => ⟨"Failed to read " ++ file, [e.message]⟩)
    (files.read file)
  let rendered ← match processor.renderDocument limit source with
    | some (some r) => pure r
    | some none => throw ⟨Processor.faultyMessage file, []⟩
    | none => throw ⟨"The document takes too many steps", []⟩
  let payload := withFinalNewline
    (if json then rendered.toJson.pretty 0 else rendered.html)
  match output with
  | none => return payload
  | some path =>
    let parent := Route.parentPath path
    if parent ≠ "" then
      attempt (fun e : FileError => ⟨"Failed to create output directory", [e.message]⟩)
        (files.makeDirectory parent)
    attempt (fun e : FileError => ⟨"Failed to write " ++ path, [e.message]⟩)
      (files.write path payload)
    return ""

def colorText : Option Callout.Color → String
  | some (.single c) => c
  | some (.pair light dark) => light ++ " / " ++ dark
  | none => "-"

def entryLine (c : Callout.Config) (kind : String) (e : Callout.Entry) : String :=
  let aliases := (Table.find? c.aliases kind).getD []
  "  " ++ padRight 12 kind ++ " " ++ padRight 12 (e.title.getD (c.theme.fallbackTitle kind)) ++
    " " ++ colorText e.color ++
    (if aliases.isEmpty then "" else "  (aliases: " ++ ", ".intercalate aliases ++ ")") ++ "\n"

def entrySummary (c : Callout.Config) (kind : String) (e : Callout.Entry) : Json :=
  .object [("kind", .string kind), ("title", .optional (e.title.map .string)),
    ("color", .optional (e.color.map Callout.Color.toJson)),
    ("has_indicator", .bool e.indicator.isSome),
    ("aliases", .strings ((Table.find? c.aliases kind).getD []))]

/-- The kinds of callouts of a theme as text or as JSON. -/
def themeListing (c : Callout.Config) (json : Bool) : String :=
  if json then
    (Json.object [("theme", .string c.theme.name),
      ("callouts", .array (c.entries.map fun (kind, e) => entrySummary c kind e))]).pretty 0 ++ "\n"
  else
    "Theme: " ++ c.theme.name ++ " (" ++ toString c.entries.length ++
      " callout types; available: " ++ ", ".intercalate (Theme.all.map Theme.name) ++ ")\n" ++
      "".intercalate (c.entries.map fun (kind, e) => entryLine c kind e)

def themes (files : FileAccess m) (config : Option String) (theme : Option Theme) (json : Bool) :
    ExceptT Failure m String := do
  let (settings, _) ← loadSettings files config
  let o := settings.callouts.getD {}
  return themeListing { o with theme := theme.or o.theme : Callout.Options }.resolve json

def highlightingLabel : Highlighting → String
  | .colored => "Syntect"
  | .classed => "Classed"
  | .off => "None"

def flagText (b : Bool) : String :=
  if b then "true" else "false"

def calloutsLine : Option Callout.Options → String
  | none => "disabled"
  | some o =>
    let c := o.resolve
    let aliases := (c.aliases.flatMap (·.2)).length
    c.theme.name ++ " theme, " ++ toString c.entries.length ++ " types, " ++ toString aliases ++
      " aliases"

/-- Checks the settings and sums them up. -/
def checkConfig (files : FileAccess m) (config : Option String) : ExceptT Failure m String := do
  let (s, path) ← loadSettings files config
  attempt Failure.invalidSettings (pure s.validate)
  return "Configuration OK (" ++ path.getD "defaults" ++ ")\n  syntax highlighting: " ++
    highlightingLabel s.highlighting ++ "\n  gfm: " ++ flagText s.extensions ++
    ", smartypants: " ++ flagText s.smartPunctuation ++ "\n  callouts: " ++
    calloutsLine s.callouts ++ "\n"

def act (library : Code.Library) (files : FileAccess m) (limit : Nat) (config : Option String) :
    Action → ExceptT Failure m String
  | .render file output json theme => render library files limit config file output json theme
  | .themes theme json => themes files config theme json
  | .checkConfig => checkConfig files config

/-- Runs the program. Faulty arguments end it with code 2, a failure with code 1. -/
def run (library : Code.Library) (files : FileAccess m) (limit : Nat) (environment : Option String)
    (arguments : List String) : m Outcome := do
  match request environment arguments with
  | none => return { exit := 2 }
  | some .version => return { output := "inkmark " ++ programVersion ++ "\n" }
  | some (.help l) => return { output := l.helpText environment }
  | some (.act config action) =>
    match ← (act library files limit config action).run with
    | .ok output => return { output }
    | .error f => return { exit := 1, report := f.report }

end Folio.Command
