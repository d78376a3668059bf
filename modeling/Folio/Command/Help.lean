import Folio.Command.Arguments

/-! The help screens. -/

namespace Folio.Command

def programVersion : String := "0.1.0"

def defaultConfig : String := "inkmark.yml"

def configVariable : String := "INKMARK_CONFIG"

/-- Fills lines with words, none longer than `width` unless it is one word. -/
def fillLines (width : Nat) (line : String) : List String → List String
  | [] => [line]
  | w :: ws =>
    if line.length + 1 + w.length ≤ width then fillLines width (line ++ " " ++ w) ws
    else line :: fillLines width w ws

def wrapped (width indent : Nat) (text : String) : String :=
  match text.splitOn " " with
  | [] => ""
  | w :: ws =>
    ("\n" ++ "".pushn ' ' indent).intercalate (fillLines (width - indent) w ws)

def padRight (n : Nat) (s : String) : String :=
  s.pushn ' ' (n - s.length)

namespace Flag

def label (f : Flag) : String :=
  let short := match f.short? with
    | some c => "-" ++ c.toString ++ ", "
    | none => "    "
  let value := match f with
    | .config => " <CONFIG>"
    | .output => " <OUTPUT>"
    | .theme => " <THEME>"
    | _ => ""
  short ++ "--" ++ f.long ++ value

def description (l : Level) (environment : Option String) : Flag → String
  | .config =>
    "Path to configuration file (" ++ defaultConfig ++ " is used when present) [env: " ++
      configVariable ++ "=" ++ environment.getD "" ++ "]"
  | .verbose => "Enable verbose logging"
  | .output => "Write the output here instead of stdout"
  | .json => if l = .render then "Emit HTML and metadata as JSON" else "Emit JSON instead of text"
  | .theme =>
    if l = .render then "Callout theme, overriding the configuration"
    else "Theme to list (defaults to the configured one)"
  | .help => "Print help"
  | .version => "Print version"

end Flag

namespace Level

def description : Level → String
  | .top => "CLI for the inkmark Markdown renderer"
  | .render => "Render a Markdown file to HTML"
  | .themes => "List the callout types of a theme"
  | .checkConfig => "Load and validate the configuration file"

def usage : Level → String
  | .top => "inkmark [OPTIONS] <COMMAND>"
  | .render => "inkmark render [OPTIONS] <FILE>"
  | .themes => "inkmark themes [OPTIONS]"
  | .checkConfig => "inkmark check-config [OPTIONS]"

/-- The list between usage and options: the commands, or the operands of one. -/
def listing : Level → String
  | .top =>
    let line (name text : String) := "  " ++ padRight 14 name ++ text ++ "\n"
    "Commands:\n" ++ "".intercalate (commands.map fun l => line l.name l.description) ++
      line "help" "Print this message or the help of the given subcommand(s)" ++ "\n"
  | .render => "Arguments:\n  <FILE>  Markdown file to render\n\n"
  | _ => ""

def optionLine (environment : Option String) (l : Level) (f : Flag) : String :=
  let width := (l.flags.map (·.label.length)).foldl max 0 + 2
  "  " ++ padRight width f.label ++ wrapped 100 (width + 2) (f.description l environment) ++ "\n"

def helpText (environment : Option String) (l : Level) : String :=
  l.description ++ "\n\nUsage: " ++ l.usage ++ "\n\n" ++ l.listing ++ "Options:\n" ++
    "".intercalate (l.flags.map (optionLine environment l))

end Level

end Folio.Command
