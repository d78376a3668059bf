import Folio.Callout.Entry
import Folio.Callout.Icon
import Folio.Text.Casing

/-! The built-in callout themes. -/

namespace Folio.Callout

inductive Theme
  | github
  | obsidian
  | vitepress
  deriving DecidableEq, Repr

instance : Inhabited Theme := ⟨.obsidian⟩

namespace Theme

def all : List Theme := [.github, .obsidian, .vitepress]

def name : Theme → String
  | .github => "github"
  | .obsidian => "obsidian"
  | .vitepress => "vitepress"

/-- The theme with exactly this name. -/
def named? (name : String) : Option Theme :=
  all.find? (·.name == name)

/-- The theme with this name in any case. -/
def ofString? (s : String) : Option Theme :=
  named? (.ofList (s.toList.map Char.toLower))

/-- What is said about a name that no theme has. -/
def unknownMessage (s : String) : String :=
  "unknown theme '" ++ .ofList (s.toList.map Char.toLower) ++
    "' (expected github, obsidian or vitepress)"

end Theme

def capitalized (kind : String) : String :=
  .ofList (Text.capitalize kind.toList)

def upperCase (kind : String) : String :=
  .ofList (Text.upper kind.toList)

def lowerCase (kind : String) : String :=
  .ofList (Text.lower kind.toList)

def githubEntries : Entries := .ofEntries [
  ("note", ⟨some "Note", some Icon.infoDisc,
    some (.pair "rgb(9, 105, 218)" "rgb(47, 129, 247)")⟩),
  ("tip", ⟨some "Tip", some Icon.lightBulb,
    some (.pair "rgb(26, 127, 55)" "rgb(63, 185, 80)")⟩),
  ("important", ⟨some "Important", some Icon.report,
    some (.pair "rgb(130, 80, 223)" "rgb(163, 113, 247)")⟩),
  ("warning", ⟨some "Warning", some Icon.alert,
    some (.pair "rgb(154, 103, 0)" "rgb(210, 153, 34)")⟩),
  ("caution", ⟨some "Caution", some Icon.stop,
    some (.pair "rgb(209, 36, 47)" "rgb(248, 81, 73)")⟩)]

def blue : Color := .pair "rgb(8, 109, 221)" "rgb(2, 122, 255)"
def teal : Color := .pair "rgb(0, 191, 188)" "rgb(83, 223, 221)"
def orange : Color := .pair "rgb(236, 117, 0)" "rgb(233, 151, 63)"
def green : Color := .pair "rgb(8, 185, 78)" "rgb(68, 207, 110)"
def red : Color := .pair "rgb(233, 49, 71)" "rgb(251, 70, 76)"
def purple : Color := .pair "rgb(120, 82, 238)" "rgb(168, 130, 255)"
def gray : Color := .single "rgb(158, 158, 158)"

/-- Kinds that share an icon and a color. -/
def obsidianGroups : List (List String × String × Color) := [
  (["note"], Icon.pencil, blue),
  (["abstract", "summary", "tldr"], Icon.clipboard, teal),
  (["info"], Icon.infoCircle, blue),
  (["todo"], Icon.checkCircle, blue),
  (["tip", "hint", "important"], Icon.flame, teal),
  (["success", "check", "done"], Icon.check, green),
  (["question", "help", "faq"], Icon.help, orange),
  (["warning", "attention", "caution"], Icon.triangle, orange),
  (["failure", "missing", "fail"], Icon.cross, red),
  (["danger", "error"], Icon.bolt, red),
  (["bug"], Icon.bug, red),
  (["example"], Icon.list, purple),
  (["quote", "cite"], Icon.quotes, gray)]

def obsidianEntries : Entries :=
  .ofEntries (obsidianGroups.flatMap fun (kinds, icon, color) =>
    kinds.map fun kind => (kind, ⟨some (capitalized kind), some icon, some color⟩))

def vitepressEntries : Entries :=
  .ofEntries (["info", "note", "tip", "important", "warning", "danger", "caution", "details"].map
    fun kind => (kind, { title := some (upperCase kind) }))

namespace Theme

def entries : Theme → Entries
  | .github => githubEntries
  | .obsidian => obsidianEntries
  | .vitepress => vitepressEntries

/-- The title of a callout that neither its text nor its entry gives one. -/
def fallbackTitle : Theme → String → String
  | .vitepress, kind => upperCase kind
  | _, kind => capitalized kind

end Theme

end Folio.Callout
