import Folio.Callout.Theme

/-! The command line: its options and commands, and reading the arguments. Arguments are read from left
to right; the first fault among them, or the first that asks for help, decides. -/

namespace Folio.Command

open Callout (Theme)

inductive Flag
  | config | verbose | output | json | theme | help | version
  deriving DecidableEq, Repr

namespace Flag

def long : Flag → String
  | .config => "config"
  | .verbose => "verbose"
  | .output => "output"
  | .json => "json"
  | .theme => "theme"
  | .help => "help"
  | .version => "version"

def short? : Flag → Option Char
  | .verbose => some 'v'
  | .output => some 'o'
  | .help => some 'h'
  | .version => some 'V'
  | _ => none

def takesValue : Flag → Bool
  | .config | .output | .theme => true
  | _ => false

/-- Whether a value may be given: a path is not empty, and a theme is known. -/
def accepts (f : Flag) (value : String) : Bool :=
  match f with
  | .theme => (Theme.ofString? value).isSome
  | _ => value ≠ ""

end Flag

/-- Where arguments stand: before the command or behind one. -/
inductive Level
  | top | render | themes | checkConfig
  deriving DecidableEq, Repr

namespace Level

def commands : List Level := [.render, .themes, .checkConfig]

def name : Level → String
  | .top => "inkmark"
  | .render => "render"
  | .themes => "themes"
  | .checkConfig => "check-config"

/-- The options that may stand here. -/
def flags : Level → List Flag
  | .top => [.config, .verbose, .help, .version]
  | .render => [.config, .output, .json, .verbose, .theme, .help]
  | .themes => [.config, .theme, .json, .verbose, .help]
  | .checkConfig => [.config, .verbose, .help]

def command? (name : String) : Option Level :=
  commands.find? (·.name == name)

end Level

/-- What has been given at a level. -/
structure Given where
  values : List (Flag × String) := []
  operand : Option String := none
  deriving Repr, Inhabited

/-- Adds an option; none is given twice. -/
def Given.add? (g : Given) (f : Flag) (value : String) : Option Given :=
  if (g.values.lookup f).isSome || f.takesValue && !f.accepts value then none
  else some { g with values := (f, value) :: g.values }

/-- Adds an operand: `render` takes one. -/
def Given.addOperand? (g : Given) (l : Level) (operand : String) : Option Given :=
  if l = .render ∧ g.operand.isNone ∧ operand ≠ "" then some { g with operand := some operand }
  else none

inductive Action
  | render (file : String) (output : Option String) (json : Bool) (theme : Option Theme)
  | themes (theme : Option Theme) (json : Bool)
  | checkConfig
  deriving Repr

/-- What the arguments ask for. -/
inductive Request
  | act (config : Option String) (action : Action)
  | help (level : Level)
  | version
  deriving Repr

/-- How the arguments of a level go on. -/
inductive Reading
  | going (given : Given) (pending : Option Flag)
  | answer (r : Request)

/-- Reads an option that has its value with it, or none. -/
def readFlag? (l : Level) (g : Given) (f : Flag) (value : Option String) : Option Reading :=
  match f, value with
  | .help, none => some (.answer (.help l))
  | .version, none => some (.answer .version)
  | f, some value => if f.takesValue then (g.add? f value).map (.going · none) else none
  | f, none => if f.takesValue then some (.going g (some f)) else (g.add? f "").map (.going · none)

/-- Reads an option by its long name, which a value may follow after an equal sign. -/
def readLong? (l : Level) (g : Given) (text : List Char) : Option Reading := do
  let name := String.ofList (text.takeWhile (· ≠ '='))
  let value := match text.dropWhile (· ≠ '=') with
    | _ :: value => some (String.ofList value)
    | [] => none
  readFlag? l g (← l.flags.find? (·.long == name)) value

/-- Reads options by their letters; what follows a letter that takes a value is its value. -/
def readShort? (l : Level) (g : Given) : List Char → Option Reading
  | [] => some (.going g none)
  | c :: rest =>
    match l.flags.find? (·.short? == some c) with
    | none => none
    | some f =>
      if f.takesValue then
        match rest with
        | [] => readFlag? l g f none
        | '=' :: value => readFlag? l g f (some (.ofList value))
        | value => readFlag? l g f (some (.ofList value))
      else
        match readFlag? l g f none with
        | some (.going g _) => readShort? l g rest
        | r => r

/-- The action of a command, its options and those in front of it. Options behind the command count
first, and the environment last. -/
def request? (environment : Option String) (top g : Given) : Level → Option Request
  | .top => none
  | l =>
    if environment = some "" then none
    else
      let config := (g.values.lookup .config).or ((top.values.lookup .config).or environment)
      let theme := (g.values.lookup .theme).bind Theme.ofString?
      let json := (g.values.lookup .json).isSome
      match l with
      | .render =>
        g.operand.map fun file =>
          .act config (.render file (g.values.lookup .output) json theme)
      | .themes => some (.act config (.themes theme json))
      | _ => some (.act config .checkConfig)

/-- The request for help on a command. -/
def helpRequest? : List String → Option Request
  | [] => some (.help .top)
  | [name] => (Level.command? name).map .help
  | _ => none

/-- Reads arguments; `pending` is an option that waits for its value. -/
def read? (environment : Option String) (top : Given) (l : Level) (g : Given)
    (pending : Option Flag) : List String → Option Request
  | [] => if pending.isSome then none else request? environment top g l
  | a :: rest =>
    match pending, a.toList with
    | some f, s =>
      if s.head? = some '-' ∧ s ≠ ['-'] then none
      else (g.add? f a).bind (read? environment top l · none rest)
    | none, ['-', '-'] =>
      (rest.foldlM (Given.addOperand? · l) g).bind (request? environment top · l)
    | none, s =>
      let reading := match s with
        | '-' :: '-' :: text => readLong? l g text
        | '-' :: c :: text => readShort? l g (c :: text)
        | _ => (g.addOperand? l a).map (.going · none)
      match if l = .top then Level.command? a else none, reading with
      | some command, _ => read? environment g command {} none rest
      | none, some (.answer r) => some r
      | none, some (.going g pending) => read? environment top l g pending rest
      | none, none => if l = .top ∧ a = "help" then helpRequest? rest else none

/-- What the arguments ask for, unless they are faulty. -/
def request (environment : Option String) (arguments : List String) : Option Request :=
  read? environment {} .top {} none arguments

end Folio.Command
