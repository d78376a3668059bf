import Folio.Table

/-! Access to files. A program that reads and writes files is written over `FileAccess`; `Workspace` gives
it a directory whose whole content is known. -/

namespace Folio

inductive FileError
  | notFound
  | exists
  | notDirectory
  | isDirectory
  | other (text : String)
  deriving DecidableEq, Repr

def FileError.message : FileError → String
  | .notFound => "No such file or directory (os error 2)"
  | .exists => "File exists (os error 17)"
  | .notDirectory => "Not a directory (os error 20)"
  | .isDirectory => "Is a directory (os error 21)"
  | .other text => text

/-- What a program may do with the files around it. -/
structure FileAccess (m : Type → Type) where
  /-- Whether there is a file or a directory at a path. -/
  present : String → m Bool
  read : String → m (Except FileError String)
  /-- Makes a directory, with those it lies in. -/
  makeDirectory : String → m (Except FileError Unit)
  write : String → String → m (Except FileError Unit)

/-- A path from the directory of the workspace: the names on it. -/
abbrev Route := List String

namespace Route

/-- The route to the directory that a route's end lies in; outside the workspace it is all `..`. -/
def up (r : Route) : Route :=
  if r.all (· = "..") then r ++ [".."] else r.dropLast

def step (r : Route) (name : String) : Route :=
  if name = ".." then r.up else r ++ [name]

def names (path : String) : List String :=
  (path.splitOn "/").filter fun n => n ≠ "" ∧ n ≠ "."

def ofPath (path : String) : Route :=
  (names path).foldl step []

/-- The path of the directory that a file lies in. -/
def parentPath (path : String) : String :=
  "/".intercalate (names path).dropLast

end Route

/-- Whether a path can only name a directory. -/
def asksForDirectory (path : String) : Bool :=
  path.endsWith "/" || path.endsWith "/."

/-- The files of a directory and of those below it. -/
structure Workspace where
  files : List (Route × String)
  deriving Repr, Inhabited

namespace Workspace

def ofFiles (files : List (String × String)) : Workspace :=
  ⟨files.map fun (path, text) => (Route.ofPath path, text)⟩

def file? (w : Workspace) (r : Route) : Option String :=
  w.files.lookup r

def isDirectory (w : Workspace) (r : Route) : Bool :=
  r.all (· = "..") || w.files.any fun (f, _) => f ≠ r && r.isPrefixOf f

/-- Goes one name further along a route that exists. -/
def advance (w : Workspace) (r : Route) (name : String) : Except FileError Route :=
  if (w.file? r).isSome then .error .notDirectory
  else if w.isDirectory r then .ok (r.step name)
  else .error .notFound

def present (w : Workspace) (path : String) : Bool :=
  match (Route.names path).foldlM w.advance [] with
  | .ok r => (w.file? r).isSome || w.isDirectory r
  | .error _ => false

def read (w : Workspace) (path : String) : Except FileError String := do
  let r ← (Route.names path).foldlM w.advance []
  match w.file? r with
  | some text => if asksForDirectory path then throw .notDirectory else return text
  | none => throw (if w.isDirectory r then .isDirectory else .notFound)

/-- Whether a directory can be made: no file stands on the way to it. -/
def makeDirectory (w : Workspace) (path : String) : Except FileError Unit :=
  let r := Route.ofPath path
  if (w.file? r).isSome then .error .exists
  else if (List.range r.length).any fun n => (w.file? (r.take n)).isSome then .error .notDirectory
  else .ok ()

def put (w : Workspace) (r : Route) (text : String) : Workspace :=
  ⟨(w.files.filter (·.1 ≠ r)) ++ [(r, text)]⟩

def write (w : Workspace) (path text : String) : Except FileError Workspace :=
  let r := Route.ofPath path
  if w.isDirectory r then .error .isDirectory
  else if asksForDirectory path then
    .error (if (w.file? r).isSome then .notDirectory else .isDirectory)
  else .ok (w.put r text)

/-- The files that are new or have another content than before. -/
def changes (before after : Workspace) : List (String × String) :=
  (after.files.filter fun (r, text) => before.file? r ≠ some text ∧ r.head? ≠ some "..").map
    fun (r, text) => ("/".intercalate r, text)

/-- Access to the files of a workspace as it changes. -/
def access : FileAccess (StateM Workspace) where
  present path := return (← get).present path
  read path := return (← get).read path
  makeDirectory path := return (← get).makeDirectory path
  write path text := do
    match (← get).write path text with
    | .ok w => set w; return .ok ()
    | .error e => return .error e

end Workspace

end Folio
