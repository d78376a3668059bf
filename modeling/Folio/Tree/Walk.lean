import Folio.Node.Basic

/-! Walking a tree. A visitor sees the elements in document order and may rewrite each one, keep the
walk out of its content, or put other nodes in its place. The walk holds a stack of cursors, each
naming a sibling list by the indices that lead to it; a visitor that keeps adding content can keep
it going for ever, so a run takes a limit on its steps. -/

namespace Folio

/-- What the walk does after a visit. -/
inductive Visit
  /-- Goes on with the content of the rewritten element. -/
  | enter
  /-- Leaves the content alone. -/
  | skip
  /-- Puts these nodes in place of the element and does not look at them. -/
  | replace (nodes : List Node)

/-- Takes a state and an element to the next state, the rewritten element and an answer. -/
abbrev Visitor (σ : Type) := σ → Element → σ × Element × Visit

structure Cursor where
  path : List Nat
  index : Nat

/-- The sibling list at the end of a path of child indices. -/
def siblingsAt : List Nat → List Node → Option (List Node)
  | [], ns => some ns
  | i :: path, ns =>
    match ns[i]? with
    | some (.element _ _ children) => siblingsAt path children
    | _ => none

/-- Changes the sibling list at the end of a path, if there is one. -/
def mapSiblings (f : List Node → List Node) : List Nat → List Node → List Node
  | [], ns => f ns
  | i :: path, ns =>
    ns.modify i fun
      | .element tag p children => .element tag p (mapSiblings f path children)
      | n => n

def replaceAt (i : Nat) (new : List Node) (ns : List Node) : List Node :=
  ns.take i ++ new ++ ns.drop (i + 1)

/-- A walk under way; the last cursor of the stack comes first. -/
structure Walk (σ : Type) where
  state : σ
  nodes : List Node
  cursors : List Cursor

namespace Walk

variable {σ : Type}

def start (s : σ) (ns : List Node) : Walk σ :=
  ⟨s, ns, [⟨[], 0⟩]⟩

/-- Visits the element at a cursor, with the other cursors below it. -/
def visit (v : Visitor σ) (w : Walk σ) (c : Cursor) (below : List Cursor) (e : Element) : Walk σ :=
  match v w.state e with
  | (s, e', answer) =>
    let put (new : List Node) := mapSiblings (replaceAt c.index new) c.path w.nodes
    match answer with
    | .enter =>
      let next : Cursor := ⟨c.path, c.index + 1⟩
      let inner : List Cursor := if e'.children.isEmpty then [] else [⟨c.path ++ [c.index], 0⟩]
      ⟨s, put [e'.toNode], inner ++ next :: below⟩
    | .skip => ⟨s, put [e'.toNode], ⟨c.path, c.index + 1⟩ :: below⟩
    | .replace new => ⟨s, put new, ⟨c.path, c.index + new.length⟩ :: below⟩

/-- One step, or nothing when no cursor is left. -/
def step (v : Visitor σ) (w : Walk σ) : Option (Walk σ) :=
  match w.cursors with
  | [] => none
  | c :: below =>
    match (siblingsAt c.path w.nodes).bind (·[c.index]?) with
    | none => some { w with cursors := below }
    | some (.element tag p children) => some (w.visit v c below ⟨tag, p, children⟩)
    | some _ => some { w with cursors := ⟨c.path, c.index + 1⟩ :: below }

/-- Runs the walk to its end, if it gets there within `limit` steps. -/
def run (v : Visitor σ) : Nat → Walk σ → Option (σ × List Node)
  | 0, _ => none
  | limit + 1, w =>
    match w.step v with
    | none => some (w.state, w.nodes)
    | some w' => run v limit w'

end Walk

/-- The state and the tree that a visitor leaves behind, if its walk ends within `limit` steps. -/
def walk {σ : Type} (v : Visitor σ) (limit : Nat) (s : σ) (ns : List Node) :
    Option (σ × List Node) :=
  (Walk.start s ns).run v limit

end Folio
