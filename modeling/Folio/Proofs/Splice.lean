import Mathlib.Data.List.Basic
import Folio.Tree.Walk

/-! Reading and rewriting the sibling list at the end of a path. A path whose nodes before it keep
their places still leads to the same list after any change at its end. -/

namespace Folio

def setSiblings (l : List Node) (path : List Nat) (ns : List Node) : List Node :=
  mapSiblings (fun _ => l) path ns

theorem siblingsAt_append (p q : List Nat) (ns : List Node) :
    siblingsAt (p ++ q) ns = (siblingsAt p ns).bind (siblingsAt q) := by
  induction p generalizing ns with
  | nil => rfl
  | cons i p ih =>
    rw [List.cons_append, siblingsAt, siblingsAt]
    split
    · exact ih _
    · rfl

theorem mapSiblings_append (f : List Node → List Node) (p q : List Nat) (ns : List Node) :
    mapSiblings f (p ++ q) ns = mapSiblings (mapSiblings f q) p ns := by
  induction p generalizing ns with
  | nil => rfl
  | cons i p ih =>
    rw [List.cons_append, mapSiblings, mapSiblings]
    congr 1
    funext n
    cases n with
    | text s => rfl
    | raw s => rfl
    | element tag a children => exact congrArg (Node.element tag a) (ih children)

theorem siblingsAt_mapSiblings {path : List Nat} {ns l : List Node}
    (f : List Node → List Node) (h : siblingsAt path ns = some l) :
    siblingsAt path (mapSiblings f path ns) = some (f l) := by
  induction path generalizing ns with
  | nil =>
    obtain rfl : ns = l := by simpa [siblingsAt] using h
    rfl
  | cons i p ih =>
    rw [siblingsAt] at h
    split at h
    · rename_i tag a children hi
      simpa [siblingsAt, mapSiblings, hi] using ih h
    · simp at h

theorem mapSiblings_mapSiblings (f g : List Node → List Node) (path : List Nat)
    (ns : List Node) :
    mapSiblings g path (mapSiblings f path ns) = mapSiblings (fun l => g (f l)) path ns := by
  induction path generalizing ns with
  | nil => rfl
  | cons i p ih =>
    rw [mapSiblings, mapSiblings, mapSiblings, List.modify_modify_eq]
    congr 1
    funext n
    cases n with
    | text s => rfl
    | raw s => rfl
    | element tag a children => exact congrArg (Node.element tag a) (ih children)

/-- Only what a change does to the list at the end of the path counts. -/
theorem mapSiblings_congr {f g : List Node → List Node} {path : List Nat} {ns l : List Node}
    (h : siblingsAt path ns = some l) (he : f l = g l) :
    mapSiblings f path ns = mapSiblings g path ns := by
  induction path generalizing ns with
  | nil =>
    obtain rfl : ns = l := by simpa [siblingsAt] using h
    exact he
  | cons i p ih =>
    rw [siblingsAt] at h
    split at h
    · rename_i tag a children hi
      apply List.ext_getElem?
      intro j
      by_cases hj : i = j
      · subst hj
        simp [mapSiblings, hi, ih h]
      · simp [mapSiblings, hj]
    · simp at h

theorem mapSiblings_eq_setSiblings {f : List Node → List Node} {path : List Nat}
    {ns l : List Node} (h : siblingsAt path ns = some l) :
    mapSiblings f path ns = setSiblings (f l) path ns :=
  mapSiblings_congr h rfl

theorem siblingsAt_setSiblings {path : List Nat} {ns l : List Node} (l' : List Node)
    (h : siblingsAt path ns = some l) : siblingsAt path (setSiblings l' path ns) = some l' :=
  siblingsAt_mapSiblings (fun _ => l') h

theorem setSiblings_setSiblings (l l' : List Node) (path : List Nat) (ns : List Node) :
    setSiblings l' path (setSiblings l path ns) = setSiblings l' path ns :=
  mapSiblings_mapSiblings _ _ path ns

theorem setSiblings_self {path : List Nat} {ns l : List Node}
    (h : siblingsAt path ns = some l) : setSiblings l path ns = ns := by
  induction path generalizing ns with
  | nil => simpa [siblingsAt, setSiblings, mapSiblings, eq_comm] using h
  | cons i p ih =>
    rw [siblingsAt] at h
    split at h
    · rename_i tag a children hi
      apply List.ext_getElem?
      intro j
      by_cases hj : i = j
      · subst hj
        simpa [setSiblings, mapSiblings, hi] using ih h
      · simp [setSiblings, mapSiblings, hj]
    · simp at h

theorem siblingsAt_child {path : List Nat} {ns pre rest children : List Node} {tag : String}
    {p : Properties} (h : siblingsAt path ns = some (pre ++ .element tag p children :: rest)) :
    siblingsAt (path ++ [pre.length]) ns = some children := by
  simp [siblingsAt_append, h, siblingsAt]

theorem setSiblings_child {path : List Nat} {ns pre rest children : List Node} {tag : String}
    {p : Properties} (inner : List Node)
    (h : siblingsAt path ns = some (pre ++ .element tag p children :: rest)) :
    setSiblings inner (path ++ [pre.length]) ns =
      setSiblings (pre ++ .element tag p inner :: rest) path ns := by
  rw [setSiblings, mapSiblings_append, mapSiblings_eq_setSiblings h]
  simp [mapSiblings, List.modify_eq_take_cons_drop]

theorem replaceAt_length (pre new rest : List Node) (n : Node) :
    replaceAt pre.length new (pre ++ n :: rest) = pre ++ new ++ rest := by
  simp [replaceAt]

end Folio
