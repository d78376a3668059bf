import Mathlib.Data.List.Basic
import Folio.Node.Basic

/-! The content of a tree: how much of it there is, and which elements stand in it at any depth. -/

namespace Folio

mutual

def Node.size : Node → Nat
  | .text s => s.toList.length
  | .raw _ => 0
  | .element _ _ children => sizes children + 1

def sizes : List Node → Nat
  | [] => 0
  | n :: ns => n.size + sizes ns

end

def Element.size (e : Element) : Nat :=
  sizes e.children + 1

@[elab_as_elim]
theorem nodes_induction {motive : List Node → Prop} (nil : motive [])
    (text : ∀ s ns, motive ns → motive (.text s :: ns))
    (raw : ∀ s ns, motive ns → motive (.raw s :: ns))
    (element : ∀ tag p children ns, motive children → motive ns →
      motive (.element tag p children :: ns)) : ∀ ns, motive ns
  | [] => nil
  | .text s :: ns => text s ns (nodes_induction nil text raw element ns)
  | .raw s :: ns => raw s ns (nodes_induction nil text raw element ns)
  | .element tag p children :: ns =>
    element tag p children ns (nodes_induction nil text raw element children)
      (nodes_induction nil text raw element ns)

/-- An element at any depth of a sibling list. -/
inductive Within (e : Element) : List Node → Prop
  | here {ns : List Node} (h : e.toNode ∈ ns) : Within e ns
  | inside {d : Element} {ns : List Node} (hd : d.toNode ∈ ns) (h : Within e d.children) :
      Within e ns

mutual

def Node.decEq : (a b : Node) → Decidable (a = b)
  | .text s, .text t => decidable_of_iff (s = t) (by simp)
  | .raw s, .raw t => decidable_of_iff (s = t) (by simp)
  | .element tag p children, .element tag' p' children' =>
    match nodesDecEq children children' with
    | isTrue h => decidable_of_iff (tag = tag' ∧ p = p') (by simp [h])
    | isFalse h => isFalse (by simp [h])
  | .text _, .raw _ => isFalse nofun
  | .text _, .element .. => isFalse nofun
  | .raw _, .text _ => isFalse nofun
  | .raw _, .element .. => isFalse nofun
  | .element .., .text _ => isFalse nofun
  | .element .., .raw _ => isFalse nofun

def nodesDecEq : (ns ms : List Node) → Decidable (ns = ms)
  | [], [] => isTrue rfl
  | [], _ :: _ => isFalse nofun
  | _ :: _, [] => isFalse nofun
  | n :: ns, m :: ms =>
    match n.decEq m, nodesDecEq ns ms with
    | isTrue h, isTrue h' => isTrue (by rw [h, h'])
    | isFalse h, _ => isFalse (by simp [h])
    | _, isFalse h => isFalse (by simp [h])

end

instance : DecidableEq Node := Node.decEq

theorem toNode_inj {d e : Element} : d.toNode = e.toNode ↔ d = e := by
  cases d
  cases e
  simp [Element.toNode]

@[simp] theorem size_toNode (e : Element) : e.toNode.size = e.size := by
  simp [Element.toNode, Node.size, Element.size]

theorem sizes_append (ns ms : List Node) : sizes (ns ++ ms) = sizes ns + sizes ms := by
  induction ns with
  | nil => simp [sizes]
  | cons n ns ih => simp only [List.cons_append, sizes, ih]; omega

theorem size_le_of_mem {n : Node} {ns : List Node} (h : n ∈ ns) : n.size ≤ sizes ns := by
  induction ns with
  | nil => simp at h
  | cons m ns ih =>
    simp only [sizes]
    rcases List.mem_cons.mp h with rfl | h
    · omega
    · have := ih h
      omega

theorem size_lt_of_mem_children {d e : Element} (h : d.toNode ∈ e.children) : d.size < e.size := by
  have := size_le_of_mem h
  rw [size_toNode] at this
  simp only [Element.size] at this ⊢
  omega

theorem sizes_le_of_sublist {ns ms : List Node} (h : ns.Sublist ms) : sizes ns ≤ sizes ms := by
  induction h with
  | slnil => exact Nat.le_refl _
  | cons n _ ih => simp only [sizes]; omega
  | cons_cons n _ ih => simp only [sizes]; omega

theorem Within.append_left {e : Element} {ns : List Node} (h : Within e ns) (ms : List Node) :
    Within e (ms ++ ns) := by
  cases h with
  | here h => exact .here (List.mem_append_right ms h)
  | inside hd h => exact .inside (List.mem_append_right ms hd) h

theorem within_nil {e : Element} : ¬ Within e [] := by
  rintro (h | ⟨hd, -⟩)
  · simp at h
  · simp at hd

theorem within_append {e : Element} {ns ms : List Node} :
    Within e (ns ++ ms) ↔ Within e ns ∨ Within e ms := by
  constructor
  · rintro (h | ⟨hd, h⟩)
    · exact (List.mem_append.mp h).imp .here .here
    · exact (List.mem_append.mp hd).imp (.inside · h) (.inside · h)
  · rintro (h | h)
    · cases h with
      | here h => exact .here (List.mem_append_left ms h)
      | inside hd h => exact .inside (List.mem_append_left ms hd) h
    · exact h.append_left ns

theorem within_element {e d : Element} :
    Within e [d.toNode] ↔ e = d ∨ Within e d.children := by
  constructor
  · rintro (h | ⟨hd, h⟩)
    · exact .inl (toNode_inj.mp (List.mem_singleton.mp h))
    · exact .inr (toNode_inj.mp (List.mem_singleton.mp hd) ▸ h)
  · rintro (rfl | h)
    · exact .here (List.mem_singleton.mpr rfl)
    · exact .inside (List.mem_singleton.mpr rfl) h

theorem within_cons {e : Element} {n : Node} {ns : List Node} :
    Within e (n :: ns) ↔ Within e [n] ∨ Within e ns := by
  rw [← List.singleton_append]
  exact within_append

theorem forall_within_cons {P : Element → Prop} {n : Node} {ns : List Node} :
    (∀ e, Within e (n :: ns) → P e) ↔
      (∀ e, Within e [n] → P e) ∧ ∀ e, Within e ns → P e := by
  constructor
  · intro h
    exact ⟨fun e he => h e (within_cons.mpr (.inl he)), fun e he => h e (within_cons.mpr (.inr he))⟩
  · rintro ⟨hn, hns⟩ e he
    exact (within_cons.mp he).elim (hn e) (hns e)

theorem forall_within_element {P : Element → Prop} {d : Element} :
    (∀ e, Within e [d.toNode] → P e) ↔ P d ∧ ∀ e, Within e d.children → P e := by
  constructor
  · intro h
    exact ⟨h d (within_element.mpr (.inl rfl)), fun e he => h e (within_element.mpr (.inr he))⟩
  · rintro ⟨hd, hc⟩ e he
    rcases within_element.mp he with rfl | he
    · exact hd
    · exact hc e he

theorem not_within_text {e : Element} {s : String} : ¬ Within e [.text s] := by
  rintro (h | ⟨hd, -⟩)
  · simp [Element.toNode] at h
  · simp [Element.toNode] at hd

theorem not_within_raw {e : Element} {s : String} : ¬ Within e [.raw s] := by
  rintro (h | ⟨hd, -⟩)
  · simp [Element.toNode] at h
  · simp [Element.toNode] at hd

mutual

def Node.holds (tag : String) : Node → Bool
  | .element t _ children => t == tag || holds tag children
  | _ => false

def holds (tag : String) : List Node → Bool
  | [] => false
  | n :: ns => n.holds tag || holds tag ns

end

theorem holds_of_within {e : Element} {ns : List Node} (h : Within e ns) :
    holds e.tag ns = true := by
  have hmem : ∀ {d : Element} {ns : List Node}, d.toNode ∈ ns →
      d.toNode.holds e.tag = true → holds e.tag ns = true := by
    intro d ns hd hh
    induction ns with
    | nil => simp at hd
    | cons n ns ih =>
      simp only [holds, Bool.or_eq_true]
      rcases List.mem_cons.mp hd with rfl | hd
      · exact .inl hh
      · exact .inr (ih hd)
  induction h with
  | here h => exact hmem h (by simp [Element.toNode, Node.holds])
  | inside hd _ ih => exact hmem hd (by simp [Element.toNode, Node.holds, ih])

def Without (tag : String) (ns : List Node) : Prop :=
  ∀ e, Within e ns → e.tag ≠ tag

theorem without_of_holds {tag : String} {ns : List Node} (h : holds tag ns = false) :
    Without tag ns := by
  rintro e he rfl
  rw [holds_of_within he] at h
  cases h

theorem without_cons {tag : String} {n : Node} {ns : List Node} :
    Without tag (n :: ns) ↔ Without tag [n] ∧ Without tag ns :=
  forall_within_cons

theorem without_append {tag : String} {ns ms : List Node} (hn : Without tag ns)
    (hm : Without tag ms) : Without tag (ns ++ ms) :=
  fun e he => (within_append.mp he).elim (hn e) (hm e)

theorem without_element {tag : String} {d : Element} (hd : d.tag ≠ tag)
    (h : Without tag d.children) : Without tag [d.toNode] :=
  forall_within_element.mpr ⟨hd, h⟩

mutual

def Node.elements : Node → List Element
  | .element tag p children => ⟨tag, p, children⟩ :: elements children
  | _ => []

/-- The elements at any depth, in document order. -/
def elements : List Node → List Element
  | [] => []
  | n :: ns => n.elements ++ elements ns

end

theorem mem_elements_iff {e : Element} {ns : List Node} : e ∈ elements ns ↔ Within e ns := by
  induction ns using nodes_induction with
  | nil => simp [elements, within_nil]
  | text s ns ih =>
    rw [within_cons, ← ih]
    simp [elements, Node.elements, not_within_text]
  | raw s ns ih =>
    rw [within_cons, ← ih]
    simp [elements, Node.elements, not_within_raw]
  | element tag p children ns ihi ih =>
    have hhead : Within e [.element tag p children] ↔ e = ⟨tag, p, children⟩ ∨ Within e children :=
      within_element (d := ⟨tag, p, children⟩)
    rw [within_cons, hhead, ← ihi, ← ih, elements, Node.elements]
    simp [or_assoc]

instance (tag : String) (ns : List Node) : Decidable (Without tag ns) :=
  decidable_of_iff (∀ e ∈ elements ns, e.tag ≠ tag) (by simp only [Without, mem_elements_iff])

end Folio
