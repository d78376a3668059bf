import Folio.Proofs.Content
import Folio.Proofs.Traversal

/-! Traversal in document order as a recursive function, for visitors that enter only content of a
smaller measure than the element they were shown. -/

namespace Folio

variable {σ : Type}

/-- Whatever the visitor does to an element that it enters, the elements directly inside have a
smaller measure than the element had. -/
def Descends (v : Visitor σ) (μ : Element → Nat) : Prop :=
  ∀ s e s' e', v s e = (s', e', .enter) → ∀ d : Element, d.toNode ∈ e'.children → μ d < μ e

def measureBound (μ : Element → Nat) : List Node → Nat
  | [] => 0
  | .element tag p children :: ns => max (μ ⟨tag, p, children⟩ + 1) (measureBound μ ns)
  | _ :: ns => measureBound μ ns

theorem measureBound_le {μ : Element → Nat} {ns : List Node} {b : Nat}
    (h : ∀ d : Element, d.toNode ∈ ns → μ d < b) : measureBound μ ns ≤ b := by
  induction ns with
  | nil => exact Nat.zero_le b
  | cons n ns ih =>
    have hr := ih fun d hd => h d (List.mem_cons_of_mem n hd)
    cases n with
    | text t => exact hr
    | raw t => exact hr
    | element tag p children =>
      have hd := h ⟨tag, p, children⟩ List.mem_cons_self
      simp only [measureBound]
      omega

theorem measureBound_tail_le (μ : Element → Nat) (n : Node) (ns : List Node) :
    measureBound μ ns ≤ measureBound μ (n :: ns) := by
  cases n with
  | text t => exact Nat.le_refl _
  | raw t => exact Nat.le_refl _
  | element tag p children => exact Nat.le_max_right _ _

/-- The state and the nodes after a traversal of a sibling list. Texts and markup are kept. An
entered element is kept as rewritten around its traversed content, a skipped one as rewritten, and
for a replaced one the new nodes stand as they are; then come the siblings that followed. -/
def preorder (v : Visitor σ) {μ : Element → Nat} (h : Descends v μ) (s : σ) :
    List Node → σ × List Node
  | [] => (s, [])
  | .text t :: ns =>
    let after := preorder v h s ns
    (after.1, .text t :: after.2)
  | .raw t :: ns =>
    let after := preorder v h s ns
    (after.1, .raw t :: after.2)
  | .element tag p children :: ns =>
    match _hv : v s ⟨tag, p, children⟩ with
    | (s₁, e, .enter) =>
      let inner := preorder v h s₁ e.children
      let after := preorder v h inner.1 ns
      (after.1, .element e.tag e.properties inner.2 :: after.2)
    | (s₁, e, .skip) =>
      let after := preorder v h s₁ ns
      (after.1, e.toNode :: after.2)
    | (s₁, _, .replace new) =>
      let after := preorder v h s₁ ns
      (after.1, new ++ after.2)
termination_by ns => (measureBound μ ns, ns.length)
decreasing_by
  · exact Prod.Lex.right' _ (measureBound_tail_le μ _ ns) (Nat.lt_succ_self _)
  · exact Prod.Lex.right' _ (measureBound_tail_le μ _ ns) (Nat.lt_succ_self _)
  · exact .left _ _ (Nat.lt_of_le_of_lt (measureBound_le (h _ _ _ _ _hv))
      (Nat.lt_of_lt_of_le (Nat.lt_succ_self _) (Nat.le_max_left _ _)))
  all_goals exact Prod.Lex.right' _ (measureBound_tail_le μ _ ns) (Nat.lt_succ_self _)

theorem traversal_preorder {v : Visitor σ} {μ : Element → Nat} (h : Descends v μ) (s : σ)
    (ns : List Node) : Traversal v s ns (preorder v h s ns).1 (preorder v h s ns).2 := by
  fun_induction preorder v h s ns with
  | case1 s => exact .nil s
  | case2 s t ns after ih => exact .pass (.text t) ih
  | case3 s t ns after ih => exact .pass (.raw t) ih
  | case4 s tag p children ns s₁ e hv inner after ihi ih => exact .enter hv ihi ih
  | case5 s tag p children ns s₁ e hv after ih => exact .pass (.skip hv) ih
  | case6 s tag p children ns s₁ e new hv after ih => exact .pass (.replace hv) ih

/-- If every element that is entered has a larger measure than the elements its rewritten content
holds, the walk ends, with the tree and the state of the recursive traversal. -/
theorem walk_eq_preorder {v : Visitor σ} {μ : Element → Nat} (h : Descends v μ) (s : σ)
    (ns : List Node) :
    ∃ steps, ∀ limit, steps ≤ limit → walk v limit s ns = some (preorder v h s ns) :=
  walk_of_traversal (traversal_preorder h s ns)

/-- Counts the elements that it sees, wraps headings, drops line breaks, keeps out of code, and puts
a section in the place of what a quote holds. -/
def sampleVisitor : Visitor Nat := fun n e =>
  if e.tag = "h1" then (n + 1, e, .replace [.element "div" {} [e.toNode], .element "a" {} []])
  else if e.tag = "br" then (n + 1, e, .replace [])
  else if e.tag = "pre" then (n + 1, e, .skip)
  else if e.tag = "blockquote" ∧ 1 < e.size then
    (n + 1, ⟨"div", {}, [.element "section" {} []]⟩, .enter)
  else (n + 1, e, .enter)

theorem sampleVisitor_descends : Descends sampleVisitor Element.size := by
  intro s e s' e' hv d hd
  simp only [sampleVisitor] at hv
  split_ifs at hv with h₁ h₂ h₃ h₄
  · cases hv
  · cases hv
  · cases hv
  · cases hv
    obtain rfl : d = ⟨"section", {}, []⟩ := toNode_inj.mp (List.mem_singleton.mp hd)
    exact h₄.2
  · cases hv
    exact size_lt_of_mem_children hd

theorem walk_eq_preorder_sample :
    Descends sampleVisitor Element.size ∧ ∃ steps, ∀ limit, steps ≤ limit →
      walk sampleVisitor limit 0
        [.element "h1" {} [.element "em" {} []], .element "br" {} [], .raw "<hr>",
          .element "blockquote" {} [.element "p" {} [.text "a"], .element "br" {} []],
          .element "ul" {} [.element "br" {} [], .element "li" {} [], .element "pre" {}
            [.element "code" {} []]]] =
      some (8,
        [.element "div" {} [.element "h1" {} [.element "em" {} []]], .element "a" {} [],
          .raw "<hr>", .element "div" {} [.element "section" {} []],
          .element "ul" {} [.element "li" {} [], .element "pre" {} [.element "code" {} []]]]) := by
  refine ⟨sampleVisitor_descends, ?_⟩
  obtain ⟨steps, hh⟩ := walk_eq_preorder sampleVisitor_descends 0
    [.element "h1" {} [.element "em" {} []], .element "br" {} [], .raw "<hr>",
      .element "blockquote" {} [.element "p" {} [.text "a"], .element "br" {} []],
      .element "ul" {} [.element "br" {} [], .element "li" {} [], .element "pre" {}
        [.element "code" {} []]]]
  refine ⟨steps, fun limit hl => (hh limit hl).trans ?_⟩
  simp [preorder, sampleVisitor, Element.size, sizes, Node.size, Element.toNode]

end Folio
