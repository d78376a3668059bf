import Folio.Proofs.Traversal
import Folio.Proofs.Content

/-! Passes over the outermost elements of some kind. Such a pass goes on to the elements of its kind
through all others, puts something in the place of each, and looks at nothing inside. -/

namespace Folio

variable {σ : Type} {kind : String → Bool}

mutual

/-- The elements of a kind that stand in no other of that kind, in document order. -/
def Node.outermost (kind : String → Bool) : Node → List Element
  | .text _ => []
  | .raw _ => []
  | .element tag p children => if kind tag then [⟨tag, p, children⟩] else outermost kind children

def outermost (kind : String → Bool) : List Node → List Element
  | [] => []
  | n :: ns => n.outermost kind ++ outermost kind ns

end

mutual

/-- Puts other nodes in the place of each outermost element of a kind and keeps all else. The state
goes from one of these elements to the next, in document order. -/
def Node.replaceOutermost (kind : String → Bool) (f : σ → Element → σ × List Node) (s : σ) :
    Node → σ × List Node
  | .text t => (s, [.text t])
  | .raw t => (s, [.raw t])
  | .element tag p children =>
    if kind tag then f s ⟨tag, p, children⟩
    else
      let inner := replaceOutermost kind f s children
      (inner.1, [.element tag p inner.2])

def replaceOutermost (kind : String → Bool) (f : σ → Element → σ × List Node) (s : σ) :
    List Node → σ × List Node
  | [] => (s, [])
  | n :: ns =>
    let first := n.replaceOutermost kind f s
    let after := replaceOutermost kind f first.1 ns
    (after.1, first.2 ++ after.2)

end

/-- What `f` makes of some elements, one after the other. -/
def replacements (f : σ → Element → σ × List Node) : σ → List Element → List (List Node)
  | _, [] => []
  | s, e :: es => (f s e).2 :: replacements f (f s e).1 es

/-- The state after some elements. -/
def stateAfter (f : σ → Element → σ × List Node) (s : σ) (es : List Element) : σ :=
  es.foldl (fun s e => (f s e).1) s

theorem outermost_append (ns ms : List Node) :
    outermost kind (ns ++ ms) = outermost kind ns ++ outermost kind ms := by
  induction ns with
  | nil => rfl
  | cons n ns ih => rw [List.cons_append, outermost, outermost, ih, List.append_assoc]

theorem outermost_toNode {e : Element} (h : kind e.tag = true) :
    outermost kind [e.toNode] = [e] := by
  simp [outermost, Element.toNode, Node.outermost, h]

theorem kind_of_mem_outermost {e : Element} {ns : List Node} (h : e ∈ outermost kind ns) :
    kind e.tag = true := by
  induction ns using nodes_induction with
  | nil => cases h
  | text t ns ih => exact ih h
  | raw t ns ih => exact ih h
  | element tag p children ns ihi ih =>
    rw [outermost, Node.outermost, List.mem_append] at h
    rcases h with h | h
    · split at h
      · rename_i hk
        obtain rfl := List.mem_singleton.mp h
        exact hk
      · exact ihi h
    · exact ih h

theorem within_of_mem_outermost {e : Element} {ns : List Node}
    (h : e ∈ outermost kind ns) : Within e ns := by
  induction ns using nodes_induction with
  | nil => cases h
  | text t ns ih => exact within_cons.mpr (.inr (ih h))
  | raw t ns ih => exact within_cons.mpr (.inr (ih h))
  | element tag p children ns ihi ih =>
    rw [outermost, Node.outermost, List.mem_append] at h
    rcases h with h | h
    · split at h
      · obtain rfl := List.mem_singleton.mp h
        exact .here List.mem_cons_self
      · exact .inside (d := ⟨tag, p, children⟩) List.mem_cons_self (ihi h)
    · exact within_cons.mpr (.inr (ih h))

theorem replacements_append (f : σ → Element → σ × List Node) (s : σ) (es ds : List Element) :
    replacements f s (es ++ ds) =
      replacements f s es ++ replacements f (stateAfter f s es) ds := by
  induction es generalizing s with
  | nil => rfl
  | cons e es ih => rw [List.cons_append, replacements, replacements, ih]; rfl

theorem stateAfter_append (f : σ → Element → σ × List Node) (s : σ) (es ds : List Element) :
    stateAfter f s (es ++ ds) = stateAfter f (stateAfter f s es) ds :=
  List.foldl_append

theorem stateAfter_kept {τ : Type} (g : σ → τ) {f : σ → Element → σ × List Node}
    (hf : ∀ s e, g (f s e).1 = g s) (s : σ) (es : List Element) : g (stateAfter f s es) = g s :=
  List.foldlRecOn (motive := fun s' => g s' = g s) es _ rfl fun s' h e _ => (hf s' e).trans h

/-- The state that is left does not depend on where the elements stand. -/
theorem replaceOutermost_state (f : σ → Element → σ × List Node) (s : σ) (ns : List Node) :
    (replaceOutermost kind f s ns).1 = stateAfter f s (outermost kind ns) := by
  induction ns using nodes_induction generalizing s with
  | nil => rfl
  | text t ns ih => exact ih s
  | raw t ns ih => exact ih s
  | element tag p children ns ihi ih =>
    rw [replaceOutermost, Node.replaceOutermost, outermost, Node.outermost, stateAfter_append]
    split
    · exact ih _
    · rw [ih, ihi]

/-- The outermost elements that are left are those of what came in the place of the old ones. -/
theorem outermost_replaceOutermost (f : σ → Element → σ × List Node) (s : σ) (ns : List Node) :
    outermost kind (replaceOutermost kind f s ns).2 =
      (replacements f s (outermost kind ns)).flatMap (outermost kind) := by
  induction ns using nodes_induction generalizing s with
  | nil => rfl
  | text t ns ih => exact ih s
  | raw t ns ih => exact ih s
  | element tag p children ns ihi ih =>
    rw [replaceOutermost, Node.replaceOutermost, outermost, Node.outermost, outermost_append, ih,
      replacements_append, List.flatMap_append]
    split
    · rename_i hk
      simp [replacements, stateAfter]
    · rename_i hk
      simp only [outermost, Node.outermost, hk, if_false, List.append_nil, ihi,
        replaceOutermost_state, Bool.false_eq_true]

/-- A pass that puts each element back in its own place leaves the tree as it is. -/
theorem replaceOutermost_keep {f : σ → Element → σ × List Node}
    (h : ∀ s e, kind e.tag = true → (f s e).2 = [e.toNode]) (s : σ) (ns : List Node) :
    (replaceOutermost kind f s ns).2 = ns := by
  induction ns using nodes_induction generalizing s with
  | nil => rfl
  | text t ns ih => rw [replaceOutermost, ih]; rfl
  | raw t ns ih => rw [replaceOutermost, ih]; rfl
  | element tag p children ns ihi ih =>
    rw [replaceOutermost, ih, Node.replaceOutermost]
    split
    · rename_i hk
      rw [h s ⟨tag, p, children⟩ hk]
      rfl
    · show [Node.element tag p (replaceOutermost kind f s children).2] ++ ns = _
      rw [ihi]
      rfl

/-- A visitor that enters the elements of other kinds as they are and passes those of this kind goes
through the tree in this way. -/
theorem traversal_replaceOutermost (kind : String → Bool) {v : Visitor σ}
    {f : σ → Element → σ × List Node}
    (henter : ∀ s e, kind e.tag = false → v s e = (s, e, .enter))
    (hpass : ∀ s e, kind e.tag = true → Passes v s e.toNode (f s e).1 (f s e).2) (s : σ)
    (ns : List Node) :
    Traversal v s ns (replaceOutermost kind f s ns).1 (replaceOutermost kind f s ns).2 := by
  induction ns using nodes_induction generalizing s with
  | nil => exact .nil s
  | text t ns ih => exact .pass (.text t) (ih s)
  | raw t ns ih => exact .pass (.raw t) (ih s)
  | element tag p children ns ihi ih =>
    rw [replaceOutermost, Node.replaceOutermost]
    split
    · rename_i hk
      exact .pass (hpass s ⟨tag, p, children⟩ hk) (ih _)
    · rename_i hk
      exact .enter (henter s ⟨tag, p, children⟩ (Bool.eq_false_iff.mpr hk)) (ihi s) (ih _)

/-- What is left of an element that a visitor rewrites and skips. -/
def skipped (v : Visitor σ) (s : σ) (e : Element) : σ × List Node :=
  ((v s e).1, [(v s e).2.1.toNode])

theorem traversal_skipped {v : Visitor σ} (kind : String → Bool)
    (henter : ∀ s e, kind e.tag = false → v s e = (s, e, .enter))
    (hskip : ∀ s e, kind e.tag = true → (v s e).2.2 = .skip) (s : σ) (ns : List Node) :
    Traversal v s ns (replaceOutermost kind (skipped v) s ns).1
      (replaceOutermost kind (skipped v) s ns).2 := by
  refine traversal_replaceOutermost kind henter (fun s e hk => ?_) s ns
  have hv : v s e = ((v s e).1, (v s e).2.1, .skip) := by rw [← hskip s e hk]
  exact .skip hv

end Folio
