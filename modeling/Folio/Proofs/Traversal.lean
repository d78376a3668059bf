import Mathlib.Logic.Relation
import Folio.Document.Basic
import Folio.Proofs.Splice

/-! The walk by a stack of cursors and the recursive traversal in document order. Every cursor that
waits names a list above the one that is being changed, so no splice can lead it astray. -/

namespace Folio

variable {σ : Type}

/-- What the walk leaves in place of a node that it does not enter. Texts and markup stay, a skipped
element is kept as rewritten, and a replaced one makes room for other nodes. -/
inductive Passes (v : Visitor σ) (s : σ) : Node → σ → List Node → Prop
  | text (t : String) : Passes v s (.text t) s [.text t]
  | raw (t : String) : Passes v s (.raw t) s [.raw t]
  | skip {s₁ : σ} {tag : String} {p : Properties} {children : List Node} {e : Element}
      (hv : v s ⟨tag, p, children⟩ = (s₁, e, .skip)) :
      Passes v s (.element tag p children) s₁ [e.toNode]
  | replace {s₁ : σ} {tag : String} {p : Properties} {children new : List Node} {e : Element}
      (hv : v s ⟨tag, p, children⟩ = (s₁, e, .replace new)) :
      Passes v s (.element tag p children) s₁ new

/-- What a visitor makes of a sibling list. The content of an entered element, as rewritten, is
traversed before the next sibling; nothing inside a passed node is looked at. -/
inductive Traversal (v : Visitor σ) : σ → List Node → σ → List Node → Prop
  | nil (s : σ) : Traversal v s [] s []
  | pass {s s₁ s₂ : σ} {n : Node} {new ns ns' : List Node} (hp : Passes v s n s₁ new)
      (h : Traversal v s₁ ns s₂ ns') : Traversal v s (n :: ns) s₂ (new ++ ns')
  | enter {s s₁ s₂ s₃ : σ} {tag : String} {p : Properties} {children : List Node} {e : Element}
      {inner ns ns' : List Node} (hv : v s ⟨tag, p, children⟩ = (s₁, e, .enter))
      (hi : Traversal v s₁ e.children s₂ inner) (h : Traversal v s₂ ns s₃ ns') :
      Traversal v s (.element tag p children :: ns) s₃ (.element e.tag e.properties inner :: ns')

theorem passes_or_enters (v : Visitor σ) (s : σ) (n : Node) :
    (∃ s₁ new, Passes v s n s₁ new) ∨
      ∃ tag p children s₁ e, n = .element tag p children ∧
        v s ⟨tag, p, children⟩ = (s₁, e, .enter) := by
  cases n with
  | text t => exact .inl ⟨s, _, .text t⟩
  | raw t => exact .inl ⟨s, _, .raw t⟩
  | element tag p children =>
    rcases hv : v s ⟨tag, p, children⟩ with ⟨s₁, e, answer⟩
    cases answer with
    | enter => exact .inr ⟨tag, p, children, s₁, e, rfl, hv⟩
    | skip => exact .inl ⟨s₁, _, .skip hv⟩
    | replace new => exact .inl ⟨s₁, new, .replace hv⟩

theorem Passes.state_kept {τ : Type} (g : σ → τ) {v : Visitor σ} (hv : ∀ s e, g (v s e).1 = g s)
    {s s₁ : σ} {n : Node} {new : List Node} (h : Passes v s n s₁ new) : g s₁ = g s := by
  cases h with
  | text => rfl
  | raw => rfl
  | @skip _ tag p children _ hs => rw [← hv s ⟨tag, p, children⟩, hs]
  | @replace _ tag p children _ _ hs => rw [← hv s ⟨tag, p, children⟩, hs]

/-- What no visit changes in the state is there at the end. -/
theorem Traversal.state_kept {τ : Type} (g : σ → τ) {v : Visitor σ}
    (hv : ∀ s e, g (v s e).1 = g s) {s s' : σ} {ns ns' : List Node} (h : Traversal v s ns s' ns') :
    g s' = g s := by
  induction h with
  | nil => rfl
  | pass hp _ ih => rw [ih, hp.state_kept g hv]
  | @enter s s₁ _ _ tag p children e _ _ _ hs _ _ ihi ih =>
    have hkept : g s₁ = g s := by
      rw [← hv s ⟨tag, p, children⟩, hs]
    rw [ih, ihi, hkept]

namespace Walk

abbrev Reaches (v : Visitor σ) : Walk σ → Walk σ → Prop :=
  Relation.ReflTransGen fun w w' => w.step v = some w'

variable {v : Visitor σ}

theorem step_end {s : σ} {nodes pre : List Node} {path : List Nat} (below : List Cursor)
    (h : siblingsAt path nodes = some pre) :
    step v ⟨s, nodes, ⟨path, pre.length⟩ :: below⟩ = some ⟨s, nodes, below⟩ := by
  simp [step, h]

theorem step_pass {s s₁ : σ} {nodes pre rest new : List Node} {n : Node} {path : List Nat}
    (below : List Cursor) (h : siblingsAt path nodes = some (pre ++ n :: rest))
    (hp : Passes v s n s₁ new) :
    step v ⟨s, nodes, ⟨path, pre.length⟩ :: below⟩ =
      some ⟨s₁, setSiblings (pre ++ new ++ rest) path nodes,
        ⟨path, (pre ++ new).length⟩ :: below⟩ := by
  cases hp with
  | text t => simp [step, h, setSiblings_self h]
  | raw t => simp [step, h, setSiblings_self h]
  | skip hv => simp [step, visit, h, hv, mapSiblings_eq_setSiblings h, replaceAt_length]
  | replace hv => simp [step, visit, h, hv, mapSiblings_eq_setSiblings h, replaceAt_length]

theorem step_enter {s s₁ : σ} {nodes pre rest children : List Node} {path : List Nat}
    {tag : String} {p : Properties} {e : Element} (below : List Cursor)
    (h : siblingsAt path nodes = some (pre ++ .element tag p children :: rest))
    (hv : v s ⟨tag, p, children⟩ = (s₁, e, .enter)) :
    step v ⟨s, nodes, ⟨path, pre.length⟩ :: below⟩ =
      some ⟨s₁, setSiblings (pre ++ e.toNode :: rest) path nodes,
        (if e.children.isEmpty then [] else [⟨path ++ [pre.length], 0⟩]) ++
          ⟨path, pre.length + 1⟩ :: below⟩ := by
  simp [step, visit, h, hv, mapSiblings_eq_setSiblings h, replaceAt_length]

/-- A walk that stands before `ns` in some sibling list does there what the traversal of `ns` says
and leaves all else, the waiting cursors included, as it was. -/
theorem reaches_of_traversal {s s' : σ} {ns ns' : List Node} (h : Traversal v s ns s' ns')
    (nodes pre : List Node) (path : List Nat) (below : List Cursor)
    (hs : siblingsAt path nodes = some (pre ++ ns)) :
    Reaches v ⟨s, nodes, ⟨path, pre.length⟩ :: below⟩
      ⟨s', setSiblings (pre ++ ns') path nodes, below⟩ := by
  induction h generalizing nodes pre path below with
  | nil s =>
    rw [setSiblings_self hs]
    exact .single (step_end below (by simpa using hs))
  | @pass s s₁ s₂ n new ns ns' hp _ ih =>
    have hr := ih (setSiblings (pre ++ new ++ ns) path nodes) (pre ++ new) path below
      (siblingsAt_setSiblings _ hs)
    rw [setSiblings_setSiblings, List.append_assoc pre new ns'] at hr
    exact .head (step_pass below hs hp) hr
  | @enter s s₁ s₂ s₃ tag p children e inner ns ns' hv hi _ ihi ih =>
    have hc : siblingsAt path (setSiblings (pre ++ e.toNode :: ns) path nodes) =
        some (pre ++ .element e.tag e.properties e.children :: ns) :=
      siblingsAt_setSiblings _ hs
    -- The path into the new content is named by the cursor that is pushed, not by one that waits.
    have hin : Reaches v
        ⟨s₁, setSiblings (pre ++ e.toNode :: ns) path nodes,
          (if e.children.isEmpty then [] else [⟨path ++ [pre.length], 0⟩]) ++
            ⟨path, pre.length + 1⟩ :: below⟩
        ⟨s₂, setSiblings (pre ++ .element e.tag e.properties inner :: ns) path nodes,
          ⟨path, pre.length + 1⟩ :: below⟩ := by
      by_cases he : e.children = []
      · rw [he] at hi
        cases hi
        simpa [he, Element.toNode] using Relation.ReflTransGen.refl
      · have hh := ihi _ [] _ (⟨path, pre.length + 1⟩ :: below) (siblingsAt_child hc)
        rw [List.nil_append, setSiblings_child inner hc, setSiblings_setSiblings] at hh
        simpa [he] using hh
    have hr := ih (setSiblings (pre ++ .element e.tag e.properties inner :: ns) path nodes)
      (pre ++ [.element e.tag e.properties inner]) path below
      (by simpa using siblingsAt_setSiblings _ hs)
    rw [setSiblings_setSiblings] at hr
    exact .head (step_enter below hs hv) (hin.trans (by simpa using hr))

theorem run_of_reaches {w w' : Walk σ} (h : Reaches v w w') (hw : w'.cursors = []) :
    ∃ steps, ∀ limit, steps ≤ limit → run v limit w = some (w'.state, w'.nodes) := by
  induction h using Relation.ReflTransGen.head_induction_on with
  | refl =>
    refine ⟨1, fun limit hl => ?_⟩
    obtain ⟨n, rfl⟩ : ∃ n, limit = n + 1 := ⟨limit - 1, by omega⟩
    simp [run, step, hw]
  | head hs _ ih =>
    obtain ⟨steps, ih⟩ := ih
    refine ⟨steps + 1, fun limit hl => ?_⟩
    obtain ⟨n, rfl⟩ : ∃ n, limit = n + 1 := ⟨limit - 1, by omega⟩
    simp [run, hs, ih n (by omega)]

/-- A walk that ends has gone through a traversal of what stood before it. The induction is on the
steps left, as the visitor alone gives no bound. -/
theorem exists_traversal_of_run (limit : Nat) {s : σ} {ns nodes pre : List Node}
    {path : List Nat} {below : List Cursor} {r : σ × List Node}
    (hs : siblingsAt path nodes = some (pre ++ ns))
    (hr : run v limit ⟨s, nodes, ⟨path, pre.length⟩ :: below⟩ = some r) :
    ∃ s' ns', Traversal v s ns s' ns' ∧
      ∃ left < limit, run v left ⟨s', setSiblings (pre ++ ns') path nodes, below⟩ = some r := by
  induction limit using Nat.strongRecOn generalizing s ns nodes pre path below with
  | _ limit ih =>
    obtain _ | limit := limit
    · simp [run] at hr
    cases ns with
    | nil =>
      rw [List.append_nil] at hs
      rw [run, step_end below hs] at hr
      refine ⟨s, [], .nil s, limit, Nat.lt_succ_self _, ?_⟩
      rwa [List.append_nil, setSiblings_self hs]
    | cons n ns =>
      rcases passes_or_enters v s n with ⟨s₁, new, hp⟩ | ⟨tag, p, children, s₁, e, rfl, hv⟩
      · rw [run, step_pass below hs hp] at hr
        obtain ⟨s', ns', ht, left, hl, hh⟩ := ih limit (Nat.lt_succ_self _)
          (siblingsAt_setSiblings (pre ++ new ++ ns) hs) hr
        rw [setSiblings_setSiblings, List.append_assoc] at hh
        exact ⟨s', _, .pass hp ht, left, by omega, hh⟩
      · rw [run, step_enter below hs hv] at hr
        have hc : siblingsAt path (setSiblings (pre ++ e.toNode :: ns) path nodes) =
            some (pre ++ .element e.tag e.properties e.children :: ns) :=
          siblingsAt_setSiblings _ hs
        obtain ⟨s₂, inner, hi, left, hl, hh⟩ : ∃ s₂ inner, Traversal v s₁ e.children s₂ inner ∧
            ∃ left ≤ limit, run v left
              ⟨s₂, setSiblings (pre ++ .element e.tag e.properties inner :: ns) path nodes,
                ⟨path, pre.length + 1⟩ :: below⟩ = some r := by
          by_cases he : e.children = []
          · refine ⟨s₁, [], by rw [he]; exact .nil s₁, limit, Nat.le_refl _, ?_⟩
            simpa [he, Element.toNode] using hr
          · obtain ⟨s₂, inner, hi, left, hl, hh⟩ := ih limit (Nat.lt_succ_self _)
              (show _ = some ([] ++ e.children) from siblingsAt_child hc)
              (by simpa [he] using hr)
            rw [List.nil_append, setSiblings_child inner hc, setSiblings_setSiblings] at hh
            exact ⟨s₂, inner, hi, left, Nat.le_of_lt hl, hh⟩
        have hn : siblingsAt path
            (setSiblings (pre ++ .element e.tag e.properties inner :: ns) path nodes) =
              some ((pre ++ [.element e.tag e.properties inner]) ++ ns) := by
          simpa using siblingsAt_setSiblings _ hs
        obtain ⟨s₃, ns', ht, left', hl', hh⟩ := ih left (by omega) hn (by simpa using hh)
        rw [setSiblings_setSiblings] at hh
        exact ⟨s₃, _, .enter hv hi ht, left', by omega, by simpa using hh⟩

end Walk

theorem walk_of_traversal {v : Visitor σ} {s s' : σ} {ns ns' : List Node}
    (h : Traversal v s ns s' ns') :
    ∃ steps, ∀ limit, steps ≤ limit → walk v limit s ns = some (s', ns') :=
  Walk.run_of_reaches (Walk.reaches_of_traversal h ns [] [] [] rfl) rfl

theorem traversal_of_walk {v : Visitor σ} {limit : Nat} {s s' : σ} {ns ns' : List Node}
    (h : walk v limit s ns = some (s', ns')) : Traversal v s ns s' ns' := by
  obtain ⟨t, out, ht, left, -, hr⟩ := Walk.exists_traversal_of_run limit
    (show siblingsAt [] ns = some ([] ++ ns) from rfl) h
  obtain _ | left := left
  · simp [Walk.run] at hr
  · simp only [Walk.run, Walk.step, Option.some.injEq, Prod.mk.injEq] at hr
    obtain ⟨rfl, rfl⟩ := hr
    exact ht

theorem Traversal.unique {v : Visitor σ} {s s₁ s₂ : σ} {ns ns₁ ns₂ : List Node}
    (h₁ : Traversal v s ns s₁ ns₁) (h₂ : Traversal v s ns s₂ ns₂) : s₁ = s₂ ∧ ns₁ = ns₂ := by
  obtain ⟨steps₁, hw₁⟩ := walk_of_traversal h₁
  obtain ⟨steps₂, hw₂⟩ := walk_of_traversal h₂
  have heq := (hw₁ _ (Nat.le_max_left steps₁ steps₂)).symm.trans (hw₂ _ (Nat.le_max_right _ _))
  simpa using heq

/-- The walk ends exactly where the traversal has a result. -/
theorem walk_ends_iff {v : Visitor σ} {s s' : σ} {ns ns' : List Node} :
    (∃ limit, walk v limit s ns = some (s', ns')) ↔ Traversal v s ns s' ns' := by
  constructor
  · rintro ⟨limit, h⟩
    exact traversal_of_walk h
  · intro h
    obtain ⟨steps, hh⟩ := walk_of_traversal h
    exact ⟨steps, hh steps (Nat.le_refl _)⟩

namespace Transform

/-- With enough steps the transform gets to its end. -/
def Ends (t : Transform) (d : Document) : Prop :=
  ∃ limit d', t.apply limit d = some d'

/-- With enough steps the transform makes `d'` of `d`. -/
def Yields (t : Transform) (d d' : Document) : Prop :=
  ∃ steps, ∀ limit, steps ≤ limit → t.apply limit d = some d'

theorem ofVisitor_ends_iff {name : String} {v : Visitor Metadata} {d : Document} :
    (ofVisitor name v).Ends d ↔ ∃ m ns, Traversal v d.metadata d.nodes m ns := by
  constructor
  · rintro ⟨limit, d', h⟩
    obtain ⟨⟨m, ns⟩, hw, -⟩ := Option.map_eq_some_iff.mp h
    exact ⟨m, ns, traversal_of_walk hw⟩
  · rintro ⟨m, ns, h⟩
    obtain ⟨limit, hw⟩ := walk_ends_iff.mpr h
    exact ⟨limit, ⟨ns, m⟩, by simp [ofVisitor, hw]⟩

theorem ofVisitor_yields {name : String} {v : Visitor Metadata} {d : Document} {m : Metadata}
    {ns : List Node} (h : Traversal v d.metadata d.nodes m ns) :
    (ofVisitor name v).Yields d ⟨ns, m⟩ := by
  obtain ⟨steps, hw⟩ := walk_of_traversal h
  exact ⟨steps, fun limit hl => by simp [ofVisitor, hw limit hl]⟩

theorem ofStatefulVisitor_yields {name : String} {v : Visitor (σ × Metadata)} {s : σ}
    {d : Document} {r : σ × Metadata} {ns : List Node}
    (h : Traversal v (s, d.metadata) d.nodes r ns) :
    (ofStatefulVisitor name s v).Yields d ⟨ns, r.2⟩ := by
  obtain ⟨steps, hw⟩ := walk_of_traversal h
  exact ⟨steps, fun limit hl => by simp [ofStatefulVisitor, hw limit hl]⟩

/-- With enough steps the transforms, one after the other, make `d'` of `d`. -/
def YieldsAll (ts : List Transform) (d d' : Document) : Prop :=
  ∃ steps, ∀ limit, steps ≤ limit → applyAll limit ts d = some d'

theorem YieldsAll.nil (d : Document) : YieldsAll [] d d :=
  ⟨0, fun _ _ => rfl⟩

theorem YieldsAll.append {ts us : List Transform} {d d₁ d₂ : Document} (ht : YieldsAll ts d d₁)
    (hu : YieldsAll us d₁ d₂) : YieldsAll (ts ++ us) d d₂ := by
  obtain ⟨n, ht⟩ := ht
  obtain ⟨k, hu⟩ := hu
  refine ⟨max n k, fun limit hl => ?_⟩
  have h₁ := ht limit (Nat.le_trans (Nat.le_max_left n k) hl)
  have h₂ := hu limit (Nat.le_trans (Nat.le_max_right n k) hl)
  rw [applyAll] at h₁ h₂ ⊢
  rw [List.foldlM_append, h₁]
  exact h₂

theorem Yields.all {t : Transform} {d d' : Document} (h : t.Yields d d') : YieldsAll [t] d d' := by
  obtain ⟨steps, h⟩ := h
  refine ⟨steps, fun limit hl => ?_⟩
  rw [applyAll, List.foldlM_cons, h limit hl]
  rfl

theorem Yields.cons {t : Transform} {ts : List Transform} {d d₁ d₂ : Document} (h : t.Yields d d₁)
    (hs : YieldsAll ts d₁ d₂) : YieldsAll (t :: ts) d d₂ :=
  h.all.append hs

end Transform

end Folio
