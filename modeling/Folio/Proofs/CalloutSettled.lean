import Mathlib.Data.List.Forall2
import Folio.Proofs.CalloutEnding
import Folio.Proofs.Tables

/-! Where neither the tags nor the indicators of a configuration bring in blockquotes, rewriting
leaves none that could still be rewritten. A blockquote that is no callout stays none, as no rewrite
below it puts a text in front of a paragraph. -/

namespace Folio.Callout

/-- No tag and no indicator of the configuration brings a blockquote into a callout. -/
structure QuoteFree (c : Config) : Prop where
  container : c.tagNames.container ≠ "blockquote"
  title : c.tagNames.title ≠ "blockquote"
  content : c.tagNames.content ≠ "blockquote"
  foldedContent : c.tagNames.foldedContent ≠ "blockquote"
  icon : c.tagNames.icon ≠ "blockquote"
  titleInner : c.tagNames.titleInner ≠ "blockquote"
  indicators : ∀ entry ∈ c.entries, ∀ markup parts, entry.2.indicator = some markup →
    Markup.parseFragment markup = .ok parts → Without "blockquote" parts

/-- No blockquote at any depth would be rewritten. -/
def Settled (c : Config) (ns : List Node) : Prop :=
  ∀ e, Within e ns → callout? c c.allEntries e = none

theorem exists_mem_of_mem_expandAliases {t : Entries} {aliases : Aliases}
    {x : String × Entry} (h : x ∈ expandAliases t aliases) : ∃ kind, (kind, x.2) ∈ t := by
  unfold expandAliases at h
  refine List.foldlRecOn (motive := fun expanded => ∀ x ∈ expanded, ∃ kind, (kind, x.2) ∈ t) _ _
    (fun y hy => ⟨y.1, hy⟩) (fun expanded he target _ y hy => ?_) x h
  obtain ⟨name, kind⟩ := target
  dsimp only at hy
  split at hy
  · rename_i e hf
    rcases Table.mem_of_mem_insert hy with rfl | hy
    · exact ⟨kind, Table.mem_of_find? hf⟩
    · exact he y hy
  · exact he y hy

theorem without_of_parseFragment {tag markup : String} {parts : List Node}
    (hh : (Markup.parseFragment markup).toOption.all (!holds tag ·) = true)
    (h : Markup.parseFragment markup = .ok parts) : Without tag parts := by
  rw [h] at hh
  exact without_of_holds (by simpa [Except.toOption] using hh)

theorem chevron_without {parts : List Node}
    (h : Markup.parseFragment Icon.chevron = .ok parts) : Without "blockquote" parts :=
  without_of_parseFragment (by decide +kernel) h

section Ending

variable {c : Config}

theorem acc_of_without {e : Element} (h : Without "blockquote" [e.toNode]) :
    Acc (Inside c) e := by
  induction hn : e.size using Nat.strongRecOn generalizing e with
  | _ size ih =>
    subst hn
    refine .intro _ fun x hx => ?_
    rw [Inside, rewritten_of_tag_ne (h e (.here (List.mem_singleton.mpr rfl)))] at hx
    refine ih _ (size_lt_of_mem_children hx) (fun d hd => h d ?_) rfl
    refine within_element.mpr (.inr ?_)
    rcases within_element.mp hd with rfl | hd
    · exact .here hx
    · exact .inside hx hd

theorem exists_foldIconNode_eq (tag : String) :
    ∃ parts, foldIconNode tag = iconNode tag "callout-fold" parts ∧
      (Markup.parseFragment Icon.chevron = .ok parts ∨ parts = []) := by
  cases hp : Markup.parseFragment Icon.chevron with
  | ok parts => exact ⟨parts, by rw [foldIconNode, hp], .inl rfl⟩
  | error err => exact ⟨[], by rw [foldIconNode, hp], .inr rfl⟩

theorem without_foldIconNode (h : QuoteFree c) :
    Without "blockquote" [foldIconNode c.tagNames.icon] := by
  obtain ⟨parts, hfold, hparts⟩ := exists_foldIconNode_eq c.tagNames.icon
  rw [hfold]
  refine without_element (d := ⟨_, _, parts⟩) h.icon ?_
  rcases hparts with hp | rfl
  · exact chevron_without hp
  · exact without_of_holds rfl

theorem without_iconNodes (h : QuoteFree c) (kind : String) :
    Without "blockquote" (iconNodes c c.allEntries kind) := by
  unfold iconNodes
  split
  · cases hi : indicatorNode? c.allEntries kind c.tagNames.icon with
    | none => exact without_of_holds rfl
    | some n =>
      obtain ⟨e, entry, markup, parts, rfl, hf, hm, hp, ht, hc⟩ := indicatorNode?_eq_some hi
      obtain ⟨k, hk⟩ := exists_mem_of_mem_expandAliases (Table.mem_of_find? hf)
      refine without_element (ht ▸ h.icon) ?_
      rw [hc]
      exact h.indicators _ hk markup parts hm hp
  · exact without_of_holds rfl

theorem without_headAround (h : QuoteFree c) (foldable : Bool) (kind : String) {d : Element}
    (hd : Without "blockquote" [d.toNode]) :
    Without "blockquote" [(headAround c c.allEntries foldable kind d).toNode] := by
  refine without_element ?_ (without_append (without_iconNodes h kind) ?_)
  · cases foldable with
    | true => exact show "summary" ≠ "blockquote" by decide
    | false => exact h.title
  · rw [← List.singleton_append]
    refine without_append hd ?_
    cases foldable with
    | true => exact without_foldIconNode h
    | false => exact without_of_holds rfl

theorem contentTag_ne (h : QuoteFree c) (o : Opening) (rest : List Node) :
    (contentElement c o rest).tag ≠ "blockquote" := by
  simp only [contentElement, Element.withClass]
  split
  · exact h.foldedContent
  · exact h.content

theorem containerTag_ne (h : QuoteFree c) (t : Entries) (o : Opening) (p : Properties)
    (rest : List Node) : (assembled c t o p rest).tag ≠ "blockquote" := by
  simp only [assembled]
  split
  · decide
  · exact h.container

theorem acc_of_quoteFree (h : QuoteFree c) (e : Element) : Acc (Inside c) e := by
  refine acc_of_bareQuotes (fun kind hkind hk sign hs => .intro _ fun x hx => ?_) e
  rw [Inside, rewritten, callout?_bareQuote hkind hk hs] at hx
  rcases List.mem_pair.mp hx with hx | hx
  · obtain rfl := toNode_inj.mp hx
    rw [titleElement_eq]
    have hi : Without "blockquote" [(innerTitle c c.allEntries (bareOpening kind sign)).toNode] :=
      without_element (d := ⟨c.tagNames.titleInner, _, _⟩) h.titleInner (without_of_holds rfl)
    exact acc_of_without (without_headAround h _ kind hi)
  · obtain rfl := toNode_inj.mp hx
    exact acc_of_without (without_element (contentTag_ne h _ _) (without_of_holds rfl))

end Ending

section Settling

variable {c : Config}

inductive Becomes (c : Config) : Node → Node → Prop
  | text (s : String) : Becomes c (.text s) (.text s)
  | raw (s : String) : Becomes c (.raw s) (.raw s)
  | element {m m' : Metadata} (e : Element) {inner : List Node}
      (h : Traversal (visitor c c.allEntries) m (rewritten c e).children m' inner) :
      Becomes c e.toNode (.element (rewritten c e).tag (rewritten c e).properties inner)

theorem forall₂_of_traversal {m m' : Metadata} {ns ns' : List Node}
    (h : Traversal (visitor c c.allEntries) m ns m' ns') : List.Forall₂ (Becomes c) ns ns' := by
  induction h with
  | nil => exact .nil
  | pass hp _ ih =>
    cases hp with
    | text t => exact .cons (.text t) ih
    | raw t => exact .cons (.raw t) ih
    | skip hv => cases hv
    | replace hv => cases hv
  | enter hv hi _ _ ih =>
    cases hv
    exact .cons (.element ⟨_, _, _⟩ hi) ih

theorem isBlockGap_eq_of_becomes {n n' : Node} (h : Becomes c n n') :
    isBlockGap n = isBlockGap n' := by
  cases h <;> rfl

/-- No block opens a callout only once the walk has been through it. -/
theorem opening?_isSome_of_becomes {n n' : Node} (h : Becomes c n n')
    (ho : (opening? c.allEntries n').isSome) : (opening? c.allEntries n).isSome := by
  cases h with
  | text s => exact ho
  | raw s => exact ho
  | @element m m' e inner hi =>
    obtain ⟨a, s, line, hn, hs, hf⟩ := opening?_isSome_iff.mp ho
    obtain ⟨htag, -, rfl⟩ := Node.element.inj hn
    obtain ⟨n₀, more, hn₀, -, hch⟩ := List.forall₂_cons_right_iff.mp (forall₂_of_traversal hi)
    have htext : n₀ = .text s := by
      generalize hw : Node.text s = w at hn₀
      cases hn₀ with
      | text t => rfl
      | raw t => cases hw
      | element e hi => cases hw
    cases hc : callout? c c.allEntries e with
    | some e' =>
      -- A callout, whatever its tag, starts with its title and not with a text.
      obtain ⟨n, rest, o, -, -, -, rfl⟩ := callout?_eq_some hc
      rw [rewritten, hc, htext] at hch
      cases hch
    | none =>
      rw [rewritten, hc] at htag hch
      refine opening?_isSome_iff.mpr ⟨e.properties, s, more, ?_, hs, hf⟩
      rw [Element.toNode, ← htext, ← hch, ← htag]
      rfl

theorem callout?_rewritten (h : QuoteFree c) {m m' : Metadata} {e : Element} {inner : List Node}
    (hi : Traversal (visitor c c.allEntries) m (rewritten c e).children m' inner) :
    callout? c c.allEntries ⟨(rewritten c e).tag, (rewritten c e).properties, inner⟩ = none := by
  cases hc : callout? c c.allEntries e with
  | some e' =>
    obtain ⟨n, rest, o, -, -, -, rfl⟩ := callout?_eq_some hc
    rw [rewritten, hc, callout?_eq]
    exact if_neg (containerTag_ne h c.allEntries o e.properties rest)
  | none =>
    rw [rewritten, hc] at hi ⊢
    rw [Option.eq_none_iff_forall_not_mem]
    intro e' he
    obtain ⟨n', rest', o, ht, hb, ho, -⟩ := callout?_eq_some he
    have hblocks : List.Forall₂ (Becomes c) (blocks e) (n' :: rest') := by
      rw [← hb]
      refine List.rel_filter ?_ (forall₂_of_traversal hi)
      intro n n' hn
      show (!isBlockGap n) = true ↔ (!isBlockGap n') = true
      rw [isBlockGap_eq_of_becomes hn]
    obtain ⟨n, rest, hn, -, hb'⟩ := List.forall₂_cons_right_iff.mp hblocks
    obtain ⟨k, hk⟩ := Option.isSome_iff_exists.mp
      (opening?_isSome_of_becomes hn (Option.isSome_iff_exists.mpr ⟨o, ho⟩))
    have ht' : e.tag = "blockquote" := ht
    rw [callout?_of_opening? ht' hb' hk] at hc
    cases hc

theorem settled_of_traversal (h : QuoteFree c) {m m' : Metadata} {ns ns' : List Node}
    (ht : Traversal (visitor c c.allEntries) m ns m' ns') : Settled c ns' := by
  induction ht with
  | nil => exact fun e he => absurd he within_nil
  | pass hp _ ih =>
    intro e he
    cases hp with
    | text t => exact (within_cons.mp he).elim (absurd · not_within_text) (ih e)
    | raw t => exact (within_cons.mp he).elim (absurd · not_within_raw) (ih e)
    | skip hv => cases hv
    | replace hv => cases hv
  | @enter m _ _ _ tag p children _ inner _ _ hv hi _ ihi ih =>
    cases hv
    intro e he
    rcases within_cons.mp he with he | he
    · rcases within_element (d := ⟨_, _, inner⟩).mp he with rfl | he
      · exact callout?_rewritten h hi
      · exact ihi e he
    · exact ih e he

theorem eq_of_settled {m m' : Metadata} {ns ns' : List Node}
    (ht : Traversal (visitor c c.allEntries) m ns m' ns') (hs : Settled c ns) : ns' = ns := by
  induction ht with
  | nil => rfl
  | pass hp _ ih =>
    have hrest := ih fun e he => hs e (within_cons.mpr (.inr he))
    cases hp with
    | text t => rw [hrest]; rfl
    | raw t => rw [hrest]; rfl
    | skip hv => cases hv
    | replace hv => cases hv
  | @enter _ _ _ _ tag p children _ inner ns ns' hv hi _ ihi ih =>
    cases hv
    have hrest := ih fun e he => hs e (within_cons.mpr (.inr he))
    have hself : callout? c c.allEntries ⟨tag, p, children⟩ = none :=
      hs _ (.here List.mem_cons_self)
    have hinner : inner = children := by
      refine (ihi fun e he => ?_).trans ?_
      · rw [hself] at he
        exact hs e (.inside (d := ⟨tag, p, children⟩) List.mem_cons_self he)
      · rw [hself]
        rfl
    rw [hself, hrest, hinner]
    rfl

/-- Rewriting settles every document, and a settled document stays as it is. -/
theorem transform_settles (h : QuoteFree c) (d : Document) :
    ∃ ns, (transform c).Yields d { d with nodes := ns } ∧ Settled c ns ∧
      (transform c).Yields { d with nodes := ns } { d with nodes := ns } ∧
      (Settled c d.nodes → ns = d.nodes) := by
  have hends : ∀ ns, ∃ ns', Traversal (visitor c c.allEntries) d.metadata ns d.metadata ns' :=
    fun ns => exists_traversal d.metadata fun e _ => acc_of_quoteFree h e
  obtain ⟨ns, ht⟩ := hends d.nodes
  have hs := settled_of_traversal h ht
  obtain ⟨ns', ht'⟩ := hends ns
  obtain rfl := eq_of_settled ht' hs
  exact ⟨ns', Transform.ofVisitor_yields ht, hs, Transform.ofVisitor_yields ht',
    eq_of_settled ht⟩

def paragraphed : Config :=
  { entries := [("note", { indicator := some "<b>i</b>" })], tagNames := { container := "p" } }

theorem quoteFree_paragraphed : QuoteFree paragraphed where
  container := by decide
  title := by decide
  content := by decide
  foldedContent := by decide
  icon := by decide
  titleInner := by decide
  indicators := by
    intro entry he markup parts hm hp
    obtain rfl := List.mem_singleton.mp he
    obtain rfl := Option.some.inj hm
    exact without_of_parseFragment (by decide +kernel) hp

def quoteAround : Element :=
  ⟨"blockquote", {}, [(bareQuote "note" "").toNode, .element "p" {} [.text "[!note]"]]⟩

theorem transform_settles_quoteAround :
    QuoteFree paragraphed ∧ ¬ Settled paragraphed [quoteAround.toNode] ∧
      ∃ ns, (transform paragraphed).Yields ⟨[quoteAround.toNode], {}⟩ ⟨ns, {}⟩ ∧
        Settled paragraphed ns ∧ (transform paragraphed).Yields ⟨ns, {}⟩ ⟨ns, {}⟩ ∧
        (Settled paragraphed [quoteAround.toNode] → ns = [quoteAround.toNode]) := by
  refine ⟨quoteFree_paragraphed, fun hs => ?_,
    transform_settles quoteFree_paragraphed ⟨[quoteAround.toNode], {}⟩⟩
  have hin := hs (bareQuote "note" "") (.inside (d := quoteAround) (by simp) (.here (by
    simp [quoteAround])))
  rw [callout?_bareQuote isKind_note (by decide +kernel) (.inl rfl)] at hin
  cases hin

end Settling

end Folio.Callout
