import Folio.Callout.Options
import Folio.Proofs.Opening
import Folio.Proofs.Traversal

/-! When the rewriting of callouts ends. The walk enters every callout that it has made, and a
configuration can put a new callout there. It then does so for a bare marker too, so that the bare
markers decide for all documents. -/

namespace Folio.Callout

def rewritten (c : Config) (e : Element) : Element :=
  (callout? c c.allEntries e).getD e

/-- The walk comes to `d` directly after it has visited the element `e` around it. -/
def Inside (c : Config) (d e : Element) : Prop :=
  d.toNode ∈ (rewritten c e).children

theorem exists_traversal_of_inner {c : Config} {m : Metadata} {ns : List Node}
    (h : ∀ e : Element, e.toNode ∈ ns → ∃ inner,
      Traversal (visitor c c.allEntries) m (rewritten c e).children m inner) :
    ∃ ns', Traversal (visitor c c.allEntries) m ns m ns' := by
  induction ns with
  | nil => exact ⟨[], .nil m⟩
  | cons n ns ih =>
    obtain ⟨ns', hr⟩ := ih fun e he => h e (List.mem_cons_of_mem n he)
    cases n with
    | text s => exact ⟨_, .pass (.text s) hr⟩
    | raw s => exact ⟨_, .pass (.raw s) hr⟩
    | element tag p children =>
      obtain ⟨inner, hi⟩ := h ⟨tag, p, children⟩ List.mem_cons_self
      exact ⟨_, .enter rfl hi hr⟩

theorem exists_traversal {c : Config} (m : Metadata) {ns : List Node}
    (h : ∀ e : Element, e.toNode ∈ ns → Acc (Inside c) e) :
    ∃ ns', Traversal (visitor c c.allEntries) m ns m ns' := by
  have hacc : ∀ e, Acc (Inside c) e → ∃ inner,
      Traversal (visitor c c.allEntries) m (rewritten c e).children m inner := by
    intro e he
    induction he with
    | intro e _ ih => exact exists_traversal_of_inner ih
  exact exists_traversal_of_inner fun e he => hacc e (h e he)

theorem acc_of_traversal {c : Config} {m m' : Metadata} {ns ns' : List Node}
    (h : Traversal (visitor c c.allEntries) m ns m' ns') :
    ∀ e : Element, e.toNode ∈ ns → Acc (Inside c) e := by
  induction h with
  | nil => simp
  | pass hp _ ih =>
    intro e he
    rcases List.mem_cons.mp he with rfl | he
    · cases hp with
      | skip hv => cases hv
      | replace hv => cases hv
    · exact ih e he
  | enter hv _ _ ihi ih =>
    cases hv
    intro e he
    rcases List.mem_cons.mp he with he | he
    · obtain rfl := toNode_inj.mp (show e.toNode = Element.toNode ⟨_, _, _⟩ from he)
      exact .intro _ ihi
    · exact ih e he

theorem transform_ends_iff {c : Config} {d : Document} :
    (transform c).Ends d ↔ ∀ e : Element, e.toNode ∈ d.nodes → Acc (Inside c) e := by
  constructor
  · intro h
    obtain ⟨m, ns, ht⟩ := Transform.ofVisitor_ends_iff.mp h
    exact acc_of_traversal ht
  · intro h
    obtain ⟨ns, ht⟩ := exists_traversal d.metadata h
    exact Transform.ofVisitor_ends_iff.mpr ⟨_, ns, ht⟩

theorem rewritten_of_tag_ne {c : Config} {e : Element} (h : e.tag ≠ "blockquote") :
    rewritten c e = e := by
  rw [rewritten, callout?_eq, if_neg h]
  rfl

theorem rewritten_of_opening? {c : Config} {e : Element} {n : Node} {rest : List Node}
    {o : Opening} (ht : e.tag = "blockquote") (hb : blocks e = n :: rest)
    (ho : opening? c.allEntries n = some o) :
    rewritten c e = assembled c c.allEntries o e.properties rest := by
  rw [rewritten, callout?_of_opening? ht hb ho]
  rfl

theorem rewritten_of_opening?_none {c : Config} {e : Element} {n : Node} {rest : List Node}
    (hb : blocks e = n :: rest) (ho : opening? c.allEntries n = none) : rewritten c e = e := by
  rw [rewritten, callout?_eq, hb, assembled?, ho]
  simp

theorem contentElement_none (c : Config) {o : Opening} (rest : List Node)
    (h : o.split.body = none) :
    contentElement c o rest =
      ⟨if o.marker.fold.isFoldable then c.tagNames.foldedContent else c.tagNames.content,
        ⟨[("class", .tokens ["callout-content"])]⟩, rest⟩ := by
  simp [contentElement, contentRegion, h, Element.withClass]

theorem contentElement_some (c : Config) {o : Opening} {body : List Node} (rest : List Node)
    (h : o.split.body = some body) :
    contentElement c o rest =
      ⟨if o.marker.fold.isFoldable then c.tagNames.foldedContent else c.tagNames.content,
        ⟨[("class", .tokens ["callout-content"])]⟩,
        (⟨"p", {}, body⟩ : Element).toNode :: rest⟩ := by
  simp [contentElement, contentRegion, h, Element.withClass, Element.toNode]

theorem rewritten_pair (c : Config) (tag : String) (p : Properties) (n : Element) :
    (∃ o, ∀ x : Element, rewritten c ⟨tag, p, [n.toNode, x.toNode]⟩ =
      assembled c c.allEntries o p [x.toNode]) ∨
    ∀ x : Element, rewritten c ⟨tag, p, [n.toNode, x.toNode]⟩ =
      ⟨tag, p, [n.toNode, x.toNode]⟩ := by
  by_cases ht : tag = "blockquote"
  · cases ho : opening? c.allEntries n.toNode with
    | some o => exact .inl ⟨o, fun x => rewritten_of_opening? ht rfl ho⟩
    | none => exact .inr fun x => rewritten_of_opening?_none rfl ho
  · exact .inr fun x => rewritten_of_tag_ne ht

theorem acc_of_alone {c : Config} {d x : Element}
    (hd : ∀ tag p, Acc (Inside c) ⟨tag, p, [d.toNode]⟩) (hx : x = d) : Acc (Inside c) x := by
  refine (hd "div" {}).inv ?_
  rw [Inside, rewritten_of_tag_ne (show "div" ≠ "blockquote" by decide), hx]
  exact List.mem_singleton.mpr rfl

/-- A walk into an element ends if it ends with another one in its place behind some first block,
and it ends around that element alone. The induction follows the walk around the other one. -/
theorem acc_behind {c : Config} {d₀ d : Element}
    (hd : ∀ tag p, Acc (Inside c) ⟨tag, p, [d.toNode]⟩) {tag : String} {p : Properties}
    {n : Element} (h : Acc (Inside c) ⟨tag, p, [n.toNode, d₀.toNode]⟩) :
    Acc (Inside c) ⟨tag, p, [n.toNode, d.toNode]⟩ := by
  generalize hw : (⟨tag, p, [n.toNode, d₀.toNode]⟩ : Element) = w at h
  induction h generalizing tag p n with
  | intro w hacc ih =>
    subst hw
    refine .intro _ fun x hx => ?_
    rcases rewritten_pair c tag p n with ⟨o, ho⟩ | hn
    · rw [Inside, ho] at hx
      rcases List.mem_pair.mp hx with hx | hx
      · exact hacc x (by rw [Inside, ho, hx]; exact List.mem_cons_self)
      · obtain rfl := toNode_inj.mp hx
        have hm : Inside c (contentElement c o [d₀.toNode]) ⟨tag, p, [n.toNode, d₀.toNode]⟩ := by
          rw [Inside, ho]
          exact List.mem_cons_of_mem _ List.mem_cons_self
        cases hb : o.split.body with
        | none =>
          rw [contentElement_none c _ hb]
          exact hd _ _
        | some body =>
          -- The rest of the line comes first again, with the other element behind it.
          rw [contentElement_some c _ hb] at hm ⊢
          exact ih _ hm rfl
    · rw [Inside, hn] at hx
      rcases List.mem_pair.mp hx with hx | hx
      · exact hacc x (by rw [Inside, hn, hx]; exact List.mem_cons_self)
      · exact acc_of_alone hd (toNode_inj.mp hx)

def innerTitle (c : Config) (t : Entries) (o : Opening) : Element :=
  if titleNodes o.marker o.split.title = [] then
    .withClass c.tagNames.titleInner "callout-title-inner"
      [.text (defaultTitle c t o.marker.kind)]
  else
    ⟨c.tagNames.titleInner, o.properties.set "class" (.tokens ["callout-title-inner"]),
      titleNodes o.marker o.split.title⟩

def iconNodes (c : Config) (t : Entries) (kind : String) : List Node :=
  if c.showIndicator then (indicatorNode? t kind c.tagNames.icon).toList else []

def headAround (c : Config) (t : Entries) (foldable : Bool) (kind : String) (d : Element) :
    Element :=
  .withClass (if foldable then "summary" else c.tagNames.title) "callout-title"
    (iconNodes c t kind ++
      d.toNode :: (if foldable then [foldIconNode c.tagNames.icon] else []))

theorem titleElement_eq (c : Config) (t : Entries) (o : Opening) :
    titleElement c t o =
      headAround c t o.marker.fold.isFoldable o.marker.kind (innerTitle c t o) := by
  have hi : titleInner c t o.marker o.properties o.split.title = (innerTitle c t o).toNode := by
    unfold titleInner innerTitle
    split
    · rename_i hn
      rw [if_pos hn]
    · rename_i hn
      rw [if_neg hn]
      rfl
  simp only [titleElement, headAround, titleRegion, iconNodes, hi]

theorem indicatorNode?_eq_some {t : Entries} {kind tag : String} {n : Node}
    (h : indicatorNode? t kind tag = some n) :
    ∃ e entry markup parts, n = Element.toNode e ∧ t.find? kind = some entry ∧
      entry.indicator = some markup ∧ Markup.parseFragment markup = .ok parts ∧
      e.tag = tag ∧ e.children = parts := by
  simp only [indicatorNode?, Option.bind_eq_bind, Option.bind_eq_some_iff] at h
  obtain ⟨entry, he, markup, hm, hp⟩ := h
  split at hp
  · rename_i parts hparts
    obtain rfl := Option.some.inj hp
    exact ⟨⟨tag, _, parts⟩, entry, markup, parts, rfl, he, hm, hparts, rfl, rfl⟩
  · simp at hp

theorem iconNodes_eq (c : Config) (t : Entries) (kind : String) :
    iconNodes c t kind = [] ∨ ∃ e : Element, iconNodes c t kind = [e.toNode] := by
  unfold iconNodes
  split
  · cases hi : indicatorNode? t kind c.tagNames.icon with
    | none => exact .inl rfl
    | some n =>
      obtain ⟨e, -, -, -, rfl, -⟩ := indicatorNode?_eq_some hi
      exact .inr ⟨e, rfl⟩
  · exact .inl rfl

theorem acc_headAround {c : Config} {d₀ d : Element} {foldable : Bool} {kind : String}
    (hd : ∀ tag p, Acc (Inside c) ⟨tag, p, [d.toNode]⟩)
    (h : Acc (Inside c) (headAround c c.allEntries foldable kind d₀)) :
    Acc (Inside c) (headAround c c.allEntries foldable kind d) := by
  cases foldable with
  | true =>
    have hs : ∀ x, rewritten c (headAround c c.allEntries true kind x) =
        headAround c c.allEntries true kind x :=
      fun x => rewritten_of_tag_ne (show "summary" ≠ "blockquote" by decide)
    refine .intro _ fun x hx => ?_
    rw [Inside, hs] at hx
    by_cases hxd : x = d
    · exact acc_of_alone hd hxd
    · refine h.inv ?_
      rw [Inside, hs]
      simp only [headAround, Element.withClass, List.mem_append, List.mem_cons] at hx ⊢
      rcases hx with hx | hx | hx
      · exact .inl hx
      · exact absurd (toNode_inj.mp hx) hxd
      · exact .inr (.inr hx)
  | false =>
    rcases iconNodes_eq c c.allEntries kind with hi | ⟨n, hi⟩
    · rw [headAround, hi]
      exact hd _ _
    · rw [headAround, hi] at h ⊢
      exact acc_behind hd h

def bareQuote (kind sign : String) : Element :=
  ⟨"blockquote", {}, [.element "p" {} [.text (markerText kind sign)]]⟩

def bareOpening (kind sign : String) : Opening :=
  ⟨⟨kind, (foldSign sign.toList).1, ""⟩, {}, ⟨[.text (markerText kind sign)], none⟩⟩

/-- For every kind and alias a blockquote with its bare marker, and one with a foldable one. -/
def markerSheet (c : Config) : List Node :=
  c.allEntries.keys.flatMap fun kind => [(bareQuote kind "").toNode, (bareQuote kind "+").toNode]

theorem callout?_bareQuote {c : Config} {t : Entries} {kind sign : String} (h : IsKind kind)
    (hk : t.contains kind = true) (hs : sign = "" ∨ sign = "+") :
    callout? c t (bareQuote kind sign) =
      some (assembled c t (bareOpening kind sign) {} []) := by
  have hn : '\n' ∉ (markerText kind sign).toList := by
    have hkind : '\n' ∉ kind.toList := fun hc => absurd (h.2.1 _ hc) (by decide)
    rcases hs with rfl | rfl <;> simp [markerText, hkind]
  have hm := marker?_markerText h hk hs
  have hsplit : splitTitle [.text (markerText kind sign)] =
      ⟨[.text (markerText kind sign)], none⟩ := by
    simp [splitTitle, hasNewline, hn]
  have ho : opening? t (.element "p" {} [.text (markerText kind sign)]) =
      some (bareOpening kind sign) := by
    simp [opening?, hm, hsplit, bareOpening]
  exact callout?_of_opening? rfl rfl ho

theorem sizes_blocks_le (e : Element) : sizes (blocks e) ≤ sizes e.children :=
  sizes_le_of_sublist List.filter_sublist

theorem size_contentElement (c : Config) (o : Opening) (rest : List Node) :
    (contentElement c o rest).size ≤ sizes (o.split.body.getD []) + sizes rest + 2 := by
  cases hb : o.split.body with
  | none =>
    simp only [contentElement_none c rest hb, Element.size, Option.getD_none, sizes]
    omega
  | some body =>
    simp only [contentElement_some c rest hb, Element.size, Option.getD_some, sizes, size_toNode]
    omega

theorem acc_bareHead {c : Config} {kind : String} (foldable : Bool) (h : IsKind kind)
    (hk : c.allEntries.contains kind = true)
    (hacc : ∀ sign, sign = "" ∨ sign = "+" → Acc (Inside c) (bareQuote kind sign)) :
    Acc (Inside c) (headAround c c.allEntries foldable kind
      (.withClass c.tagNames.titleInner "callout-title-inner"
        [.text (defaultTitle c c.allEntries kind)])) := by
  obtain ⟨sign, hs, hf⟩ : ∃ sign : String, (sign = "" ∨ sign = "+") ∧
      (foldSign sign.toList).1.isFoldable = foldable := by
    cases foldable with
    | true => exact ⟨"+", .inr rfl, rfl⟩
    | false => exact ⟨"", .inl rfl, rfl⟩
  have hin := callout?_bareQuote (c := c) h hk hs
  refine (hacc sign hs).inv ?_
  rw [Inside, rewritten, hin]
  refine List.mem_cons.mpr (.inl (congrArg Element.toNode ?_))
  rw [titleElement_eq]
  simp [innerTitle, titleNodes, bareOpening, hf]

/-- If the walk ends on the bare markers it ends on every element. -/
theorem acc_of_bareQuotes {c : Config}
    (h : ∀ kind, IsKind kind → c.allEntries.contains kind = true →
      ∀ sign, sign = "" ∨ sign = "+" → Acc (Inside c) (bareQuote kind sign))
    (e : Element) : Acc (Inside c) e := by
  induction hn : e.size using Nat.strongRecOn generalizing e with
  | _ size ih =>
    subst hn
    refine .intro _ fun x hx => ?_
    rw [Inside, rewritten] at hx
    cases hc : callout? c c.allEntries e with
    | none =>
      rw [hc] at hx
      exact ih _ (size_lt_of_mem_children hx) x rfl
    | some e' =>
      rw [hc] at hx
      obtain ⟨n, rest, o, -, hb, ho, rfl⟩ := callout?_eq_some hc
      have hless := sizes_titleNodes_lt ho
      have hsize : n.size + sizes rest + 1 ≤ e.size := by
        have := sizes_blocks_le e
        rw [hb, sizes] at this
        simp only [Element.size]
        omega
      rcases List.mem_pair.mp hx with hx | hx
      · obtain rfl := toNode_inj.mp hx
        obtain ⟨a, s, line, start, more, -, -, -, -, hm⟩ := opening?_eq_some ho
        have hkind := isKind_of_marker? hm
        have hk := known_of_marker? hm
        have hbare := acc_bareHead o.marker.fold.isFoldable hkind hk (h _ hkind hk)
        rw [titleElement_eq]
        -- A title of its own is less than the quote was, and any other one a bare marker has too.
        by_cases ht : titleNodes o.marker o.split.title = []
        · rwa [innerTitle, if_pos ht]
        · refine acc_headAround (fun tag p => ih _ ?_ _ rfl) hbare
          simp only [innerTitle, if_neg ht, Element.size, sizes, size_toNode] at hsize ⊢
          omega
      · obtain rfl := toNode_inj.mp hx
        refine ih _ ?_ _ rfl
        have := size_contentElement c o rest
        omega

/-- Rewriting ends on every document if it does so on the sheet of the bare markers. -/
theorem transform_ends_iff_markerSheet (c : Config) :
    (∀ d, (transform c).Ends d) ↔ (transform c).Ends ⟨markerSheet c, {}⟩ := by
  constructor
  · intro h
    exact h _
  · intro h d
    have hsheet := transform_ends_iff.mp h
    refine transform_ends_iff.mpr fun e _ => acc_of_bareQuotes (fun kind _ hk sign hs => ?_) e
    obtain ⟨entry, he, hke⟩ := List.any_eq_true.mp hk
    have hkey : kind ∈ c.allEntries.keys := List.mem_map.mpr ⟨entry, he, by simpa using hke⟩
    refine hsheet _ (List.mem_flatMap.mpr ⟨kind, hkey, ?_⟩)
    rcases hs with rfl | rfl
    · exact List.mem_cons_self
    · exact List.mem_cons_of_mem _ List.mem_cons_self

def selfQuoting : Options :=
  { entries := [("note", { indicator := some "<blockquote><p>[!note]</p></blockquote>" })] }

def quotingIcon : Element :=
  ⟨"div", ⟨[("class", .tokens ["callout-icon"]), ("aria-hidden", .text "true")]⟩,
    [(bareQuote "note" "").toNode]⟩

theorem isKind_note : IsKind "note" :=
  ⟨by decide, List.all_eq_true.mp (by decide), by decide⟩

theorem selfQuoting_indicatorNode? :
    indicatorNode? selfQuoting.resolve.allEntries "note" "div" = some quotingIcon.toNode := by
  have hf : (selfQuoting.resolve.allEntries.find? "note").bind (·.indicator) =
      some "<blockquote><p>[!note]</p></blockquote>" := by decide +kernel
  have hp : (Markup.parseFragment "<blockquote><p>[!note]</p></blockquote>").toOption =
      some [(bareQuote "note" "").toNode] := by decide +kernel
  obtain ⟨entry, he, hi⟩ := Option.bind_eq_some_iff.mp hf
  simp only [indicatorNode?, he, hi, Option.bind_eq_bind, Option.bind_some]
  split
  · rename_i parts hparts
    rw [hparts] at hp
    obtain rfl := Option.some.inj hp
    rfl
  · rename_i err herr
    rw [herr] at hp
    cases hp

theorem selfQuoting_iconNodes :
    iconNodes selfQuoting.resolve selfQuoting.resolve.allEntries "note" = [quotingIcon.toNode] := by
  have hi := selfQuoting_indicatorNode?
  rw [iconNodes, if_pos (show selfQuoting.resolve.showIndicator = true from rfl),
    show selfQuoting.resolve.tagNames.icon = "div" from rfl, hi]
  rfl

theorem not_acc_of_transGen {α : Type} {r : α → α → Prop} {x : α}
    (h : Relation.TransGen r x x) : ¬ Acc r x := by
  intro hacc
  have ht := hacc.transGen
  clear hacc
  induction ht with
  | intro y _ ih => exact ih y h h

/-- The walk never leaves a note whose icon holds a note of its own. -/
theorem not_ends_selfQuoting :
    ¬ (transform selfQuoting.resolve).Ends ⟨[(bareQuote "note" "").toNode], {}⟩ := by
  intro hends
  have hk : selfQuoting.resolve.allEntries.contains "note" = true := by decide +kernel
  have hin := callout?_bareQuote (c := selfQuoting.resolve) isKind_note hk (.inl rfl)
  have hhead : Inside selfQuoting.resolve (titleElement selfQuoting.resolve
      selfQuoting.resolve.allEntries (bareOpening "note" "")) (bareQuote "note" "") := by
    rw [Inside, rewritten, hin]
    exact List.mem_cons_self
  have hicon : Inside selfQuoting.resolve quotingIcon (titleElement selfQuoting.resolve
      selfQuoting.resolve.allEntries (bareOpening "note" "")) := by
    rw [Inside, titleElement_eq, rewritten_of_tag_ne (show "div" ≠ "blockquote" by decide)]
    refine List.mem_append_left _ ?_
    exact selfQuoting_iconNodes ▸ List.mem_cons_self
  have hquote : Inside selfQuoting.resolve (bareQuote "note" "") quotingIcon := by
    rw [Inside, rewritten_of_tag_ne (show "div" ≠ "blockquote" by decide)]
    exact List.mem_cons_self
  have hacc := transform_ends_iff.mp hends (bareQuote "note" "") List.mem_cons_self
  exact not_acc_of_transGen (.tail (.tail (.single hquote) hicon) hhead) hacc

end Folio.Callout
