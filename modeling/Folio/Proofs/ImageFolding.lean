import Folio.Image.Transform
import Folio.Proofs.FirstUse
import Folio.Proofs.Outermost
import Folio.Proofs.PercentEncoding
import Folio.Proofs.Tables

/-! Recording and folding images. The second pass asks the lists of the first only for the decoded
source, and yet folds the images that the first one recorded and no others. -/

namespace Folio

namespace Image

def isImage (tag : String) : Bool :=
  tag == "img"

/-- The decoded source of an image that belongs to the document. -/
def ownSource? (policy : Policy) (p : Properties) : Option String :=
  match p.getText? "src" with
  | none => none
  | some src =>
    if src ≠ "" ∧ (origin? policy (decodeSource src)).isSome then some (decodeSource src) else none

/-- The decoded sources of the images of the document, in document order. -/
def ownSources (policy : Policy) (ns : List Node) : List String :=
  (outermost isImage ns).filterMap fun e => ownSource? policy e.properties

/-- Those of them that come from one origin. -/
def sourcesFrom (policy : Policy) (origin : Origin) (ns : List Node) : List String :=
  (ownSources policy ns).filter (origin? policy · = some origin)

/-- The fields are the properties, with the source decoded, the index, and a request to infer the
size where `infer` holds. -/
structure Describes (p : Properties) (src : String) (index : Nat) (infer : Prop)
    (fields : Table Json) : Prop where
  sorted : fields.Sorted
  inferSize : infer → fields.find? "inferSize" = some (.bool true)
  index : fields.find? "index" = some (.int index)
  src : fields.find? "src" = some (.string src)
  other : ∀ name, (name = "inferSize" → ¬ infer) → name ≠ "index" → name ≠ "src" →
    fields.find? name = (p.get? name).map PropertyValue.toJson

/-- What becomes of the properties `p` of an image; `earlier` are the sources of the images of the
document before it. -/
structure FoldedImage (policy : Policy) (earlier : List String) (p p' : Properties) : Prop where
  reduced_iff : ∀ src, p.getText? "src" = some src →
    ((∃ value, p' = ⟨[("data-image", value)]⟩) ↔
      src ≠ "" ∧ (origin? policy (decodeSource src)).isSome)
  own : ∀ src origin, p.getText? "src" = some src → src ≠ "" →
    origin? policy (decodeSource src) = some origin →
    ∃ fields, p' = ⟨[("data-image", .text (Json.object fields).compact)]⟩ ∧
      Describes p (decodeSource src) (earlier.count (decodeSource src))
        (origin = .remote ∧ ¬ (p.contains "width" ∧ p.contains "height")) fields
  foreign : ∀ src, p.getText? "src" = some src →
    src = "" ∨ origin? policy (decodeSource src) = none →
    p' = p.set "src" (.text (decodeSource src))
  unsourced : p.getText? "src" = none → p' = p

/-- The images that stand in no other image are folded; all else stays, also inside images. -/
inductive Folded (policy : Policy) : List String → List Node → List Node → Prop
  | nil (earlier : List String) : Folded policy earlier [] []
  | text {earlier : List String} {ns ns' : List Node} (t : String)
      (h : Folded policy earlier ns ns') : Folded policy earlier (.text t :: ns) (.text t :: ns')
  | raw {earlier : List String} {ns ns' : List Node} (t : String)
      (h : Folded policy earlier ns ns') : Folded policy earlier (.raw t :: ns) (.raw t :: ns')
  | image {earlier : List String} {p p' : Properties} {children ns ns' : List Node}
      (hp : FoldedImage policy earlier p p')
      (h : Folded policy (earlier ++ (ownSource? policy p).toList) ns ns') :
      Folded policy earlier (.element "img" p children :: ns) (.element "img" p' children :: ns')
  | element {earlier : List String} {tag : String} {p : Properties}
      {children inner ns ns' : List Node} (ht : tag ≠ "img")
      (hi : Folded policy earlier children inner)
      (h : Folded policy (earlier ++ ownSources policy children) ns ns') :
      Folded policy earlier (.element tag p children :: ns) (.element tag p inner :: ns')

theorem ownSource?_eq_some_iff {policy : Policy} {p : Properties} {source : String} :
    ownSource? policy p = some source ↔ ∃ src, p.getText? "src" = some src ∧ src ≠ "" ∧
      (origin? policy source).isSome ∧ decodeSource src = source := by
  rw [ownSource?]
  cases hs : p.getText? "src" with
  | none => simp
  | some src =>
    dsimp only
    split
    · rename_i h
      constructor
      · rintro ⟨⟩
        exact ⟨src, rfl, h.1, h.2, rfl⟩
      · rintro ⟨_, ⟨⟩, -, -, rfl⟩
        rfl
    · rename_i h
      constructor
      · rintro ⟨⟩
      · rintro ⟨_, ⟨⟩, hne, ho, rfl⟩
        exact absurd ⟨hne, ho⟩ h

theorem ne_empty_of_ownSource? {policy : Policy} {p : Properties} {source : String}
    (h : ownSource? policy p = some source) : source ≠ "" := by
  obtain ⟨src, -, hne, -, rfl⟩ := ownSource?_eq_some_iff.mp h
  exact fun he => hne (Text.eq_empty_of_percentDecode he)

/-! ### What the first pass records -/

def recorded (m : Metadata) : Origin → List String
  | .relative => m.relativeImages
  | .remote => m.remoteImages

theorem recorded_collectVisitor {policy : Policy} {m : Metadata} {e : Element}
    (hk : isImage e.tag = true) (origin : Origin) :
    recorded (collectVisitor policy m e).1 origin =
      ((ownSource? policy e.properties).toList.filter (origin? policy · = some origin)).foldl
        appendNew (recorded m origin) := by
  rw [collectVisitor, if_pos (by simpa [isImage] using hk), ownSource?]
  cases hs : e.properties.getText? "src" with
  | none => rfl
  | some src =>
    by_cases hne : src = ""
    · simp [hne]
    · cases ho : origin? policy (decodeSource src) with
      | none => simp [hne, ho, recordSource]
      | some o =>
        cases o <;> cases origin <;>
          simp [hne, ho, recordSource, recorded, Metadata.addRelativeImage, Metadata.addRemoteImage]

/-- Each list takes in, one after the other, the sources from its origin. -/
theorem recorded_stateAfter {policy : Policy} {m : Metadata} {es : List Element}
    (h : ∀ e ∈ es, isImage e.tag = true) (origin : Origin) :
    recorded (stateAfter (skipped (collectVisitor policy)) m es) origin =
      ((es.filterMap fun e => ownSource? policy e.properties).filter
        (origin? policy · = some origin)).foldl appendNew (recorded m origin) := by
  induction es generalizing m with
  | nil => rfl
  | cons e es ih =>
    obtain ⟨he, hes⟩ := List.forall_mem_cons.mp h
    have hrest := ih (m := (collectVisitor policy m e).1) hes
    rw [recorded_collectVisitor he, ← List.foldl_append, ← List.filter_append] at hrest
    refine hrest.trans ?_
    cases hs : ownSource? policy e.properties <;> simp [hs]

/-- The metadata after the first pass. -/
def collected (policy : Policy) (ns : List Node) : Metadata :=
  stateAfter (skipped (collectVisitor policy)) {} (outermost isImage ns)

/-- The first pass leaves the tree as it is. -/
theorem collect_yields_stateAfter (policy : Policy) (d : Document) :
    (collect policy).Yields d ⟨d.nodes,
      stateAfter (skipped (collectVisitor policy)) d.metadata (outermost isImage d.nodes)⟩ := by
  have henter : ∀ (m : Metadata) (e : Element), isImage e.tag = false →
      collectVisitor policy m e = (m, e, .enter) := by
    intro m e hk
    rw [collectVisitor, if_neg (by simpa [isImage] using hk)]
  have hskip : ∀ (m : Metadata) (e : Element), isImage e.tag = true →
      (collectVisitor policy m e).2 = (e, .skip) := by
    intro m e hk
    rw [collectVisitor, if_pos (by simpa [isImage] using hk)]
    split <;> rfl
  have hkeep : ∀ (m : Metadata) (e : Element), isImage e.tag = true →
      (skipped (collectVisitor policy) m e).2 = [e.toNode] := by
    intro m e hk
    rw [skipped, hskip m e hk]
  have ht := traversal_skipped isImage henter (fun m e hk => by rw [hskip m e hk]) d.metadata
    d.nodes
  rw [replaceOutermost_keep hkeep, replaceOutermost_state] at ht
  exact Transform.ofVisitor_yields ht

theorem collect_yields (policy : Policy) (ns : List Node) :
    (collect policy).Yields ⟨ns, {}⟩ ⟨ns, collected policy ns⟩ :=
  collect_yields_stateAfter policy ⟨ns, {}⟩

theorem firstUses_collected (policy : Policy) (ns : List Node) (origin : Origin) :
    FirstUses (sourcesFrom policy origin ns) (recorded (collected policy ns) origin) := by
  have himages : ∀ e ∈ outermost isImage ns, isImage e.tag = true :=
    fun _ => kind_of_mem_outermost
  have hempty : recorded {} origin = [] := by cases origin <;> rfl
  rw [collected, recorded_stateAfter himages, hempty]
  exact firstUses_foldl _

theorem collectVisitor_others (policy : Policy) (m : Metadata) (e : Element) :
    ((collectVisitor policy m e).1.headings, (collectVisitor policy m e).1.frontmatter) =
      (m.headings, m.frontmatter) := by
  unfold collectVisitor recordSource
  split
  · split
    · dsimp only
      split
      · rfl
      · split <;> rfl
    · rfl
  · rfl

/-- The first pass ends, leaves the tree as it is, and fills one list with the relative sources and
the other one with the remote ones, each source once and in the order of first use. No source is in
both lists. -/
theorem collect_lists_sources (policy : Policy) (ns : List Node) :
    ∃ m, (collect policy).Yields ⟨ns, {}⟩ ⟨ns, m⟩ ∧
      FirstUses (sourcesFrom policy .relative ns) m.relativeImages ∧
      FirstUses (sourcesFrom policy .remote ns) m.remoteImages ∧
      m.relativeImages.Disjoint m.remoteImages ∧ m.headings = [] ∧ m.frontmatter = [] := by
  have hrelative := firstUses_collected policy ns .relative
  have hremote := firstUses_collected policy ns .remote
  have hothers := stateAfter_kept (f := skipped (collectVisitor policy))
    (fun m : Metadata => (m.headings, m.frontmatter)) (collectVisitor_others policy) {}
    (outermost isImage ns)
  refine ⟨collected policy ns, collect_yields policy ns, hrelative, hremote, ?_,
    congrArg Prod.fst hothers, congrArg Prod.snd hothers⟩
  intro source hsource hsource'
  have horigin := (List.mem_filter.mp ((hrelative.mem_iff source).mp hsource)).2
  have horigin' := (List.mem_filter.mp ((hremote.mem_iff source).mp hsource')).2
  rw [of_decide_eq_true horigin] at horigin'
  exact absurd (of_decide_eq_true horigin') (by decide)

/-- An image of the document asks the lists for its own origin, and any other image asks in vain. -/
theorem mem_recorded_iff (policy : Policy) {ns : List Node} {e : Element}
    (he : e ∈ outermost isImage ns) {src : String} (hs : e.properties.getText? "src" = some src)
    (origin : Origin) :
    decodeSource src ∈ recorded (collected policy ns) origin ↔
      src ≠ "" ∧ origin? policy (decodeSource src) = some origin := by
  have hmem := (firstUses_collected policy ns origin).mem_iff (decodeSource src)
  rw [hmem, sourcesFrom, List.mem_filter, decide_eq_true_iff, ownSources, List.mem_filterMap]
  constructor
  · rintro ⟨⟨d, -, hd⟩, ho⟩
    refine ⟨?_, ho⟩
    -- Another image may have the decoded source, but not if that is empty.
    rintro rfl
    exact ne_empty_of_ownSource? hd (by decide +kernel)
  · rintro ⟨hne, ho⟩
    exact ⟨⟨e, he, ownSource?_eq_some_iff.mpr ⟨src, hs, hne, by rw [ho]; rfl, rfl⟩⟩, ho⟩

/-! ### What the second pass folds -/

theorem find?_properties {p : Properties} (h : (p.entries.map (·.1)).Nodup) (name : String) :
    (Table.ofEntries (p.entries.map fun (name, value) => (name, value.toJson))).find? name =
      (p.get? name).map PropertyValue.toJson := by
  rw [Table.find?_ofEntries (by rwa [List.map_map]), Properties.get?]
  obtain ⟨entries⟩ := p
  induction entries with
  | nil => rfl
  | cons x entries ih =>
    rw [List.map_cons, List.lookup_cons, List.lookup_cons]
    split
    · rfl
    · exact ih (List.nodup_cons.mp h).2

theorem describes_foldedFields {p : Properties} (h : (p.entries.map (·.1)).Nodup) (src : String)
    (index : Nat) (remote : Bool) :
    Describes p src index (remote = true ∧ ¬ (p.contains "width" ∧ p.contains "height"))
      (foldedFields p src index remote) := by
  have hinfer : (remote && !(p.contains "width" && p.contains "height")) = true ↔
      remote = true ∧ ¬ (p.contains "width" ∧ p.contains "height") := by
    cases p.contains "width" <;> simp
  have hsorted := ((Table.sorted_ofEntries (p.entries.map fun (name, value) =>
    (name, value.toJson))).insert "src" (.string src)).insert "index" (.int index)
  rw [foldedFields]
  split
  · rename_i hi
    refine ⟨hsorted.insert _ _, fun _ => ?_, ?_, ?_, fun name h₁ h₂ h₃ => ?_⟩
    · rw [Table.find?_insert, if_pos rfl]
    · simp [Table.find?_insert]
    · simp [Table.find?_insert]
    · have hne : name ≠ "inferSize" := fun he => h₁ he (hinfer.mp hi)
      simp only [Table.find?_insert, hne, h₂, h₃, if_false, find?_properties h]
  · rename_i hi
    refine ⟨hsorted, fun hh => absurd (hinfer.mpr hh) hi, ?_, ?_, fun name _ h₂ h₃ => ?_⟩
    · simp [Table.find?_insert]
    · simp [Table.find?_insert]
    · simp only [Table.find?_insert, h₂, h₃, if_false, find?_properties h]

theorem foldedImage_of_own {policy : Policy} {earlier : List String} {p : Properties} {src : String}
    {origin : Origin} {fields : Table Json} (hs : p.getText? "src" = some src) (hne : src ≠ "")
    (ho : origin? policy (decodeSource src) = some origin)
    (hd : Describes p (decodeSource src) (earlier.count (decodeSource src))
      (origin = .remote ∧ ¬ (p.contains "width" ∧ p.contains "height")) fields) :
    FoldedImage policy earlier p ⟨[("data-image", .text (Json.object fields).compact)]⟩ where
  reduced_iff src' hs' := by
    obtain rfl : src = src' := Option.some.inj (hs.symm.trans hs')
    exact ⟨fun _ => ⟨hne, by rw [ho]; rfl⟩, fun _ => ⟨_, rfl⟩⟩
  own src' origin' hs' _ ho' := by
    obtain rfl : src = src' := Option.some.inj (hs.symm.trans hs')
    obtain rfl : origin = origin' := Option.some.inj (ho.symm.trans ho')
    exact ⟨fields, rfl, hd⟩
  foreign src' hs' h := by
    obtain rfl : src = src' := Option.some.inj (hs.symm.trans hs')
    rw [ho] at h
    exact absurd h (by simp [hne])
  unsourced h := by
    rw [hs] at h
    cases h

theorem foldedImage_of_foreign {policy : Policy} {earlier : List String} {p : Properties}
    {src : String} (hs : p.getText? "src" = some src)
    (h : src = "" ∨ origin? policy (decodeSource src) = none) :
    FoldedImage policy earlier p (p.set "src" (.text (decodeSource src))) where
  reduced_iff src' hs' := by
    obtain rfl : src = src' := Option.some.inj (hs.symm.trans hs')
    constructor
    · rintro ⟨value, hv⟩
      have hget := p.get?_set "src" (.text (decodeSource src))
      rw [hv] at hget
      cases hget
    · rintro ⟨hne, ho⟩
      rcases h with h | h
      · exact absurd h hne
      · rw [h] at ho
        cases ho
  own src' origin hs' hne ho := by
    obtain rfl : src = src' := Option.some.inj (hs.symm.trans hs')
    rw [ho] at h
    exact absurd h (by simp [hne])
  foreign src' hs' _ := by
    obtain rfl : src = src' := Option.some.inj (hs.symm.trans hs')
    rfl
  unsourced h := by
    rw [hs] at h
    cases h

theorem foldedImage_of_unsourced {policy : Policy} {earlier : List String} {p : Properties}
    (hs : p.getText? "src" = none) : FoldedImage policy earlier p p where
  reduced_iff src hs' := by
    rw [hs] at hs'
    cases hs'
  own src origin hs' := by
    rw [hs] at hs'
    cases hs'
  foreign src hs' := by
    rw [hs] at hs'
    cases hs'
  unsourced _ := rfl

/-- The second pass at an image, given that the lists tell where it comes from. -/
theorem foldVisitor_image {policy : Policy} {m : Metadata} (earlier : List String) {e : Element}
    (hk : isImage e.tag = true) (hn : (e.properties.entries.map (·.1)).Nodup)
    (hm : ∀ src, e.properties.getText? "src" = some src → ∀ origin,
      decodeSource src ∈ recorded m origin ↔
        src ≠ "" ∧ origin? policy (decodeSource src) = some origin) :
    ∃ p', FoldedImage policy earlier e.properties p' ∧
      foldVisitor (earlier.reverse, m) e =
        (((earlier ++ (ownSource? policy e.properties).toList).reverse, m),
          ⟨e.tag, p', e.children⟩, .skip) := by
  rw [foldVisitor, if_pos (by simpa [isImage] using hk)]
  cases hs : e.properties.getText? "src" with
  | none => exact ⟨e.properties, foldedImage_of_unsourced hs, by simp [ownSource?, hs]⟩
  | some src =>
    have hremote : m.remoteImages.contains (decodeSource src) = true ↔
        src ≠ "" ∧ origin? policy (decodeSource src) = some .remote := by
      rw [List.contains_iff_mem]
      exact hm src hs .remote
    have hrelative : m.relativeImages.contains (decodeSource src) = true ↔
        src ≠ "" ∧ origin? policy (decodeSource src) = some .relative := by
      rw [List.contains_iff_mem]
      exact hm src hs .relative
    have hrecorded : (m.remoteImages.contains (decodeSource src) ||
        m.relativeImages.contains (decodeSource src)) = true ↔
          src ≠ "" ∧ (origin? policy (decodeSource src)).isSome := by
      rw [Bool.or_eq_true, hremote, hrelative]
      cases origin? policy (decodeSource src) with
      | none => simp
      | some origin => cases origin <;> simp
    dsimp only
    rw [ownSource?, hs]
    by_cases hown : src ≠ "" ∧ (origin? policy (decodeSource src)).isSome
    · obtain ⟨origin, ho⟩ := Option.isSome_iff_exists.mp hown.2
      have hd := describes_foldedFields hn (decodeSource src) (earlier.count (decodeSource src))
        (m.remoteImages.contains (decodeSource src))
      have hisRemote : (src ≠ "" ∧ some origin = some .remote) = (origin = .remote) := by
        simp [hown.1]
      rw [hremote, ho, hisRemote] at hd
      refine ⟨_, foldedImage_of_own hs hown.1 ho hd, ?_⟩
      rw [if_pos (hrecorded.mpr hown), List.count_reverse]
      simp only [if_pos hown, Option.toList_some, List.reverse_append, List.reverse_singleton,
        List.singleton_append]
      rfl
    · have hforeign : src = "" ∨ origin? policy (decodeSource src) = none := by
        by_cases hne : src = ""
        · exact .inl hne
        · exact .inr (by simpa [hne] using hown)
      refine ⟨_, foldedImage_of_foreign hs hforeign, ?_⟩
      rw [if_neg (mt hrecorded.mp hown)]
      simp only [if_neg hown, Option.toList_none, List.append_nil]
      rfl

theorem ownSources_image (policy : Policy) (p : Properties) (children ns : List Node) :
    ownSources policy (.element "img" p children :: ns) =
      (ownSource? policy p).toList ++ ownSources policy ns := by
  rw [ownSources, outermost, Node.outermost, if_pos (by decide), List.filterMap_append]
  cases h : ownSource? policy p <;> simp [h, ownSources]

theorem ownSources_element {tag : String} (hk : ¬ isImage tag = true) (policy : Policy)
    (p : Properties) (children ns : List Node) :
    ownSources policy (.element tag p children :: ns) =
      ownSources policy children ++ ownSources policy ns := by
  rw [ownSources, outermost, Node.outermost, if_neg hk, List.filterMap_append]
  rfl

theorem folded_replaceOutermost {policy : Policy} {m : Metadata} (earlier : List String)
    {ns : List Node}
    (h : ∀ e ∈ outermost isImage ns, (e.properties.entries.map (·.1)).Nodup ∧
      ∀ src, e.properties.getText? "src" = some src → ∀ origin,
        decodeSource src ∈ recorded m origin ↔
          src ≠ "" ∧ origin? policy (decodeSource src) = some origin) :
    (replaceOutermost isImage (skipped foldVisitor) (earlier.reverse, m) ns).1 =
        ((earlier ++ ownSources policy ns).reverse, m) ∧
      Folded policy earlier ns
        (replaceOutermost isImage (skipped foldVisitor) (earlier.reverse, m) ns).2 := by
  -- The state holds the sources that were folded, the last one first.
  induction ns using nodes_induction generalizing earlier with
  | nil => exact ⟨by simp [replaceOutermost, ownSources, outermost], .nil earlier⟩
  | text t ns ih =>
    obtain ⟨hs, hf⟩ := ih earlier h
    exact ⟨hs, .text t hf⟩
  | raw t ns ih =>
    obtain ⟨hs, hf⟩ := ih earlier h
    exact ⟨hs, .raw t hf⟩
  | element tag p children ns ihi ih =>
    rw [outermost, Node.outermost] at h
    rw [replaceOutermost, Node.replaceOutermost]
    split at h
    · rename_i hk
      obtain ⟨hn, hm⟩ := h ⟨tag, p, children⟩ List.mem_cons_self
      obtain ⟨p', hp, hv⟩ := foldVisitor_image earlier hk hn hm
      obtain ⟨hs, hf⟩ := ih (earlier ++ (ownSource? policy p).toList)
        fun e he => h e (List.mem_cons_of_mem _ he)
      obtain rfl : tag = "img" := by simpa [isImage] using hk
      rw [if_pos hk, skipped, hv]
      refine ⟨?_, .image hp hf⟩
      dsimp only
      rw [hs, List.append_assoc, ← ownSources_image]
    · rename_i hk
      obtain ⟨hsi, hfi⟩ := ihi earlier fun e he => h e (List.mem_append_left _ he)
      obtain ⟨hs, hf⟩ := ih (earlier ++ ownSources policy children)
        fun e he => h e (List.mem_append_right _ he)
      rw [if_neg hk]
      dsimp only
      rw [hsi]
      refine ⟨?_, .element (by simpa [isImage] using hk) hfi hf⟩
      rw [hs, List.append_assoc, ← ownSources_element hk]

theorem foldProperties_yields (m : Metadata) (ns : List Node) :
    foldProperties.Yields ⟨ns, m⟩
      ⟨(replaceOutermost isImage (skipped foldVisitor) ([], m) ns).2,
        (replaceOutermost isImage (skipped foldVisitor) ([], m) ns).1.2⟩ := by
  refine Transform.ofStatefulVisitor_yields (traversal_skipped isImage ?_ ?_ ([], m) ns)
  · intro s e hk
    rw [foldVisitor, if_neg (by simpa [isImage] using hk)]
  · intro s e hk
    rw [foldVisitor, if_pos (by simpa [isImage] using hk)]
    split
    · rfl
    · dsimp only
      split <;> rfl

theorem foldProperties_collected (policy : Policy) {ns : List Node}
    (h : ∀ e ∈ outermost isImage ns, (e.properties.entries.map (·.1)).Nodup) :
    ∃ ns', foldProperties.Yields ⟨ns, collected policy ns⟩ ⟨ns', collected policy ns⟩ ∧
      Folded policy [] ns ns' := by
  obtain ⟨hs, hf⟩ := folded_replaceOutermost [] fun e he =>
    ⟨h e he, fun src hs origin => mem_recorded_iff policy he hs origin⟩
  have hy := foldProperties_yields (collected policy ns) ns
  rw [show ([] : List String) = [].reverse from rfl, hs] at hy
  exact ⟨_, hy, hf⟩

/-- The two passes agree on the images of the document. The first leaves the tree as it is; the
second folds, among the images that stand in no other image, those with a source that is not empty
and has an origin. Each of them tells how many images before it had the same decoded source. -/
theorem collect_foldProperties {policy : Policy} {ns : List Node}
    (h : ∀ e ∈ outermost isImage ns, (e.properties.entries.map (·.1)).Nodup) :
    ∃ m ns', (collect policy).Yields ⟨ns, {}⟩ ⟨ns, m⟩ ∧ foldProperties.Yields ⟨ns, m⟩ ⟨ns', m⟩ ∧
      Folded policy [] ns ns' := by
  obtain ⟨ns', hy, hf⟩ := foldProperties_collected policy h
  exact ⟨collected policy ns, ns', collect_yields policy ns, hy, hf⟩

/-- Two spellings of one source, an allowed URL, and a path from the root. -/
def gallery : List Node :=
  [.element "p" {} [.element "img" ⟨[("src", .text "a%20b.png"), ("alt", .text "first")]⟩ []],
    .element "img" ⟨[("src", .text "a b.png")]⟩ [],
    .element "img" ⟨[("src", .text "https://example.com/c.png"), ("width", .text "40")]⟩ [],
    .element "img" ⟨[("src", .text "/d%20e.png")]⟩ []]

theorem collect_foldProperties_gallery :
    (∀ e ∈ outermost isImage gallery, (e.properties.entries.map (·.1)).Nodup) ∧
      ∃ m ns', (collect ⟨["example.com"], []⟩).Yields ⟨gallery, {}⟩ ⟨gallery, m⟩ ∧
        foldProperties.Yields ⟨gallery, m⟩ ⟨ns', m⟩ ∧
        Folded ⟨["example.com"], []⟩ [] gallery ns' := by
  have hnames : ∀ e ∈ outermost isImage gallery, (e.properties.entries.map (·.1)).Nodup := by
    decide
  exact ⟨hnames, collect_foldProperties hnames⟩

/-- An image with an encoded source that stands in another image. -/
def innerImage : Node :=
  .element "img" ⟨[("src", .text "b%20c.png")]⟩ []

def nestedImages : List Node :=
  [.element "img" ⟨[("src", .text "a.png")]⟩ [innerImage]]

/-- An image that stands in another one keeps its source as it is written. -/
theorem innerImage_kept :
    decodeSource "b%20c.png" = "b c.png" ∧ ∃ m p',
      (collect {}).Yields ⟨nestedImages, {}⟩ ⟨nestedImages, m⟩ ∧
        foldProperties.Yields ⟨nestedImages, m⟩ ⟨[.element "img" p' [innerImage]], m⟩ := by
  have hnames : ∀ e ∈ outermost isImage nestedImages,
      (e.properties.entries.map (·.1)).Nodup := by
    decide
  obtain ⟨ns', hy, hf⟩ := foldProperties_collected {} hnames
  refine ⟨by decide +kernel, collected {} nestedImages, ?_⟩
  cases hf with
  | @image _ _ p' _ _ _ _ h =>
    cases h
    exact ⟨p', collect_yields _ _, hy⟩
  | element ht => exact absurd rfl ht

end Image

end Folio
