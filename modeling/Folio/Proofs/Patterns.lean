import Mathlib.Data.List.DropRight
import Folio.Image.Policy
import Folio.Proofs.Search

/-! What a pattern matches. In front of a domain `*.` stands for one more label and `**.` for any
number of them, behind a path `*` stands for one more segment and `**` for any rest. -/

namespace Folio.Image

variable {d q s t r host path : List Char}

theorem dropPrefix?_eq_some_iff : Text.dropPrefix? t s = some r ↔ s = t ++ r := by
  constructor
  · exact eq_append_of_dropPrefix?
  · rintro rfl
    exact dropPrefix?_append t r

theorem dropSuffix?_eq_some_iff : dropSuffix? t s = some r ↔ s = r ++ t := by
  simp only [dropSuffix?, Option.map_eq_some_iff, dropPrefix?_eq_some_iff]
  constructor
  · rintro ⟨l, hl, rfl⟩
    simpa using congrArg List.reverse hl
  · rintro rfl
    exact ⟨r.reverse, List.reverse_append, List.reverse_reverse r⟩

/-- The comparison with the domain itself changes nothing: the dot is there or not. -/
theorem hostMatches_double_iff :
    hostMatches ('*' :: '*' :: '.' :: d) host = true ↔ '.' :: d <:+ host := by
  simp only [hostMatches, Bool.and_eq_true, bne_iff_ne, Option.isSome_iff_exists,
    dropSuffix?_eq_some_iff]
  constructor
  · rintro ⟨-, r, rfl⟩
    exact List.suffix_append r _
  · rintro ⟨r, rfl⟩
    refine ⟨fun he => ?_, r, rfl⟩
    have hlength := congrArg List.length he
    simp at hlength
    omega

theorem hostMatches_single_iff :
    hostMatches ('*' :: '.' :: d) host = true ↔
      ∃ labels, host = labels ++ '.' :: d ∧ (Text.fields (· = '.') labels).length = 1 := by
  have htest : hostMatches ('*' :: '.' :: d) host =
      (dropSuffix? ('.' :: d) host).any fun labels =>
        (Text.fields (· = '.') labels).length == 1 := by
    rw [hostMatches]
    cases dropSuffix? ('.' :: d) host <;> rfl
  simp only [htest, Option.any_eq_true, dropSuffix?_eq_some_iff, beq_iff_eq]

theorem pathMatches_double_iff :
    pathMatches (q ++ ['*', '*']) path = true ↔
      q <+: path ∧ path ≠ Text.dropRightWhile (· = '/') q := by
  have hpattern : (q ++ ['*', '*']).reverse = '*' :: '*' :: q.reverse := by simp
  rw [pathMatches, hpattern]
  simp only [List.reverse_reverse, Bool.and_eq_true, bne_iff_ne, Option.isSome_iff_exists,
    dropPrefix?_eq_some_iff]
  constructor
  · rintro ⟨hne, r, rfl⟩
    exact ⟨List.prefix_append q r, hne⟩
  · rintro ⟨⟨r, rfl⟩, hne⟩
    exact ⟨hne, r, rfl⟩

theorem pathMatches_single_iff (hq : q.getLast? ≠ some '*') :
    pathMatches (q ++ ['*']) path = true ↔
      ∃ segments, path = q ++ segments ∧ (Text.fields (· = '/') segments).length = 1 := by
  have htest : pathMatches (q ++ ['*']) path =
      (Text.dropPrefix? q path).any fun segments =>
        (Text.fields (· = '/') segments).length == 1 := by
    rw [pathMatches, List.reverse_append, List.reverse_singleton, List.singleton_append]
    split
    · rename_i hnil
      cases hnil
    · rename_i start hstart
      -- Behind a star the last one would make a double wildcard.
      obtain ⟨l, hl⟩ : ∃ l, q.reverse = '*' :: l := ⟨_, (List.cons.inj hstart).2⟩
      exact absurd (by rw [← List.head?_reverse, hl]; rfl) hq
    · rename_i start _ hstart
      obtain rfl : q.reverse = start := (List.cons.inj hstart).2
      rw [List.reverse_reverse]
      cases Text.dropPrefix? q path <;> rfl
    · rename_i hother
      exact (hother _ rfl).elim
  simp only [htest, Option.any_eq_true, dropPrefix?_eq_some_iff, beq_iff_eq]

/-- One more label is some labels. -/
theorem hostMatches_double_of_single (hm : hostMatches ('*' :: '.' :: d) host = true) :
    hostMatches ('*' :: '*' :: '.' :: d) host = true := by
  obtain ⟨labels, rfl, -⟩ := hostMatches_single_iff.mp hm
  exact hostMatches_double_iff.mpr (List.suffix_append labels _)

theorem pathMatches_double_of_single (hq : q.getLast? ≠ some '*')
    (hm : pathMatches (q ++ ['*']) path = true) : pathMatches (q ++ ['*', '*']) path = true := by
  obtain ⟨segments, rfl, hcount⟩ := (pathMatches_single_iff hq).mp hm
  refine pathMatches_double_iff.mpr ⟨List.prefix_append q segments, fun he => ?_⟩
  have hsegments : segments = [] := by
    have hprefix : Text.dropRightWhile (· = '/') q <+: q := List.rdropWhile_prefix ..
    have hlength := hprefix.length_le
    rw [← he, List.length_append] at hlength
    exact List.length_eq_zero_iff.mp (by omega)
  rw [hsegments] at hcount
  cases hcount

namespace RemotePattern

/-- Whether a policy of this pattern alone allows a source. -/
def allows (p : RemotePattern) (src : String) : Bool :=
  Policy.allows ⟨[], [p]⟩ src

def withHost (p : RemotePattern) (name : String) : RemotePattern :=
  { p with host := some name }

def withPath (p : RemotePattern) (path : String) : RemotePattern :=
  { p with path := some path }

variable {p : RemotePattern} {src name : String} {url : Url}

theorem allows_iff : p.allows src = true ↔
    ∃ url, Url.parse? src.toList = some url ∧ p.accepts url = true := by
  rw [allows, Policy.allows]
  cases Url.parse? src.toList <;> simp [Policy.accepts]

theorem accepts_withHost : (p.withHost name).accepts url =
    ({ p with host := none : RemotePattern }.accepts url && hostMatches name.toList url.host) := by
  simp only [accepts, withHost, partMatches, Bool.and_true, Bool.and_assoc]
  rw [Bool.and_comm (hostMatches _ _)]

theorem accepts_withPath : (p.withPath name).accepts url =
    ({ p with path := none : RemotePattern }.accepts url && pathMatches name.toList url.path) := by
  simp only [accepts, withPath, partMatches, Bool.and_true]

theorem allows_mono {p' : RemotePattern}
    (h : ∀ url, p.accepts url = true → p'.accepts url = true) (hp : p.allows src = true) :
    p'.allows src = true := by
  obtain ⟨url, hurl, hp⟩ := allows_iff.mp hp
  exact allows_iff.mpr ⟨url, hurl, h url hp⟩

/-- A single wildcard matches no more than a double one, which in turn matches no host but those
with labels in front of the dot and the domain, so none that only ends like the domain, and no path
but those that start like the pattern. -/
theorem wildcards_ordered (p : RemotePattern) (src : String) :
    (∀ d : String,
      ((p.withHost ("*." ++ d)).allows src = true →
        (p.withHost ("**." ++ d)).allows src = true) ∧
      ((p.withHost ("**." ++ d)).allows src = true →
        ∃ url, Url.parse? src.toList = some url ∧ '.' :: d.toList <:+ url.host ∧
          url.host ≠ d.toList ∧
          ∀ e, e.getLast? ≠ some '.' → url.host ≠ e ++ d.toList)) ∧
    ∀ q : String,
      (q.toList.getLast? ≠ some '*' → (p.withPath (q ++ "*")).allows src = true →
        (p.withPath (q ++ "**")).allows src = true) ∧
      ((p.withPath (q ++ "**")).allows src = true →
        ∃ url, Url.parse? src.toList = some url ∧ q.toList <+: url.path) := by
  refine ⟨fun d => ⟨allows_mono fun url hm => ?_, fun hp => ?_⟩,
    fun q => ⟨fun hq => allows_mono fun url hm => ?_, fun hp => ?_⟩⟩
  · rw [accepts_withHost, Bool.and_eq_true, String.toList_append] at hm ⊢
    exact ⟨hm.1, hostMatches_double_of_single hm.2⟩
  · obtain ⟨url, hurl, hp⟩ := allows_iff.mp hp
    rw [accepts_withHost, Bool.and_eq_true, String.toList_append] at hp
    have hsuffix := hostMatches_double_iff.mp hp.2
    have hlookalike : ∀ e, e.getLast? ≠ some '.' → url.host ≠ e ++ d.toList := by
      intro e he hhost
      obtain ⟨r, hr⟩ := hsuffix
      rw [hhost, ← List.singleton_append, ← List.append_assoc] at hr
      obtain rfl : r ++ ['.'] = e := List.append_cancel_right hr
      exact he (by simp)
    exact ⟨url, hurl, hsuffix, hlookalike [] (by simp), hlookalike⟩
  · rw [accepts_withPath, Bool.and_eq_true, String.toList_append] at hm ⊢
    exact ⟨hm.1, pathMatches_double_of_single hq hm.2⟩
  · obtain ⟨url, hurl, hp⟩ := allows_iff.mp hp
    rw [accepts_withPath, Bool.and_eq_true, String.toList_append] at hp
    exact ⟨url, hurl, (pathMatches_double_iff.mp hp.2).1⟩

/-- Empty labels and segments count neither for the single wildcard nor against it. -/
theorem wildcards_ordered_emptyParts :
    let p : RemotePattern := { scheme := some "https" }
    let src := "https://.img..cdn.net/assets//a.png/"
    (p.withHost "*.cdn.net").allows src = true ∧ (p.withHost "**.cdn.net").allows src = true ∧
      (∃ url, Url.parse? src.toList = some url ∧ '.' :: "cdn.net".toList <:+ url.host) ∧
      "/assets/".toList.getLast? ≠ some '*' ∧ (p.withPath "/assets/*").allows src = true ∧
      (p.withPath "/assets/**").allows src = true ∧
      ∃ url, Url.parse? src.toList = some url ∧ "/assets/".toList <+: url.path := by
  intro p src
  obtain ⟨hhost, hpath⟩ := wildcards_ordered p src
  have hlabel : (p.withHost "*.cdn.net").allows src = true := by decide +kernel
  have hlabels : (p.withHost "**.cdn.net").allows src = true := (hhost "cdn.net").1 hlabel
  have hslash : "/assets/".toList.getLast? ≠ some '*' := by decide +kernel
  have hsegment : (p.withPath "/assets/*").allows src = true := by decide +kernel
  have hsegments : (p.withPath "/assets/**").allows src = true :=
    (hpath "/assets/").1 hslash hsegment
  obtain ⟨url, hurl, hsuffix, -⟩ := (hhost "cdn.net").2 hlabels
  exact ⟨hlabel, hlabels, ⟨url, hurl, hsuffix⟩, hslash, hsegment, hsegments,
    (hpath "/assets/").2 hsegments⟩

end RemotePattern

end Folio.Image
