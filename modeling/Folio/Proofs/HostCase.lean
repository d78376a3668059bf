import Folio.Proofs.Patterns
import Folio.Proofs.UrlCase
import Folio.Proofs.UrlParts

/-! The case of the letters of a host. In a URL it never counts, nor in a pattern that names the
host in full; behind a wildcard a pattern has to be in lower case, as hosts are when they are
compared, or it matches nothing. -/

namespace Folio.Image

def IsWildcard (name : List Char) : Prop :=
  ['*', '.'] <+: name ∨ ['*', '*', '.'] <+: name

def IsLower (name : List Char) : Prop :=
  name.map Char.toLower = name

instance (name : List Char) : Decidable (IsWildcard name) :=
  inferInstanceAs (Decidable (_ ∨ _))

instance (name : List Char) : Decidable (IsLower name) :=
  inferInstanceAs (Decidable (_ = _))

def lowercase (name : String) : String :=
  String.ofList (name.toList.map Char.toLower)

variable {name host marks s t : List Char}

theorem IsLower.of_suffix (hs : IsLower s) (ht : t <:+ s) : IsLower t := by
  obtain ⟨r, rfl⟩ := ht
  rw [IsLower, List.map_append] at hs
  exact (List.append_inj hs (List.length_map _)).2

theorem prefix_map_toLower_iff (hm : marks.any Char.isAlpha = false) :
    marks <+: s.map Char.toLower ↔ marks <+: s := by
  induction marks generalizing s with
  | nil => simp
  | cons c marks ih =>
    rw [List.any_cons, Bool.or_eq_false_iff] at hm
    obtain ⟨hc, hm⟩ := hm
    cases s with
    | nil => simp
    | cons d s =>
      rw [List.map_cons, List.cons_prefix_cons, List.cons_prefix_cons, ih hm,
        eq_comm, toLower_eq_iff hc, eq_comm]

theorem isWildcard_map_toLower_iff : IsWildcard (name.map Char.toLower) ↔ IsWildcard name := by
  rw [IsWildcard, IsWildcard, prefix_map_toLower_iff rfl, prefix_map_toLower_iff rfl]

theorem hostMatches_of_not_isWildcard (hname : ¬ IsWildcard name) :
    hostMatches name host = hostIs name host := by
  unfold hostMatches
  split
  · exact absurd (.inr ⟨_, rfl⟩) hname
  · exact absurd (.inl ⟨_, rfl⟩) hname
  · rfl

/-- Hosts are in lower case, and so is what a wildcard pattern names of them. -/
theorem IsWildcard.isLower_of_hostMatches (hname : IsWildcard name) (hhost : IsLower host)
    (hm : hostMatches name host = true) : IsLower name := by
  rcases hname with ⟨d, rfl⟩ | ⟨d, rfl⟩
  · obtain ⟨labels, rfl, -⟩ := hostMatches_single_iff.mp hm
    exact congrArg ('*' :: ·) (hhost.of_suffix (List.suffix_append labels _))
  · exact congrArg ('*' :: '*' :: ·) (hhost.of_suffix (hostMatches_double_iff.mp hm))

theorem hostMatches_eq_and (hhost : IsLower host) :
    hostMatches name host =
      (decide (IsWildcard name → IsLower name) && hostMatches (name.map Char.toLower) host) := by
  by_cases hname : IsWildcard name
  · rw [Bool.eq_iff_iff, Bool.and_eq_true, decide_eq_true_iff]
    constructor
    · intro hm
      have hlower := hname.isLower_of_hostMatches hhost hm
      exact ⟨fun _ => hlower, by rwa [hlower]⟩
    · rintro ⟨hlower, hm⟩
      rwa [hlower hname] at hm
  · have hname' : ¬ IsWildcard (name.map Char.toLower) := fun h =>
      hname (isWildcard_map_toLower_iff.mp h)
    rw [hostMatches_of_not_isWildcard hname, hostMatches_of_not_isWildcard hname', hostIs, hostIs,
      sameIgnoringCase, sameIgnoringCase, map_toLower_map_toLower, List.isEmpty_map,
      decide_eq_true fun h => absurd h hname, Bool.true_and]

namespace RemotePattern

theorem allows_withHost_eq_and (p : RemotePattern) (name src : String) :
    (p.withHost name).allows src =
      (decide (IsWildcard name.toList → IsLower name.toList) &&
        (p.withHost (lowercase name)).allows src) := by
  rw [allows, allows, Policy.allows, Policy.allows]
  cases hurl : Url.parse? src.toList with
  | none => simp
  | some url =>
    simp only [Policy.accepts, List.any_nil, List.any_cons, Bool.or_false, Bool.false_or,
      accepts_withHost, lowercase, String.toList_ofList]
    rw [hostMatches_eq_and (host_of_parse? hurl), Bool.and_left_comm]

end RemotePattern

namespace Policy

theorem allows_insert (hosts : List String) (before after : List RemotePattern) (p : RemotePattern)
    (src : String) :
    Policy.allows ⟨hosts, before ++ p :: after⟩ src =
      (Policy.allows ⟨hosts, before ++ after⟩ src || p.allows src) := by
  rw [allows, allows, RemotePattern.allows, allows]
  cases Url.parse? src.toList with
  | none => rfl
  | some url =>
    simp only [accepts, List.any_append, List.any_cons, List.any_nil, Bool.or_false, Bool.false_or]
    ac_rfl

/-- Writing the host of a pattern with other capitals changes nothing at a source if and only if
the host has no wildcard, or both spellings are in lower case or neither is, or the pattern in lower
case would add nothing there. In a source capitals count in the path alone, so never in the host. -/
theorem allows_letterCase (policy : Policy) (src : String) :
    (∀ (before after : List RemotePattern) (p : RemotePattern) (name name' : String),
      policy.patterns = before ++ p.withHost name :: after →
      sameIgnoringCase name.toList name'.toList = true →
      (policy.allows src =
          Policy.allows ⟨policy.hosts, before ++ p.withHost name' :: after⟩ src ↔
        ¬ IsWildcard name.toList ∨ (IsLower name.toList ↔ IsLower name'.toList) ∨
          Policy.allows ⟨policy.hosts, before ++ p.withHost (lowercase name) :: after⟩ src =
            Policy.allows ⟨policy.hosts, before ++ after⟩ src)) ∧
    (∀ src' : String, sameIgnoringCase src.toList src'.toList = true →
      (Url.parse? src.toList).map Url.path = (Url.parse? src'.toList).map Url.path →
      policy.allows src = policy.allows src') ∧
    ∀ (u : UrlParts) (h : List Char) (hh : IsHost h), src = String.ofList u.text →
      sameIgnoringCase u.host h = true →
      policy.allows src =
        policy.allows (String.ofList { u with host := h, isHost := hh : UrlParts }.text) := by
  refine ⟨fun before after p name name' hpatterns hcase => ?_, fun src' hcase hpath => ?_,
    fun u h hh hsrc hcase => ?_⟩
  · have hname : name.toList.map Char.toLower = name'.toList.map Char.toLower := beq_iff_eq.mp hcase
    have hlowercase : lowercase name' = lowercase name := by rw [lowercase, lowercase, hname]
    have hwildcard : IsWildcard name'.toList ↔ IsWildcard name.toList := by
      rw [← isWildcard_map_toLower_iff, ← hname, isWildcard_map_toLower_iff]
    have hpolicy : policy = ⟨policy.hosts, before ++ p.withHost name :: after⟩ := by
      rw [← hpatterns]
    rw [hpolicy]
    simp only [allows_insert, p.allows_withHost_eq_and name, p.allows_withHost_eq_and name',
      hlowercase, hwildcard]
    generalize Policy.allows ⟨policy.hosts, before ++ after⟩ src = others
    generalize (p.withHost (lowercase name)).allows src = lower
    by_cases hwild : IsWildcard name.toList
    · by_cases hl : IsLower name.toList <;> by_cases hl' : IsLower name'.toList <;>
        cases others <;> cases lower <;> simp [hwild, hl, hl']
    · simp [hwild]
  · rw [allows, allows, parse?_eq_of_map_toLower_eq (beq_iff_eq.mp hcase) hpath]
  · rw [hsrc, allows, allows, String.toList_ofList, String.toList_ofList, UrlParts.parse?_text,
      UrlParts.parse?_text, beq_iff_eq.mp hcase]
    rfl

theorem allows_letterCase_mixed :
    let site : RemotePattern := { path := some "/a*" }
    let policy : Policy := ⟨["[Fe80::1]"], [site.withHost "Img.Cdn.net"]⟩
    let src := "HTTPS://Me@Img.CDN.net/a.png?Q"
    let src' := "https://mE@img.cdn.NET/a.png?q"
    (policy.patterns = [] ++ site.withHost "Img.Cdn.net" :: [] ∧
      sameIgnoringCase "Img.Cdn.net".toList "img.cdN.net".toList = true ∧
      policy.allows src =
        Policy.allows ⟨policy.hosts, [] ++ site.withHost "img.cdN.net" :: []⟩ src) ∧
    (sameIgnoringCase src.toList src'.toList = true ∧
      (Url.parse? src.toList).map Url.path = (Url.parse? src'.toList).map Url.path ∧
      policy.allows src = policy.allows src') ∧
    sameIgnoringCase UrlParts.examplePage.host "[fe80::1]".toList = true ∧
      ∃ hh : IsHost "[fe80::1]".toList,
        policy.allows (String.ofList UrlParts.examplePage.text) =
          policy.allows (String.ofList { UrlParts.examplePage with
            host := "[fe80::1]".toList, isHost := hh : UrlParts }.text) := by
  intro site policy src src'
  obtain ⟨hpattern, hsource, -⟩ := allows_letterCase policy src
  have hnames : sameIgnoringCase "Img.Cdn.net".toList "img.cdN.net".toList = true := by
    decide +kernel
  have hfull : ¬ IsWildcard "Img.Cdn.net".toList := by decide +kernel
  have hsources : sameIgnoringCase src.toList src'.toList = true := by decide +kernel
  have hpath : (Url.parse? src.toList).map Url.path = (Url.parse? src'.toList).map Url.path := by
    decide +kernel
  have hhosts : sameIgnoringCase UrlParts.examplePage.host "[fe80::1]".toList = true := by
    decide +kernel
  have hh : IsHost "[fe80::1]".toList := .address (a := "fe80::1".toList) (by decide +kernel)
  exact ⟨⟨rfl, hnames, (hpattern [] [] site _ _ rfl hnames).mpr (.inl hfull)⟩,
    ⟨hsources, hpath, hsource src' hsources hpath⟩, hhosts, hh,
    (allows_letterCase policy (String.ofList UrlParts.examplePage.text)).2.2
      UrlParts.examplePage _ hh rfl hhosts⟩

/-- A capital behind a wildcard shuts out what the same pattern in lower case allows. -/
theorem capital_behind_wildcard :
    sameIgnoringCase "**.CDN.net".toList "**.cdn.net".toList = true ∧
      Policy.allows ⟨[], [{ host := some "**.CDN.net" }]⟩ "https://img.cdn.net/a.png" = false ∧
      Policy.allows ⟨[], [{ host := some "**.cdn.net" }]⟩ "https://img.cdn.net/a.png" = true := by
  decide +kernel

end Policy

end Folio.Image
