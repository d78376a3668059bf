import Mathlib.Data.List.DropRight
import Folio.Image.Policy
import Folio.Proofs.Runs

/-! Who a URL speaks to. Scheme, host and port are read from what stands before the path, the query
and the fragment, and nothing in these can change them. -/

namespace Folio

theorem Text.dropRightWhile_append {p : Char → Bool} {s : List Char}
    (hs : ∀ c ∈ s.getLast?, p c = false) (t : List Char) :
    dropRightWhile p (s ++ t) = s ++ dropRightWhile p t := by
  rw [← List.head?_reverse] at hs
  rw [dropRightWhile, List.reverse_append, (span_append_of_stop hs).2, List.reverse_append,
    List.reverse_reverse]
  rfl

namespace Image

/-- A scheme as URLs have it. -/
def IsScheme (s : List Char) : Prop :=
  (∃ c ∈ s.head?, c.isAlpha = true) ∧ ∀ c ∈ s, isSchemeChar c = true

/-- What may follow the host and the port: nothing, or a path, a query or a fragment. -/
def IsTail (t : List Char) : Prop :=
  ∀ c ∈ t.head?, c = '/' ∨ c = '?' ∨ c = '#'

/-- An authority whose end is told by the first character of the tail. -/
def IsAuthority (a : List Char) : Prop :=
  ∀ c ∈ a, c ≠ '/' ∧ c ≠ '?' ∧ c ≠ '#' ∧ c ≠ '[' ∧ Text.isBlank c = false

instance (s : List Char) : Decidable (IsScheme s) :=
  decidable_of_iff ((s.head?.any Char.isAlpha && s.all isSchemeChar) = true) (by
    cases s <;> simp [IsScheme])

instance (t : List Char) : Decidable (IsTail t) :=
  decidable_of_iff ((t.head?.all fun c => c = '/' ∨ c = '?' ∨ c = '#') = true) (by
    cases t <;> simp [IsTail])

instance (a : List Char) : Decidable (IsAuthority a) :=
  List.decidableBAll _ a

variable {s a t : List Char}

theorem IsTail.stops (ht : IsTail t) {p : Char → Bool} (hslash : p '/' = false)
    (hquestion : p '?' = false) (hhash : p '#' = false) : ∀ c ∈ t.head?, p c = false := by
  intro c hc
  rcases ht c hc with rfl | rfl | rfl
  · exact hslash
  · exact hquestion
  · exact hhash

theorem IsTail.ne_cons (ht : IsTail t) {c : Char} (hc : ¬ (c = '/' ∨ c = '?' ∨ c = '#'))
    (r : List Char) : t ≠ c :: r := by
  rintro rfl
  exact hc (ht c rfl)

theorem IsTail.dropRightWhile (ht : IsTail t) (p : Char → Bool) :
    IsTail (Text.dropRightWhile p t) := by
  intro c hc
  obtain ⟨r, hr⟩ : Text.dropRightWhile p t <+: t := List.rdropWhile_prefix ..
  refine ht c ?_
  rw [← hr, List.head?_append, hc]
  rfl

theorem dropUserInfo_append (ht : IsTail t) : dropUserInfo (a ++ t) = dropUserInfo a ++ t := by
  have hrest := (span_append_of_stop (a := a) (ht.stops (p := fun c =>
    c ≠ '@' && c ≠ '/' && c ≠ '?' && c ≠ '#') rfl rfl rfl)).2
  unfold dropUserInfo
  rw [hrest]
  cases hd : a.dropWhile fun c => c ≠ '@' && c ≠ '/' && c ≠ '?' && c ≠ '#' with
  | nil =>
    split
    · rename_i r hr
      exact absurd hr (ht.ne_cons (by decide) r)
    · rfl
  | cons c r =>
    by_cases hc : c = '@'
    · subst hc
      rfl
    · simp [hc]

theorem mem_of_mem_dropUserInfo {c : Char} (h : c ∈ dropUserInfo a) : c ∈ a := by
  unfold dropUserInfo at h
  split at h
  · rename_i r hr
    have hmem : c ∈ a.dropWhile fun c => c ≠ '@' && c ≠ '/' && c ≠ '?' && c ≠ '#' := by
      rw [hr]
      exact List.mem_cons_of_mem _ h
    exact (List.dropWhile_sublist _).subset hmem
  · exact h

theorem host_of_ne_bracket (hs : ∀ r, s ≠ '[' :: r) :
    host s = (s.takeWhile isHostChar, s.dropWhile isHostChar) := by
  unfold host
  split
  · rename_i r
    exact absurd rfl (hs r)
  · rfl

theorem host_append (ht : IsTail t) (ha : '[' ∉ a) :
    host (a ++ t) = ((host a).1, (host a).2 ++ t) := by
  have hspan := span_append_of_stop (a := a) (ht.stops (p := isHostChar) rfl rfl rfl)
  have hne : ∀ r, a ≠ '[' :: r := by
    rintro r rfl
    exact ha List.mem_cons_self
  have hne' : ∀ r, a ++ t ≠ '[' :: r := by
    intro r hr
    cases a with
    | nil => exact ht.ne_cons (by decide) r hr
    | cons c a => exact hne a (by rw [(List.cons.inj hr).1])
  rw [host_of_ne_bracket hne, host_of_ne_bracket hne', hspan.1, hspan.2]

theorem port_append (ht : IsTail t) : port (a ++ t) = ((port a).1, (port a).2 ++ t) := by
  cases a with
  | nil =>
    unfold port
    split
    · rename_i r hr
      exact absurd hr (ht.ne_cons (by decide) r)
    · rfl
  | cons c a =>
    have hspan := span_append_of_stop (a := a) (ht.stops (p := Char.isDigit) rfl rfl rfl)
    by_cases hc : c = ':'
    · subst hc
      exact Prod.ext hspan.1 hspan.2
    · simp [port, hc]

theorem authority_append (ha : IsAuthority a) (ht : IsTail t) :
    authority ('/' :: '/' :: (a ++ t)) =
      ((authority ('/' :: '/' :: a)).1, (authority ('/' :: '/' :: a)).2.1,
        (authority ('/' :: '/' :: a)).2.2 ++ t) := by
  have hbracket : '[' ∉ dropUserInfo a := fun h =>
    (ha '[' (mem_of_mem_dropUserInfo h)).2.2.2.1 rfl
  simp only [authority, dropUserInfo_append ht, host_append ht hbracket, port_append ht]

theorem scheme?_append (hs : IsScheme s) (r : List Char) :
    scheme? (s ++ ':' :: r) = some (s, r) := by
  obtain ⟨⟨c, hc, halpha⟩, hchars⟩ := hs
  obtain ⟨l, rfl⟩ := List.head?_eq_some_iff.mp hc
  have hspan := span_append (b := ':' :: r) hchars (by rintro _ ⟨⟩; rfl)
  rw [List.cons_append] at hspan ⊢
  rw [scheme?, if_pos halpha, hspan.1, hspan.2]
  rfl

/-- The text of a URL up to its tail. -/
def urlStart (s a : List Char) : List Char :=
  s ++ ':' :: '/' :: '/' :: a

theorem toNat_of_isAlpha {c : Char} (h : c.isAlpha = true) : 65 ≤ c.toNat ∧ c.toNat ≤ 122 := by
  have hcases : (c.isUpper || c.isLower) = true := h
  rcases Bool.or_eq_true_iff.mp hcases with hupper | hlower
  · have hrange : 'A'.val ≤ c.val ∧ c.val ≤ 'Z'.val := of_decide_eq_true hupper
    exact ⟨hrange.1, Nat.le_trans hrange.2 (by decide)⟩
  · have hrange : 'a'.val ≤ c.val ∧ c.val ≤ 'z'.val :=
      ⟨of_decide_eq_true (Bool.and_eq_true_iff.mp hlower).1,
        of_decide_eq_true (Bool.and_eq_true_iff.mp hlower).2⟩
    exact ⟨Nat.le_trans (by decide) hrange.1, hrange.2⟩

theorem isBlank_of_isAlpha {c : Char} (h : c.isAlpha = true) : Text.isBlank c = false := by
  have hrange := toNat_of_isAlpha h
  simp [Text.isBlank]
  omega

/-- Blanks behind a URL belong to its tail. -/
theorem trim_urlStart_append (hs : IsScheme s) (ha : ∀ c ∈ a, Text.isBlank c = false)
    (t : List Char) :
    Text.trim (urlStart s a ++ t) = urlStart s a ++ Text.dropRightWhile Text.isBlank t := by
  have hlast : ∀ c ∈ (urlStart s a).getLast?, Text.isBlank c = false := by
    intro c hc
    have hmem : c ∈ ':' :: '/' :: '/' :: a := by
      rw [urlStart, List.getLast?_append_of_ne_nil _ (List.cons_ne_nil _ _)] at hc
      exact List.mem_of_getLast? hc
    rcases List.mem_cons.mp hmem with rfl | hmem
    · rfl
    rcases List.mem_cons.mp hmem with rfl | hmem
    · rfl
    rcases List.mem_cons.mp hmem with rfl | hmem
    · rfl
    · exact ha c hmem
  have hfirst : Text.trimLeft (urlStart s a ++ t) = urlStart s a ++ t := by
    obtain ⟨⟨c, hc, halpha⟩, -⟩ := hs
    obtain ⟨l, rfl⟩ := List.head?_eq_some_iff.mp hc
    exact List.dropWhile_cons_of_neg (by simp [isBlank_of_isAlpha halpha])
  rw [Text.trim, hfirst, Text.trimRight, Text.dropRightWhile_append hlast]

/-- Scheme, host and port of a URL with these parts, and a path. -/
def Url.at (s a path : List Char) : Url where
  scheme := s.map Char.toLower
  host := (authority ('/' :: '/' :: a)).1.map Char.toLower
  port :=
    let port := (authority ('/' :: '/' :: a)).2.1
    if defaultPort? (s.map Char.toLower) = some port then [] else port
  path

theorem parse?_append_tail (hs : IsScheme s) (ha : IsAuthority a) (ht : IsTail t) :
    ∃ path, Url.parse? (urlStart s a ++ t) = some (.at s a path) := by
  have hblank : ∀ c ∈ a, Text.isBlank c = false := fun c hc => (ha c hc).2.2.2.2
  rw [Url.parse?, trim_urlStart_append hs hblank, urlStart, List.append_assoc, List.cons_append,
    List.cons_append, List.cons_append, scheme?_append hs]
  simp only [Option.map_some, authority_append ha (ht.dropRightWhile _)]
  exact ⟨_, rfl⟩

namespace Policy

/-- Patterns without a path see no more of a URL than scheme, host and port. -/
theorem accepts_congr {policy : Policy} (hp : ∀ p ∈ policy.patterns, p.path = none) {u v : Url}
    (hscheme : u.scheme = v.scheme) (hhost : u.host = v.host) (hport : u.port = v.port) :
    policy.accepts u = policy.accepts v := by
  have hpattern : ∀ p ∈ policy.patterns, p.accepts u = p.accepts v := by
    intro p h
    rw [RemotePattern.accepts, RemotePattern.accepts, hp p h, hscheme, hhost, hport]
    rfl
  have hany : (policy.patterns.any fun p => p.accepts u) =
      policy.patterns.any fun p => p.accepts v := by
    rw [Bool.eq_iff_iff, List.any_eq_true, List.any_eq_true]
    exact exists_congr fun p => and_congr_right fun h => by rw [hpattern p h]
  rw [accepts, accepts, hhost, hany]

end Policy

/-- No path, query or fragment, whatever stands in it, makes a URL seem to have another scheme,
host or port; and so, where the patterns of a policy leave the path open, it has no say in what the
policy allows. -/
theorem tail_keeps_authority {s a : String} (hs : IsScheme s.toList) (ha : IsAuthority a.toList) :
    (∃ url : Url, ∀ t : String, IsTail t.toList →
      ∃ path, Url.parse? (s ++ "://" ++ a ++ t).toList = some { url with path := path }) ∧
    ∀ policy : Policy, (∀ p ∈ policy.patterns, p.path = none) → ∀ t t' : String,
      IsTail t.toList → IsTail t'.toList →
      policy.allows (s ++ "://" ++ a ++ t) = policy.allows (s ++ "://" ++ a ++ t') := by
  have hparse : ∀ t : String, IsTail t.toList →
      ∃ path, Url.parse? (s ++ "://" ++ a ++ t).toList = some (.at s.toList a.toList path) := by
    intro t ht
    have htext : (s ++ "://" ++ a ++ t).toList = urlStart s.toList a.toList ++ t.toList := by
      simp [urlStart]
    rw [htext]
    exact parse?_append_tail hs ha ht
  refine ⟨⟨.at s.toList a.toList [], hparse⟩, fun policy hp t t' ht ht' => ?_⟩
  obtain ⟨path, hpath⟩ := hparse t ht
  obtain ⟨path', hpath'⟩ := hparse t' ht'
  rw [Policy.allows, Policy.allows, hpath, hpath']
  exact Policy.accepts_congr hp rfl rfl rfl

def exampleSites : Policy :=
  ⟨["img.example"], [⟨some "https", some "**.example", none, none⟩]⟩

theorem tail_keeps_authority_lookalike :
    IsScheme "HTTPS".toList ∧ IsAuthority "me@img.example:443".toList ∧
      (∀ p ∈ exampleSites.patterns, p.path = none) ∧ IsTail "".toList ∧
      IsTail "/@evil.test:80/?[x]://evil.test#@".toList ∧
      exampleSites.allows ("HTTPS" ++ "://" ++ "me@img.example:443" ++ "") =
        exampleSites.allows
          ("HTTPS" ++ "://" ++ "me@img.example:443" ++ "/@evil.test:80/?[x]://evil.test#@") := by
  have hs : IsScheme "HTTPS".toList := by decide +kernel
  have ha : IsAuthority "me@img.example:443".toList := by decide +kernel
  have hp : ∀ p ∈ exampleSites.patterns, p.path = none := by decide
  have ht : IsTail "".toList := by decide +kernel
  have ht' : IsTail "/@evil.test:80/?[x]://evil.test#@".toList := by decide +kernel
  exact ⟨hs, ha, hp, ht, ht', (tail_keeps_authority hs ha).2 exampleSites hp _ _ ht ht'⟩

end Image

end Folio
