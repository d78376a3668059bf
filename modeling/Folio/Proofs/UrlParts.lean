import Folio.Proofs.UrlAuthority

/-! The parts of which a URL is made. Reading a URL gives them back, whichever of the optional ones
are there and whatever marks stand in the path, the query or the fragment. -/

namespace Folio.Image

def isUnblank (c : Char) : Bool :=
  !Text.isBlank c

/-- What an authority is made of, but for the `@` behind the user information. -/
def isAuthorityChar (c : Char) : Bool :=
  c ≠ '@' && c ≠ '/' && c ≠ '?' && c ≠ '#' && isUnblank c

def isPathChar (c : Char) : Bool :=
  c ≠ '?' && c ≠ '#' && isUnblank c

def isNameChar (c : Char) : Bool :=
  isAuthorityChar c && c ≠ ':' && c ≠ '['

/-- Hexadecimal digits, colons and dots. -/
def isAddressChar (c : Char) : Bool :=
  (Text.digitValue? c).isSome || c = ':' || c = '.'

def IsMadeOf (p : Char → Bool) (s : List Char) : Prop :=
  ∀ c ∈ s, p c = true

instance (p : Char → Bool) (s : List Char) : Decidable (IsMadeOf p s) :=
  List.decidableBAll _ s

/-- A host as URLs have it: a name, or an address in brackets. -/
inductive IsHost : List Char → Prop
  | name {h : List Char} : h ≠ [] → IsMadeOf isNameChar h → IsHost h
  | address {a : List Char} : IsMadeOf isAddressChar a → IsHost ('[' :: a ++ [']'])

/-- What a URL has in front of its path. -/
structure Site where
  scheme : List Char
  userInfo : Option (List Char) := none
  host : List Char
  port : Option (List Char) := none
  isScheme : IsScheme scheme
  userInfo_chars : ∀ u ∈ userInfo, IsMadeOf isAuthorityChar u
  isHost : IsHost host
  port_digits : ∀ p ∈ port, IsMadeOf Char.isDigit p

/-- The whole of a URL. -/
structure UrlParts extends Site where
  path : List Char := []
  query : Option (List Char) := none
  fragment : Option (List Char) := none
  path_head : ∀ c ∈ path.head?, c = '/'
  path_chars : IsMadeOf isPathChar path
  query_chars : ∀ q ∈ query, IsMadeOf isUnblank q
  fragment_chars : ∀ f ∈ fragment, IsMadeOf isUnblank f

/-- An optional part behind the mark that announces it. -/
def marked (mark : Char) (part : Option (List Char)) : List Char :=
  match part with
  | some s => mark :: s
  | none => []

def IsDefaultPort (scheme port : List Char) : Prop :=
  scheme = "http".toList ∧ port = "80".toList ∨ scheme = "https".toList ∧ port = "443".toList

instance (scheme port : List Char) : Decidable (IsDefaultPort scheme port) :=
  inferInstanceAs (Decidable (_ ∧ _ ∨ _ ∧ _))

namespace Site

def userText (a : Site) : List Char :=
  match a.userInfo with
  | some u => u ++ ['@']
  | none => []

def text (a : Site) : List Char :=
  urlStart a.scheme (a.userText ++ (a.host ++ marked ':' a.port))

/-- The port, or none where it is the one that the scheme has by default. -/
def effectivePort (a : Site) : List Char :=
  let port := a.port.getD []
  if IsDefaultPort (a.scheme.map Char.toLower) port then [] else port

/-- The URL of a path at a site. -/
def url (a : Site) (path : List Char) : Url where
  scheme := a.scheme.map Char.toLower
  host := a.host.map Char.toLower
  port := a.effectivePort
  path := if path = [] then ['/'] else path

end Site

namespace UrlParts

def tail (u : UrlParts) : List Char :=
  u.path ++ (marked '?' u.query ++ marked '#' u.fragment)

def text (u : UrlParts) : List Char :=
  u.toSite.text ++ u.tail

end UrlParts

variable {a : Site} {c : Char} {h p s t : List Char}

theorem defaultPort?_eq_some_iff : defaultPort? s = some p ↔ IsDefaultPort s p := by
  unfold defaultPort? IsDefaultPort
  split_ifs with hhttp hhttps
  · subst hhttp
    simp [eq_comm]
  · subst hhttps
    simp [eq_comm]
  · simp only [hhttp, hhttps, false_and, or_self]

theorem isMadeOf_marked {q : Char → Bool} {mark : Char} {part : Option (List Char)}
    (hmark : q mark = true) (hpart : ∀ s ∈ part, IsMadeOf q s) : IsMadeOf q (marked mark part) := by
  cases part with
  | none => exact fun _ hc => absurd hc List.not_mem_nil
  | some s => exact List.forall_mem_cons.mpr ⟨hmark, hpart s rfl⟩

theorem digitValue?_isSome_iff :
    (Text.digitValue? c).isSome = true ↔
      ('0' ≤ c ∧ c ≤ '9') ∨ ('a' ≤ c ∧ c ≤ 'f') ∨ ('A' ≤ c ∧ c ≤ 'F') := by
  unfold Text.digitValue?
  split_ifs with hdigit hlower hupper <;> simp [*]

theorem isAddressChar_of_isDigit (hc : c.isDigit = true) : isAddressChar c = true := by
  have hrange := Bool.and_eq_true_iff.mp hc
  have hdigit : '0' ≤ c ∧ c ≤ '9' := ⟨of_decide_eq_true hrange.1, of_decide_eq_true hrange.2⟩
  simp [isAddressChar, digitValue?_isSome_iff, hdigit]

theorem toNat_of_isAddressChar (hc : isAddressChar c = true) : 46 ≤ c.toNat ∧ c.toNat ≤ 102 := by
  simp only [isAddressChar, Bool.or_eq_true, digitValue?_isSome_iff, decide_eq_true_eq] at hc
  rcases hc with ((hrange | hrange | hrange) | rfl) | rfl
  · exact ⟨Nat.le_trans (by decide) hrange.1, Nat.le_trans hrange.2 (by decide)⟩
  · exact ⟨Nat.le_trans (by decide) hrange.1, Nat.le_trans hrange.2 (by decide)⟩
  · exact ⟨Nat.le_trans (by decide) hrange.1, Nat.le_trans hrange.2 (by decide)⟩
  · decide
  · decide

theorem isAuthorityChar_of_isAddressChar (hc : isAddressChar c = true) :
    isAuthorityChar c = true := by
  have hrange := toNat_of_isAddressChar hc
  have hmarks : c ≠ '@' ∧ c ≠ '/' ∧ c ≠ '?' ∧ c ≠ '#' := by
    refine ⟨?_, ?_, ?_, ?_⟩ <;> rintro rfl <;> cases hc
  have hblank : isUnblank c = true := by
    simp [isUnblank, Text.isBlank]
    omega
  simp [isAuthorityChar, hmarks, hblank]

theorem isBlank_of_isUnblank (hc : isUnblank c = true) : Text.isBlank c = false := by
  simpa [isUnblank] using hc

theorem isUnblank_of_isAuthorityChar (hc : isAuthorityChar c = true) : isUnblank c = true :=
  (Bool.and_eq_true_iff.mp hc).2

theorem IsHost.chars (hh : IsHost h) : IsMadeOf isAuthorityChar h := by
  intro c hc
  cases hh with
  | name _ hchars =>
    have hname := hchars c hc
    simp only [isNameChar, Bool.and_eq_true] at hname
    exact hname.1.1
  | address hchars =>
    simp only [List.mem_append, List.mem_cons, List.not_mem_nil, or_false] at hc
    rcases hc with (rfl | hc) | rfl
    · rfl
    · exact isAuthorityChar_of_isAddressChar (hchars c hc)
    · rfl

theorem IsHost.ne_nil (hh : IsHost h) : h ≠ [] := by
  cases hh with
  | name hne _ => exact hne
  | address _ => simp

theorem host_of_isHost (hh : IsHost h) (hs : ∀ c ∈ s.head?, isHostChar c = false) :
    host (h ++ s) = (h, s) := by
  cases hh with
  | name hne hchars =>
    have hhost : ∀ c ∈ h, isHostChar c = true := by
      intro c hc
      have hname := hchars c hc
      simp only [isNameChar, isAuthorityChar, Bool.and_eq_true] at hname
      simp [isHostChar, hname]
    have hbracket : ∀ r, h ++ s ≠ '[' :: r := by
      intro r hr
      obtain ⟨c, l, rfl⟩ := List.exists_cons_of_ne_nil hne
      have hname := hchars c List.mem_cons_self
      rw [(List.cons.inj hr).1] at hname
      cases hname
    have hspan := span_append hhost hs
    rw [host_of_ne_bracket hbracket, hspan.1, hspan.2]
  | @address a hchars =>
    have hinner : ']' ∉ a := by
      intro hmem
      cases hchars ']' hmem
    have hspan := span_append (b := ']' :: s) (decide_ne_of_notMem hinner)
      (by rintro _ ⟨⟩; rfl)
    rw [List.append_assoc, List.cons_append, List.singleton_append, host, hspan.1, hspan.2]

namespace Site

theorem port_chars (a : Site) : IsMadeOf isAuthorityChar (marked ':' a.port) :=
  isMadeOf_marked rfl fun p hp c hc =>
    isAuthorityChar_of_isAddressChar (isAddressChar_of_isDigit (a.port_digits p hp c hc))

theorem isMadeOf_isUnblank (a : Site) :
    IsMadeOf isUnblank (a.userText ++ (a.host ++ marked ':' a.port)) := by
  intro c hc
  rcases List.mem_append.mp hc with hc | hc
  · cases hu : a.userInfo with
    | none => simp [userText, hu] at hc
    | some u =>
      simp only [userText, hu, List.mem_append, List.mem_singleton] at hc
      rcases hc with hc | rfl
      · exact isUnblank_of_isAuthorityChar (a.userInfo_chars u hu c hc)
      · rfl
  · rcases List.mem_append.mp hc with hc | hc
    · exact isUnblank_of_isAuthorityChar (a.isHost.chars c hc)
    · exact isUnblank_of_isAuthorityChar (a.port_chars c hc)

theorem dropUserInfo_userText (a : Site) (ht : IsTail t) :
    dropUserInfo (a.userText ++ (a.host ++ (marked ':' a.port ++ t))) =
      a.host ++ (marked ':' a.port ++ t) := by
  have hpasses : ∀ c, isAuthorityChar c = true →
      (c ≠ '@' && c ≠ '/' && c ≠ '?' && c ≠ '#') = true :=
    fun c hc => (Bool.and_eq_true_iff.mp hc).1
  cases hu : a.userInfo with
  | some u =>
    have hspan := span_append (b := '@' :: (a.host ++ (marked ':' a.port ++ t)))
      (fun c hc => hpasses c (a.userInfo_chars u hu c hc)) (by rintro _ ⟨⟩; rfl)
    simp only [userText, hu, List.append_assoc, List.singleton_append, dropUserInfo, hspan.2]
  | none =>
    -- The search for an `@` gets no further than the tail, whatever stands in it.
    have hspan := span_append (a := a.host ++ marked ':' a.port)
      (fun c hc => hpasses c ((List.mem_append.mp hc).elim (a.isHost.chars c) (a.port_chars c)))
      (ht.stops rfl rfl rfl)
    rw [List.append_assoc] at hspan
    simp only [userText, hu, List.nil_append, dropUserInfo, hspan.2]
    split
    · rename_i r
      exact absurd rfl (ht.ne_cons (by decide) r)
    · rfl

theorem port_marked (a : Site) (ht : IsTail t) :
    Image.port (marked ':' a.port ++ t) = (a.port.getD [], t) := by
  cases hp : a.port with
  | none =>
    unfold Image.port
    split
    · rename_i r hr
      exact absurd hr (ht.ne_cons (by decide) r)
    · rfl
  | some p =>
    have hspan := span_append (a.port_digits p hp) (ht.stops rfl rfl rfl)
    exact Prod.ext hspan.1 hspan.2

theorem authority_text (a : Site) (ht : IsTail t) :
    authority ('/' :: '/' :: (a.userText ++ (a.host ++ (marked ':' a.port ++ t)))) =
      (a.host, a.port.getD [], t) := by
  have hstop : ∀ c ∈ (marked ':' a.port ++ t).head?, isHostChar c = false := by
    cases a.port with
    | none => exact ht.stops rfl rfl rfl
    | some p =>
      rintro _ ⟨⟩
      rfl
  simp only [authority, a.dropUserInfo_userText ht, host_of_isHost a.isHost hstop,
    a.port_marked ht]

/-- The tail may hold any text, as long as it does not run on the port. -/
theorem parse?_text_append (a : Site) (ht : IsTail t) :
    Url.parse? (a.text ++ t) = some (a.url
      ((Text.dropRightWhile Text.isBlank t).takeWhile fun c => c ≠ '?' && c ≠ '#')) := by
  have hblank : ∀ c ∈ a.userText ++ (a.host ++ marked ':' a.port), Text.isBlank c = false :=
    fun c hc => isBlank_of_isUnblank (a.isMadeOf_isUnblank c hc)
  rw [Url.parse?, text, trim_urlStart_append a.isScheme hblank, urlStart,
    List.append_assoc, List.cons_append, List.cons_append, List.cons_append, List.append_assoc,
    List.append_assoc, scheme?_append a.isScheme]
  simp only [Option.map_some, a.authority_text (ht.dropRightWhile _), defaultPort?_eq_some_iff]
  have hhost : a.host.isEmpty = false := by simpa using a.isHost.ne_nil
  simp [url, effectivePort, hhost]

end Site

namespace UrlParts

theorem head?_query_fragment (u : UrlParts) :
    ∀ c ∈ (marked '?' u.query ++ marked '#' u.fragment).head?, c = '?' ∨ c = '#' := by
  cases u.query <;> cases u.fragment <;> simp [marked]

theorem isTail_tail (u : UrlParts) : IsTail u.tail := by
  intro c hc
  cases hpath : u.path with
  | nil =>
    rw [tail, hpath] at hc
    exact .inr (u.head?_query_fragment c hc)
  | cons x l =>
    rw [tail, hpath] at hc
    exact .inl (u.path_head c (by rwa [hpath]))

theorem isMadeOf_isUnblank_tail (u : UrlParts) : IsMadeOf isUnblank u.tail := by
  intro c hc
  rcases List.mem_append.mp hc with hc | hc
  · exact (Bool.and_eq_true_iff.mp (u.path_chars c hc)).2
  rcases List.mem_append.mp hc with hc | hc
  · exact isMadeOf_marked rfl u.query_chars c hc
  · exact isMadeOf_marked rfl u.fragment_chars c hc

theorem takeWhile_tail (u : UrlParts) :
    (u.tail.takeWhile fun c => c ≠ '?' && c ≠ '#') = u.path := by
  refine (span_append (fun c hc => ?_) fun c hc => ?_).1
  · exact (Bool.and_eq_true_iff.mp (u.path_chars c hc)).1
  · rcases u.head?_query_fragment c hc with rfl | rfl <;> rfl

/-- Reading a URL gives back its parts: scheme and host in lower case, the port unless it is the
scheme's own, and the path, which is `/` where none is written. -/
theorem parse?_text (u : UrlParts) :
    Url.parse? u.text = some {
      scheme := u.scheme.map Char.toLower
      host := u.host.map Char.toLower
      port := u.effectivePort
      path := if u.path = [] then ['/'] else u.path } := by
  have htrim : Text.dropRightWhile Text.isBlank u.tail = u.tail := by
    have happend := Text.dropRightWhile_append (p := Text.isBlank) (s := u.tail)
      (fun c hc => isBlank_of_isUnblank
        (u.isMadeOf_isUnblank_tail c (List.mem_of_getLast? hc))) []
    rw [List.append_nil] at happend
    exact happend.trans (List.append_nil _)
  rw [text, u.parse?_text_append u.isTail_tail, htrim, u.takeWhile_tail]
  rfl

/-- All parts but the path, with their marks once more in later parts. -/
def examplePage : UrlParts where
  scheme := "HTTPS".toList
  userInfo := some "me:[".toList
  host := "[FE80::1]".toList
  port := some "443".toList
  query := some "to=you@[::2]:80//#".toList
  fragment := some "?@:".toList
  isScheme := by decide +kernel
  userInfo_chars := by decide +kernel
  isHost := .address (a := "FE80::1".toList) (by decide +kernel)
  port_digits := by decide +kernel
  path_head := by simp
  path_chars := by simp [IsMadeOf]
  query_chars := by decide +kernel
  fragment_chars := by decide +kernel

example : examplePage.text = "HTTPS://me:[@[FE80::1]:443?to=you@[::2]:80//##?@:".toList ∧
    Url.parse? examplePage.text =
      some ⟨"https".toList, "[fe80::1]".toList, [], "/".toList⟩ := by
  decide +kernel

end UrlParts

end Folio.Image
