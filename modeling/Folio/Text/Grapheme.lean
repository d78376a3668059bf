import Folio.Text.GraphemeTable

/-! User-perceived characters: the division of a text into extended grapheme clusters. -/

namespace Folio.Text

inductive ClusterClass
  | cr | lf | control | extend | joiner | flag | prepend | spacingMark
  | hangulL | hangulV | hangulT | hangulLV | hangulLVT | pictograph | other
  deriving DecidableEq, Repr

def clusterClass (c : Char) : ClusterClass :=
  let n := c.toNat
  if n = 0x0D then .cr
  else if n = 0x0A then .lf
  else if 0x20 ≤ n ∧ n < 0x7F then .other
  else if n = 0x200D then .joiner
  else if controlRanges.contains c then .control
  else if extendRanges.contains c then .extend
  else if prependRanges.contains c then .prepend
  else if spacingMarkRanges.contains c then .spacingMark
  else if 0x1F1E6 ≤ n ∧ n ≤ 0x1F1FF then .flag
  else if 0x1100 ≤ n ∧ n ≤ 0x115F ∨ 0xA960 ≤ n ∧ n ≤ 0xA97C then .hangulL
  else if 0x1160 ≤ n ∧ n ≤ 0x11A7 ∨ 0xD7B0 ≤ n ∧ n ≤ 0xD7C6 then .hangulV
  -- The vowel signs of Kirat Rai compose as the vowels of Hangul do.
  else if n = 0x16D63 ∨ 0x16D67 ≤ n ∧ n ≤ 0x16D6A then .hangulV
  else if 0x11A8 ≤ n ∧ n ≤ 0x11FF ∨ 0xD7CB ≤ n ∧ n ≤ 0xD7FB then .hangulT
  else if 0xAC00 ≤ n ∧ n ≤ 0xD7A3 then
    if (n - 0xAC00) % 28 = 0 then .hangulLV else .hangulLVT
  else if pictographRanges.contains c then .pictograph
  else .other

/-- What an unfinished cluster remembers about the characters it holds. -/
structure ClusterState where
  last : ClusterClass
  /-- The cluster ends in an odd number of flag letters. -/
  oddFlags : Bool
  /-- A pictograph, then only extending characters. -/
  afterPictograph : Bool
  /-- A pictograph, then extending characters, then a joiner. -/
  joinsPictograph : Bool
  /-- A consonant, then only linkers, joiners and extending characters. -/
  afterConsonant : Bool
  /-- The same with at least one linker. -/
  linksConsonant : Bool

def isConjunctLinker (c : Char) : Bool :=
  conjunctLinkerRanges.contains c

/-- Characters that may stand between the consonants of a conjunct. -/
def isConjunctExtend (c : Char) : Bool :=
  (clusterClass c = .extend || clusterClass c = .joiner) && c.toNat ≠ 0x200C

def ClusterState.start (c : Char) : ClusterState where
  last := clusterClass c
  oddFlags := clusterClass c = .flag
  afterPictograph := clusterClass c = .pictograph
  joinsPictograph := false
  afterConsonant := conjunctConsonantRanges.contains c
  linksConsonant := false

def ClusterState.next (s : ClusterState) (c : Char) : ClusterState where
  last := clusterClass c
  oddFlags := clusterClass c = .flag && !s.oddFlags
  afterPictograph :=
    clusterClass c = .pictograph || clusterClass c = .extend && s.afterPictograph
  joinsPictograph := clusterClass c = .joiner && s.afterPictograph
  afterConsonant :=
    conjunctConsonantRanges.contains c ||
      (isConjunctLinker c || isConjunctExtend c) && s.afterConsonant
  linksConsonant :=
    s.afterConsonant && (isConjunctLinker c || isConjunctExtend c && s.linksConsonant)

/-- Whether the character `c` continues the cluster. -/
def ClusterState.joins (s : ClusterState) (c : Char) : Bool :=
  match s.last, clusterClass c with
  | .cr, .lf => true
  | .cr, _ | .lf, _ | .control, _ => false
  | _, .cr | _, .lf | _, .control => false
  | .hangulL, .hangulL | .hangulL, .hangulV | .hangulL, .hangulLV | .hangulL, .hangulLVT => true
  | .hangulLV, .hangulV | .hangulV, .hangulV | .hangulLV, .hangulT | .hangulV, .hangulT => true
  | .hangulLVT, .hangulT | .hangulT, .hangulT => true
  | _, .extend | _, .joiner | _, .spacingMark => true
  | .prepend, _ => true
  | .joiner, .pictograph => s.joinsPictograph
  | .flag, .flag => s.oddFlags
  | _, _ => s.linksConsonant && conjunctConsonantRanges.contains c

/-- The clusters of a text whose first cluster already holds `held`, last character first. -/
def clustersFrom (s : ClusterState) (held : List Char) : List Char → List (List Char)
  | [] => [held.reverse]
  | c :: cs =>
    if s.joins c then clustersFrom (s.next c) (c :: held) cs
    else held.reverse :: clustersFrom (.start c) [c] cs

def clusters : List Char → List (List Char)
  | [] => []
  | c :: cs => clustersFrom (.start c) [c] cs

end Folio.Text
