/-! Binary floating-point numbers of 64 bits: the one nearest to a decimal, and the shortest decimal
that reads back. A finite number is `mantissa · 2 ^ exponent`; all arithmetic is exact. -/

namespace Folio

/-- A number by its 64 bits: sign, eleven bits of exponent, fifty-two bits of fraction. -/
structure Binary64 where
  bits : UInt64
  deriving DecidableEq, Repr

namespace Binary64

/-- The bit of the sign. -/
def signBit : Nat := 0x8000000000000000

/-- The leading bit of a mantissa, just above the fraction: two to the power 52. -/
def leadingBit : Nat := 0x10000000000000

def ofFields (negative : Bool) (biased fraction : Nat) : Binary64 :=
  ⟨.ofNat ((if negative then signBit else 0) + biased * leadingBit + fraction)⟩

def infinity (negative : Bool) : Binary64 :=
  ofFields negative 2047 0

def nan : Binary64 :=
  ofFields false 2047 (leadingBit / 2)

def isNegative (x : Binary64) : Bool :=
  signBit ≤ x.bits.toNat

def biased (x : Binary64) : Nat :=
  x.bits.toNat / leadingBit % 2048

def fraction (x : Binary64) : Nat :=
  x.bits.toNat % leadingBit

def isFinite (x : Binary64) : Bool :=
  x.biased < 2047

/-- The integer nearest to `n / d`, an even one if two are equally near. -/
def roundDiv (n d : Nat) : Nat :=
  let q := n / d
  let r := n % d
  if 2 * r < d then q else if d < 2 * r then q + 1 else if q % 2 = 0 then q else q + 1

/-- `n / (d · 2 ^ q)` rounded. -/
def scaled (n d : Nat) (q : Int) : Nat :=
  if 0 ≤ q then roundDiv n (d <<< q.toNat) else roundDiv (n <<< (-q).toNat) d

/-- The number nearest to the positive ratio `n / d`, infinite beyond the largest one. -/
def ofRatio (negative : Bool) (n d : Nat) : Binary64 :=
  let guess : Int := max ((n.log2 : Int) - d.log2 - 53) (-1074)
  let q := if scaled n d guess < 2 * leadingBit then guess else guess + 1
  let m := scaled n d q
  let (m, q) := if m = 2 * leadingBit then (leadingBit, q + 1) else (m, q)
  if 971 < q then infinity negative
  else if m < leadingBit then ofFields negative 0 m
  else ofFields negative (q + 1075).toNat (m - leadingBit)

/-- The number nearest to `digits · 10 ^ exponent`. -/
def ofDecimal (negative : Bool) (digits : Nat) (exponent : Int) : Binary64 :=
  if digits = 0 then ofFields negative 0 0
  else if 400 < exponent + digits.log2 / 3 ∧ 0 < exponent then infinity negative
  else if exponent + digits.log2 < -400 then ofFields negative 0 0
  else if 0 ≤ exponent then ofRatio negative (digits * Nat.pow 10 exponent.toNat) 1
  else ofRatio negative digits (Nat.pow 10 (-exponent).toNat)

def mantissa (x : Binary64) : Nat :=
  if x.biased = 0 then x.fraction else leadingBit + x.fraction

def exponent (x : Binary64) : Int :=
  if x.biased = 0 then -1074 else (x.biased : Int) - 1075

/-- A finite magnitude and the ends of the interval of reals that round to it, over one
denominator. -/
structure Interval where
  low : Nat
  value : Nat
  high : Nat
  denominator : Nat
  closed : Bool

def interval (x : Binary64) : Interval :=
  let m := x.mantissa
  let up := x.exponent.toNat
  let down := if 1 < x.biased ∧ x.fraction = 0 then 1 else 2
  { low := (4 * m - down) <<< up
    value := (4 * m) <<< up
    high := (4 * m + 2) <<< up
    denominator := 4 <<< (-x.exponent).toNat
    closed := m % 2 = 0 }

/-- Whether `d · 10 ^ e` lies in the interval. -/
def Interval.holds (i : Interval) (d : Nat) (e : Int) : Bool :=
  let p := d * Nat.pow 10 e.toNat * i.denominator
  let s := Nat.pow 10 (-e).toNat
  if i.closed then i.low * s ≤ p && p ≤ i.high * s else i.low * s < p && p < i.high * s

/-- The point of the grid `10 ^ e` next to the value, if it lies in the interval. -/
def Interval.nearest? (i : Interval) (e : Int) : Option Nat :=
  let n := i.value * Nat.pow 10 (-e).toNat
  let d := i.denominator * Nat.pow 10 e.toNat
  let below := n / d
  match i.holds below e, i.holds (below + 1) e with
  | false, false => none
  | true, false => some below
  | false, true => some (below + 1)
  | true, true => some (roundDiv n d)

/-- An exponent above every decimal digit of the magnitude. -/
def Interval.topExponent (i : Interval) : Int :=
  if i.denominator ≤ i.value then ((i.value / i.denominator).log2 : Int) / 3 + 1
  else 1 - ((i.denominator / i.value).log2 : Int) * 3 / 10

/-- The coarsest decimal grid from `10 ^ e` downwards with a point in the interval. -/
def Interval.coarsest (i : Interval) (e : Int) : Nat → Nat × Int
  | 0 => (0, e)
  | fuel + 1 =>
    match i.nearest? e with
    | some d => if d = 0 then i.coarsest (e - 1) fuel else (d, e)
    | none => i.coarsest (e - 1) fuel

/-- Digits and exponent of the shortest decimal that reads back as the finite number `x`. -/
def shortest (x : Binary64) : Nat × Int :=
  if x.mantissa = 0 then (0, 0) else x.interval.coarsest x.interval.topExponent 700

/-- Decimal text: positional from `1e-5` to below `1e16`, else with an exponent; the text of an
integer keeps one decimal place. -/
def text (x : Binary64) : String :=
  let (d, e) := x.shortest
  let ds := toString d
  let point : Int := ds.length + e
  let zeros (n : Nat) := String.ofList (List.replicate n '0')
  let cut (n : Nat) (rest : String) := String.ofList (ds.toList.take n) ++ "." ++ rest
  let body :=
    if 0 ≤ e ∧ point ≤ 16 then ds ++ zeros e.toNat ++ ".0"
    else if 0 < point ∧ point ≤ 16 then
      cut point.toNat (String.ofList (ds.toList.drop point.toNat))
    else if -5 < point ∧ point ≤ 0 then "0." ++ zeros (-point).toNat ++ ds
    else
      let head := if ds.length = 1 then ds else cut 1 (String.ofList (ds.toList.drop 1))
      head ++ "e" ++ toString (point - 1)
  if x.isNegative then "-" ++ body else body

end Binary64

end Folio
