/-!
The shortest decimal that reads back as a given double, and its text.

A double is decoded into `mantissa * 2 ^ exponent`. For one digit, two digits and so on, the
two neighbours of the value on that decimal grid are tried in exact arithmetic; the first grid
with a neighbour in the interval of reals that round to the double wins.
-/

namespace ActionLookup.Decimal

structure Ratio where
  num : Nat
  den : Nat
  deriving DecidableEq, Repr

def Ratio.scaleTwo (r : Ratio) : Int → Ratio
  | .ofNat n => ⟨r.num * Nat.pow 2 n, r.den⟩
  | .negSucc n => ⟨r.num, r.den * Nat.pow 2 (n + 1)⟩

def Ratio.scaleTen (r : Ratio) : Int → Ratio
  | .ofNat n => ⟨r.num * Nat.pow 10 n, r.den⟩
  | .negSucc n => ⟨r.num, r.den * Nat.pow 10 (n + 1)⟩

def Ratio.magnitude (r : Ratio) : Int :=
  if r.den ≤ r.num then ((Nat.toDigits 10 (r.num / r.den)).length : Int) - 1
  else -((Nat.toDigits 10 ((r.den + r.num - 1) / r.num - 1)).length : Int)

/-- The reals that round to one finite double other than zero, in quarters of its last place. -/
structure Interval where
  mantissa : Nat
  exponent : Int
  atPower : Bool
  deriving DecidableEq, Repr

namespace Interval

def ofMagnitude (bits : Nat) : Interval :=
  let fraction : Nat := bits % Nat.pow 2 52
  let biased : Nat := bits / Nat.pow 2 52
  if biased = 0 then ⟨fraction, -1074, false⟩
  else ⟨fraction + Nat.pow 2 52, (biased : Int) - 1075, fraction = 0 && biased ≠ 1⟩

def quarters (i : Interval) : Nat := 4 * i.mantissa

/-- Below a power of two the doubles lie twice as close. -/
def lowQuarters (i : Interval) : Nat := i.quarters - (if i.atPower then 1 else 2)

def highQuarters (i : Interval) : Nat := i.quarters + 2

/-- A tie rounds to the even mantissa, so the ends belong to it. -/
def closed (i : Interval) : Bool := i.mantissa % 2 = 0

def value (i : Interval) : Ratio := Ratio.scaleTwo ⟨i.quarters, 1⟩ (i.exponent - 2)

def holds (i : Interval) (digits : Nat) (place : Int) : Bool :=
  let low := (Ratio.scaleTwo ⟨i.lowQuarters, 1⟩ (i.exponent - 2)).scaleTen (-place)
  let high := (Ratio.scaleTwo ⟨i.highQuarters, 1⟩ (i.exponent - 2)).scaleTen (-place)
  if i.closed then decide (low.num ≤ digits * low.den) && decide (digits * high.den ≤ high.num)
  else decide (low.num < digits * low.den) && decide (digits * high.den < high.num)

def onGrid (i : Interval) (place : Int) : Option Nat :=
  let v := i.value.scaleTen (-place)
  let below := v.num / v.den
  let twice := 2 * (v.num - below * v.den)
  match i.holds below place, i.holds (below + 1) place with
  | true, true =>
      if twice < v.den then some below
      else if v.den < twice then some (below + 1)
      else some (if below % 2 = 0 then below else below + 1)
  | true, false => some below
  | false, true => some (below + 1)
  | false, false => none

/-- Digits and the place of the last one; seventeen digits always suffice. -/
def shortest (i : Interval) : Nat × Int :=
  let top := i.value.magnitude
  let tries := (List.range 17).filterMap fun (n : Nat) =>
    (i.onGrid (top - (n : Int))).map fun digits => (digits, top - (n : Int))
  tries.headD (0, 0)

end Interval

def trim : Nat → Nat → Int → Nat × Int
  | 0, digits, place => (digits, place)
  | fuel + 1, digits, place =>
      if digits ≠ 0 ∧ digits % 10 = 0 then trim fuel (digits / 10) (place + 1) else (digits, place)

/-- Positional from `10 ^ (-5)` up to `10 ^ 16`, with a point always; else one digit before the point,
if there are more, and a signed exponent. -/
def layout (digits : List Char) (place : Int) : List Char :=
  let top : Int := (digits.length : Int) - 1 + place
  if top < -5 ∨ 15 < top then
    let mantissa := match digits with
      | [] => []
      | [d] => [d]
      | d :: rest => d :: '.' :: rest
    let sign := if top < 0 then '-' else '+'
    mantissa ++ 'e' :: sign :: Nat.toDigits 10 top.natAbs
  else if top < 0 then
    '0' :: '.' :: List.replicate (top.natAbs - 1) '0' ++ digits
  else if 0 ≤ place then
    digits ++ List.replicate place.toNat '0' ++ ['.', '0']
  else
    digits.take (top.toNat + 1) ++ '.' :: digits.drop (top.toNat + 1)

def text (bits : UInt64) : String :=
  let magnitude := bits.toNat % Nat.pow 2 63
  let sign := if bits.toNat < Nat.pow 2 63 then [] else ['-']
  if magnitude = 0 then String.ofList (sign ++ ['0', '.', '0'])
  else
    let (digits, place) := (Interval.ofMagnitude magnitude).shortest
    let (digits, place) := trim 20 digits place
    String.ofList (sign ++ layout (Nat.toDigits 10 digits) place)

end ActionLookup.Decimal
