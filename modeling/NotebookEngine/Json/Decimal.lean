import NotebookEngine.Text.Basic

/-!
# Shortest decimals

The decimal with the fewest digits that reads back as a given binary floating-point number. A
finite number is `m · 2 ^ q`; the reals that round to it form an interval, closed when `m` is
even. `shortest?` tries one digit, then two, and so on, and of two decimals of that length in the
interval takes the nearer.

`render` writes a decimal positionally when its leading digit stands between 10⁻⁵ and 10¹⁵, with
a fractional part always, and otherwise with an exponent that has a sign when it is positive.
-/

namespace NotebookEngine

namespace Json

/-- A positive real as a quotient of natural numbers. -/
structure Ratio where
  num : Nat
  den : Nat

/-- The number `m · 2 ^ q`. -/
def Ratio.ofBinary (m : Nat) (q : Int) : Ratio :=
  if 0 ≤ q then ⟨m * Nat.pow 2 q.toNat, 1⟩ else ⟨m, Nat.pow 2 (-q).toNat⟩

/-- The number `d · 10 ^ e`. -/
def Ratio.ofDecimal (d : Nat) (e : Int) : Ratio :=
  if 0 ≤ e then ⟨d * Nat.pow 10 e.toNat, 1⟩ else ⟨d, Nat.pow 10 (-e).toNat⟩

/-- The order of quotients, by cross multiplication. -/
def Ratio.le (x y : Ratio) : Bool :=
  x.num * y.den ≤ y.num * x.den

/-- The strict order of quotients. -/
def Ratio.lt (x y : Ratio) : Bool :=
  x.num * y.den < y.num * x.den

/-- The largest natural number at most `x / 10 ^ e`. -/
def Ratio.floorAt (x : Ratio) (e : Int) : Nat :=
  if 0 ≤ e then x.num / (x.den * Nat.pow 10 e.toNat) else x.num * Nat.pow 10 (-e).toNat / x.den

/-- Twice `x` is less than `a + b`, equal to it, or more. -/
def Ratio.compareMiddle (x a b : Ratio) : Ordering :=
  compare (2 * x.num * (a.den * b.den)) ((a.num * b.den + b.num * a.den) * x.den)

/-- The exponent of the leading decimal digit of a positive quotient. -/
def Ratio.leadExponent (x : Ratio) : Int :=
  let whole := x.num / x.den
  if 0 < whole then ((Nat.toDigits 10 whole).length : Int) - 1
  else
    let wanted := (List.range 400).find? fun k => x.den ≤ x.num * Nat.pow 10 (k + 1)
    match wanted with
    | some k => -((k : Int) + 1)
    | none => -400

/-- The reals that round to a binary number. -/
structure Interval where
  low : Ratio
  high : Ratio
  closed : Bool

/-- A quotient lies in the interval. -/
def Interval.holds (i : Interval) (x : Ratio) : Bool :=
  if i.closed then i.low.le x && x.le i.high else i.low.lt x && x.lt i.high

/-- The interval of `m · 2 ^ q`; below a power of two the numbers lie twice as close. -/
def Interval.ofBinary (m : Nat) (q : Int) (power : Bool) : Interval where
  low := if power then Ratio.ofBinary (4 * m - 1) (q - 2) else Ratio.ofBinary (2 * m - 1) (q - 1)
  high := Ratio.ofBinary (2 * m + 1) (q - 1)
  closed := m % 2 = 0

/-- A decimal `digits · 10 ^ exponent`. -/
structure Decimal where
  digits : Nat
  exponent : Int
deriving DecidableEq, Repr

/-- The decimal of a given number of digits in the interval that is nearest to `x`, if any. -/
def nearest? (i : Interval) (x : Ratio) (lead : Int) (count : Nat) : Option Decimal :=
  let e := lead - (count : Int) + 1
  let d := x.floorAt e
  let below := Ratio.ofDecimal d e
  let above := Ratio.ofDecimal (d + 1) e
  match i.holds below && 0 < d, i.holds above with
  | true, true =>
    match x.compareMiddle below above with
    | .lt => some ⟨d, e⟩
    | .gt => some ⟨d + 1, e⟩
    | .eq => if d % 2 = 0 then some ⟨d, e⟩ else some ⟨d + 1, e⟩
  | true, false => some ⟨d, e⟩
  | false, true => some ⟨d + 1, e⟩
  | false, false => none

/-- The shortest decimal that reads back as `m · 2 ^ q`, for a positive `m`. -/
def shortest? (m : Nat) (q : Int) (power : Bool) : Option Decimal :=
  let x := Ratio.ofBinary m q
  let lead := x.leadExponent
  (List.range 17).findSome? fun k => nearest? (Interval.ofBinary m q power) x lead (k + 1)

/-- A decimal without trailing zeros among its digits; the fuel bounds their number. -/
def Decimal.strip : (fuel : Nat) → Decimal → Decimal
  | 0, d => d
  | fuel + 1, d =>
    if d.digits % 10 = 0 && 0 < d.digits then Decimal.strip fuel ⟨d.digits / 10, d.exponent + 1⟩
    else d

/-- The written form of a decimal. -/
def Decimal.render (d : Decimal) : Text :=
  let d := d.strip 20
  let ds := Text.ofNat d.digits
  let lead : Int := (ds.length : Int) - 1 + d.exponent
  if -5 ≤ lead && lead ≤ 15 then
    if 0 ≤ d.exponent then ds ++ List.replicate d.exponent.toNat '0' ++ ['.', '0']
    else if 0 ≤ lead then ds.take (lead.toNat + 1) ++ ['.'] ++ ds.drop (lead.toNat + 1)
    else ['0', '.'] ++ List.replicate ((-lead).toNat - 1) '0' ++ ds
  else
    let fraction := if ds.length ≤ 1 then [] else '.' :: ds.drop 1
    let sign := if 0 ≤ lead then ['+'] else []
    ds.take 1 ++ fraction ++ ['e'] ++ sign ++ Text.ofInt lead

/-- The written form of a finite double, read off its bits. -/
def renderDouble (bits : UInt64) : Text :=
  let n := bits.toNat
  let sign := if n / Nat.pow 2 63 = 1 then ['-'] else []
  let biased : Nat := n / Nat.pow 2 52 % Nat.pow 2 11
  let fraction : Nat := n % Nat.pow 2 52
  let m := if biased = 0 then fraction else fraction + Nat.pow 2 52
  let q : Int := (if biased = 0 then 1 else Int.ofNat biased) - 1075
  if m = 0 then sign ++ ['0', '.', '0']
  else match shortest? m q (fraction = 0 && 1 < biased) with
    | some d => sign ++ d.render
    | none => sign ++ Text.ofNat m

end Json

end NotebookEngine
