import GameVm.Float.Binary32

/-! The shortest decimal text that reads back as the same float. -/

namespace GameVm.Decimal

/-- An interval of fractions with a common denominator around a value. -/
structure Around where
  low : Nat
  value : Nat
  high : Nat
  den : Nat
  closed : Bool

def around (x : Cell) : Around :=
  let m := Binary32.significand x
  let below := if Binary32.fraction x = 0 && 1 < Binary32.exponent x then 1 else 2
  let closed := m % 2 = 0
  match Binary32.scale x with
  | .ofNat k => ⟨(4 * m - below) <<< k, (4 * m) <<< k, (4 * m + 2) <<< k, 4, closed⟩
  | .negSucc k => ⟨4 * m - below, 4 * m, 4 * m + 2, 4 <<< (k + 1), closed⟩

def Around.holds (a : Around) (n d : Nat) : Bool :=
  if a.closed then a.low * d ≤ n * a.den && n * a.den ≤ a.high * d
  else a.low * d < n * a.den && n * a.den < a.high * d

def tenTo : Nat → Nat
  | 0 => 1
  | k + 1 => 10 * tenTo k

def magnitude (num den : Nat) : Int :=
  if den ≤ num then (Nat.toDigits 10 (num / den)).length - 1
  else -((List.range 64).find? (fun j => den ≤ num * tenTo j)).getD 64

structure Digits where
  digits : Nat
  exponent : Int

/-- The nearer of the two multiples of `10 ^ k` next to the value that lies in the interval. -/
def Around.onGrid? (a : Around) (k : Int) : Option Digits :=
  let up := match k with | .ofNat j => tenTo j | .negSucc _ => 1
  let down := match k with | .ofNat _ => 1 | .negSucc j => tenTo (j + 1)
  let floor := a.value * down / (a.den * up)
  let rest := a.value * down % (a.den * up)
  let lower := a.holds (floor * up) down
  let upper := a.holds ((floor + 1) * up) down
  if lower && (!upper || 2 * rest < a.den * up) then some ⟨floor, k⟩
  else if upper then some ⟨floor + 1, k⟩
  else none

/-- Nine significant digits are always enough. -/
def Around.shortest (a : Around) : Digits :=
  let top := magnitude a.value a.den
  ((List.range 9).findSome? (fun n : Nat => a.onGrid? (top - n))).getD ⟨0, 0⟩

def Digits.render (d : Digits) : String :=
  let text := Nat.toDigits 10 d.digits
  match d.exponent with
  | .ofNat k => String.ofList (text ++ List.replicate k '0')
  | .negSucc k =>
    let padded := List.replicate (k + 2 - text.length) '0' ++ text
    let whole := padded.take (padded.length - (k + 1))
    let places := ((padded.drop (padded.length - (k + 1))).reverse.dropWhile (· = '0')).reverse
    if places.isEmpty then String.ofList whole else String.ofList (whole ++ '.' :: places)

def magnitudeText (x : Cell) : String :=
  if Binary32.isZero x then "0"
  else if Binary32.exponent x = 255 then "inf"
  else (around x).shortest.render

/-- The text of a float: the fewest digits that read back. -/
def text (x : Cell) : String :=
  if Binary32.isNaN x then "NaN"
  else if Binary32.isNegative x then "-" ++ magnitudeText x
  else magnitudeText x

end GameVm.Decimal
