import GameVm.Config.Json
import GameVm.Float.Binary32

/-! The values of JSON numbers: integers of 64 bits, and floats for all others. -/

namespace GameVm

inductive NumberValue where
  | natural (n : Nat)
  | negative (n : Nat)
  | float (f : Float)

namespace JsonNumber

/-- Digits that fit into 64 bits as a number, and the digits left over. -/
def significand (start : Nat) : List Nat → Nat × List Nat
  | [] => (start, [])
  | d :: ds => if start * 10 + d < UInt64.size then significand (start * 10 + d) ds
    else (start, d :: ds)

def powerOfTen (k : Nat) : Float := Float.ofScientific 1 false k

/-- A significand times a power of ten, by at most `n` divisions and one more operation; `none`
when the result is too large. -/
def scaled : Nat → Float → Int → Option Float
  | 0, f, _ => some f
  | n + 1, f, exponent =>
    if exponent.natAbs ≤ 308 then
      if 0 ≤ exponent then
        let g := f * powerOfTen exponent.natAbs
        if g.isInf then none else some g
      else some (f / powerOfTen exponent.natAbs)
    else if f == 0 then some f
    else if 0 ≤ exponent then none
    else scaled n (f / powerOfTen 308) (exponent + 308)

def signedFloat (negative : Bool) (f : Float) : Float := if negative then -f else f

def value? (n : JsonNumber) : Option NumberValue :=
  let (whole, rest) := significand 0 n.whole
  if rest.isEmpty ∧ !n.hasPoint ∧ n.exponent.isNone then
    if !n.negative then some (.natural whole)
    else if whole = 0 ∨ 0x8000000000000000 < whole then some (.float (-Float.ofNat whole))
    else some (.negative whole)
  else
    let (digits, unread) := significand whole n.places
    let start : Int := (rest.length : Int) - (n.places.length - unread.length : Nat)
    let (down, power) := match n.exponent with
      | none => (false, 0)
      | some (down, ds) => (down, ds.foldl (fun p d => p * 10 + d) 0)
    if 0x80000000 ≤ power then
      if digits ≠ 0 ∧ !down then none else some (.float (signedFloat n.negative 0))
    else
      let exponent := if down then start - power else start + power
      (scaled 4 (Float.ofNat digits) exponent).map fun f => .float (signedFloat n.negative f)

end JsonNumber

namespace NumberValue

def toCell : NumberValue → Cell
  | .natural n => (Float32.ofNat n).toBits
  | .negative n => (-Float32.ofNat n).toBits
  | .float f => f.toFloat32.toBits

end NumberValue

end GameVm
