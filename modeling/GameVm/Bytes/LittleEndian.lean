/-! Little-endian words as lists of bytes. -/

namespace GameVm

abbrev Bytes := List UInt8

namespace Bytes

/-- The `k` lowest bytes of a number, lowest first. -/
def ofNat : Nat → Nat → Bytes
  | 0, _ => []
  | k + 1, v => UInt8.ofNat v :: ofNat k (v / 256)

def value : Bytes → Nat
  | [] => 0
  | b :: bs => b.toNat + 256 * value bs

@[simp] theorem length_ofNat (k v : Nat) : (ofNat k v).length = k := by
  induction k generalizing v with
  | zero => rfl
  | succ k ih => simp [ofNat, ih]

theorem ofNat_value (bs : Bytes) : ofNat bs.length (value bs) = bs := by
  induction bs with
  | nil => rfl
  | cons b bs ih =>
    have hb : b.toNat < 256 := b.toNat_lt
    have hd : (b.toNat + 256 * value bs) / 256 = value bs := by omega
    have hm : UInt8.ofNat (b.toNat + 256 * value bs) = b := by
      apply UInt8.toNat_inj.mp
      simp only [UInt8.toNat_ofNat']
      omega
    simp only [List.length_cons, value, ofNat, hd, hm, ih]

def ofUInt16 (w : UInt16) : Bytes := ofNat 2 w.toNat

def ofUInt32 (w : UInt32) : Bytes := ofNat 4 w.toNat

def ofInt32 (w : Int32) : Bytes := ofUInt32 w.toUInt32

theorem value_ofUInt16 (w : UInt16) : value (ofUInt16 w) = w.toNat := by
  have hw : w.toNat < 65536 := w.toNat_lt
  simp only [ofUInt16, ofNat, value, UInt8.toNat_ofNat']
  omega

/-- The half word that starts at byte `pos`; bytes past the end count as zero. -/
def uint16At (bs : Bytes) (pos : Nat) : UInt16 := .ofNat (value ((bs.drop pos).take 2))

def uint32At (bs : Bytes) (pos : Nat) : UInt32 := .ofNat (value ((bs.drop pos).take 4))

def int32At (bs : Bytes) (pos : Nat) : Int32 := (uint32At bs pos).toInt32

def untilZero (bs : Bytes) : Bytes := bs.takeWhile (· ≠ 0)

def pieces (size : Nat) : Nat → Bytes → List Bytes
  | 0, _ => []
  | count + 1, bs => bs.take size :: pieces size count (bs.drop size)

end Bytes

end GameVm
