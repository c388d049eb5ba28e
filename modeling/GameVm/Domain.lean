/-! The three programs of a game, and sets of them. -/

namespace GameVm

inductive Domain where
  | server | client | ui
  deriving DecidableEq, Repr

namespace Domain

def all : List Domain := [.server, .client, .ui]

def name : Domain → String
  | .server => "server"
  | .client => "client"
  | .ui => "ui"

def ofName? (s : String) : Option Domain := all.find? (·.name = s)

def slot (d : Domain) : Nat := d.ctorIdx

def bit : Domain → UInt8
  | .server => 1
  | .client => 2
  | .ui => 4

end Domain

/-- A set of domains; bits that stand for no domain are kept. -/
structure DomainMask where
  bits : UInt8
  deriving DecidableEq, Repr

namespace DomainMask

def none : DomainMask := ⟨0⟩
def all : DomainMask := ⟨7⟩

def only (d : Domain) : DomainMask := ⟨d.bit⟩

def contains (m : DomainMask) (d : Domain) : Bool := m.bits &&& d.bit ≠ 0

def union (m n : DomainMask) : DomainMask := ⟨m.bits ||| n.bits⟩

def isEmpty (m : DomainMask) : Bool := m.bits = 0

def text (m : DomainMask) : String :=
  match Domain.all.filter m.contains with
  | [] => "none"
  | ds => "|".intercalate (ds.map Domain.name)

end DomainMask

end GameVm
