/-! What a machine puts on record for its host. -/

namespace GameVm

inductive Level where
  | trace | debug | warn
  deriving DecidableEq, Repr

structure Event where
  level : Level
  message : String
  fields : List (String × String)
  deriving DecidableEq, Repr

inductive Record where
  | event (e : Event)
  | note (text : String)
  deriving DecidableEq, Repr

/-- Records, the earliest first. -/
abbrev Journal := Array Record

namespace Journal

def write (j : Journal) (level : Level) (message : String) (fields : List (String × String)) :
    Journal :=
  j.push (.event ⟨level, message, fields⟩)

def events (j : Journal) : List Event :=
  j.toList.filterMap fun | .event e => some e | .note _ => none

def notes (j : Journal) : List String :=
  j.toList.filterMap fun | .event _ => none | .note text => some text

end Journal

structure Recorded (σ : Type) where
  state : σ
  journal : Journal

namespace Recorded

@[inline] def map {σ : Type} (f : σ → σ) : Recorded σ → Recorded σ
  | ⟨state, journal⟩ => ⟨f state, journal⟩

@[inline] def write {σ : Type} (level : Level) (message : String)
    (fields : List (String × String)) : Recorded σ → Recorded σ
  | ⟨state, journal⟩ => ⟨state, journal.write level message fields⟩

end Recorded

end GameVm
