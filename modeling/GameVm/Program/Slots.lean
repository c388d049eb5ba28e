/-! The cells at the start of the globals that calls and returns share. -/

namespace GameVm.Slots

/-- The cell that stands for "no operand". -/
def null : Nat := 0

/-- First of the three cells a returned value is left in. -/
def result : Nat := 1

def parm0 : Nat := 4

def parmCells : Nat := 3

def maxParms : Nat := 8

def parm (n : Nat) : Nat := parm0 + n * parmCells

def reserved : Nat := parm0 + maxParms * parmCells

end GameVm.Slots
