import GameVm.Float.Binary32

/-! Runs of consecutive cells. -/

namespace GameVm.Cells

/-- The `n` cells from `i` on; cells past the end are left out. -/
def read (cells : Array Cell) (i n : Nat) : List Cell := (cells.extract i (i + n)).toList

/-- Replace the cells from `i` on; cells past the end are dropped. -/
def write (cells : Array Cell) (i : Nat) : List Cell → Array Cell
  | [] => cells
  | v :: vs => write (cells.setIfInBounds i v) (i + 1) vs

@[simp] theorem size_write (cells : Array Cell) (i : Nat) (vs : List Cell) :
    (write cells i vs).size = cells.size := by
  induction vs generalizing cells i with
  | nil => rfl
  | cons v vs ih => simp [write, ih]

end GameVm.Cells
