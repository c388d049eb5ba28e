import GameVm.Memory.AccessError
import GameVm.Memory.Cells

/-! The global cells of a program. -/

namespace GameVm

structure Vec3 where
  x : Cell
  y : Cell
  z : Cell
  deriving DecidableEq, Repr

namespace Vec3

def toList (v : Vec3) : List Cell := [v.x, v.y, v.z]

def map (f : Cell → Cell) (v : Vec3) : Vec3 := ⟨f v.x, f v.y, f v.z⟩

def zipWith (f : Cell → Cell → Cell) (v w : Vec3) : Vec3 := ⟨f v.x w.x, f v.y w.y, f v.z w.z⟩

end Vec3

structure Globals where
  cells : Array Cell
  deriving DecidableEq

namespace Globals

def size (g : Globals) : Nat := g.cells.size

@[inline] def check (g : Globals) (i n : Nat) : Except AccessError Unit :=
  if i + n ≤ g.cells.size then .ok () else .error (.global i g.cells.size)

@[inline] def cell (g : Globals) (i : Nat) : Except AccessError Cell :=
  if h : i < g.cells.size then .ok g.cells[i] else .error (.global i g.cells.size)

def read (g : Globals) (i n : Nat) : Except AccessError (List Cell) :=
  if i + n ≤ g.cells.size then .ok (Cells.read g.cells i n) else .error (.global i g.cells.size)

@[inline] def vector (g : Globals) (i : Nat) : Except AccessError Vec3 :=
  if h : i + 2 < g.cells.size then .ok ⟨g.cells[i], g.cells[i + 1], g.cells[i + 2]⟩
  else .error (.global i g.cells.size)

@[inline] def setCell (i : Nat) (v : Cell) : Access Globals Unit := fun g =>
  if i < g.cells.size then .ok () ⟨g.cells.setIfInBounds i v⟩
  else .error (.global i g.cells.size) g

def write (i : Nat) (vs : List Cell) : Access Globals Unit := fun g =>
  if i + vs.length ≤ g.cells.size then .ok () ⟨Cells.write g.cells i vs⟩
  else .error (.global i g.cells.size) g

/-- Copy the initial values over the cells; a program has as many of them. -/
def reset (initial : Array Cell) (g : Globals) : Globals :=
  ⟨Cells.write g.cells 0 initial.toList⟩

end Globals

end GameVm
