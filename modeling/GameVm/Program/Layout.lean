import GameVm.Program.Image

/-! The layout of entity records that a host has to agree with. -/

namespace GameVm

structure LayoutField where
  name : String
  type : ValueType
  offset : UInt16

/-- The named fields, by offset; fields at one offset keep the order of the table. -/
def Image.layout (image : Image) : List LayoutField :=
  let named := image.parts.fieldDefs.toList.filter (·.name ≠ 0)
  (named.map fun d => ⟨image.parts.nameAt d.name, d.type, d.offset⟩).mergeSort
    fun x y => x.offset ≤ y.offset

namespace LayoutField

def find? (layout : List LayoutField) (name : String) : Option LayoutField :=
  layout.find? (·.name = name)

def encode (f : LayoutField) : Bytes :=
  Utf8.encode f.name ++ [0] ++ Bytes.ofUInt16 f.type.tag ++ Bytes.ofUInt32 f.offset.toUInt32

def checksum (layout : List LayoutField) : UInt32 := Crc32.ofBytes (layout.flatMap encode)

end LayoutField

end GameVm
