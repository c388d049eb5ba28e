/-! Hexadecimal and signed numerals. -/

namespace GameVm.Numeral

def hex (width n : Nat) : String :=
  let digits := Nat.toDigits 16 n
  "0x" ++ String.ofList (List.replicate (width - digits.length) '0' ++ digits)

def signed (i : Int) : String :=
  if i < 0 then toString i else "+" ++ toString i

end GameVm.Numeral
