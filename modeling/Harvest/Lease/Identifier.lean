/-! Identifiers: 32 digits to base sixteen in five groups, where one digit tells that the others are chosen
at random and another one which layout is used. -/

namespace Harvest.Identifier

/-- The digits of a number to base sixteen, cut or filled to a width. -/
def digits (width n : Nat) : List Char :=
  let found := Nat.toDigits 16 (n % Nat.pow 16 width)
  List.replicate (width - found.length) '0' ++ found

/-- The identifier of a number below 2¹²⁰. -/
def ofNumber (n : Nat) : String :=
  let group (shift width : Nat) : List Char := digits width (n / Nat.pow 16 shift)
  String.ofList (group 22 8 ++ '-' :: group 18 4 ++ '-' :: '4' :: group 15 3 ++ '-' :: '8' :: group 12 3
    ++ '-' :: group 0 12)

/-- A worker's name that is made of an identifier. -/
def workerName (id : String) : String :=
  "worker-" ++ String.ofList (id.toList.filter (· ≠ '-'))

end Harvest.Identifier
