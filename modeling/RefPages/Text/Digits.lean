import RefPages.Text.Basic

namespace RefPages.Text

def digitValue? (base : Nat) (c : Char) : Option Nat :=
  let value :=
    if '0' ≤ c ∧ c ≤ '9' then some (c.toNat - '0'.toNat)
    else if 'a' ≤ c ∧ c ≤ 'z' then some (c.toNat - 'a'.toNat + 10)
    else if 'A' ≤ c ∧ c ≤ 'Z' then some (c.toNat - 'A'.toNat + 10)
    else none
  value.filter (· < base)

def number (base : Nat) (digits : List Nat) : Nat :=
  digits.foldl (fun n d => n * base + d) 0

def number? (base : Nat) (t : Text) : Option Nat :=
  if t.isEmpty then none else (t.mapM (digitValue? base)).map (number base)

def numberLimit : Nat :=
  Nat.pow 2 64

def ofNat (base n : Nat) : Text :=
  Nat.toDigits base n

end RefPages.Text
