import RefPages.Markup.Entity

namespace RefPages.Markup.Reference

def windowsCodes : List Nat :=
  [0x20AC, 0x81, 0x201A, 0x0192, 0x201E, 0x2026, 0x2020, 0x2021,
    0x02C6, 0x2030, 0x0160, 0x2039, 0x0152, 0x8D, 0x017D, 0x8F,
    0x90, 0x2018, 0x2019, 0x201C, 0x201D, 0x2022, 0x2013, 0x2014,
    0x02DC, 0x2122, 0x0161, 0x203A, 0x0153, 0x9D, 0x017E, 0x0178]

def replacement : Char := '\uFFFD'

def charOf (n : Nat) : Char :=
  if n = 0 ∨ n > 0x10FFFF ∨ (0xD800 ≤ n ∧ n ≤ 0xDFFF) then replacement
  else if 0x80 ≤ n ∧ n ≤ 0x9F then Char.ofNat (windowsCodes.getD (n - 0x80) n)
  else Char.ofNat n

def numeric (mark : Text) (base : Nat) (t : Text) : Text :=
  let isDigit c := (Text.digitValue? base c).isSome
  match Text.number? base (t.takeWhile isDigit) with
  | none => '&' :: mark ++ t
  | some n =>
    let rest := t.dropWhile isDigit
    charOf n :: (if rest.head? = some ';' then rest.drop 1 else rest)

def named (inAttribute : Bool) (t : Text) : Text :=
  let run := t.takeWhile Char.isAlphanum
  let rest := t.dropWhile Char.isAlphanum
  match (if rest.head? = some ';' then Entity.find? run else none) with
  | some s => s ++ rest.drop 1
  | none =>
    match Entity.longestBare? run with
    | none => '&' :: t
    | some (s, n) =>
      let rest := t.drop n
      if inAttribute && rest.head?.any (fun c => c == '=' || c.isAlphanum) then '&' :: t
      else s ++ rest

def expand (inAttribute : Bool) : Text → Text
  | '#' :: 'x' :: t => numeric ['#', 'x'] 16 t
  | '#' :: 'X' :: t => numeric ['#', 'X'] 16 t
  | '#' :: t => numeric ['#'] 10 t
  | t => named inAttribute t

def decode (inAttribute : Bool) (t : Text) : Text :=
  match t.splitOn '&' with
  | [] => []
  | first :: rest => first ++ rest.flatMap (expand inAttribute)

end RefPages.Markup.Reference
