import RefPages.Text.Digits

namespace RefPages.Domain

structure Span (α : Type) where
  first : Nat
  last : Nat
  value : α

namespace Span

variable {α : Type}

def search (spans : Array (Span α)) (n lo hi : Nat) : Option (Span α) :=
  if _h : lo < hi then
    let middle := (lo + hi) / 2
    match spans[middle]? with
    | none => none
    | some s =>
      if n < s.first then search spans n lo middle
      else if s.last < n then search spans n (middle + 1) hi
      else some s
  else none
termination_by hi - lo
decreasing_by all_goals omega

def find? (spans : Array (Span α)) (c : Char) : Option (Span α) :=
  search spans c.toNat 0 spans.size

def value? (spans : Array (Span α)) (c : Char) : Option α :=
  (find? spans c).map (·.value)

def hex (t : Text) : Nat :=
  (Text.number? 16 t).getD 0

def ends (row : Text) : Nat × Nat × Text :=
  let isDigit c := (Text.digitValue? 16 c).isSome
  let first := hex (row.takeWhile isDigit)
  match row.dropWhile isDigit with
  | '-' :: rest => (first, hex (rest.takeWhile isDigit), rest.dropWhile isDigit)
  | rest => (first, first, rest)

def ofRow (value : Text → α) (row : Text) : Span α :=
  let (first, last, rest) := ends row
  ⟨first, last, value (rest.drop 1)⟩

end Span
end RefPages.Domain
