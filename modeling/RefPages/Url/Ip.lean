import RefPages.Url.Basic

namespace RefPages.Url.Ip

def number? : Text → Option Nat
  | '0' :: 'x' :: [] | '0' :: 'X' :: [] => some 0
  | '0' :: 'x' :: t | '0' :: 'X' :: t => Text.number? 16 t
  | '0' :: c :: t => Text.number? 8 (c :: t)
  | t => Text.number? 10 t

def parts (t : Text) : List Text :=
  let all := t.splitOn '.'
  if all.getLast? = some [] then all.dropLast else all

def endsInNumber (t : Text) : Bool :=
  match (parts t).getLast? with
  | none => false
  | some last => (!last.isEmpty && last.all Char.isDigit) || (number? last).isSome

def ipv4? (t : Text) : Option Nat := do
  let numbers ← (parts t).mapM number?
  let last ← numbers.getLast?
  let others := numbers.dropLast
  let room := Nat.pow 256 (4 - others.length)
  if others.length ≤ 3 ∧ last < room ∧ others.all (· < 256) then
    some (others.foldl (fun n d => n * 256 + d) 0 * room + last)
  else none

def embedded? (t : Text) : Option (List Nat) := do
  let numbers ← (t.splitOn '.').mapM fun part =>
    if part.length > 1 ∧ part.head? = some '0' then none else Text.number? 10 part
  match numbers with
  | [a, b, c, d] =>
    if numbers.all (· < 256) then some [a * 256 + b, c * 256 + d] else none
  | _ => none

def pieces? : List Text → Option (List Nat)
  | [] => some []
  | [part] =>
    if part.any (· == '.') then embedded? part
    else if part.length ≤ 4 then (Text.number? 16 part).map ([·]) else none
  | part :: rest => do
    let n ← if part.length ≤ 4 then Text.number? 16 part else none
    return n :: (← pieces? rest)

def group? (t : Text) : Option (List Nat) :=
  if t.isEmpty then some [] else pieces? (t.splitOn ':')

def ipv6? (t : Text) : Option (List Nat) :=
  match Text.splitAt? "::".toList [] t with
  | none => (group? t).filter (·.length = 8)
  | some (before, after) => do
    let first ← if before.any (· == '.') then none else group? before
    let second ← group? after
    let missing := 8 - (first.length + second.length)
    if missing = 0 then none else some (first ++ List.replicate missing 0 ++ second)

end RefPages.Url.Ip
