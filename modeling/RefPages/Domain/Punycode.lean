import RefPages.Text.Basic

/-!
Text in the letters, digits and the hyphen. The ASCII characters come first; behind the last hyphen
the others are written in ascending order, each as the distance from the one before, counted in
(code point, position) pairs, in digits whose weights follow the distances seen so far.
-/

namespace RefPages.Domain.Punycode

def digit (d : Nat) : Char :=
  if d < 26 then Char.ofNat ('a'.toNat + d) else Char.ofNat ('0'.toNat + (d - 26))

def digitValue? (c : Char) : Option Nat :=
  if 'a' ≤ c ∧ c ≤ 'z' then some (c.toNat - 'a'.toNat)
  else if '0' ≤ c ∧ c ≤ '9' then some (c.toNat - '0'.toNat + 26)
  else none

/-- A digit below the threshold ends its number. Positions are multiples of 36. -/
def threshold (bias position : Nat) : Nat :=
  max 1 (min 26 (position - bias))

theorem threshold_pos (bias position : Nat) : 1 ≤ threshold bias position := by
  unfold threshold
  omega

theorem threshold_le (bias position : Nat) : threshold bias position ≤ 26 := by
  unfold threshold
  omega

def damp (position delta : Nat) : Nat :=
  if _h : 455 < delta then damp (position + 36) (delta / 35)
  else position + 36 * delta / (delta + 38)
termination_by delta
decreasing_by omega

def adapt (delta count : Nat) (isFirst : Bool) : Nat :=
  let d := if isFirst then delta / 700 else delta / 2
  damp 0 (d + d / count)

def digits (bias position n : Nat) : Text :=
  let t := threshold bias position
  if _h : n < t then [digit n]
  else digit (t + (n - t) % (36 - t)) :: digits bias (position + 36) ((n - t) / (36 - t))
termination_by n
decreasing_by
  have h₁ := threshold_pos bias position
  have h₂ := Nat.div_le_self (n - threshold bias position) (36 - threshold bias position)
  omega

structure Progress where
  written : Text
  delta : Nat
  bias : Nat
  count : Nat

def pass (basic n : Nat) (p : Progress) (c : Char) : Progress :=
  if c.toNat < n then { p with delta := p.delta + 1 }
  else if c.toNat = n then
    { written := p.written ++ digits p.bias 36 p.delta
      delta := 0
      bias := adapt p.delta (p.count + 1) (p.count == basic)
      count := p.count + 1 }
  else p

def writeFrom (t : Text) (basic next : Nat) (p : Progress) : List Nat → Progress
  | [] => p
  | n :: rest =>
    let p := { p with delta := p.delta + (n - next) * (p.count + 1) }
    let p := t.foldl (pass basic n) p
    writeFrom t basic (n + 1) { p with delta := p.delta + 1 } rest

def isBasic (c : Char) : Bool :=
  c.toNat < 0x80

def encode (t : Text) : Text :=
  let basic := t.filter isBasic
  let start := if basic.isEmpty then [] else basic ++ ['-']
  let others := ((t.filter fun c => !isBasic c).map Char.toNat).mergeSort.eraseDups
  (writeFrom t basic.length 0x80 ⟨start, 0, 72, basic.length⟩ others).written

def readNumber (bias position weight n : Nat) : Text → Option (Nat × Text)
  | [] => none
  | c :: rest =>
    match digitValue? c with
    | none => none
    | some d =>
      let t := threshold bias position
      let n := n + d * weight
      if d < t then some (n, rest) else readNumber bias (position + 36) (weight * (36 - t)) n rest

theorem readNumber_length {bias position weight n m : Nat} {t rest : Text}
    (h : readNumber bias position weight n t = some (m, rest)) : rest.length < t.length := by
  fun_induction readNumber bias position weight n t with
  | case1 => simp at h
  | case2 => simp at h
  | case3 =>
    simp only [Option.some.injEq, Prod.mk.injEq] at h
    simp [← h.2]
  | case4 _ _ _ _ _ _ _ _ _ _ ih => exact Nat.lt_succ_of_lt (ih h)

/-- Reads the characters behind the hyphen. `code` is the least code point that can come next and
`i` the position from which the next distance counts. -/
def readFrom (code i bias : Nat) (read : Text) (t : Text) : Option Text :=
  if t.isEmpty then some read
  else match _h : readNumber bias 36 1 i t with
    | none => none
    | some (n, rest) =>
      let count := read.length + 1
      let code := code + n / count
      if code.isValidChar then
        readFrom code (n % count + 1) (adapt (n - i) count (i == 0))
          (read.insertIdx (n % count) (Char.ofNat code)) rest
      else none
termination_by t.length
decreasing_by exact readNumber_length _h

def decode (t : Text) : Option Text :=
  let tail := (t.reverse.takeWhile (· ≠ '-')).reverse
  let basic := t.take (t.length - tail.length - 1)
  readFrom 0x80 0 72 basic (if basic.isEmpty then t else tail)

end RefPages.Domain.Punycode
