import RefPages.Json.Quoted

/-!
Numbers. Only those that are written as natural numbers below 2^64 have a value here; of the others
it matters only whether a binary64 number can come near them, since one that is out of range is
malformed.
-/

namespace RefPages.Json.Number

def round53 (n : Nat) : Nat :=
  let unit := Nat.pow 2 (n.log2 + 1 - 53)
  let q := n / unit
  let r := 2 * (n % unit)
  if r < unit ∨ (r = unit ∧ q % 2 = 0) then q * unit else (q + 1) * unit

/-- Whether a significand times a power of ten is in the range of binary64, when both factors and
the product are rounded. -/
def inRange (significand : Nat) (exponent : Int) : Bool :=
  if exponent ≤ 0 then true
  else if exponent > 308 then significand == 0
  else round53 significand * round53 (Nat.pow 10 exponent.toNat) < Nat.pow 2 1024 - Nat.pow 2 970

def absorb (n : Nat) : List Nat → Nat × Nat
  | [] => (n, 0)
  | d :: rest =>
    if n * 10 + d < Text.numberLimit then
      let (m, taken) := absorb (n * 10 + d) rest
      (m, taken + 1)
    else (n, 0)

def values (digits : Text) : List Nat :=
  digits.filterMap (Text.digitValue? 10)

def missing (t : Text) : Fault :=
  if t.isEmpty then .cutShort else .malformed

def readDigits (t : Text) : Except Fault (Text × Text) :=
  match t.takeWhile Char.isDigit with
  | [] => .error (missing t)
  | digits => .ok (digits, t.dropWhile Char.isDigit)

theorem length_readDigits {t digits rest : Text} (h : readDigits t = .ok (digits, rest)) :
    rest.length < t.length := by
  unfold readDigits at h
  split at h
  · simp at h
  · rename_i h₁
    simp only [Except.ok.injEq, Prod.mk.injEq] at h
    have h₂ := congrArg List.length (List.takeWhile_append_dropWhile (p := Char.isDigit) (l := t))
    have h₃ := List.length_pos_iff.mpr h₁
    simp only [List.length_append, h.2] at h₂
    omega

def unsigned : Text → Bool × Text
  | '+' :: t => (true, t)
  | '-' :: t => (false, t)
  | t => (true, t)

theorem length_unsigned_le (t : Text) : (unsigned t).2.length ≤ t.length := by
  unfold unsigned
  split <;> simp

def readExponent : Text → Except Fault (Int × Text)
  | [] => .ok (0, [])
  | c :: t =>
    if c = 'e' ∨ c = 'E' then
      match readDigits (unsigned t).2 with
      | .error e => .error e
      | .ok (digits, rest) =>
        let n : Int := Text.number 10 (values digits)
        .ok (if (unsigned t).1 then n else -n, rest)
    else .ok (0, c :: t)

theorem length_readExponent_le {t rest : Text} {n : Int} (h : readExponent t = .ok (n, rest)) :
    rest.length ≤ t.length := by
  cases t with
  | nil =>
    cases h
    simp
  | cons c t =>
    simp only [readExponent] at h
    split at h
    · split at h
      · simp at h
      · rename_i h₁
        have h₂ := length_readDigits h₁
        have h₃ := length_unsigned_le t
        simp only [Except.ok.injEq, Prod.mk.injEq] at h
        simp only [← h.2, List.length_cons]
        omega
    · simp only [Except.ok.injEq, Prod.mk.injEq] at h
      simp [← h.2]

def readFraction : Text → Except Fault (Text × Text)
  | '.' :: t => readDigits t
  | t => .ok ([], t)

theorem length_readFraction_le {t digits rest : Text} (h : readFraction t = .ok (digits, rest)) :
    rest.length ≤ t.length := by
  unfold readFraction at h
  split at h
  · have := length_readDigits h
    simp only [List.length_cons]
    omega
  · cases h
    simp

def read (t : Text) : Except Fault (Option Nat × Text) :=
  match readDigits t with
  | .error e => .error e
  | .ok (digits, rest₁) =>
    if digits.head? = some '0' ∧ digits.length ≠ 1 then .error .malformed
    else match readFraction rest₁ with
      | .error e => .error e
      | .ok (fraction, rest₂) =>
        match readExponent rest₂ with
        | .error e => .error e
        | .ok (exponent, rest₃) =>
          let (whole, taken) := absorb 0 (values digits)
          let (significand, places) := absorb whole (values fraction)
          if rest₃.length = rest₁.length ∧ taken = digits.length then .ok (some whole, rest₃)
          else if inRange significand (digits.length - taken - places + exponent) then
            .ok (none, rest₃)
          else .error .malformed

theorem length_read {t rest : Text} {n : Option Nat} (h : read t = .ok (n, rest)) :
    rest.length < t.length := by
  unfold read at h
  split at h
  · simp at h
  · rename_i h₁
    split at h
    · simp at h
    · split at h
      · simp at h
      · rename_i h₂
        split at h
        · simp at h
        · rename_i rest₃ h₃
          have := length_readDigits h₁
          have := length_readFraction_le h₂
          have := length_readExponent_le h₃
          have : rest₃ = rest := by
            dsimp only at h
            split at h
            · exact (Prod.mk.inj (Except.ok.inj h)).2
            · split at h
              · exact (Prod.mk.inj (Except.ok.inj h)).2
              · simp at h
          subst this
          omega

def skip (t : Text) : Except Fault Text :=
  match readDigits t with
  | .error _ => .error .malformed
  | .ok (digits, rest) =>
    if digits.head? = some '0' ∧ digits.length ≠ 1 then .error .malformed
    else match readFraction rest with
      | .error _ => .error .malformed
      | .ok (_, rest) =>
        match readExponent rest with
        | .error _ => .error .malformed
        | .ok (_, rest) => .ok rest

theorem length_skip {t rest : Text} (h : skip t = .ok rest) : rest.length < t.length := by
  unfold skip at h
  split at h
  · simp at h
  · rename_i h₁
    split at h
    · simp at h
    · split at h
      · simp at h
      · rename_i h₂
        split at h
        · simp at h
        · rename_i h₃
          cases h
          have := length_readDigits h₁
          have := length_readFraction_le h₂
          have := length_readExponent_le h₃
          omega

end RefPages.Json.Number
