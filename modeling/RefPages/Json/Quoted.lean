import RefPages.Text.Digits

namespace RefPages.Json

inductive Fault where
  | malformed
  | cutShort
  | unfit
  deriving DecidableEq, Repr

namespace Quoted

def hexDigits (n : Nat) : Text :=
  [Nat.digitChar (n / 16), Nat.digitChar (n % 16)]

def escape (c : Char) : Text :=
  match c with
  | '"' => ['\\', '"']
  | '\\' => ['\\', '\\']
  | '\x08' => ['\\', 'b']
  | '\x0c' => ['\\', 'f']
  | '\n' => ['\\', 'n']
  | '\r' => ['\\', 'r']
  | '\t' => ['\\', 't']
  | c => if c.toNat < 0x20 then "\\u00".toList ++ hexDigits c.toNat else [c]

def write (t : Text) : Text :=
  '"' :: t.flatMap escape ++ ['"']

def readHex : Text → Except Fault (Nat × Text)
  | a :: b :: c :: d :: rest =>
    match Text.number? 16 [a, b, c, d] with
    | some n => .ok (n, rest)
    | none => .error .malformed
  | t => .error (if Text.byteSize t < 4 then .cutShort else .malformed)

theorem length_readHex {t rest : Text} {n : Nat} (h : readHex t = .ok (n, rest)) :
    rest.length < t.length := by
  unfold readHex at h
  split at h
  · split at h
    · cases h
      simp only [List.length_cons]
      omega
    · simp at h
  · simp at h

def isLeading (n : Nat) : Bool :=
  0xD800 ≤ n && n < 0xDC00

def isTrailing (n : Nat) : Bool :=
  0xDC00 ≤ n && n < 0xE000

def readCode (t : Text) : Except Fault (Char × Text) :=
  match readHex t with
  | .error e => .error e
  | .ok (n, rest) =>
    if isTrailing n then .error .malformed
    else if isLeading n then
      match rest with
      | [] => .error .cutShort
      | ['\\'] => .error .cutShort
      | '\\' :: 'u' :: rest =>
        match readHex rest with
        | .error e => .error e
        | .ok (m, rest) =>
          if isTrailing m then
            .ok (Char.ofNat (0x10000 + (n - 0xD800) * 0x400 + (m - 0xDC00)), rest)
          else .error .malformed
      | _ => .error .malformed
    else .ok (Char.ofNat n, rest)

theorem length_readCode {t rest : Text} {c : Char} (h : readCode t = .ok (c, rest)) :
    rest.length < t.length := by
  unfold readCode at h
  split at h
  · simp at h
  · rename_i n rest₁ h₁
    have := length_readHex h₁
    split at h
    · simp at h
    · split at h
      · split at h
        · simp at h
        · simp at h
        · split at h
          · simp at h
          · rename_i h₂
            have := length_readHex h₂
            simp only [List.length_cons] at *
            split at h
            · simp only [Except.ok.injEq, Prod.mk.injEq] at h
              rw [← h.2]
              omega
            · simp at h
        · simp at h
      · cases h
        exact this

def readEscape : Text → Except Fault (Char × Text)
  | [] => .error .cutShort
  | '"' :: t => .ok ('"', t)
  | '\\' :: t => .ok ('\\', t)
  | '/' :: t => .ok ('/', t)
  | 'b' :: t => .ok ('\x08', t)
  | 'f' :: t => .ok ('\x0c', t)
  | 'n' :: t => .ok ('\n', t)
  | 'r' :: t => .ok ('\r', t)
  | 't' :: t => .ok ('\t', t)
  | 'u' :: t => readCode t
  | _ :: _ => .error .malformed

theorem length_readEscape {t rest : Text} {c : Char} (h : readEscape t = .ok (c, rest)) :
    rest.length < t.length := by
  unfold readEscape at h
  split at h
  case h_10 =>
    have := length_readCode h
    simp only [List.length_cons]
    omega
  all_goals cases h <;> simp

def read : Text → Except Fault (Text × Text)
  | [] => .error .cutShort
  | '"' :: t => .ok ([], t)
  | '\\' :: t =>
    match _h : readEscape t with
    | .error e => .error e
    | .ok (c, rest) => (read rest).map fun (s, rest) => (c :: s, rest)
  | c :: t =>
    if c.toNat < 0x20 then .error .malformed
    else (read t).map fun (s, rest) => (c :: s, rest)
termination_by t => t.length
decreasing_by
  · have := length_readEscape _h
    simp only [List.length_cons]
    omega
  · simp

theorem length_read {t s rest : Text} (h : read t = .ok (s, rest)) : rest.length < t.length := by
  fun_induction read t generalizing s with
  | case1 => simp at h
  | case2 => cases h; simp
  | case3 => simp at h
  | case4 t c rest₁ h₁ ih =>
    have := length_readEscape h₁
    cases h₂ : read rest₁ with
    | error e => simp [h₂, Except.map] at h
    | ok p =>
      obtain ⟨s', rest'⟩ := p
      simp only [h₂, Except.map, Except.ok.injEq, Prod.mk.injEq] at h
      have := ih (h.2 ▸ h₂)
      simp only [List.length_cons]
      omega
  | case5 => simp at h
  | case6 c t _ _ _ ih =>
    cases h₂ : read t with
    | error e => simp [h₂, Except.map] at h
    | ok p =>
      obtain ⟨s', rest'⟩ := p
      simp only [h₂, Except.map, Except.ok.injEq, Prod.mk.injEq] at h
      have := ih (h.2 ▸ h₂)
      simp only [List.length_cons]
      omega

end Quoted
end RefPages.Json
