import RefPages.Text.Basic

/-!
The UTF-8 form of a text. Reading is lenient: a byte sequence that is no character, taken as far as
it could begin one, becomes one replacement character.
-/

namespace RefPages.Text.Utf8

def encode (t : Text) : List UInt8 :=
  t.flatMap String.utf8EncodeChar

def replacement : Char := '\uFFFD'

/-- The number of bytes that follow the first byte of a character, the bits of it that the first
byte gives, and the bounds of the second byte. -/
def lead? (b : UInt8) : Option (Nat × Nat × Nat × Nat) :=
  let n := b.toNat
  if 0xC2 ≤ n ∧ n ≤ 0xDF then some (1, n - 0xC0, 0x80, 0xBF)
  else if n = 0xE0 then some (2, 0, 0xA0, 0xBF)
  else if n = 0xED then some (2, 13, 0x80, 0x9F)
  else if 0xE1 ≤ n ∧ n ≤ 0xEF then some (2, n - 0xE0, 0x80, 0xBF)
  else if n = 0xF0 then some (3, 0, 0x90, 0xBF)
  else if n = 0xF4 then some (3, 4, 0x80, 0x8F)
  else if 0xF1 ≤ n ∧ n ≤ 0xF3 then some (3, n - 0xF0, 0x80, 0xBF)
  else none

def continued : (missing value lower upper : Nat) → List UInt8 → Char × List UInt8
  | 0, value, _, _, rest => (Char.ofNat value, rest)
  | _ + 1, _, _, _, [] => (replacement, [])
  | missing + 1, value, lower, upper, b :: rest =>
    if lower ≤ b.toNat ∧ b.toNat ≤ upper then
      continued missing (value * 64 + b.toNat % 64) 0x80 0xBF rest
    else (replacement, b :: rest)

theorem length_continued_le (missing value lower upper : Nat) (bytes : List UInt8) :
    (continued missing value lower upper bytes).2.length ≤ bytes.length := by
  fun_induction continued missing value lower upper bytes with
  | case1 => simp
  | case2 => simp
  | case3 missing value lower upper b rest h ih =>
    simp only [List.length_cons]
    omega
  | case4 => simp

def first (b : UInt8) (rest : List UInt8) : Char × List UInt8 :=
  if b.toNat < 0x80 then (Char.ofNat b.toNat, rest)
  else match lead? b with
    | none => (replacement, rest)
    | some (missing, value, lower, upper) => continued missing value lower upper rest

theorem length_first_le (b : UInt8) (rest : List UInt8) :
    (first b rest).2.length ≤ rest.length := by
  unfold first
  split
  · simp
  · split
    · simp
    · exact length_continued_le ..

def decode : List UInt8 → Text
  | [] => []
  | b :: rest => (first b rest).1 :: decode (first b rest).2
termination_by bytes => bytes.length
decreasing_by
  have := length_first_le b rest
  simp only [List.length_cons]
  omega

end RefPages.Text.Utf8
