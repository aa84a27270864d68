import RefPages.Json.Reader
import RefPages.Json.Value
import RefPages.Proofs.Text.Digits
import RefPages.Proofs.Text.Stops

namespace RefPages.Json

open Text (digitValue? eq_zero_of_head?_ofNat isDigit_of_mem_ofNat numberLimit ofNat ofNat_of_le
  ofNat_of_lt)

namespace Number

def extend (n : Nat) (ds : List Nat) : Nat :=
  ds.foldl (fun n d => n * 10 + d) n

theorem le_extend (n : Nat) (ds : List Nat) : n ≤ extend n ds := by
  induction ds generalizing n with
  | nil => exact Nat.le_refl n
  | cons d ds ih =>
    have := ih (n * 10 + d)
    rw [extend, List.foldl_cons, ← extend]
    omega

theorem absorb_eq {n : Nat} {ds : List Nat} (h : extend n ds < numberLimit) :
    absorb n ds = (extend n ds, ds.length) := by
  induction ds generalizing n with
  | nil => rfl
  | cons d ds ih =>
    rw [extend, List.foldl_cons, ← extend] at h ⊢
    have hd := Nat.lt_of_le_of_lt (le_extend (n * 10 + d) ds) h
    rw [absorb, if_pos hd, ih h]
    rfl

theorem values_append (s t : Text) : values (s ++ t) = values s ++ values t :=
  List.filterMap_append

theorem values_digitChar {d : Nat} (h : d < 10) : values [Nat.digitChar d] = [d] := by
  have hd := Text.digitValue?_digitChar (by decide) h
  rw [values, List.filterMap_cons_some hd, List.filterMap_nil]

theorem values_ofNat (n : Nat) :
    extend 0 (values (ofNat 10 n)) = n ∧ (values (ofNat 10 n)).length = (ofNat 10 n).length := by
  induction n using Nat.strongRecOn with
  | ind n ih =>
    by_cases h : n < 10
    · rw [ofNat_of_lt h, values_digitChar h]
      exact ⟨by simp [extend], rfl⟩
    · obtain ⟨hv, hl⟩ := ih (n / 10) (by omega)
      rw [ofNat_of_le (by decide) (Nat.le_of_not_lt h), values_append,
        values_digitChar (Nat.mod_lt n (by decide)), List.length_append, List.length_append, hl]
      refine ⟨?_, rfl⟩
      rw [extend, List.foldl_append, ← extend, ← extend, hv]
      exact Nat.div_add_mod' n 10

def Ends (rest : Text) : Prop :=
  ∀ c t, rest = c :: t → c.isDigit = false ∧ c ≠ '.' ∧ c ≠ 'e' ∧ c ≠ 'E'

theorem readDigits_ofNat (n : Nat) {rest : Text} (h : Ends rest) :
    readDigits (ofNat 10 n ++ rest) = .ok (ofNat 10 n, rest) := by
  have hd : ∀ c ∈ ofNat 10 n, c.isDigit = true := fun c hc => isDigit_of_mem_ofNat hc
  have hrest : ∀ c ∈ rest.head?, c.isDigit = false := by
    intro c hc
    obtain ⟨t, ht⟩ := List.head?_eq_some_iff.mp hc
    exact (h c t ht).1
  rw [readDigits, Text.takeWhile_append hd hrest, Text.dropWhile_append hd hrest]
  split
  · next hn => exact absurd hn Nat.toDigits_ne_nil
  · rfl

theorem readFraction_of_ends {rest : Text} (h : Ends rest) : readFraction rest = .ok ([], rest) := by
  rw [readFraction.eq_def]
  split
  · exact absurd rfl (h _ _ rfl).2.1
  · rfl

theorem readExponent_of_ends {rest : Text} (h : Ends rest) : readExponent rest = .ok (0, rest) := by
  cases rest with
  | nil => rfl
  | cons c t =>
    have hc := (h c t rfl).2.2
    rw [readExponent, if_neg (not_or.mpr hc)]

theorem read_ofNat {n : Nat} {rest : Text} (hn : n < numberLimit) (h : Ends rest) :
    read (ofNat 10 n ++ rest) = .ok (some n, rest) := by
  obtain ⟨hv, hl⟩ := values_ofNat n
  have hzero : ¬((ofNat 10 n).head? = some '0' ∧ (ofNat 10 n).length ≠ 1) := by
    rintro ⟨h0, h1⟩
    rw [eq_zero_of_head?_ofNat h0] at h1
    exact h1 rfl
  have habsorb : absorb 0 (values (ofNat 10 n)) = (n, (ofNat 10 n).length) := by
    rw [absorb_eq (by rwa [hv]), hv, hl]
  rw [read, readDigits_ofNat n h]
  dsimp only
  rw [if_neg hzero, readFraction_of_ends h]
  dsimp only
  rw [readExponent_of_ends h, habsorb]
  dsimp only
  rw [if_pos ⟨rfl, rfl⟩]

end Number

namespace Quoted

theorem number?_hexDigits {n : Nat} (h : n < 0x20) :
    Text.number? 16 ('0' :: '0' :: hexDigits n) = some n := by
  have : ∀ n < 0x20, Text.number? 16 ('0' :: '0' :: hexDigits n) = some n := by decide
  exact this n h

theorem readEscape_control {c : Char} (h : c.toNat < 0x20) (rest : Text) :
    readEscape ('u' :: '0' :: '0' :: (hexDigits c.toNat ++ rest)) = .ok (c, rest) := by
  have hhex : readHex ('0' :: '0' :: (hexDigits c.toNat ++ rest)) = .ok (c.toNat, rest) := by
    rw [hexDigits, List.cons_append, List.cons_append, List.nil_append, readHex, ← hexDigits,
      number?_hexDigits h]
  have hleading : isLeading c.toNat = false := by
    simp only [isLeading, Bool.and_eq_false_iff, decide_eq_false_iff_not]
    omega
  have htrailing : isTrailing c.toNat = false := by
    simp only [isTrailing, Bool.and_eq_false_iff, decide_eq_false_iff_not]
    omega
  rw [readEscape, readCode, hhex]
  dsimp only
  rw [if_neg (by simp [htrailing]), if_neg (by simp [hleading]), Char.ofNat_toNat]

theorem read_escaped {t rest : Text} {c : Char} (h : readEscape t = .ok (c, rest)) :
    read ('\\' :: t) = (read rest).map fun (s, rest) => (c :: s, rest) := by
  rw [read]
  split
  · next he =>
    rw [h] at he
    cases he
  · next he =>
    rw [h] at he
    cases he
    rfl

theorem read_escape (c : Char) (rest : Text) :
    read (escape c ++ rest) = (read rest).map fun (s, rest) => (c :: s, rest) := by
  unfold escape
  split
  · exact read_escaped rfl
  · exact read_escaped rfl
  · exact read_escaped rfl
  · exact read_escaped rfl
  · exact read_escaped rfl
  · exact read_escaped rfl
  · exact read_escaped rfl
  · next hquote hbackslash _ _ _ _ _ =>
    split
    · next hc => exact read_escaped (readEscape_control hc rest)
    · next hc =>
      rw [List.singleton_append, read, if_neg hc]
      · exact hquote
      · exact hbackslash

theorem read_flatMap_escape (t rest : Text) :
    read (t.flatMap escape ++ '"' :: rest) = .ok (t, rest) := by
  induction t with
  | nil => rw [List.flatMap_nil, List.nil_append, read]
  | cons c t ih =>
    rw [List.flatMap_cons, List.append_assoc, read_escape, ih]
    rfl

end Quoted
end RefPages.Json
