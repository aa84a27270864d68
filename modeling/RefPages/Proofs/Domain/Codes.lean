import RefPages.Domain.Span

/-!
Sets of code points as numbers, with a bit for each. What holds of all characters of a table is then
found with a few operations on numbers.
-/

namespace RefPages.Domain

namespace Codes

def union {α : Type} (f : α → Nat) (l : List α) : Nat :=
  l.foldl (fun m a => m ||| f a) 0

def ofList (codes : List Nat) : Nat :=
  union (1 <<< ·) codes

def span (first last : Nat) : Nat :=
  (1 <<< (last + 1 - first) - 1) <<< first

variable {n : Nat}

theorem testBit_foldl {α : Type} (f : α → Nat) (m : Nat) (l : List α) :
    (l.foldl (fun m a => m ||| f a) m).testBit n = true ↔
      m.testBit n = true ∨ ∃ a ∈ l, (f a).testBit n = true := by
  induction l generalizing m with
  | nil => simp
  | cons a l ih =>
    rw [List.foldl_cons, ih, Nat.testBit_or, Bool.or_eq_true, or_assoc]
    simp only [List.mem_cons, exists_eq_or_imp]

theorem testBit_union {α : Type} {f : α → Nat} {l : List α} :
    (union f l).testBit n = true ↔ ∃ a ∈ l, (f a).testBit n = true := by
  rw [union, testBit_foldl, Nat.zero_testBit]
  simp

theorem testBit_ofList {codes : List Nat} : (ofList codes).testBit n = true ↔ n ∈ codes := by
  rw [ofList, testBit_union]
  constructor
  · rintro ⟨m, hm, h⟩
    rw [Nat.one_shiftLeft, Nat.testBit_two_pow, decide_eq_true_eq] at h
    rwa [← h]
  · intro h
    refine ⟨n, h, ?_⟩
    rw [Nat.one_shiftLeft, Nat.testBit_two_pow_self]

theorem testBit_span {first last : Nat} :
    (span first last).testBit n = true ↔ first ≤ n ∧ n ≤ last := by
  rw [span, Nat.testBit_shiftLeft, Nat.one_shiftLeft, Nat.testBit_two_pow_sub_one]
  simp only [Bool.and_eq_true, decide_eq_true_eq]
  omega

theorem testBit_or {a b : Nat} :
    (a ||| b).testBit n = true ↔ a.testBit n = true ∨ b.testBit n = true := by
  rw [Nat.testBit_or, Bool.or_eq_true]

def apart (a b : Nat) : Bool :=
  a &&& b == 0

theorem false_of_apart {a b : Nat} (h : apart a b = true) (ha : a.testBit n = true)
    (hb : b.testBit n = true) : False := by
  have hand : (a &&& b).testBit n = true := by rw [Nat.testBit_and, ha, hb, Bool.and_self]
  rw [eq_of_beq h, Nat.zero_testBit] at hand
  cases hand

end Codes

namespace Span

variable {α : Type} {spans : Array (Span α)} {s : Span α}

def codes (s : Span α) : Nat :=
  Codes.span s.first s.last

theorem mem_of_search {n lo hi : Nat} (h : search spans n lo hi = some s) :
    s ∈ spans ∧ s.first ≤ n ∧ n ≤ s.last := by
  fun_induction search spans n lo hi with
  | case1 => cases h
  | case2 lo hi _ middle s' hs' _ ih => exact ih h
  | case3 lo hi _ middle s' hs' _ _ ih => exact ih h
  | case4 lo hi _ middle s' hs' hfirst hlast =>
    cases h
    exact ⟨Array.mem_of_getElem? hs', Nat.not_lt.mp hfirst, Nat.not_lt.mp hlast⟩
  | case5 => cases h

theorem mem_of_value? {c : Char} {a : α} (h : value? spans c = some a) :
    (Codes.union codes spans.toList).testBit c.toNat = true := by
  obtain ⟨s, hs, -⟩ := Option.map_eq_some_iff.mp h
  obtain ⟨hmem, hle⟩ := mem_of_search hs
  exact Codes.testBit_union.mpr ⟨s, Array.mem_toList_iff.mpr hmem, Codes.testBit_span.mpr hle⟩

end Span
end RefPages.Domain
