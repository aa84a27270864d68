import RefPages.Proofs.Domain.Composites

namespace RefPages.Domain.Normal

def IsSimple (n : Nat) : Prop :=
  ¬IsWhole n ∧ ¬IsSyllable n

theorem isSimple_of_isLetter {n : Nat} (h : IsLetter n) : IsSimple n := by
  refine ⟨not_isWhole_of_isLetter h, ?_⟩
  simp only [IsLetter, IsSyllable, leading, vowels, trailing, syllables] at h ⊢
  omega

theorem isSimple_of_ascii {n : Nat} (h : n < 0x80) : IsSimple n := by
  refine ⟨not_isWhole_of_ascii h, ?_⟩
  simp only [IsSyllable, syllables]
  omega

theorem not_isLetter_of_ascii {n : Nat} (h : n < 0x80) : ¬IsLetter n := by
  simp only [IsLetter, leading, vowels, trailing]
  omega

theorem isLetter_of_mem_letters {i n : Nat} (hi : i < 11172) (h : n ∈ letters i) : IsLetter n := by
  rw [letters] at h
  simp only [IsLetter, leading, vowels, trailing] at h ⊢
  split at h <;> simp at h <;> omega

theorem letters_open {i j : Nat} (hj : j < 21) :
    letters ((i * 21 + j) * 28) = [leading + i, vowels + j] := by
  have hmod : (i * 21 + j) * 28 % 28 = 0 := by omega
  have hfirst : (i * 21 + j) * 28 / 588 = i := by omega
  have hsecond : (i * 21 + j) * 28 % 588 / 28 = j := by omega
  rw [letters, if_pos hmod, hfirst, hsecond]

theorem letters_closed {i k : Nat} (hk : k < 28) (hpos : 0 < k) :
    letters (i * 28 + k) = letters (i * 28) ++ [trailing + k] := by
  have hmod : i * 28 % 28 = 0 := by omega
  have hmod' : (i * 28 + k) % 28 = k := by omega
  have hfirst : (i * 28 + k) / 588 = i * 28 / 588 := by omega
  have hsecond : (i * 28 + k) % 588 / 28 = i * 28 % 588 / 28 := by omega
  rw [letters, letters, if_pos hmod, hmod', if_neg (by omega), hfirst, hsecond]

section Steps

variable {parts? : Nat → Option (Nat × Nat)} {n a b : Nat}

theorem unfold_of_isSyllable (h : IsSyllable n) (fuel : Nat) :
    unfold parts? (fuel + 1) n = letters (n - syllables) := by
  rw [IsSyllable] at h
  rw [unfold, if_pos h]

theorem unfold_of_none (h : ¬IsSyllable n) (hn : parts? n = none) (fuel : Nat) :
    unfold parts? (fuel + 1) n = [n] := by
  rw [IsSyllable] at h
  rw [unfold, if_neg h, hn]

theorem unfold_of_some (h : ¬IsSyllable n) (hn : parts? n = some (a, b)) (fuel : Nat) :
    unfold parts? (fuel + 1) n = unfold parts? fuel a ++ [b] := by
  rw [IsSyllable] at h
  rw [unfold, if_neg h, hn]

end Steps

def unfoldTo (fuel n : Nat) : List Nat :=
  unfold (parts[·]?) fuel n

section Unfold

variable {n a b : Nat}

theorem unfoldTo_syllable (h : IsSyllable n) (fuel : Nat) :
    unfoldTo (fuel + 1) n = letters (n - syllables) :=
  unfold_of_isSyllable h fuel

theorem unfoldTo_simple (h : IsSimple n) (fuel : Nat) : unfoldTo fuel n = [n] := by
  cases fuel with
  | zero => rfl
  | succ fuel => exact unfold_of_none h.2 (parts_eq_none h.1) fuel

theorem unfoldTo_row (h : (n, a, b) ∈ table) (fuel : Nat) :
    unfoldTo (fuel + 1) n = unfoldTo fuel a ++ [b] :=
  unfold_of_some (not_isSyllable_of_mem h).1 (parts_of_mem h) fuel

theorem isSimple_second (h : (n, a, b) ∈ table) : IsSimple b :=
  ⟨not_isWhole_second h, (not_isSyllable_of_mem h).2.2⟩

def IsNested (depth n : Nat) : Prop :=
  (nestedIn table depth).testBit n = true

theorem isNested_of_row {depth : Nat} (h : (n, a, b) ∈ table) (ha : IsNested depth a) :
    IsNested (depth + 1) n :=
  testBit_wholesOf.mpr ⟨(n, a, b), List.mem_filter.mpr ⟨h, ha⟩, rfl⟩

theorem not_isNested (n : Nat) : ¬IsNested 6 n := by
  rw [IsNested, fit_table.shallow, Nat.zero_testBit]
  exact Bool.false_ne_true

theorem unfoldTo_of_not_isWhole (h : ¬IsWhole n) (fuel : Nat) :
    unfoldTo (fuel + 2) n = unfoldTo (fuel + 1) n ∧ ∀ d ∈ unfoldTo (fuel + 1) n, IsSimple d := by
  by_cases hs : IsSyllable n
  · rw [unfoldTo_syllable hs, unfoldTo_syllable hs]
    rw [IsSyllable] at hs
    have hlt : n - syllables < 11172 := by omega
    exact ⟨rfl, fun d hd => isSimple_of_isLetter (isLetter_of_mem_letters hlt hd)⟩
  · rw [unfoldTo_simple ⟨h, hs⟩, unfoldTo_simple ⟨h, hs⟩]
    refine ⟨rfl, fun d hd => ?_⟩
    rw [List.mem_singleton.mp hd]
    exact ⟨h, hs⟩

theorem unfoldTo_of_not_isNested {depth : Nat} (h : ¬IsNested depth n) {fuel : Nat}
    (hfuel : depth ≤ fuel) :
    unfoldTo (fuel + 2) n = unfoldTo (fuel + 1) n ∧ ∀ d ∈ unfoldTo (fuel + 1) n, IsSimple d := by
  induction depth generalizing n fuel with
  | zero => exact unfoldTo_of_not_isWhole (fun hw => h (isWhole_iff.mp hw)) fuel
  | succ depth ih =>
    by_cases hw : IsWhole n
    · obtain ⟨a, b, hrow⟩ := hw
      obtain ⟨fuel, rfl⟩ : ∃ k, fuel = k + 1 := ⟨fuel - 1, by omega⟩
      obtain ⟨heq, hsimple⟩ := ih (fun ha => h (isNested_of_row hrow ha)) (Nat.le_of_succ_le_succ hfuel)
      rw [unfoldTo_row hrow, unfoldTo_row hrow, heq]
      refine ⟨rfl, fun d hd => ?_⟩
      rcases List.mem_append.mp hd with hd | hd
      · exact hsimple d hd
      · rw [List.mem_singleton.mp hd]
        exact isSimple_second hrow
    · exact unfoldTo_of_not_isWhole hw fuel

theorem isSimple_of_mem_unfoldTo {d : Nat} (h : d ∈ unfoldTo 8 n) : IsSimple d := by
  obtain ⟨heq, hsimple⟩ := unfoldTo_of_not_isNested (not_isNested n) (Nat.le_refl 6)
  rw [heq] at h
  exact hsimple d h

theorem unfoldTo_compose (h : (n, a, b) ∈ table) : unfoldTo 8 n = unfoldTo 8 a ++ [b] := by
  obtain ⟨heq, -⟩ := unfoldTo_of_not_isNested (not_isNested a) (Nat.le_refl 6)
  rw [unfoldTo_row h, heq]

theorem isValidChar_of_lt (h : n < 0xD800) : n.isValidChar :=
  .inl h

theorem isValidChar_of_mem_unfoldTo {fuel d : Nat} (hn : n.isValidChar) (h : d ∈ unfoldTo fuel n) :
    d.isValidChar := by
  induction fuel generalizing n with
  | zero =>
    rwa [List.mem_singleton.mp h]
  | succ fuel ih =>
    by_cases hw : IsWhole n
    · obtain ⟨a, b, hrow⟩ := hw
      obtain ⟨-, ha, hb⟩ := fit_table.valid _ hrow
      rw [unfoldTo_row hrow] at h
      rcases List.mem_append.mp h with h | h
      · exact ih ha h
      · rwa [List.mem_singleton.mp h]
    · by_cases hs : IsSyllable n
      · rw [unfoldTo_syllable hs] at h
        rw [IsSyllable] at hs
        have hletter : IsLetter d := isLetter_of_mem_letters (by omega) h
        simp only [IsLetter, leading, vowels, trailing] at hletter
        apply isValidChar_of_lt
        omega
      · rw [unfoldTo_simple ⟨hw, hs⟩] at h
        rwa [List.mem_singleton.mp h]

end Unfold

theorem units_eq (c : Char) : units c = (unfoldTo 8 c.toNat).map Char.ofNat := rfl

theorem units_of_isSimple {c : Char} (h : IsSimple c.toNat) : units c = [c] := by
  rw [units_eq, unfoldTo_simple h, List.map_singleton, Char.ofNat_toNat]

theorem isSimple_of_mem_units {c d : Char} (h : d ∈ units c) : IsSimple d.toNat := by
  obtain ⟨n, hn, rfl⟩ := List.mem_map.mp h
  rw [Text.toNat_ofNat (isValidChar_of_mem_unfoldTo c.valid hn)]
  exact isSimple_of_mem_unfoldTo hn

theorem compose?_cases {a b w : Char} (h : compose? a b = some w) :
    (∃ i j, i < 19 ∧ j < 21 ∧ a.toNat = leading + i ∧ b.toNat = vowels + j ∧
      w.toNat = syllables + (i * 21 + j) * 28) ∨
    (∃ i k, i < 399 ∧ k < 28 ∧ 0 < k ∧ a.toNat = syllables + i * 28 ∧ b.toNat = trailing + k ∧
      w.toNat = syllables + i * 28 + k) ∨
    (w.toNat, a.toNat, b.toNat) ∈ table := by
  rw [compose?] at h
  split at h
  · next hab =>
    rw [← Option.some.inj h]
    left
    refine ⟨a.toNat - leading, b.toNat - vowels, by omega, by omega, by omega, by omega, ?_⟩
    apply Text.toNat_ofNat
    apply isValidChar_of_lt
    simp only [leading, vowels, syllables] at hab ⊢
    omega
  · split at h
    · next hab =>
      rw [← Option.some.inj h]
      right
      left
      refine ⟨(a.toNat - syllables) / 28, b.toNat - trailing, by omega, by omega, by omega, by omega,
        by omega, ?_⟩
      have hvalid : (a.toNat + (b.toNat - trailing)).isValidChar := by
        apply isValidChar_of_lt
        simp only [trailing, syllables] at hab ⊢
        omega
      rw [Text.toNat_ofNat hvalid]
      omega
    · obtain ⟨n, hn, rfl⟩ := Option.map_eq_some_iff.mp h
      have hmem := mem_table_of_wholes hn
      rw [Text.toNat_ofNat (fit_table.valid _ hmem).1]
      exact .inr (.inr hmem)

theorem units_of_compose? {a b w : Char} (h : compose? a b = some w) :
    units w = units a ++ [b] := by
  have hb : [b] = [b.toNat].map Char.ofNat := by rw [List.map_singleton, Char.ofNat_toNat]
  rw [units_eq, units_eq, hb, ← List.map_append]
  congr 1
  obtain ⟨i, j, hi, hj, ha, hb, hw⟩ | ⟨i, k, hi, hk, hpos, ha, hb, hw⟩ | h := compose?_cases h
  · have hsyllable : IsSyllable w.toNat := by
      rw [IsSyllable]
      omega
    have hletter : IsLetter a.toNat := by
      rw [IsLetter]
      omega
    rw [unfoldTo_syllable hsyllable, unfoldTo_simple (isSimple_of_isLetter hletter), hw, ha, hb,
      Nat.add_sub_cancel_left, letters_open hj]
    rfl
  · have hsyllable : IsSyllable w.toNat ∧ IsSyllable a.toNat := by
      rw [IsSyllable, IsSyllable]
      omega
    rw [unfoldTo_syllable hsyllable.1, unfoldTo_syllable hsyllable.2, hw, ha, hb,
      Nat.add_sub_cancel_left, Nat.add_assoc, Nat.add_sub_cancel_left, letters_closed hk hpos]
  · exact unfoldTo_compose h

end RefPages.Domain.Normal
