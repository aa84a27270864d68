import RefPages.Proofs.Domain.Normal
import RefPages.Proofs.Text.Digits

namespace RefPages.Domain

open Label (isSettled)

namespace Mapping

theorem isSettled_iff {c : Char} : isSettled c = true ↔ mapChar c = some [c] :=
  beq_iff_eq

section MapChar

variable {c : Char}

theorem mapChar_ascii (h : c.toNat < 0x80) : mapChar c = some [c.toLower] :=
  if_pos h

theorem mapChar_by_table (h : ¬c.toNat < 0x80) : mapChar c = mapBy c (Span.find? table c) :=
  if_neg h

end MapChar

theorem isSettled_toLower {c : Char} (h : c.toNat < 0x80) : isSettled c.toLower = true := by
  have hlower : c.toLower.toNat < 0x80 := by
    rw [Text.toNat_toLower]
    split <;> omega
  rw [isSettled_iff, mapChar_ascii hlower, Text.toLower_toLower]

theorem mem_movedIn {s : Span Rule} {every n : Nat} (hfirst : s.first ≤ n) (hlast : n ≤ s.last)
    (h : (n - s.first) % every = 0) : n ∈ movedIn s every := by
  refine List.mem_map.mpr ⟨n - s.first, List.mem_filter.mpr ⟨?_, decide_eq_true h⟩, ?_⟩
  · rw [List.mem_range]
    omega
  · omega

theorem apply_of_not_changedIn {c : Char} {s : Span Rule} (hfirst : s.first ≤ c.toNat)
    (hlast : c.toNat ≤ s.last) (h : ¬(changedIn s).testBit c.toNat = true) :
    s.value.apply c (c.toNat - s.first) = some [c] := by
  have hcodes : s.codes.testBit c.toNat = true := Codes.testBit_span.mpr ⟨hfirst, hlast⟩
  rw [changedIn] at h
  split at h
  · next every distance hvalue =>
    rw [hvalue, Rule.apply]
    split
    · next hmod => exact absurd (Codes.testBit_ofList.mpr (mem_movedIn hfirst hlast hmod)) h
    · rfl
  · exact absurd hcodes h

section Bits

variable {spans : List (Span Rule)} {rows : List Normal.Row} {n : Nat}

theorem testBit_changed : (changed spans).testBit n = true ↔
    ('A'.toNat ≤ n ∧ n ≤ 'Z'.toNat) ∨ ∃ s ∈ spans, (changedIn s).testBit n = true := by
  rw [changed, Codes.testBit_or, Codes.testBit_span, Codes.testBit_union]

theorem testBit_results : (results spans rows).testBit n = true ↔
    (∃ s ∈ spans, (resultsOf s).testBit n = true) ∨ (∃ r ∈ rows, r.1 = n ∨ r.2.1 = n ∨ r.2.2 = n) ∨
      Normal.IsSyllable n ∨ Normal.IsLetter n := by
  rw [results, Codes.testBit_or, Codes.testBit_or, Codes.testBit_or, Codes.testBit_or,
    Codes.testBit_or, Codes.testBit_union, Normal.testBit_wholesOf, Normal.testBit_firstsOf,
    Normal.testBit_secondsOf, Normal.testBit_syllableCodes, Normal.testBit_letterCodes]
  simp only [and_or_left, exists_or, or_assoc]

end Bits

theorem isSettled_of_not_changed {c : Char}
    (h : ¬(changed table.toList).testBit c.toNat = true) : isSettled c = true := by
  rw [testBit_changed, not_or] at h
  obtain ⟨hcapital, hspans⟩ := h
  rw [isSettled_iff]
  by_cases hascii : c.toNat < 0x80
  · have hlower : c.toLower = c := by
      apply Char.toNat_inj.mp
      rw [Text.toNat_toLower]
      exact if_neg hcapital
    rw [mapChar_ascii hascii, hlower]
  · rw [mapChar_by_table hascii]
    cases hs : Span.find? table c with
    | none => rfl
    | some s =>
      obtain ⟨hmem, hfirst, hlast⟩ := Span.mem_of_search hs
      apply apply_of_not_changedIn hfirst hlast
      exact fun hbit => hspans ⟨s, Array.mem_toList_iff.mpr hmem, hbit⟩

theorem isSettled_of_testBit {c : Char}
    (h : (results table.toList Normal.table).testBit c.toNat = true) : isSettled c = true :=
  isSettled_of_not_changed fun hchanged => Codes.false_of_apart settles_table hchanged h

theorem isSettled_of_result {s : Span Rule} {c : Char} (hs : s ∈ table)
    (h : (resultsOf s).testBit c.toNat = true) : isSettled c = true :=
  isSettled_of_testBit (testBit_results.mpr (.inl ⟨s, Array.mem_toList_iff.mpr hs, h⟩))

theorem isSettled_of_mapChar {c d : Char} {t : Text} (h : mapChar c = some t) (hd : d ∈ t) :
    isSettled d = true := by
  have hself (heq : t = [c]) : isSettled d = true := by
    subst heq
    rw [List.mem_singleton.mp hd]
    exact isSettled_iff.mpr h
  by_cases hascii : c.toNat < 0x80
  · rw [mapChar_ascii hascii] at h
    cases h
    rw [List.mem_singleton.mp hd]
    exact isSettled_toLower hascii
  · have hmap := h
    rw [mapChar_by_table hascii] at hmap
    cases hs : Span.find? table c with
    | none =>
      rw [hs] at hmap
      exact hself (Option.some.inj hmap).symm
    | some s =>
      obtain ⟨hmem, hfirst, hlast⟩ := Span.mem_of_search hs
      rw [hs, mapBy] at hmap
      cases hvalue : s.value with
      | disallowed =>
        rw [hvalue] at hmap
        cases hmap
      | ignored =>
        rw [hvalue] at hmap
        cases hmap
        cases hd
      | replaced texts =>
        rw [hvalue] at hmap
        apply isSettled_of_result hmem
        rw [resultsOf, hvalue, Codes.testBit_ofList]
        exact List.mem_map_of_mem (List.mem_flatten.mpr ⟨t, List.mem_of_getElem? hmap, hd⟩)
      | moved every distance =>
        rw [hvalue, Rule.apply] at hmap
        split at hmap
        · next hmod =>
          cases hmap
          apply isSettled_of_result hmem
          rw [resultsOf, hvalue, Codes.testBit_ofList, List.mem_singleton.mp hd]
          exact List.mem_map_of_mem (mem_movedIn hfirst hlast hmod)
        · exact hself (Option.some.inj hmap).symm

theorem isSettled_of_mapText {t u : Text} (h : mapText t = some u) :
    ∀ d ∈ u, isSettled d = true := by
  obtain ⟨texts, htexts, rfl⟩ := Option.map_eq_some_iff.mp h
  intro d hd
  obtain ⟨part, hpart, hd⟩ := List.mem_flatten.mp hd
  obtain ⟨c, -, hc⟩ := Text.mem_of_mapM htexts hpart
  exact isSettled_of_mapChar hc hd

theorem mapText_of_settled {t : Text} (h : ∀ c ∈ t, isSettled c = true) : mapText t = some t := by
  rw [mapText, Text.mapM_eq_some fun c hc => isSettled_iff.mp (h c hc), Option.map_some]
  exact congrArg some (List.flatMap_singleton' t)

end Mapping

namespace Normal

theorem mem_unfoldTo {fuel n d : Nat} (h : d ∈ unfoldTo fuel n) :
    d = n ∨ IsLetter d ∨ ∃ r ∈ table, r.2.1 = d ∨ r.2.2 = d := by
  induction fuel generalizing n with
  | zero => exact .inl (List.mem_singleton.mp h)
  | succ fuel ih =>
    by_cases hw : IsWhole n
    · obtain ⟨a, b, hrow⟩ := hw
      rw [unfoldTo_row hrow] at h
      rcases List.mem_append.mp h with h | h
      · rcases ih h with rfl | h
        · exact .inr (.inr ⟨_, hrow, .inl rfl⟩)
        · exact .inr h
      · exact .inr (.inr ⟨_, hrow, .inr (List.mem_singleton.mp h).symm⟩)
    · by_cases hs : IsSyllable n
      · rw [unfoldTo_syllable hs] at h
        rw [IsSyllable] at hs
        exact .inr (.inl (isLetter_of_mem_letters (by omega) h))
      · rw [unfoldTo_simple ⟨hw, hs⟩] at h
        exact .inl (List.mem_singleton.mp h)

theorem mem_units {c d : Char} (h : d ∈ units c) :
    d = c ∨ IsLetter d.toNat ∨ ∃ r ∈ table, r.2.1 = d.toNat ∨ r.2.2 = d.toNat := by
  obtain ⟨n, hn, rfl⟩ := List.mem_map.mp h
  rw [Text.toNat_ofNat (isValidChar_of_mem_unfoldTo c.valid hn)]
  rcases mem_unfoldTo hn with rfl | hn
  · exact .inl (Char.ofNat_toNat c)
  · exact .inr hn

theorem whole_cases {a b w : Char} (h : compose? a b = some w) :
    IsSyllable w.toNat ∨ ∃ r ∈ table, r.1 = w.toNat := by
  obtain ⟨i, j, hi, hj, -, -, hw⟩ | ⟨i, k, hi, hk, -, -, -, hw⟩ | h := compose?_cases h
  · left
    rw [IsSyllable]
    omega
  · left
    rw [IsSyllable]
    omega
  · exact .inr ⟨_, h, rfl⟩

theorem isSettled_normalize {t : Text} (h : ∀ c ∈ t, isSettled c = true) :
    ∀ c ∈ normalize t, isSettled c = true := by
  apply Forms.forall_mem_normalize _ _ h
  · intro c hc d hd
    rcases mem_units hd with rfl | hletter | ⟨r, hr, hd⟩
    · exact hc
    · exact Mapping.isSettled_of_testBit (Mapping.testBit_results.mpr (.inr (.inr (.inr hletter))))
    · exact Mapping.isSettled_of_testBit (Mapping.testBit_results.mpr (.inr (.inl ⟨r, hr, .inr hd⟩)))
  · intro a b w _ _ hw
    apply Mapping.isSettled_of_testBit
    rw [Mapping.testBit_results]
    rcases whole_cases hw with hw | ⟨r, hr, hw⟩
    · exact .inr (.inr (.inl hw))
    · exact .inr (.inl ⟨r, hr, .inl hw⟩)

theorem dot_not_mem_normalize {t : Text} (h : '.' ∉ t) : '.' ∉ normalize t := by
  have hascii : '.'.toNat < 0x80 := by decide
  have hall : ∀ c ∈ normalize t, c ≠ '.' := by
    apply Forms.forall_mem_normalize
    · rintro c hc d hd rfl
      rcases mem_units hd with rfl | hletter | ⟨⟨n, a, b⟩, hr, rfl | rfl⟩
      · exact hc rfl
      · exact not_isLetter_of_ascii hascii hletter
      · exact first_ne_dot hr rfl
      · exact absurd hascii (Nat.not_lt.mpr (second_not_ascii hr))
    · rintro a b w - - hw rfl
      rcases whole_cases hw with hw | ⟨⟨n, a, b⟩, hr, rfl⟩
      · exact (isSimple_of_ascii hascii).2 hw
      · exact not_isWhole_of_ascii hascii ⟨a, b, hr⟩
    · rintro c hc rfl
      exact h hc
  exact fun hm => hall '.' hm rfl

end Normal
end RefPages.Domain
