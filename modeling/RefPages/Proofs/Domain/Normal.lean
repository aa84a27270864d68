import RefPages.Proofs.Domain.Decomposed
import RefPages.Proofs.Domain.Forms

namespace RefPages.Domain.Normal

theorem combiningClass_eq_zero {c : Char} (h : Property.combiningCodes.testBit c.toNat = false) :
    Property.combiningClass c = 0 := by
  rw [Property.combiningClass]
  cases hc : Span.value? Property.combiningTable c with
  | none => rfl
  | some n =>
    rw [Property.combiningCodes, Span.mem_of_value? hc] at h
    cases h

theorem combiningClass_of_apart {c : Char}
    (h : (firstsOf table ||| letterCodes ||| syllableCodes ||| asciiCodes).testBit c.toNat = true) :
    Property.combiningClass c = 0 := by
  apply combiningClass_eq_zero
  rw [Bool.eq_false_iff]
  intro hmark
  exact Codes.false_of_apart fit_table.marks hmark h

theorem combiningClass_ascii {c : Char} (h : c.toNat < 0x80) : Property.combiningClass c = 0 := by
  apply combiningClass_of_apart
  rw [Codes.testBit_or]
  exact .inr (testBit_asciiCodes.mpr h)

theorem combiningClass_first {a b w : Char} (h : compose? a b = some w) :
    Property.combiningClass a = 0 := by
  apply combiningClass_of_apart
  rw [Codes.testBit_or, Codes.testBit_or, Codes.testBit_or, testBit_letterCodes,
    testBit_syllableCodes]
  left
  obtain ⟨i, j, hi, -, ha, -⟩ | ⟨i, k, hi, -, -, ha, -⟩ | h := compose?_cases h
  · left
    right
    rw [IsLetter]
    omega
  · right
    rw [IsSyllable]
    omega
  · exact .inl (.inl (testBit_firstsOf.mpr ⟨_, h, rfl⟩))

theorem lawful_known : known.Lawful where
  simple h := units_of_isSimple (isSimple_of_mem_units h)
  units_compose? := units_of_compose?
  classOf_first := combiningClass_first

theorem compose?_ascii {a b : Char} (hb : b.toNat < 0x80) : compose? a b = none := by
  cases h : compose? a b with
  | none => rfl
  | some w =>
    obtain ⟨i, j, -, -, -, hj, -⟩ | ⟨i, k, -, -, -, -, hk, -⟩ | h := compose?_cases h
    · rw [hj, vowels] at hb
      omega
    · rw [hk, trailing] at hb
      omega
    · have := second_not_ascii h
      omega

theorem compose?_dot (b : Char) : compose? '.' b = none := by
  cases h : compose? '.' b with
  | none => rfl
  | some w =>
    have hdot : '.'.toNat = 46 := rfl
    obtain ⟨i, j, -, -, hi, -⟩ | ⟨i, k, -, -, -, hi, -⟩ | h := compose?_cases h
    · rw [hdot, leading] at hi
      omega
    · rw [hdot, syllables] at hi
      omega
    · exact absurd rfl (first_ne_dot h)

theorem parts_of_ascii {s : Char} (hs : s.toNat < 0x80) (hfirst : ∀ b, compose? s b = none) :
    known.Parts s where
  classOf := combiningClass_ascii hs
  simple := units_of_isSimple (isSimple_of_ascii hs)
  not_first := hfirst
  not_second _ := compose?_ascii hs

theorem parts_dot : known.Parts '.' :=
  parts_of_ascii (by decide) compose?_dot

theorem normalize_normalize (t : Text) : normalize (normalize t) = normalize t :=
  lawful_known.normalize_normalize t

theorem normalize_append_dot (t u : Text) :
    normalize (t ++ '.' :: u) = normalize t ++ '.' :: normalize u :=
  parts_dot.normalize_append lawful_known t u

theorem normalize_ascii {t : Text} (h : ∀ c ∈ t, c.toNat < 0x80) : normalize t = t := by
  apply Forms.normalize_of_apart
  intro c hc
  exact ⟨units_of_isSimple (isSimple_of_ascii (h c hc)), combiningClass_ascii (h c hc),
    fun _ => compose?_ascii (h c hc)⟩

end RefPages.Domain.Normal
