import RefPages.Proofs.Domain.Tables

namespace RefPages.Domain.Normal

section Bits

variable {rows : List Row} {n : Nat}

theorem testBit_wholesOf : (wholesOf rows).testBit n = true ↔ ∃ r ∈ rows, r.1 = n := by
  rw [wholesOf, Codes.testBit_ofList, List.mem_map]

theorem testBit_firstsOf : (firstsOf rows).testBit n = true ↔ ∃ r ∈ rows, r.2.1 = n := by
  rw [firstsOf, Codes.testBit_ofList, List.mem_map]

theorem testBit_secondsOf : (secondsOf rows).testBit n = true ↔ ∃ r ∈ rows, r.2.2 = n := by
  rw [secondsOf, Codes.testBit_ofList, List.mem_map]

end Bits

def IsSyllable (n : Nat) : Prop :=
  syllables ≤ n ∧ n < syllables + 11172

instance (n : Nat) : Decidable (IsSyllable n) :=
  inferInstanceAs (Decidable (_ ∧ _))

def IsLetter (n : Nat) : Prop :=
  (leading ≤ n ∧ n ≤ leading + 18) ∨ (vowels ≤ n ∧ n ≤ vowels + 20) ∨
    (trailing < n ∧ n ≤ trailing + 27)

theorem testBit_syllableCodes {n : Nat} : syllableCodes.testBit n = true ↔ IsSyllable n := by
  rw [syllableCodes, Codes.testBit_span, IsSyllable]
  omega

theorem testBit_letterCodes {n : Nat} : letterCodes.testBit n = true ↔ IsLetter n := by
  rw [letterCodes, Codes.testBit_or, Codes.testBit_or, Codes.testBit_span, Codes.testBit_span,
    Codes.testBit_span, IsLetter]
  omega

theorem testBit_asciiCodes {n : Nat} : asciiCodes.testBit n = true ↔ n < 0x80 := by
  rw [asciiCodes, Codes.testBit_span]
  omega

def IsWhole (n : Nat) : Prop :=
  ∃ a b, (n, a, b) ∈ table

theorem isWhole_iff {n : Nat} : IsWhole n ↔ (wholesOf table).testBit n = true := by
  rw [testBit_wholesOf]
  constructor
  · rintro ⟨a, b, h⟩
    exact ⟨(n, a, b), h, rfl⟩
  · rintro ⟨⟨_, a, b⟩, h, rfl⟩
    exact ⟨a, b, h⟩

theorem not_isWhole_of_isLetter {n : Nat} (h : IsLetter n) : ¬IsWhole n := by
  intro hn
  apply Codes.false_of_apart fit_table.wholes (isWhole_iff.mp hn)
  rw [Codes.testBit_or, Codes.testBit_or]
  exact .inl (.inr (testBit_letterCodes.mpr h))

theorem not_isWhole_of_ascii {n : Nat} (h : n < 0x80) : ¬IsWhole n := by
  intro hn
  apply Codes.false_of_apart fit_table.wholes (isWhole_iff.mp hn)
  rw [Codes.testBit_or]
  exact .inr (testBit_asciiCodes.mpr h)

section Rows

variable {n a b : Nat} (h : (n, a, b) ∈ table)

include h

theorem not_isWhole_second : ¬IsWhole b := by
  intro hb
  apply Codes.false_of_apart fit_table.wholes (isWhole_iff.mp hb)
  rw [Codes.testBit_or, Codes.testBit_or]
  exact .inl (.inl (testBit_secondsOf.mpr ⟨_, h, rfl⟩))

theorem not_isSyllable_of_mem : ¬IsSyllable n ∧ ¬IsSyllable a ∧ ¬IsSyllable b := by
  have hfalse {m : Nat}
      (hm : (wholesOf table ||| firstsOf table ||| secondsOf table).testBit m = true) :
      ¬IsSyllable m :=
    fun hs => Codes.false_of_apart fit_table.syllables (testBit_syllableCodes.mpr hs) hm
  refine ⟨hfalse ?_, hfalse ?_, hfalse ?_⟩
  · rw [Codes.testBit_or, Codes.testBit_or]
    exact .inl (.inl (testBit_wholesOf.mpr ⟨_, h, rfl⟩))
  · rw [Codes.testBit_or, Codes.testBit_or]
    exact .inl (.inr (testBit_firstsOf.mpr ⟨_, h, rfl⟩))
  · rw [Codes.testBit_or]
    exact .inr (testBit_secondsOf.mpr ⟨_, h, rfl⟩)

theorem second_not_ascii : 0x80 ≤ b := by
  refine Nat.not_lt.mp fun hb => ?_
  exact Codes.false_of_apart fit_table.seconds (testBit_secondsOf.mpr ⟨_, h, rfl⟩)
    (testBit_asciiCodes.mpr hb)

theorem first_ne_dot : a ≠ '.'.toNat := by
  rintro rfl
  apply Codes.false_of_apart fit_table.dot (testBit_firstsOf.mpr ⟨_, h, rfl⟩)
  rw [Nat.one_shiftLeft, Nat.testBit_two_pow_self]

end Rows

theorem mem_of_getElem?_ofList {α β : Type} [BEq α] [Hashable α] [LawfulBEq α] [LawfulHashable α]
    {l : List (α × β)} {k : α} {v : β} (h : (Std.HashMap.ofList l)[k]? = some v) : (k, v) ∈ l := by
  have hinsert (l : List (α × β)) (m : Std.HashMap α β) (h : (m.insertMany l)[k]? = some v) :
      m[k]? = some v ∨ (k, v) ∈ l := by
    induction l generalizing m with
    | nil =>
      rw [Std.HashMap.insertMany_nil] at h
      exact .inl h
    | cons row l ih =>
      obtain ⟨k', v'⟩ := row
      rw [Std.HashMap.insertMany_cons] at h
      rcases ih _ h with h | h
      · rw [Std.HashMap.getElem?_insert] at h
        split at h
        · next hk =>
          cases h
          rw [eq_of_beq hk]
          exact .inr (List.mem_cons_self ..)
        · exact .inl h
      · exact .inr (List.mem_cons_of_mem _ h)
  rw [Std.HashMap.ofList_eq_insertMany_empty] at h
  rcases hinsert l ∅ h with h | h
  · rw [Std.HashMap.getElem?_empty] at h
    cases h
  · exact h

theorem mem_table_of_parts {n a b : Nat} (h : parts[n]? = some (a, b)) : (n, a, b) ∈ table :=
  mem_of_getElem?_ofList h

theorem mem_table_of_wholes {n a b : Nat} (h : wholes[(a, b)]? = some n) : (n, a, b) ∈ table := by
  obtain ⟨⟨n', two⟩, hmem, heq⟩ := List.mem_map.mp (mem_of_getElem?_ofList h)
  cases heq
  exact hmem

theorem parts_of_mem {n a b : Nat} (h : (n, a, b) ∈ table) : parts[n]? = some (a, b) := by
  refine Std.HashMap.getElem?_ofList_of_mem (beq_self_eq_true n) ?_ h
  have hlt := List.isChain_iff_pairwise.mp fit_table.ascending
  refine (List.pairwise_map.mp hlt).imp fun hne => ?_
  exact beq_eq_false_iff_ne.mpr (Nat.ne_of_lt hne)

theorem parts_eq_none {n : Nat} (h : ¬IsWhole n) : parts[n]? = none := by
  cases hn : parts[n]? with
  | none => rfl
  | some two => exact absurd ⟨two.1, two.2, mem_table_of_parts hn⟩ h

end RefPages.Domain.Normal
