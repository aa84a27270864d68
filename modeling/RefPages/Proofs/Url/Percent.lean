import RefPages.Url.Percent

namespace RefPages.Url.Percent

section Low

variable {c : Char} (h : c.toNat ≤ 0x20)

include h

theorem inFragment_of_low : inFragment c = true := by
  rcases Nat.lt_or_eq_of_le h with hlt | heq
  · rw [inFragment, isControl, decide_eq_true hlt, Bool.true_or, Bool.true_or]
  · have hblank : c = ' ' := Char.toNat_inj.mp heq
    rw [hblank]
    rfl

theorem inPath_of_low : inPath c = true := by
  rw [inPath, inFragment_of_low h, Bool.true_or]

theorem inCredentials_of_low : inCredentials c = true := by
  rw [inCredentials, inPath_of_low h, Bool.true_or]

end Low

def IsEncoding (c : Char) : Prop :=
  c = '%' ∨ ∃ d < 16, c = (Nat.digitChar d).toUpper

theorem IsEncoding.forall {p : Char → Prop} (hsign : p '%')
    (hdigit : ∀ d < 16, p (Nat.digitChar d).toUpper) {c : Char} (h : IsEncoding c) : p c := by
  obtain rfl | ⟨d, hd, rfl⟩ := h
  · exact hsign
  · exact hdigit d hd

theorem isEncoding_of_mem_encodeByte {b : UInt8} {c : Char} (h : c ∈ encodeByte b) :
    IsEncoding c := by
  have hlt := b.toNat_lt
  simp only [encodeByte, List.mem_cons, List.not_mem_nil, or_false] at h
  obtain h | h | h := h
  · exact .inl h
  · exact .inr ⟨b.toNat / 16, by omega, h⟩
  · exact .inr ⟨b.toNat % 16, by omega, h⟩

section Encode

variable {inSet : Char → Bool} {t : Text}

theorem mem_encode {c : Char} (h : c ∈ encode inSet t) :
    (c ∈ t ∧ inSet c = false) ∨ IsEncoding c := by
  obtain ⟨d, hd, h⟩ := List.mem_flatMap.mp h
  split at h
  · obtain ⟨b, -, hb⟩ := List.mem_flatMap.mp h
    exact .inr (isEncoding_of_mem_encodeByte hb)
  · next hset =>
    rw [List.mem_singleton.mp h]
    exact .inl ⟨hd, Bool.eq_false_iff.mpr hset⟩

theorem encode_of_free (h : ∀ c ∈ t, inSet c = false) : encode inSet t = t := by
  induction t with
  | nil => rfl
  | cons c t ih =>
    rw [List.forall_mem_cons] at h
    rw [encode, List.flatMap_cons, ← encode, ih h.2, h.1, if_neg Bool.false_ne_true]
    rfl

theorem exists_encode_cons (inSet : Char → Bool) (c : Char) (t : Text) :
    ∃ d rest, encode inSet (c :: t) = d :: rest ∧ ((d = c ∧ inSet c = false) ∨ d = '%') := by
  rw [encode, List.flatMap_cons]
  split
  · obtain ⟨b, bytes, hbytes⟩ : ∃ b bytes, Text.Utf8.encode [c] = b :: bytes := by
      apply List.exists_cons_of_length_pos
      rw [Text.Utf8.encode, List.flatMap_singleton, String.length_utf8EncodeChar]
      exact c.utf8Size_pos
    rw [hbytes, List.flatMap_cons]
    exact ⟨'%', _, rfl, .inr rfl⟩
  · next hset => exact ⟨c, _, rfl, .inl ⟨rfl, Bool.eq_false_iff.mpr hset⟩⟩

end Encode

theorem bytes_cons {c : Char} (h : c ≠ '%') (t : Text) :
    bytes (c :: t) = Text.Utf8.encode [c] ++ bytes t := by
  rw [bytes]
  rintro _ _ _ rfl
  exact absurd rfl h

theorem utf8_ascii {c : Char} (h : c.toNat < 0x80) :
    Text.Utf8.encode [c] = [c.toNat.toUInt8] := by
  have hsize : c.utf8Size = 1 := Char.utf8Size_eq_one_iff.mpr (Nat.le_of_lt_succ h)
  rw [Text.Utf8.encode, List.flatMap_singleton, String.utf8EncodeChar_eq_singleton hsize]
  rfl

theorem first_ascii {c : Char} (h : c.toNat < 0x80) (rest : List UInt8) :
    Text.Utf8.first c.toNat.toUInt8 rest = (c, rest) := by
  have hnat : c.toNat.toUInt8.toNat = c.toNat := Nat.mod_eq_of_lt (by omega)
  rw [Text.Utf8.first, hnat, if_pos h, Char.ofNat_toNat]

theorem decode_of_plain {t : Text} (h : ∀ c ∈ t, c.toNat < 0x80 ∧ c ≠ '%') : decode t = t := by
  induction t with
  | nil =>
    rw [decode, bytes, Text.Utf8.decode]
  | cons c t ih =>
    rw [List.forall_mem_cons] at h
    have hrest : Text.Utf8.decode (bytes t) = t := ih h.2
    rw [decode, bytes_cons h.1.2, utf8_ascii h.1.1, List.singleton_append, Text.Utf8.decode,
      first_ascii h.1.1, hrest]

end RefPages.Url.Percent
