import RefPages.Text.Basic

namespace RefPages.Text

theorem eq_nil_of_byteSize_eq_zero {t : Text} (h : byteSize t = 0) : t = [] := by
  apply List.eq_nil_of_length_eq_zero
  have := length_le_byteSize t
  omega

theorem exists_of_append_eq_append {a b c d : Text} (h : a ++ b = c ++ d)
    (hn : byteSize a ≤ byteSize c) : ∃ m, c = a ++ m ∧ b = m ++ d := by
  rcases List.append_eq_append_iff.mp h with ⟨m, hc, hb⟩ | ⟨m, ha, hd⟩
  · exact ⟨m, hc, hb⟩
  · have hm : m = [] := by
      apply eq_nil_of_byteSize_eq_zero
      rw [ha, byteSize_append] at hn
      omega
    subst hm
    exact ⟨[], by simpa using ha.symm, by simpa using hd.symm⟩

theorem isPrefixOf_append_right {p t : Text} (s : Text) (h : byteSize p ≤ byteSize t) :
    p.isPrefixOf (t ++ s) = p.isPrefixOf t := by
  rw [Bool.eq_iff_iff, List.isPrefixOf_iff_prefix, List.isPrefixOf_iff_prefix]
  constructor
  · rintro ⟨u, hu⟩
    obtain ⟨m, hm, -⟩ := exists_of_append_eq_append hu h
    exact ⟨m, hm.symm⟩
  · intro hp
    exact hp.trans (List.prefix_append _ _)

@[simp]
theorem byteSize_reverse (t : Text) : byteSize t.reverse = byteSize t := by
  induction t with
  | nil => rfl
  | cons c t ih =>
    rw [List.reverse_cons, byteSize_append, ih]
    simp [Nat.add_comm]

theorem from?_eq_some_iff {n : Nat} {t rest : Text} :
    from? n t = some rest ↔ ∃ front, t = front ++ rest ∧ byteSize front = n := by
  constructor
  · intro h
    fun_induction from? n t with
    | case1 t =>
      cases h
      exact ⟨[], rfl, rfl⟩
    | case2 => cases h
    | case3 n c t hc ih =>
      obtain ⟨front, rfl, hn⟩ := ih h
      refine ⟨c :: front, rfl, ?_⟩
      rw [byteSize_cons, hn]
      omega
    | case4 => cases h
  · rintro ⟨front, rfl, rfl⟩
    induction front with
    | nil => rw [byteSize_nil, List.nil_append, from?]
    | cons c front ih =>
      have hc := c.utf8Size_pos
      obtain ⟨k, hk⟩ : ∃ k, byteSize (c :: front) = k + 1 :=
        ⟨c.utf8Size + byteSize front - 1, by rw [byteSize_cons]; omega⟩
      rw [hk, List.cons_append, from?, if_pos (by rw [← hk, byteSize_cons]; omega)]
      rw [← ih, ← hk, byteSize_cons, Nat.add_sub_cancel_left]

theorem from?_append (front rest : Text) : from? (byteSize front) (front ++ rest) = some rest :=
  from?_eq_some_iff.mpr ⟨front, rfl, rfl⟩

theorem from?_eq_none_of_inside {front rest : Text} {c : Char} {n : Nat}
    (h : byteSize front < n) (hn : n < byteSize front + c.utf8Size) :
    from? n (front ++ c :: rest) = none := by
  rw [Option.eq_none_iff_forall_ne_some]
  intro back hb
  obtain ⟨front', ht, rfl⟩ := from?_eq_some_iff.mp hb
  obtain ⟨m, rfl, hm⟩ := exists_of_append_eq_append ht (Nat.le_of_lt h)
  cases m with
  | nil => simp at h
  | cons d m =>
    obtain ⟨rfl, -⟩ : c = d ∧ rest = m ++ back := by simpa using hm
    rw [byteSize_append, byteSize_cons] at hn
    omega

theorem cutAfter_append_right {n : Nat} {read t s : Text} (h : n ≤ byteSize t) :
    cutAfter n read (t ++ s) = ((cutAfter n read t).1, (cutAfter n read t).2 ++ s) := by
  fun_induction cutAfter n read t with
  | case1 read t => rw [cutAfter]
  | case2 n read => simp at h
  | case3 n read c t ih =>
    rw [List.cons_append, cutAfter]
    apply ih
    rw [byteSize_cons] at h
    omega

theorem cutAfter_byteSize (front read rest : Text) :
    cutAfter (byteSize front) read (front ++ rest) = (front.reverse ++ read, rest) := by
  induction front generalizing read with
  | nil => rw [byteSize_nil, List.nil_append, cutAfter]; rfl
  | cons c front ih =>
    have hc := c.utf8Size_pos
    obtain ⟨k, hk⟩ : ∃ k, byteSize (c :: front) = k + 1 :=
      ⟨c.utf8Size + byteSize front - 1, by rw [byteSize_cons]; omega⟩
    rw [hk, List.cons_append, cutAfter, ← hk, byteSize_cons, Nat.add_sub_cancel_left, ih]
    simp

theorem le_byteSize_cutAfter {n : Nat} {read t : Text} (h : (cutAfter n read t).2 ≠ []) :
    byteSize read + n ≤ byteSize (cutAfter n read t).1 := by
  fun_induction cutAfter n read t with
  | case1 => exact Nat.le_refl _
  | case2 => exact absurd rfl h
  | case3 n read c t ih =>
    have := ih h
    rw [byteSize_cons] at this
    omega

def slice? (t : Text) (i j : Nat) : Option Text :=
  (from? i t).bind fun rest =>
    let front := (cutAfter (j - i) [] rest).1.reverse
    if i + byteSize front = j then some front else none

theorem slice?_append (a b c : Text) :
    slice? (a ++ b ++ c) (byteSize a) (byteSize a + byteSize b) = some b := by
  rw [slice?, List.append_assoc, from?_append, Option.bind_some, Nat.add_sub_cancel_left,
    cutAfter_byteSize]
  simp

end RefPages.Text
