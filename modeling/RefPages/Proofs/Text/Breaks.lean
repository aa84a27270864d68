import RefPages.Proofs.Text.Lines
import RefPages.Proofs.Text.Words

namespace RefPages.Text

@[simp]
def withBreaks (lone : Char) : Text → Text
  | [] => []
  | '\r' :: '\n' :: t => '\n' :: withBreaks lone t
  | '\r' :: t => lone :: withBreaks lone t
  | c :: t => c :: withBreaks lone t

variable {lone : Char}

theorem withBreaks_cons {c : Char} (h : c ≠ '\r') (t : Text) :
    withBreaks lone (c :: t) = c :: withBreaks lone t := by
  rw [withBreaks]
  · exact fun _ hc => absurd hc h
  · exact h

theorem withBreaks_return {t : Text} (h : t.head? ≠ some '\n') :
    withBreaks lone ('\r' :: t) = lone :: withBreaks lone t := by
  rw [withBreaks]
  rintro u rfl
  exact h rfl

theorem withBreaks_append {s t : Text} (h : s.getLast? = some '\r' → t.head? ≠ some '\n') :
    withBreaks lone (s ++ t) = withBreaks lone s ++ withBreaks lone t := by
  have tail {c : Char} {s : Text} (h : (c :: s).getLast? = some '\r' → t.head? ≠ some '\n') :
      s.getLast? = some '\r' → t.head? ≠ some '\n' := by
    intro hs
    apply h
    rw [List.getLast?_cons, hs]
    rfl
  fun_induction withBreaks lone s with
  | case1 => rfl
  | case2 s ih =>
    rw [List.cons_append, List.cons_append, withBreaks, ih (tail (tail h)), List.cons_append]
  | case3 s hs ih =>
    rw [List.cons_append, withBreaks_return, ih (tail h), List.cons_append]
    cases s with
    | nil => exact h rfl
    | cons c s =>
      rintro hc
      cases hc
      exact hs s rfl
  | case4 c s h₁ h₂ ih =>
    rw [List.cons_append, withBreaks_cons h₂, ih (tail h), List.cons_append]

theorem withBreaks_of_not_mem {t : Text} (h : '\r' ∉ t) : withBreaks lone t = t := by
  induction t with
  | nil => rfl
  | cons c t ih =>
    rw [List.mem_cons, not_or] at h
    rw [withBreaks_cons (Ne.symm h.1), ih h.2]

theorem mem_withBreaks {c : Char} {t : Text} (h : c ∈ withBreaks lone t) :
    c ∈ t ∨ c = '\n' ∨ c = lone := by
  fun_induction withBreaks lone t with
  | case1 => exact .inl h
  | case2 t ih =>
    rcases List.mem_cons.mp h with rfl | h
    · exact .inr (.inl rfl)
    · exact (ih h).imp_left fun hc => List.mem_cons_of_mem _ (List.mem_cons_of_mem _ hc)
  | case3 t ht ih =>
    rcases List.mem_cons.mp h with rfl | h
    · exact .inr (.inr rfl)
    · exact (ih h).imp_left (List.mem_cons_of_mem _)
  | case4 d t h₁ h₂ ih =>
    rcases List.mem_cons.mp h with rfl | h
    · exact .inl (List.mem_cons_self ..)
    · exact (ih h).imp_left (List.mem_cons_of_mem _)

theorem words_withBreaks (h : isBlank lone = true) (t : Text) :
    words (withBreaks lone t) = words t := by
  -- A word may have begun in front of the text.
  have key (w : Text) : words (w ++ withBreaks lone t) = words (w ++ t) := by
    fun_induction withBreaks lone t generalizing w with
    | case1 => rfl
    | case2 t ih =>
      rw [words_append_blank rfl, words_append_blank rfl, words_cons_blank rfl]
      exact congrArg (words w ++ ·) (ih [])
    | case3 t ht ih =>
      rw [words_append_blank h, words_append_blank rfl]
      exact congrArg (words w ++ ·) (ih [])
    | case4 c t h₁ h₂ ih => simpa using ih (w ++ [c])
  exact key []

theorem collapse_withBreaks (h : isBlank lone = true) (t : Text) :
    collapse (withBreaks lone t) = collapse t := by
  rw [collapse, collapse, words_withBreaks h]

theorem withBreaks_of_not_mem_break {t : Text} (h : '\n' ∉ t) : withBreaks '\r' t = t := by
  fun_induction withBreaks '\r' t with
  | case1 => rfl
  | case2 t ih => simp at h
  | case3 t ht ih => rw [ih fun hn => h (List.mem_cons_of_mem _ hn)]
  | case4 c t h₁ h₂ ih => rw [ih fun hn => h (List.mem_cons_of_mem _ hn)]

theorem withBreaks_append_break {s : Text} (h : '\n' ∉ s) (t : Text) :
    withBreaks '\r' (s ++ '\n' :: t) = withoutReturn s ++ '\n' :: withBreaks '\r' t := by
  rw [withoutReturn]
  split
  · next hr =>
    obtain ⟨q, rfl⟩ := List.getLast?_eq_some_iff.mp hr
    have hq : '\n' ∉ q := fun hn => h (List.mem_append_left _ hn)
    rw [List.append_assoc, List.singleton_append, withBreaks_append (by simp),
      withBreaks_of_not_mem_break hq, withBreaks, List.dropLast_concat]
  · next hr =>
    rw [withBreaks_append fun he => absurd he hr, withBreaks_of_not_mem_break h,
      withBreaks_cons (by decide)]

end RefPages.Text
