import RefPages.Text.Basic

namespace RefPages.Text

variable {p : Char → Bool} {c : Char} {s t : Text}

theorem takeWhile_append (hs : ∀ d ∈ s, p d = true) (ht : ∀ d ∈ t.head?, p d = false) :
    (s ++ t).takeWhile p = s := by
  rw [List.takeWhile_append_of_pos hs]
  cases t with
  | nil => exact List.append_nil s
  | cons d t => rw [List.takeWhile_cons_of_neg (Bool.eq_false_iff.mp (ht d rfl)), List.append_nil]

theorem dropWhile_append (hs : ∀ d ∈ s, p d = true) (ht : ∀ d ∈ t.head?, p d = false) :
    (s ++ t).dropWhile p = t := by
  rw [List.dropWhile_append_of_pos hs]
  cases t with
  | nil => rfl
  | cons d t => exact List.dropWhile_cons_of_neg (Bool.eq_false_iff.mp (ht d rfl))

theorem takeWhile_append_cons (hs : ∀ d ∈ s, p d = true) (hc : p c = false) (t : Text) :
    (s ++ c :: t).takeWhile p = s := by
  apply takeWhile_append hs
  rintro _ ⟨⟩
  exact hc

theorem dropWhile_append_cons (hs : ∀ d ∈ s, p d = true) (hc : p c = false) (t : Text) :
    (s ++ c :: t).dropWhile p = c :: t := by
  apply dropWhile_append hs
  rintro _ ⟨⟩
  exact hc

theorem decide_ne_of_not_mem (h : c ∉ s) : ∀ d ∈ s, decide (d ≠ c) = true := by
  intro d hd
  apply decide_eq_true
  rintro rfl
  exact h hd

theorem decide_ne_self (c : Char) : decide (c ≠ c) = false :=
  decide_eq_false (not_not_intro rfl)

theorem takeWhile_ne (h : c ∉ s) (t : Text) : (s ++ c :: t).takeWhile (· ≠ c) = s :=
  takeWhile_append_cons (decide_ne_of_not_mem h) (decide_ne_self c) t

theorem dropWhile_ne (h : c ∉ s) (t : Text) : (s ++ c :: t).dropWhile (· ≠ c) = c :: t :=
  dropWhile_append_cons (decide_ne_of_not_mem h) (decide_ne_self c) t

end RefPages.Text
