import RefPages.Proofs.Text.Words

namespace RefPages.Text

/-- What words stand in a text: each is as long as can be, and all else is blank. -/
inductive Holds : List Text → Text → Prop
  | blanks {gap : Text} (h : ∀ c ∈ gap, isBlank c = true) : Holds [] gap
  | word {gap w t : Text} {ws : List Text} (hgap : ∀ c ∈ gap, isBlank c = true) (hw : IsWord w)
      (hnext : ∀ c ∈ t.head?, isBlank c = true) (ht : Holds ws t) : Holds (w :: ws) (gap ++ w ++ t)

variable {s t : Text} {ws : List Text} {c : Char}

theorem words_append_of_head? {w : Text} (hw : IsWord w) (h : ∀ c ∈ t.head?, isBlank c = true) :
    words (w ++ t) = w :: words t := by
  cases t with
  | nil => rw [List.append_nil, words_of_isWord hw, words_nil]
  | cons c t =>
    have hc := h c rfl
    rw [words_append_blank hc, words_of_isWord hw, words_cons_blank hc, List.singleton_append]

theorem Holds.words_eq (h : Holds ws t) : words t = ws := by
  induction h with
  | blanks h => simpa [words_nil] using words_append_of_blank h []
  | word hgap hw hnext ht ih =>
    rw [List.append_assoc, words_blanks_append hgap, words_append_of_head? hw hnext, ih]

theorem Holds.cons_blank (h : Holds ws t) (hc : isBlank c = true) : Holds ws (c :: t) := by
  cases h with
  | blanks h => exact .blanks (List.forall_mem_cons.mpr ⟨hc, h⟩)
  | word hgap hw hnext ht => exact .word (List.forall_mem_cons.mpr ⟨hc, hgap⟩) hw hnext ht

theorem isWord_cons {w : Text} (hc : isBlank c = false) (hw : ∀ d ∈ w, isBlank d = false) :
    IsWord (c :: w) :=
  ⟨List.cons_ne_nil c w, List.forall_mem_cons.mpr ⟨hc, hw⟩⟩

theorem Holds.cons_letter (h : Holds ws t) (hc : isBlank c = false) :
    ∃ ws, Holds ws (c :: t) := by
  have hnil : ∀ d ∈ ([] : Text), isBlank d = true := List.forall_mem_nil _
  have alone (hnext : ∀ d ∈ t.head?, isBlank d = true) : ∃ ws, Holds ws (c :: t) :=
    ⟨_, .word hnil (isWord_cons hc (List.forall_mem_nil _)) hnext h⟩
  cases h with
  | blanks h =>
    apply alone
    intro d hd
    exact h d (List.mem_of_mem_head? hd)
  | @word gap w t' ws hgap hw hnext ht =>
    cases gap with
    | nil => exact ⟨_, .word hnil (isWord_cons hc hw.2) hnext ht⟩
    | cons d gap =>
      apply alone
      rintro _ ⟨⟩
      exact hgap d (List.mem_cons_self ..)

theorem exists_holds (t : Text) : ∃ ws, Holds ws t := by
  induction t with
  | nil => exact ⟨[], .blanks (by simp)⟩
  | cons c t ih =>
    obtain ⟨ws, h⟩ := ih
    cases hc : isBlank c with
    | true => exact ⟨ws, h.cons_blank hc⟩
    | false => exact h.cons_letter hc

theorem words_eq_iff : words t = ws ↔ Holds ws t := by
  constructor
  · rintro rfl
    obtain ⟨ws, h⟩ := exists_holds t
    rwa [h.words_eq]
  · exact Holds.words_eq

theorem words_collapse (t : Text) : words (collapse t) = words t :=
  words_joinWords fun _ => isWord_of_mem_words

/-- Collapsed texts are the same just when the words are. -/
theorem collapse_eq_iff (s t : Text) :
    (collapse s = collapse t ↔ words s = words t) ∧
      words (collapse s) = words s ∧ collapse (collapse s) = collapse s ∧
      (∀ gap, gap ≠ [] → (∀ c ∈ gap, isBlank c = true) →
        collapse (s ++ gap ++ t) = collapse (collapse s ++ ' ' :: collapse t)) ∧
      ∀ ws, words s = ws ↔ Holds ws s := by
  refine ⟨⟨?_, ?_⟩, words_collapse s, collapse_collapse s, ?_, fun ws => words_eq_iff⟩
  · intro h
    rw [← words_collapse s, h, words_collapse t]
  · intro h
    rw [collapse, h, ← collapse]
  · intro gap hne hblank
    have hwords : words (s ++ gap ++ t) = words (collapse s ++ ' ' :: collapse t) := by
      rw [words_around_blanks hne hblank, words_append_blank rfl, words_collapse, words_collapse]
    rw [collapse, hwords, ← collapse]

end RefPages.Text
