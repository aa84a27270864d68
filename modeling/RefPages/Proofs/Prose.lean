import RefPages.Proofs.Prose.Collapse

namespace RefPages.Prose

open Text (IsWord)

structure Draft.Neat (d : Draft) : Prop where
  current : ∃ ws, d.Tidy ws
  done : ∀ t ∈ d.done, t.Neat

namespace Draft.Neat

variable {d : Draft}

theorem of_current_nil (hc : d.current = []) (hd : ∀ t ∈ d.done, t.Neat) : d.Neat where
  current := ⟨[], by simp, by simp [hc, Text.joinWords, gap]⟩
  done := hd

theorem withTag (h : d.Neat) (inTag : Bool) : { d with inTag := inTag }.Neat where
  current := by
    obtain ⟨ws, hw⟩ := h.current
    exact ⟨ws, hw.words, hw.current⟩
  done := h.done

theorem push {c : Char} (h : d.Neat) (hc : isBlank c = false) : (d.push c).Neat where
  current := by
    obtain ⟨ws, hw⟩ := h.current
    exact hw.push hc
  done := h.done

theorem pushBlank (h : d.Neat) : d.pushBlank.Neat where
  current := by
    obtain ⟨ws, hw⟩ := h.current
    exact ⟨ws, hw.pushBlank⟩
  done := h.done

theorem pushSign {c : Char} (h : d.Neat) (hc : isBlank c = false) : (d.pushSign c).Neat :=
  (h.push hc).pushBlank

theorem flush (h : d.Neat) : d.flush.Neat := by
  apply of_current_nil rfl
  intro t ht
  obtain ⟨ws, hw⟩ := h.current
  rw [Draft.flush, hw.trim_current] at ht
  dsimp only at ht
  split at ht
  · exact h.done t ht
  · next hne =>
    rcases List.mem_cons.mp ht with rfl | ht
    · apply Text.neat_joinWords hw.words
      exact fun hnil => hne (List.isEmpty_iff.mpr hnil)
    · exact h.done t ht

theorem newString (h : d.Neat) : d.newString.Neat :=
  of_current_nil rfl h.flush.done

theorem pass {d : Draft} (t : Text) (h : d.Neat) : (Prose.pass d t).Neat := by
  fun_induction Prose.pass d t with
  | case1 d => exact h.flush
  | case2 d t ih =>
    apply ih
    split
    · exact h.newString.withTag true
    · exact h.withTag true
  | case3 d t ih => exact ih (h.withTag false)
  | case4 d t ht ih | case6 d t ht ih => exact ih h
  | case5 d t ht ih | case7 d t ht ih => exact ih (h.pushSign rfl)
  | case8 d c t _ _ _ _ ht ih => exact ih h
  | case9 d c t _ _ _ _ ht hb ih => exact ih h.pushBlank
  | case10 d t _ _ _ _ ht hb ih => exact ih (h.push rfl).newString
  | case11 d c t _ _ _ _ ht hb hc ih => exact ih (h.push (Bool.eq_false_iff.mpr hb))

end Draft.Neat

theorem neat_of_mem_strings {fragment t : Text} (h : t ∈ strings fragment) : t.Neat := by
  have hempty : Draft.empty.Neat := .of_current_nil rfl (by simp [Draft.empty])
  exact (hempty.pass fragment).done t (List.mem_reverse.mp h)

end RefPages.Prose
