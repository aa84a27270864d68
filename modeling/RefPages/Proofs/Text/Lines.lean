import RefPages.Text.Lines

namespace RefPages.Text

theorem exists_splitOnP_cons {α : Type} {p : α → Bool} {a : α} (h : p a = false) (t : List α) :
    ∃ first more, t.splitOnP p = first :: more ∧ (a :: t).splitOnP p = (a :: first) :: more := by
  obtain ⟨first, more, he⟩ := List.exists_cons_of_ne_nil (List.splitOnP_ne_nil p t)
  refine ⟨first, more, he, ?_⟩
  rw [List.splitOnP_cons_eq_if_modifyHead, if_neg (Bool.eq_false_iff.mp h), he, List.modifyHead_cons]

theorem subset_of_mem_splitOnP {α : Type} {p : α → Bool} {t w : List α} (h : w ∈ t.splitOnP p) :
    w ⊆ t := by
  induction t generalizing w with
  | nil =>
    rw [List.splitOnP_nil, List.mem_singleton] at h
    rw [h]
    exact List.Subset.refl _
  | cons a t ih =>
    by_cases ha : p a = true
    · rw [List.splitOnP_cons_eq_if_modifyHead, if_pos ha] at h
      rcases List.mem_cons.mp h with rfl | h
      · exact List.nil_subset _
      · exact List.Subset.trans (ih h) (List.subset_cons_self a t)
    · obtain ⟨first, more, he, hcons⟩ := exists_splitOnP_cons (Bool.eq_false_iff.mpr ha) t
      rw [hcons] at h
      rw [he] at ih
      rcases List.mem_cons.mp h with rfl | h
      · exact List.cons_subset_cons a (ih (List.mem_cons_self ..))
      · exact List.Subset.trans (ih (List.mem_cons_of_mem first h)) (List.subset_cons_self a t)

theorem eq_false_of_mem_splitOnP {p : Char → Bool} {t piece : Text} {c : Char}
    (h : piece ∈ t.splitOnP p) (hc : c ∈ piece) : p c = false := by
  induction t generalizing piece with
  | nil =>
    rw [List.splitOnP_nil, List.mem_singleton] at h
    subst h
    cases hc
  | cons d t ih =>
    by_cases hd : p d = true
    · rw [List.splitOnP_cons_eq_if_modifyHead, if_pos hd] at h
      rcases List.mem_cons.mp h with rfl | h
      · cases hc
      · exact ih h hc
    · obtain ⟨first, more, he, hcons⟩ := exists_splitOnP_cons (Bool.eq_false_iff.mpr hd) t
      rw [hcons] at h
      rw [he] at ih
      rcases List.mem_cons.mp h with rfl | h
      · rcases List.mem_cons.mp hc with rfl | hc
        · exact Bool.eq_false_iff.mpr hd
        · exact ih (List.mem_cons_self ..) hc
      · exact ih (List.mem_cons_of_mem _ h) hc

theorem splitOn_of_not_mem {c : Char} {t : Text} (h : c ∉ t) : t.splitOn c = [t] := by
  apply List.splitOnP_eq_singleton
  intro d hd
  rw [beq_eq_false_iff_ne]
  rintro rfl
  exact h hd

theorem splitOn_append_cons (s : Text) (c : Char) (t : Text) :
    (s ++ c :: t).splitOn c = s.splitOn c ++ t.splitOn c :=
  List.splitOnP_append_cons s t (beq_self_eq_true c)

theorem mem_intercalate {α : Type} {a b : α} {parts : List (List α)}
    (h : a ∈ [b].intercalate parts) : a = b ∨ ∃ part ∈ parts, a ∈ part := by
  induction parts with
  | nil => cases h
  | cons part rest ih =>
    cases rest with
    | nil =>
      rw [List.intercalate_singleton] at h
      exact .inr ⟨part, List.mem_cons_self .., h⟩
    | cons next rest =>
      rw [List.intercalate_cons_cons, List.append_assoc, List.singleton_append] at h
      rcases List.mem_append.mp h with h | h
      · exact .inr ⟨part, List.mem_cons_self .., h⟩
      · rcases List.mem_cons.mp h with h | h
        · exact .inl h
        · obtain h | ⟨part', hpart, h⟩ := ih h
          · exact .inl h
          · exact .inr ⟨part', List.mem_cons_of_mem part hpart, h⟩

def AreLines (lines : List Text) : Prop :=
  ∀ line ∈ lines, '\n' ∉ line

theorem AreLines.of_suffix {lines rest : List Text} (h : AreLines lines) (hs : rest <:+ lines) :
    AreLines rest :=
  fun line hl => h line (hs.subset hl)

theorem withoutReturn_subset (line : Text) : withoutReturn line ⊆ line := by
  rw [withoutReturn]
  split
  · exact List.dropLast_subset line
  · exact List.Subset.refl line

theorem areLines_lines (t : Text) : AreLines (lines t) := by
  have pieces : AreLines (t.splitOn '\n') := by
    intro piece hp hn
    simpa using eq_false_of_mem_splitOnP hp hn
  intro line hl
  rcases List.mem_append.mp hl with hl | hl
  · obtain ⟨piece, hp, rfl⟩ := List.mem_map.mp hl
    exact fun hn => pieces piece (List.dropLast_subset _ hp) (withoutReturn_subset piece hn)
  · have hp := List.mem_of_getLast? (Option.mem_toList.mp (List.mem_filter.mp hl).1)
    exact pieces line hp

theorem lines_append_break (s t : Text) :
    lines (s ++ '\n' :: t) = (s.splitOn '\n').map withoutReturn ++ lines t := by
  have hne := List.splitOn_ne_nil '\n' t
  have hlast : (s.splitOn '\n' ++ t.splitOn '\n').getLast? = (t.splitOn '\n').getLast? := by
    rw [List.getLast?_append, List.getLast?_eq_some_getLast hne]
    rfl
  rw [lines, splitOn_append_cons, List.dropLast_append_of_ne_nil hne, List.map_append,
    List.append_assoc, hlast]
  rfl

end RefPages.Text
