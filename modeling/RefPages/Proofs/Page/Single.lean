import RefPages.Proofs.Page.Marked
import RefPages.Proofs.Text.Breaks
import RefPages.Proofs.Text.Search

namespace RefPages.Page

open Text (lines splitAt? withBreaks withoutReturn)

theorem exists_lines {t : Text} (hne : t ≠ []) (h : t.getLast? ≠ some '\n') :
    ∃ line pending, lines t = line :: pending ∧ line <+: t ∧
      line ++ Feed.unread pending = withBreaks '\r' t := by
  induction hn : t.length using Nat.strongRecOn generalizing t with
  | ind n ih =>
    by_cases hm : '\n' ∈ t
    · obtain ⟨a, b, rfl, ha⟩ := List.eq_append_cons_of_mem hm
      have hb : b ≠ [] := by
        rintro rfl
        simp at h
      have hlast : b.getLast? ≠ some '\n' := by
        intro hl
        apply h
        rw [List.getLast?_append, List.getLast?_cons, hl]
        rfl
      obtain ⟨line, pending, hl, -, ht⟩ := ih b.length (by simp [← hn]; omega) hb hlast rfl
      refine ⟨withoutReturn a, line :: pending, ?_, ?_, ?_⟩
      · rw [Text.lines_append_break, Text.splitOn_of_not_mem ha, hl]
        rfl
      · refine List.IsPrefix.trans ?_ (List.prefix_append a _)
        rw [withoutReturn]
        split
        · exact List.dropLast_prefix a
        · exact List.prefix_refl a
      · rw [Text.withBreaks_append_break ha, ← ht]
        rfl
    · refine ⟨t, [], ?_, List.prefix_refl t, ?_⟩
      · rw [lines, Text.splitOn_of_not_mem hm]
        simp [hne]
      · rw [Text.withBreaks_of_not_mem_break hm, Feed.unread_nil, List.append_nil]

theorem eq_of_append_cons {c : Char} {s t u v : Text} (h : s ++ c :: t = u ++ c :: v) (hs : c ∉ s)
    (hu : c ∉ u) : t = v := by
  induction s generalizing u with
  | nil =>
    cases u with
    | nil => exact (List.cons.inj h).2
    | cons d u =>
      obtain ⟨rfl, -⟩ := List.cons.inj h
      exact absurd (List.mem_cons_self ..) hu
  | cons a s ih =>
    rw [List.mem_cons, not_or] at hs
    cases u with
    | nil => exact absurd (List.cons.inj h).1.symm hs.1
    | cons d u =>
      rw [List.mem_cons, not_or] at hu
      exact ih (List.cons.inj h).2 hs.2 hu.2

theorem exists_region {ahead w region : Text} {pending : List Text}
    (ht : ahead ++ Feed.unread pending = w ++ '>' :: region) (hw : '>' ∉ w)
    (hs : Region.split container 0 region = some (region, [])) :
    ∃ content rest, Feed.afterClose ahead pending = some content ∧
      content.region container = some (region, rest) ∧ rest.text = [] := by
  rcases Feed.afterClose_eq ahead pending with ⟨-, hm⟩ | ⟨content, v, hc, hv, he⟩
  · rw [ht] at hm
    simp at hm
  · have hr := Feed.region_eq_split container content
    rw [eq_of_append_cons (he.symm.trans ht) hv hw, hs] at hr
    obtain ⟨x, hx, hxs⟩ := Option.map_eq_some_iff.mp hr
    obtain ⟨rfl, hrest⟩ := Prod.mk.inj hxs
    exact ⟨content, x.2, hc, hx, hrest⟩

structure Single (s : Section) (before after region : Text) : Prop where
  line : '\n' ∉ before ++ s.marker
  first : ∀ t, splitAt? s.marker [] (before ++ s.marker ++ t) = some (before, t)
  close : ∃ w, fromMarkerEnd s.marker after = w ++ '>' :: region ∧ '>' ∉ w
  split : Region.split container 0 region = some (region, [])

variable {s : Section} {before after region : Text}

theorem Single.marked (h : Single s before after region) {t : Text} {pending : List Text}
    (ht : t ++ Feed.unread pending = after) :
    Page.marked s.marker ⟨before ++ s.marker ++ t, pending⟩ = .ok (Prose.strings region, []) := by
  obtain ⟨w, hclose, hw⟩ := h.close
  have hahead : fromMarkerEnd s.marker t ++ Feed.unread pending = w ++ '>' :: region := by
    rw [← hclose, ← ht, fromMarkerEnd, fromMarkerEnd, List.append_assoc]
  obtain ⟨content, ⟨ahead, pending'⟩, hc, hr, hrest⟩ := exists_region hahead hw h.split
  obtain ⟨rfl, hp⟩ := List.append_eq_nil_iff.mp hrest
  have hpending : pending' = [] := by
    cases pending' with
    | nil => rfl
    | cons line pending' => cases hp
  have hnone : splitAt? s.marker [] [] = none := by cases s <;> rfl
  rw [marked_unfold, h.first]
  dsimp only
  rw [hc]
  dsimp only
  rw [hr]
  dsimp only
  rw [marked_unfold, hnone, hpending]
  simp [Except.map]

theorem exists_line_append {line front rest : Text} {pending : List Text}
    (h : line ++ Feed.unread pending = front ++ rest) (hf : '\n' ∉ front) :
    ∃ t, line = front ++ t ∧ t ++ Feed.unread pending = rest := by
  rcases List.append_eq_append_iff.mp h with ⟨m, rfl, hm⟩ | ⟨m, rfl, hm⟩
  · cases pending with
    | nil =>
      obtain ⟨rfl, rfl⟩ := List.append_eq_nil_iff.mp hm.symm
      exact ⟨[], by simp, rfl⟩
    | cons next pending =>
      cases m with
      | nil => exact ⟨[], by simp, hm⟩
      | cons c m =>
        obtain ⟨rfl, -⟩ := List.cons.inj hm
        simp at hf
  · exact ⟨m, rfl, hm.symm⟩

theorem Single.outcome_lines (h : Single s before after region) {body : Text}
    (ht : withBreaks '\r' body = before ++ s.marker ++ after) (hlast : body.getLast? ≠ some '\n')
    (honly : s = .errors → ¬Section.synopsis.marker <:+: body) :
    outcome (blocks (lines body)) = .ok (Block.extract ⟨s, Prose.strings region⟩) := by
  have hne : body ≠ [] := by
    rintro rfl
    have := List.append_eq_nil_iff.mp (List.append_eq_nil_iff.mp ht.symm).1
    exact s.marker_ne_nil this.2
  obtain ⟨line, pending, hl, hline, htext⟩ := exists_lines hne hlast
  obtain ⟨t, rfl, hafter⟩ := exists_line_append (htext.trans ht) h.line
  have hcontains : Text.contains s.marker (before ++ s.marker ++ t) = true := by
    rw [Text.contains, h.first]
    rfl
  have hs : Section.onLine? (before ++ s.marker ++ t) = some s := by
    rw [Section.onLine?]
    cases s with
    | synopsis => rw [if_pos hcontains]
    | errors =>
      rw [if_neg, if_pos hcontains]
      rw [Text.contains, Option.not_isSome_iff_eq_none, Text.splitAt?_eq_none_iff]
      exact fun hi => honly rfl (hi.trans hline.isInfix)
  rw [hl, outcome_blocks_of_ok hs (h.marked hafter), blocks]
  exact congrArg Except.ok (append_empty _)

end RefPages.Page
