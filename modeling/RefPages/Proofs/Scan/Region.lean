import RefPages.Proofs.Text.Offset
import RefPages.Scan.Feed

/-!
Reading a region hangs on the text alone, not on how much of it was loaded at what time: `read` on a
feed finds what `split` finds in the whole text.
-/

namespace RefPages

namespace Feed

theorem pending_fill {n : Nat} {ahead : Text} {pending : List Text}
    (h : (fill n ahead pending).ahead.byteSize < n) : (fill n ahead pending).pending = [] := by
  fun_induction fill n ahead pending with
  | case1 => rfl
  | case2 ahead line pending hn =>
    rw [Text.hasBytes_iff] at hn
    exact absurd hn (Nat.not_le.mpr h)
  | case3 ahead line pending hn ih => exact ih h

theorem byteSize_fill (n : Nat) (ahead : Text) (pending : List Text) :
    n ≤ (fill n ahead pending).ahead.byteSize ∨ (fill n ahead pending).pending = [] := by
  by_cases h : n ≤ (fill n ahead pending).ahead.byteSize
  · exact .inl h
  · exact .inr (pending_fill (Nat.not_le.mp h))

theorem fill_append (front : Text) (n : Nat) (ahead : Text) (pending : List Text) :
    fill (front.byteSize + n) (front ++ ahead) pending =
      ⟨front ++ (fill n ahead pending).ahead, (fill n ahead pending).pending⟩ := by
  fun_induction fill n ahead pending with
  | case1 => rfl
  | case2 ahead line pending hn =>
    rw [Text.hasBytes_iff] at hn
    rw [fill, if_pos]
    rw [Text.hasBytes_iff, Text.byteSize_append]
    omega
  | case3 ahead line pending hn ih =>
    rw [Text.hasBytes_iff] at hn
    rw [fill, if_neg, List.append_assoc, ih]
    rw [Text.hasBytes_iff, Text.byteSize_append]
    omega

theorem fill_fill (n : Nat) (ahead : Text) (pending : List Text) :
    fill n (fill n ahead pending).ahead (fill n ahead pending).pending = fill n ahead pending := by
  fun_induction fill n ahead pending with
  | case1 => rfl
  | case2 ahead line pending hn => rw [fill, if_pos hn]
  | case3 ahead line pending hn ih => exact ih

end Feed

namespace Region

theorem byteSize_closing (tag : Text) : (closing tag).byteSize = lookahead tag := by
  simp [lookahead, closing, opening, Char.utf8Size]
  omega

theorem byteSize_opening_lt (tag : Text) : (opening tag).byteSize < lookahead tag := by
  rw [lookahead]
  omega

theorem lookahead_pos (tag : Text) : 0 < lookahead tag :=
  Nat.lt_of_le_of_lt (Nat.zero_le _) (byteSize_opening_lt tag)

variable {tag t s : Text}

def Decides (tag t s : Text) : Prop :=
  lookahead tag ≤ t.byteSize ∨ s = []

theorem closesAt_append (h : Decides tag t s) : closesAt tag (t ++ s) = closesAt tag t := by
  rcases h with h | rfl
  · apply Text.isPrefixOf_append_right
    rw [byteSize_closing]
    exact h
  · rw [List.append_nil]

theorem opensAt_append (h : Decides tag t s) : opensAt tag (t ++ s) = opensAt tag t := by
  rcases h with h | rfl
  · have hs := Nat.lt_of_lt_of_le (byteSize_opening_lt tag) h
    rw [opensAt, opensAt, Text.isPrefixOf_append_right s (Nat.le_of_lt hs)]
    by_cases hp : (opening tag).isPrefixOf t = true
    · obtain ⟨u, rfl⟩ := List.isPrefixOf_iff_prefix.mp hp
      cases u with
      | nil => simp at hs
      | cons c u => simp
    · rw [Bool.eq_false_iff.mpr hp, Bool.false_and, Bool.false_and]
  · rw [List.append_nil]

theorem width_append (h : Decides tag t s) : width tag (t ++ s) = width tag t := by
  rw [width, width, closesAt_append h, opensAt_append h]

theorem width_le (h : t ≠ []) : width tag t ≤ t.length := by
  rw [width]
  split
  · next hc => exact (List.isPrefixOf_iff_prefix.mp hc).length_le
  · split
    · next ho =>
      rw [opensAt, Bool.and_eq_true] at ho
      exact (List.isPrefixOf_iff_prefix.mp ho.1).length_le
    · exact List.length_pos_iff.mpr h

theorem take_width_of_closesAt (h : closesAt tag t = true) :
    t.take (width tag t) = closing tag := by
  rw [width, if_pos h]
  exact (List.prefix_iff_eq_take.mp (List.isPrefixOf_iff_prefix.mp h)).symm

theorem take_width_of_opensAt (hc : ¬closesAt tag t = true) (h : opensAt tag t = true) :
    t.take (width tag t) = opening tag := by
  rw [width, if_neg hc, if_pos h]
  rw [opensAt, Bool.and_eq_true] at h
  exact (List.prefix_iff_eq_take.mp (List.isPrefixOf_iff_prefix.mp h.1)).symm

def depthAfter? (tag t : Text) (depth : Nat) : Option Nat :=
  if closesAt tag t then if depth = 0 then none else some (depth - 1)
  else some (if opensAt tag t then depth + 1 else depth)

theorem depthAfter?_append (h : Decides tag t s) (depth : Nat) :
    depthAfter? tag (t ++ s) depth = depthAfter? tag t depth := by
  rw [depthAfter?, depthAfter?, closesAt_append h, opensAt_append h]

def split (tag : Text) (depth : Nat) : Text → Option (Text × Text)
  | [] => none
  | c :: t =>
    match depthAfter? tag (c :: t) depth with
    | none => some ((c :: t).take (width tag (c :: t)), (c :: t).drop (width tag (c :: t)))
    | some depth =>
      (split tag depth ((c :: t).drop (width tag (c :: t)))).map fun x =>
        ((c :: t).take (width tag (c :: t)) ++ x.1, x.2)
termination_by t => t.length
decreasing_by
  have := width_pos tag (c :: t)
  simp only [List.length_drop, List.length_cons]
  omega

theorem closesAt_of_depthAfter? {depth : Nat} (h : depthAfter? tag t depth = none) :
    closesAt tag t = true := by
  rw [depthAfter?] at h
  split at h
  · assumption
  · cases h

theorem split_append {depth : Nat} {region rest : Text}
    (h : split tag depth t = some (region, rest)) : region ++ rest = t := by
  fun_induction split tag depth t generalizing region with
  | case1 => cases h
  | case2 depth c t hd =>
    cases h
    exact List.take_append_drop ..
  | case3 depth c t depth' hd ih =>
    obtain ⟨x, hx, he⟩ := Option.map_eq_some_iff.mp h
    cases he
    rw [List.append_assoc, ih hx]
    exact List.take_append_drop ..

theorem closing_suffix_of_split {depth : Nat} {region rest : Text}
    (h : split tag depth t = some (region, rest)) : closing tag <:+ region := by
  fun_induction split tag depth t generalizing region with
  | case1 => cases h
  | case2 depth c t hd =>
    cases h
    exact ⟨[], (take_width_of_closesAt (closesAt_of_depthAfter? hd)).symm⟩
  | case3 depth c t depth' hd ih =>
    obtain ⟨x, hx, he⟩ := Option.map_eq_some_iff.mp h
    cases he
    exact (ih hx).trans (List.suffix_append _ _)

theorem split_cons_append {c : Char} (depth : Nat) (h : Decides tag (c :: t) s) :
    split tag depth (c :: t ++ s) =
      match depthAfter? tag (c :: t) depth with
      | none =>
        some ((c :: t).take (width tag (c :: t)), (c :: t).drop (width tag (c :: t)) ++ s)
      | some depth =>
        (split tag depth ((c :: t).drop (width tag (c :: t)) ++ s)).map fun x =>
          ((c :: t).take (width tag (c :: t)) ++ x.1, x.2) := by
  have hw : width tag (c :: t) ≤ (c :: t).length := width_le (List.cons_ne_nil c t)
  rw [List.cons_append, split, ← List.cons_append, depthAfter?_append h, width_append h,
    List.take_append_of_le_length hw, List.drop_append_of_le_length hw]

theorem decides_fill {ahead : Text} {pending : List Text} {f : Feed}
    (h : Feed.fill (lookahead tag) ahead pending = f) :
    ahead ++ Feed.unread pending = f.ahead ++ Feed.unread f.pending ∧
      Decides tag f.ahead (Feed.unread f.pending) := by
  subst h
  refine ⟨(Feed.fill_text ..).symm, (Feed.byteSize_fill ..).imp_right ?_⟩
  intro hp
  rw [hp, Feed.unread_nil]

theorem read_eq_split (tag : Text) (depth : Nat) (taken ahead : Text) (pending : List Text) :
    (read tag depth taken ahead pending).map (fun x => (x.1, x.2.text)) =
      (split tag depth (ahead ++ Feed.unread pending)).map fun x => (taken.reverse ++ x.1, x.2) := by
  -- What is loaded decides each step: more text behind it changes neither the tag nor the width.
  fun_induction read tag depth taken ahead pending with
  | case1 depth taken ahead pending pending' hf =>
    obtain ⟨ht, hd⟩ := decides_fill hf
    have hn : Feed.unread pending' = [] :=
      hd.resolve_left (Nat.not_le.mpr (lookahead_pos tag))
    rw [ht, hn, List.append_nil, split]
    rfl
  | case2 taken ahead pending c t pending' hf w taken' hc =>
    obtain ⟨ht, hd⟩ := decides_fill hf
    rw [ht, split_cons_append _ hd, depthAfter?, if_pos hc]
    simp [taken', Feed.text, w]
  | case3 taken ahead pending c t pending' hf w taken' hc depth ih =>
    obtain ⟨ht, hd⟩ := decides_fill hf
    rw [ih, ht, split_cons_append _ hd, depthAfter?, if_pos hc]
    simp [taken', w, Function.comp_def]
  | case4 depth taken ahead pending c t pending' hf w taken' hc ih =>
    obtain ⟨ht, hd⟩ := decides_fill hf
    rw [dite_eq_ite] at ih
    rw [ih, ht, split_cons_append _ hd, depthAfter?, if_neg hc]
    simp [taken', w, Function.comp_def]

theorem read_pending_suffix {depth : Nat} {taken ahead region : Text} {pending : List Text}
    {rest : Feed} (h : read tag depth taken ahead pending = some (region, rest)) :
    rest.pending <:+ pending := by
  have key {ahead : Text} {pending : List Text} {f : Feed}
      (hf : Feed.fill (lookahead tag) ahead pending = f) : f.pending <:+ pending := by
    rw [← hf]
    exact Feed.fill_pending_suffix ..
  fun_induction read tag depth taken ahead pending with
  | case1 => cases h
  | case2 taken ahead pending c t pending' hf w taken' hc =>
    have hp := key hf
    cases h
    exact hp
  | case3 taken ahead pending c t pending' hf w taken' hc depth ih => exact (ih h).trans (key hf)
  | case4 depth taken ahead pending c t pending' hf w taken' hc ih => exact (ih h).trans (key hf)

end Region

theorem Feed.region_fill (tag ahead : Text) (pending : List Text) :
    region tag ⟨(fill (Region.lookahead tag) ahead pending).ahead,
        (fill (Region.lookahead tag) ahead pending).pending⟩ = region tag ⟨ahead, pending⟩ := by
  rw [region, region, Region.read.eq_def, Region.read.eq_def tag 0 [] ahead]
  rw [fill_fill]

theorem Feed.region_eq_split (tag : Text) (f : Feed) :
    (f.region tag).map (fun x => (x.1, x.2.text)) = Region.split tag 0 f.text := by
  rw [region, Region.read_eq_split]
  simp [Feed.text]

end RefPages
