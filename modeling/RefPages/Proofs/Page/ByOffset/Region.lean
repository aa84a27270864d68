import RefPages.Proofs.Page.ByOffset

namespace RefPages.Page.ByOffset

open Text

theorem regionEnd?_skip {tag t : Text} {n m : Nat} (depth : Nat)
    (h : ∀ k, n ≤ k → k < m → from? k t = none) (hn : n ≤ m) (hm : m ≤ t.byteSize) :
    regionEnd? tag t depth n = regionEnd? tag t depth m := by
  -- No tag stands at such an offset, so that each step goes on by one byte.
  induction hd : m - n generalizing n with
  | zero =>
    have : n = m := by omega
    rw [this]
  | succ d ih =>
    have hf := h n (Nat.le_refl n) (by omega)
    rw [regionEnd?, if_pos (by omega), standsAt, opensAt, standsAt, hf]
    exact ih (fun k hk => h k (by omega)) (by omega) (by omega)

theorem opensAt_append (tag front t : Text) :
    opensAt tag (front ++ t) front.byteSize = Region.opensAt tag t := by
  rw [opensAt, Region.opensAt, standsAt_append]
  by_cases hp : (Region.opening tag).isPrefixOf t = true
  · obtain ⟨u, rfl⟩ := List.isPrefixOf_iff_prefix.mp hp
    rw [← byteSize_append, ← List.append_assoc, from?_append, Option.any_some, List.drop_left]
  · rw [Bool.eq_false_iff.mpr hp, Bool.false_and, Bool.false_and]

theorem regionEnd?_cons (tag front t : Text) (c : Char) (depth : Nat) :
    regionEnd? tag (front ++ c :: t) depth front.byteSize =
      match Region.depthAfter? tag (c :: t) depth with
      | none => some (front ++ (c :: t).take (Region.width tag (c :: t))).byteSize
      | some depth =>
        regionEnd? tag (front ++ c :: t) depth
          (front ++ (c :: t).take (Region.width tag (c :: t))).byteSize := by
  have hpos := c.utf8Size_pos
  have hlt : front.byteSize < (front ++ c :: t).byteSize := by
    rw [byteSize_append, byteSize_cons]
    omega
  rw [regionEnd?, if_pos hlt, standsAt_append, opensAt_append, Region.depthAfter?,
    ← Region.closesAt, byteSize_append]
  by_cases hc : Region.closesAt tag (c :: t) = true
  · rw [if_pos hc, if_pos hc, Region.take_width_of_closesAt hc]
    by_cases hd : depth = 0
    · rw [if_pos hd, if_pos hd]
    · rw [if_neg hd, if_neg hd]
  · rw [if_neg hc, if_neg hc]
    by_cases ho : Region.opensAt tag (c :: t) = true
    · rw [if_pos ho, if_pos ho, Region.take_width_of_opensAt hc ho]
    · rw [if_neg ho, if_neg ho, Region.width, if_neg hc, if_neg ho]
      apply regionEnd?_skip depth
      · intro k hk hlt
        apply from?_eq_none_of_inside hk
        simpa using hlt
      · simp only [List.take_succ_cons, List.take_zero, byteSize_cons, byteSize_nil]
        omega
      · simp only [List.take_succ_cons, List.take_zero, byteSize_append, byteSize_cons,
          byteSize_nil]
        omega

theorem regionEnd?_eq_split (tag : Text) (depth : Nat) (front t : Text) :
    regionEnd? tag (front ++ t) depth front.byteSize =
      (Region.split tag depth t).map fun x => front.byteSize + x.1.byteSize := by
  fun_induction Region.split tag depth t generalizing front with
  | case1 depth =>
    rw [regionEnd?, if_neg (by simp)]
    rfl
  | case2 depth c t hd =>
    rw [regionEnd?_cons, hd, byteSize_append]
    rfl
  | case3 depth c t depth' hd ih =>
    have := ih (front ++ (c :: t).take (Region.width tag (c :: t)))
    rw [List.append_assoc, List.take_append_drop] at this
    rw [regionEnd?_cons, hd]
    dsimp only
    rw [this, Option.map_map]
    simp [Function.comp_def, Nat.add_assoc]

theorem lineEnd_eq {ahead : Text} (front : Text) (pending : List Text) (h : '\n' ∉ ahead) :
    lineEnd (front ++ (ahead ++ Feed.unread pending)) front.byteSize =
      (front ++ ahead).byteSize := by
  rw [lineEnd]
  cases pending with
  | nil =>
    rw [Feed.unread_nil, List.append_nil, first?_char_eq_none front h]
    rfl
  | cons line pending =>
    rw [Feed.unread_cons, List.cons_append, first?_char front _ h]
    exact (byteSize_append ..).symm

end RefPages.Page.ByOffset
