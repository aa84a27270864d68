import RefPages.Proofs.Text.Offset

namespace RefPages.Text

theorem splitAt?_eq_none_iff {p read t : Text} : splitAt? p read t = none ↔ ¬ p <:+: t := by
  fun_induction splitAt? p read t with
  | case1 read hp => simp [List.isEmpty_iff.mp hp]
  | case2 read hp => simpa [List.isEmpty_iff] using hp
  | case3 read c t hp =>
    have := (List.isPrefixOf_iff_prefix.mp hp).isInfix
    simp [this]
  | case4 read c t hp ih =>
    rw [List.isPrefixOf_iff_prefix] at hp
    rw [ih, List.infix_cons_iff]
    simp [hp]

theorem contains_iff {p t : Text} : contains p t = true ↔ p <:+: t := by
  rw [contains, Option.isSome_iff_ne_none, ne_eq, splitAt?_eq_none_iff]
  exact Decidable.not_not

theorem splitAt?_concat {p : Text} {c : Char} (hp : p ≠ []) (h : c ∉ p) (read t : Text) :
    splitAt? p read (t ++ [c]) = (splitAt? p read t).map fun x => (x.1, x.2 ++ [c]) := by
  have prefix_iff (s : Text) : p <+: s ++ [c] ↔ p <+: s := by
    rw [List.prefix_concat_iff, or_iff_right]
    rintro rfl
    simp at h
  fun_induction splitAt? p read t with
  | case1 read he => exact absurd (List.isEmpty_iff.mp he) hp
  | case2 read he =>
    have hc : ¬p.isPrefixOf [c] = true := by
      rw [List.isPrefixOf_iff_prefix, ← List.nil_append [c], prefix_iff, List.prefix_nil]
      exact hp
    rw [List.nil_append, splitAt?, if_neg hc, splitAt?, if_neg he]
    rfl
  | case3 read d t hs =>
    rw [List.isPrefixOf_iff_prefix] at hs
    have hc : p.isPrefixOf (d :: (t ++ [c])) = true := by
      rw [List.isPrefixOf_iff_prefix, ← List.cons_append, prefix_iff]
      exact hs
    rw [List.cons_append, splitAt?, if_pos hc, ← List.cons_append,
      List.drop_append_of_le_length hs.length_le]
    rfl
  | case4 read d t hs ih =>
    rw [List.isPrefixOf_iff_prefix] at hs
    have hc : ¬p.isPrefixOf (d :: (t ++ [c])) = true := by
      rw [List.isPrefixOf_iff_prefix, ← List.cons_append, prefix_iff]
      exact hs
    rw [List.cons_append, splitAt?, if_neg hc, ih]

theorem byteSize_le_of_splitAt? {p t before after u v : Text}
    (h : splitAt? p [] t = some (before, after)) (ht : t = u ++ p ++ v) :
    byteSize before ≤ byteSize u := by
  have key : ∀ {read t u : Text}, splitAt? p read t = some (before, after) →
      t = u ++ p ++ v → byteSize before ≤ byteSize read + byteSize u := by
    intro read t u h ht
    fun_induction splitAt? p read t generalizing u with
    | case1 read =>
      cases h
      simp
    | case2 => cases h
    | case3 read c t =>
      cases h
      simp
    | case4 read c t hp ih =>
      cases u with
      | nil =>
        rw [List.isPrefixOf_iff_prefix] at hp
        exact absurd ⟨v, by simpa using ht.symm⟩ hp
      | cons d u =>
        obtain ⟨rfl, ht'⟩ : c = d ∧ t = u ++ p ++ v := by simpa using ht
        have := ih h ht'
        simp only [byteSize_cons] at this ⊢
        omega
  simpa using key h ht

theorem isPrefix_of_splitAt? {p t before after u v : Text}
    (h : splitAt? p [] t = some (before, after)) (ht : t = u ++ p ++ v) : before <+: u := by
  have hle := byteSize_le_of_splitAt? h ht
  have happ : before ++ p ++ after = t := splitAt?_append h
  rw [ht, List.append_assoc, List.append_assoc] at happ
  obtain ⟨m, hm, -⟩ := exists_of_append_eq_append happ hle
  exact ⟨m, hm.symm⟩

theorem offsetOf?_eq_none {c : Char} {t : Text} (h : c ∉ t) : offsetOf? c t = none := by
  induction t with
  | nil => rfl
  | cons d t ih =>
    rw [List.mem_cons, not_or] at h
    rw [offsetOf?, if_neg (Ne.symm h.1), ih h.2]
    rfl

theorem offsetOf?_append_cons {c : Char} {t : Text} (rest : Text) (h : c ∉ t) :
    offsetOf? c (t ++ c :: rest) = some (byteSize t) := by
  induction t with
  | nil => rw [List.nil_append, offsetOf?, if_pos rfl, byteSize_nil]
  | cons d t ih =>
    rw [List.mem_cons, not_or] at h
    rw [List.cons_append, offsetOf?, if_neg (Ne.symm h.1), ih h.2]
    rfl

def standsAt (p t : Text) (n : Nat) : Bool :=
  (from? n t).any p.isPrefixOf

def first? (p t : Text) (i j : Nat) : Option Nat :=
  (List.range' i (j - i)).find? fun n => standsAt p t n && n + byteSize p ≤ j

theorem first?_bounds {p t : Text} {i j n : Nat} (h : first? p t i j = some n) :
    i ≤ n ∧ n + byteSize p ≤ j := by
  obtain ⟨hs, hn, -⟩ := List.find?_range'_eq_some.mp h
  rw [Bool.and_eq_true, decide_eq_true_eq] at hs
  exact ⟨(List.mem_range'_1.mp hn).1, hs.2⟩

theorem standsAt_iff {p t : Text} {n : Nat} :
    standsAt p t n = true ↔ ∃ u v, t = u ++ p ++ v ∧ byteSize u = n := by
  constructor
  · intro h
    obtain ⟨rest, hr, hp⟩ := (Option.any_eq_true _ _).mp h
    obtain ⟨u, rfl, hu⟩ := from?_eq_some_iff.mp hr
    obtain ⟨v, rfl⟩ := List.isPrefixOf_iff_prefix.mp hp
    exact ⟨u, v, (List.append_assoc ..).symm, hu⟩
  · rintro ⟨u, v, rfl, rfl⟩
    rw [standsAt, List.append_assoc, from?_append]
    exact List.isPrefixOf_iff_prefix.mpr (List.prefix_append p v)

theorem le_byteSize_of_standsAt {p t : Text} {n : Nat} (h : standsAt p t n = true) :
    n + byteSize p ≤ byteSize t := by
  obtain ⟨u, v, rfl, rfl⟩ := standsAt_iff.mp h
  rw [byteSize_append, byteSize_append]
  omega

theorem standsAt_append (p front t : Text) :
    standsAt p (front ++ t) (byteSize front) = p.isPrefixOf t := by
  rw [standsAt, from?_append, Option.any_some]

theorem exists_of_standsAt {p front t back : Text} {n : Nat}
    (h : standsAt p (front ++ t ++ back) n = true) (hf : byteSize front ≤ n)
    (hn : n + byteSize p ≤ byteSize front + byteSize t) :
    ∃ u v, t = u ++ p ++ v ∧ n = byteSize front + byteSize u := by
  obtain ⟨w, v, hw, rfl⟩ := standsAt_iff.mp h
  rw [List.append_assoc, List.append_assoc] at hw
  obtain ⟨u, rfl, hu⟩ := exists_of_append_eq_append hw hf
  rw [← List.append_assoc u p v] at hu
  obtain ⟨m, hm, -⟩ := exists_of_append_eq_append hu.symm (by
    simp only [byteSize_append] at hn ⊢
    omega)
  exact ⟨u, m, hm, byteSize_append front u⟩

theorem first?_eq {p : Text} (hp : p ≠ []) (front t back : Text) :
    first? p (front ++ t ++ back) (byteSize front) (byteSize front + byteSize t) =
      (splitAt? p [] t).map fun x => byteSize front + byteSize x.1 := by
  cases h : splitAt? p [] t with
  | none =>
    rw [splitAt?_eq_none_iff] at h
    rw [Option.map_none, first?, List.find?_range'_eq_none]
    intro n hn _
    rw [Bool.not_eq_true', Bool.eq_false_iff]
    intro hs
    rw [Bool.and_eq_true, decide_eq_true_eq] at hs
    obtain ⟨u, v, ht, -⟩ := exists_of_standsAt hs.1 hn hs.2
    exact h ⟨u, v, ht.symm⟩
  | some x =>
    obtain ⟨before, after⟩ := x
    have ht : before ++ p ++ after = t := splitAt?_append h
    have hpos : byteSize p ≠ 0 := fun h0 => hp (eq_nil_of_byteSize_eq_zero h0)
    rw [Option.map_some, first?, List.find?_range'_eq_some]
    have hsize : byteSize t = byteSize before + byteSize p + byteSize after := by
      rw [← ht, byteSize_append, byteSize_append]
    refine ⟨?_, ?_, ?_⟩
    · rw [Bool.and_eq_true, decide_eq_true_eq]
      refine ⟨standsAt_iff.mpr ⟨front ++ before, after ++ back, ?_, byteSize_append ..⟩, ?_⟩
      · rw [← ht]
        simp
      · dsimp only
        omega
    · rw [List.mem_range'_1]
      dsimp only
      omega
    · intro n hn hlt
      rw [Bool.not_eq_true', Bool.eq_false_iff]
      intro hs
      rw [Bool.and_eq_true, decide_eq_true_eq] at hs
      obtain ⟨u, v, hu, rfl⟩ := exists_of_standsAt hs.1 hn hs.2
      have := byteSize_le_of_splitAt? h hu
      dsimp only at hlt
      omega

theorem splitAt?_singleton {c : Char} {t : Text} (rest : Text) (h : c ∉ t) :
    splitAt? [c] [] (t ++ c :: rest) = some (t, rest) := by
  have key (read : Text) : splitAt? [c] read (t ++ c :: rest) = some (read.reverse ++ t, rest) := by
    induction t generalizing read with
    | nil => simp [splitAt?]
    | cons d t ih =>
      rw [List.mem_cons, not_or] at h
      rw [List.cons_append, splitAt?, if_neg (by simpa using h.1), ih h.2]
      simp
  simpa using key []

theorem first?_char {c : Char} {t : Text} (front rest : Text) (h : c ∉ t) :
    first? [c] (front ++ (t ++ c :: rest)) (byteSize front)
        (byteSize (front ++ (t ++ c :: rest))) =
      some (byteSize front + byteSize t) := by
  have := first?_eq (List.cons_ne_nil c []) front (t ++ c :: rest) []
  rw [List.append_nil, splitAt?_singleton rest h] at this
  rw [byteSize_append, this, Option.map_some]

theorem first?_char_eq_none {c : Char} {t : Text} (front : Text) (h : c ∉ t) :
    first? [c] (front ++ t) (byteSize front) (byteSize (front ++ t)) = none := by
  have := first?_eq (List.cons_ne_nil c []) front t []
  rw [List.append_nil, splitAt?_eq_none_iff.mpr] at this
  · rw [byteSize_append, this, Option.map_none]
  · intro hi
    exact h (hi.subset (List.mem_singleton_self c))

end RefPages.Text
