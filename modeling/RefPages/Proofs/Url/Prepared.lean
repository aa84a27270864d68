import Mathlib.Data.List.TakeWhile
import RefPages.Proofs.Url.Scheme

namespace RefPages.Url

def trim (t : Text) : Text :=
  ((t.reverse.dropWhile fun c => c.toNat ≤ 0x20).reverse).filter fun c => !isIgnored c

section Trim

variable {c : Char} {s : Text}

theorem isIgnored_of_visible (h : 0x20 < c.toNat) : isIgnored c = false := by
  rw [Bool.eq_false_iff]
  intro hc
  simp only [isIgnored, Bool.or_eq_true, beq_iff_eq] at hc
  obtain (rfl | rfl) | rfl := hc <;> exact absurd h (by decide)

theorem trim_cons_cases (h : isIgnored c = false) (t : Text) :
    (trim (c :: t) = [] ∧ c.toNat ≤ 0x20) ∨ trim (c :: t) = c :: trim t := by
  rw [trim, trim, List.reverse_cons, List.dropWhile_append]
  split
  · next hnil =>
    rw [List.isEmpty_iff.mp hnil]
    by_cases hc : c.toNat ≤ 0x20
    · exact .inl ⟨by simp [hc], hc⟩
    · exact .inr (by simp [hc, h])
  · exact .inr (by simp [h])

theorem trim_cons (h : 0x20 < c.toNat) (t : Text) : trim (c :: t) = c :: trim t := by
  obtain ⟨-, hle⟩ | hcons := trim_cons_cases (isIgnored_of_visible h) t
  · omega
  · exact hcons

theorem trim_append (h : ∀ c ∈ s, 0x20 < c.toNat) (t : Text) : trim (s ++ t) = s ++ trim t := by
  induction s with
  | nil => rfl
  | cons c s ih =>
    rw [List.forall_mem_cons] at h
    rw [List.cons_append, trim_cons h.1, ih h.2]
    rfl

theorem prepare_append (hne : s ≠ []) (h : ∀ c ∈ s, 0x20 < c.toNat) (t : Text) :
    prepare (s ++ t) = s ++ trim t := by
  obtain ⟨c, rest, rfl⟩ := List.exists_cons_of_ne_nil hne
  have hdrop : (c :: (rest ++ t)).dropWhile (fun c => c.toNat ≤ 0x20) = c :: (rest ++ t) := by
    apply List.dropWhile_cons_of_neg
    rw [decide_eq_true_iff]
    exact Nat.not_le.mpr (h c (List.mem_cons_self ..))
  rw [← trim_append h, prepare, trim, List.cons_append]
  dsimp only
  rw [hdrop]

end Trim

structure IsScheme (s : Text) : Prop where
  nonempty : s ≠ []
  visible : ∀ c ∈ s, 0x20 < c.toNat
  split (rest : Text) : splitScheme (s ++ ':' :: rest) = some (s, rest)

theorem isSchemeChar_toLower {c : Char} (h : isSchemeChar c = true) :
    isSchemeChar c.toLower = true := by
  cases halpha : c.isAlpha with
  | true => simp only [isSchemeChar, Char.isAlphanum, Text.isAlpha_toLower, halpha, Bool.true_or]
  | false => rw [Text.toLower_of_not_isAlpha halpha, h]

theorem visible_of_isSchemeChar {c : Char} (h : isSchemeChar c = true) : 0x20 < c.toNat := by
  have hdigit : c.isDigit = true ↔ 48 ≤ c.toNat ∧ c.toNat ≤ 57 :=
    (Bool.and_eq_true_iff).trans (and_congr decide_eq_true_iff decide_eq_true_iff)
  simp only [isSchemeChar, Char.isAlphanum, Bool.or_eq_true, beq_iff_eq, Text.isAlpha_iff,
    hdigit] at h
  obtain (((h | h) | rfl) | rfl) | rfl := h
  · omega
  · omega
  all_goals decide

theorem isScheme_of_splitScheme {t scheme rest : Text} (h : splitScheme t = some (scheme, rest)) :
    IsScheme scheme := by
  rw [splitScheme] at h
  split at h
  · next c w rest hw ht =>
    split at h
    · next halpha =>
      cases h
      have hchars : ∀ d ∈ (c :: w).map Char.toLower, isSchemeChar d = true := by
        rw [List.forall_mem_map]
        intro d hd
        rw [← hw] at hd
        exact isSchemeChar_toLower (List.all_eq_true.mp List.all_takeWhile d hd)
      have halpha' : c.toLower.isAlpha = true := by rw [Text.isAlpha_toLower, halpha]
      have hlower : ((c :: w).map Char.toLower).map Char.toLower = (c :: w).map Char.toLower := by
        rw [List.map_map]
        exact List.map_congr_left fun d _ => Text.toLower_toLower d
      refine ⟨List.cons_ne_nil _ _, fun d hd => visible_of_isSchemeChar (hchars d hd), fun rest => ?_⟩
      rw [List.map_cons] at hchars hlower ⊢
      rw [splitScheme_append hchars halpha', hlower]
    · cases h
  · cases h

theorem Reference.fst_splitAt (sign : Char) (t : Text) :
    (splitAt sign t).1 = t.takeWhile (· ≠ sign) := by
  rw [splitAt]
  split
  · next h => exact (List.takeWhile_eq_self_iff.mpr (List.dropWhile_eq_nil_iff.mp h)).symm
  · rfl

def isFront (c : Char) : Bool :=
  c ≠ '?' && c ≠ '#'

theorem Reference.front_ofText (t : Text) : (ofText t).front = t.takeWhile isFront := by
  have heq : (fun c : Char => decide (decide (c ≠ '?') = true ∧ decide (c ≠ '#') = true)) =
      isFront := by
    funext c
    rw [isFront, Bool.decide_and, Bool.decide_eq_true, Bool.decide_eq_true]
  change (splitAt '?' (splitAt '#' t).1).1 = _
  rw [fst_splitAt, fst_splitAt, List.takeWhile_takeWhile, heq]

theorem exists_reference {scheme s : Text} (hscheme : IsScheme scheme)
    (hs : ∀ c ∈ s, 0x20 < c.toNat ∧ isFront c = true) (t : Text) :
    ∃ r, parse (scheme ++ ':' :: (s ++ t)) = withScheme none scheme r ∧
      r.front = s ++ (trim t).takeWhile isFront := by
  have hvisible : ∀ c ∈ scheme ++ ':' :: s, 0x20 < c.toNat := by
    intro c hc
    rw [List.mem_append, List.mem_cons] at hc
    obtain hc | rfl | hc := hc
    · exact hscheme.visible c hc
    · decide
    · exact (hs c hc).1
  have hne : scheme ++ ':' :: s ≠ [] := by simp
  have hprepare : prepare (scheme ++ ':' :: (s ++ t)) = scheme ++ ':' :: (s ++ trim t) := by
    have h := prepare_append hne hvisible t
    rwa [List.append_assoc, List.append_assoc, List.cons_append, List.cons_append] at h
  refine ⟨Reference.ofText (s ++ trim t), ?_, ?_⟩
  · simp only [parse, parseFrom, hprepare, hscheme.split]
  · rw [Reference.front_ofText, List.takeWhile_append_of_pos fun c hc => (hs c hc).2]

end RefPages.Url
