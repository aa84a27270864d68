import Mathlib.Algebra.Ring.Nat
import Mathlib.Data.List.Induction
import RefPages.Text.Digits

namespace RefPages.Text

section mapM

variable {α β : Type} {f : α → Option β}

theorem mapM_eq_some {g : α → β} {l : List α} (h : ∀ a ∈ l, f a = some (g a)) :
    l.mapM f = some (l.map g) := by
  induction l with
  | nil => rfl
  | cons a l ih =>
    rw [List.forall_mem_cons] at h
    rw [List.mapM_cons, h.1, ih h.2]
    rfl

theorem mem_of_mapM {l : List α} {l' : List β} (h : l.mapM f = some l') {b : β} (hb : b ∈ l') :
    ∃ a ∈ l, f a = some b := by
  induction l generalizing l' with
  | nil =>
    cases h
    cases hb
  | cons a l ih =>
    rw [List.mapM_cons] at h
    obtain ⟨b', hb', h⟩ := Option.bind_eq_some_iff.mp h
    obtain ⟨rest, hrest, h⟩ := Option.bind_eq_some_iff.mp h
    cases h
    rcases List.mem_cons.mp hb with rfl | hb
    · exact ⟨a, List.mem_cons_self .., hb'⟩
    · obtain ⟨a', ha', heq⟩ := ih hrest hb
      exact ⟨a', List.mem_cons_of_mem a ha', heq⟩

theorem length_of_mapM {l : List α} {l' : List β} (h : l.mapM f = some l') :
    l'.length = l.length := by
  induction l generalizing l' with
  | nil =>
    cases h
    rfl
  | cons a l ih =>
    rw [List.mapM_cons] at h
    obtain ⟨b, -, h⟩ := Option.bind_eq_some_iff.mp h
    obtain ⟨rest, hrest, h⟩ := Option.bind_eq_some_iff.mp h
    cases h
    rw [List.length_cons, List.length_cons, ih hrest]

end mapM

variable {base n : Nat} {c : Char}

theorem ofNat_of_lt (h : n < base) : ofNat base n = [Nat.digitChar n] :=
  Nat.toDigits_of_lt_base h

theorem ofNat_of_le (hbase : 1 < base) (h : base ≤ n) :
    ofNat base n = ofNat base (n / base) ++ [Nat.digitChar (n % base)] :=
  Nat.toDigits_of_base_le hbase h

theorem digitValue?_digitChar {d : Nat} (hbase : base ≤ 16) (h : d < base) :
    digitValue? base (Nat.digitChar d) = some d := by
  have hall : ∀ b ≤ 16, ∀ d < b, digitValue? b (Nat.digitChar d) = some d := by decide
  exact hall base hbase d h

theorem exists_digitChar_of_mem_ofNat (hpos : 1 < base) (h : c ∈ ofNat base n) :
    ∃ d < base, c = Nat.digitChar d := by
  induction n using Nat.strongRecOn with
  | ind n ih =>
    by_cases hn : n < base
    · rw [ofNat_of_lt hn] at h
      exact ⟨n, hn, List.mem_singleton.mp h⟩
    · rw [ofNat_of_le hpos (Nat.le_of_not_lt hn)] at h
      rcases List.mem_append.mp h with h | h
      · exact ih (n / base) (Nat.div_lt_self (by omega) hpos) h
      · exact ⟨n % base, Nat.mod_lt n (Nat.lt_of_succ_lt hpos), List.mem_singleton.mp h⟩

theorem eq_zero_of_head?_ofNat (h : (ofNat 10 n).head? = some '0') : n = 0 := by
  induction n using Nat.strongRecOn with
  | ind n ih =>
    by_cases hn : n < 10
    · rw [ofNat_of_lt hn] at h
      exact Nat.digitChar_eq_zero.mp (Option.some.inj h)
    · obtain ⟨c, t, hc⟩ : ∃ c t, ofNat 10 (n / 10) = c :: t :=
        List.exists_cons_of_ne_nil Nat.toDigits_ne_nil
      rw [ofNat_of_le (by decide) (Nat.le_of_not_lt hn), hc] at h
      have := ih (n / 10) (by omega) (by rw [hc]; exact h)
      omega

theorem isDigit_of_mem_ofNat (h : c ∈ ofNat 10 n) : c.isDigit = true :=
  Nat.isDigit_of_mem_toDigits (by decide) (Nat.le_refl 10) h

theorem mapM_digitValue?_ofNat (hpos : 1 < base) (hbase : base ≤ 16) (n : Nat) :
    ∃ ds, (ofNat base n).mapM (digitValue? base) = some ds ∧ number base ds = n := by
  induction n using Nat.strongRecOn with
  | ind n ih =>
    by_cases hn : n < base
    · refine ⟨[n], ?_, ?_⟩
      · rw [ofNat_of_lt hn, List.mapM_cons, digitValue?_digitChar hbase hn]
        rfl
      · rw [number, List.foldl_cons, List.foldl_nil, Nat.zero_mul, Nat.zero_add]
    · obtain ⟨ds, hds, hnumber⟩ := ih (n / base) (Nat.div_lt_self (by omega) hpos)
      have hdigit := digitValue?_digitChar hbase (Nat.mod_lt n (Nat.lt_of_succ_lt hpos))
      refine ⟨ds ++ [n % base], ?_, ?_⟩
      · rw [ofNat_of_le hpos (Nat.le_of_not_lt hn), List.mapM_append, hds, List.mapM_cons, hdigit]
        rfl
      · rw [number, List.foldl_append, ← number, hnumber]
        exact Nat.div_add_mod' n base

theorem number?_ofNat (hpos : 1 < base) (hbase : base ≤ 16) (n : Nat) :
    number? base (ofNat base n) = some n := by
  obtain ⟨ds, hds, hnumber⟩ := mapM_digitValue?_ofNat hpos hbase n
  have hne : ¬(ofNat base n).isEmpty = true := mt List.isEmpty_iff.mp Nat.toDigits_ne_nil
  rw [number?, if_neg hne, hds, Option.map_some, hnumber]

theorem digitValue?_lt {d : Nat} (h : digitValue? base c = some d) : d < base :=
  of_decide_eq_true (Option.filter_eq_some_iff.mp h).2

theorem number_lt {ds : List Nat} (h : ∀ d ∈ ds, d < base) :
    number base ds < base ^ ds.length := by
  induction ds using List.reverseRecOn with
  | nil => exact Nat.one_pos
  | append_singleton ds d ih =>
    have hd := h d (List.mem_append_right ds (List.mem_singleton_self d))
    have hds := ih fun d hd => h d (List.mem_append_left _ hd)
    rw [number, List.foldl_append, ← number, List.length_append, List.length_singleton,
      Nat.pow_succ, List.foldl_cons, List.foldl_nil]
    calc number base ds * base + d < number base ds * base + base := Nat.add_lt_add_left hd _
      _ = (number base ds + 1) * base := (Nat.succ_mul _ _).symm
      _ ≤ base ^ ds.length * base := Nat.mul_le_mul_right base hds

theorem number?_lt {t : Text} (h : number? base t = some n) :
    n < base ^ t.length := by
  rw [number?] at h
  split at h
  · cases h
  · obtain ⟨ds, hds, rfl⟩ := Option.map_eq_some_iff.mp h
    rw [← length_of_mapM hds]
    apply number_lt
    intro d hd
    obtain ⟨c, -, hc⟩ := mem_of_mapM hds hd
    exact digitValue?_lt hc

end RefPages.Text
