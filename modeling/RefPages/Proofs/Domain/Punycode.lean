import Mathlib.Data.List.InsertIdx
import RefPages.Domain.Punycode
import RefPages.Proofs.Text.Letters
import RefPages.Proofs.Text.Stops

namespace RefPages.Domain.Punycode

theorem digitValue?_digit {d : Nat} (h : d < 36) : digitValue? (digit d) = some d := by
  have hall : ∀ e < 36, digitValue? (digit e) = some e := by decide
  exact hall d h

def IsDigit (c : Char) : Prop :=
  ∃ d < 36, digit d = c

theorem IsDigit.spec {c : Char} (h : IsDigit c) :
    isBasic c = true ∧ c ≠ '-' ∧ c ≠ '.' ∧ c.toLower = c := by
  have hall : ∀ d < 36, isBasic (digit d) = true ∧ digit d ≠ '-' ∧ digit d ≠ '.' ∧
    (digit d).toLower = digit d := by decide
  obtain ⟨d, hd, rfl⟩ := h
  exact hall d hd

theorem digit_lt (bias position n : Nat) :
    threshold bias position + (n - threshold bias position) % (36 - threshold bias position) <
      36 := by
  have hle := threshold_le bias position
  have hlt : (n - threshold bias position) % (36 - threshold bias position) <
    36 - threshold bias position := Nat.mod_lt _ (by omega)
  omega

theorem isDigit_of_mem_digits {bias position n : Nat} {c : Char}
    (h : c ∈ digits bias position n) : IsDigit c := by
  have hle := threshold_le bias position
  fun_induction digits bias position n with
  | case1 position n t hn =>
    rw [List.mem_singleton.mp h]
    exact ⟨n, by omega, rfl⟩
  | case2 position n t hn ih =>
    rcases List.mem_cons.mp h with rfl | h
    · exact ⟨_, digit_lt bias position n, rfl⟩
    · exact ih h (threshold_le ..)

theorem readNumber_digits (bias position n weight i : Nat) (rest : Text) :
    readNumber bias position weight i (digits bias position n ++ rest) =
      some (i + n * weight, rest) := by
  fun_induction digits bias position n generalizing weight i with
  | case1 position n t hn =>
    have hle := threshold_le bias position
    rw [List.singleton_append, readNumber, digitValue?_digit (by omega)]
    exact if_pos hn
  | case2 position n t hn ih =>
    have hlt := digit_lt bias position n
    have hdiv : t + (n - t) % (36 - t) + (n - t) / (36 - t) * (36 - t) = n := by
      have := Nat.mod_add_div' (n - t) (36 - t)
      omega
    rw [List.cons_append, readNumber, digitValue?_digit hlt]
    dsimp only
    rw [if_neg (by omega), ih]
    congr 2
    rw [Nat.add_assoc, Nat.mul_comm weight, ← Nat.mul_assoc, ← Nat.add_mul, hdiv]

def written (n : Nat) (before rest : Text) : Text :=
  before.filter (·.toNat ≤ n) ++ rest.filter (·.toNat < n)

theorem insertIdx_append (s t : Text) (c : Char) :
    (s ++ t).insertIdx s.length c = s ++ c :: t := by
  induction s with
  | nil => rfl
  | cons d s ih => rw [List.cons_append, List.length_cons, List.insertIdx_succ_cons, ih]; rfl

theorem written_pass_of_eq {n : Nat} (before rest : Text) {c : Char} (hc : c.toNat = n) :
    written n (before ++ [c]) rest =
      (written n before (c :: rest)).insertIdx (before.filter (·.toNat ≤ n)).length c := by
  have hle : [c].filter (·.toNat ≤ n) = [c] := by simp [hc]
  have hlt : (c :: rest).filter (·.toNat < n) = rest.filter (·.toNat < n) := by simp [hc]
  rw [written, written, List.filter_append, hle, hlt, insertIdx_append, List.append_assoc]
  rfl

theorem written_pass_of_ne {n : Nat} (before rest : Text) {c : Char} (hc : c.toNat ≠ n) :
    written n (before ++ [c]) rest = written n before (c :: rest) := by
  have heq : [c].filter (·.toNat ≤ n) = [c].filter (·.toNat < n) := by
    apply List.filter_congr
    intro d hd
    rw [List.mem_singleton.mp hd]
    exact decide_eq_decide.mpr (by omega)
  rw [written, written, List.filter_append, heq, List.append_assoc, ← List.filter_append]
  rfl

structure Reader where
  code : Nat
  i : Nat
  bias : Nat
  read : Text

def Reader.run (r : Reader) (t : Text) : Option Text :=
  readFrom r.code r.i r.bias r.read t

def Leads (p p' : Progress) (r r' : Reader) : Prop :=
  ∃ out, p'.written = p.written ++ out ∧ (∀ c ∈ out, IsDigit c) ∧
    ∀ more, r.run (out ++ more) = r'.run more

theorem Leads.of_eq {p p' : Progress} (h : p'.written = p.written) (r : Reader) :
    Leads p p' r r :=
  ⟨[], by rw [h, List.append_nil], List.forall_mem_nil _, fun _ => rfl⟩

theorem Leads.trans {p p' p'' : Progress} {r r' r'' : Reader} (h : Leads p p' r r')
    (h' : Leads p' p'' r' r'') : Leads p p'' r r'' := by
  obtain ⟨out, hwritten, hout, hrun⟩ := h
  obtain ⟨out', hwritten', hout', hrun'⟩ := h'
  refine ⟨out ++ out', ?_, List.forall_mem_append.mpr ⟨hout, hout'⟩, fun more => ?_⟩
  · rw [hwritten', hwritten, List.append_assoc]
  · rw [List.append_assoc, hrun, hrun']

/-- The reader stands where the writer does, which has come to the code point `n`, with `before`
behind and `rest` ahead. -/
structure Meets (basic n : Nat) (before rest : Text) (p : Progress) (r : Reader) : Prop where
  read : r.read = written n before rest
  bias : r.bias = p.bias
  count : p.count = r.read.length
  first : r.i = 0 ↔ p.count = basic
  basic_le : basic ≤ p.count
  code_le : r.code ≤ n
  delta : p.delta + r.i =
    (n - r.code) * (p.count + 1) + (before.filter (·.toNat ≤ n)).length

theorem length_before_le (n : Nat) (before rest : Text) :
    (before.filter (·.toNat ≤ n)).length ≤ (written n before rest).length := by
  rw [written, List.length_append]
  omega

def Reader.put (r : Reader) (c : Char) (delta j : Nat) : Reader :=
  ⟨c.toNat, j + 1, adapt delta (r.read.length + 1) (r.i == 0), r.read.insertIdx j c⟩

theorem Reader.run_digits {r : Reader} {c : Char} {delta j : Nat} (hcode : r.code ≤ c.toNat)
    (hj : j ≤ r.read.length)
    (hdelta : delta + r.i = (c.toNat - r.code) * (r.read.length + 1) + j) (more : Text) :
    r.run (digits r.bias 36 delta ++ more) = (r.put c delta j).run more := by
  have hne : (digits r.bias 36 delta ++ more).isEmpty = false := by
    rw [digits.eq_def]
    dsimp only
    split <;> rfl
  have hnumber := readNumber_digits r.bias 36 delta 1 r.i more
  have hpos : 0 < r.read.length + 1 := Nat.succ_pos _
  have hdiv : (r.i + delta * 1) / (r.read.length + 1) = c.toNat - r.code := by
    rw [Nat.mul_one, Nat.add_comm, hdelta, Nat.add_comm, Nat.add_mul_div_right _ _ hpos,
      Nat.div_eq_of_lt (by omega), Nat.zero_add]
  have hmod : (r.i + delta * 1) % (r.read.length + 1) = j := by
    rw [Nat.mul_one, Nat.add_comm, hdelta, Nat.add_comm, Nat.add_mul_mod_self_right,
      Nat.mod_eq_of_lt (by omega)]
  have hcode' : r.code + (c.toNat - r.code) = c.toNat := by omega
  have hi : r.i + delta * 1 - r.i = delta := by omega
  rw [run, readFrom, if_neg (by rw [hne]; exact Bool.false_ne_true)]
  split
  · next h =>
    rw [hnumber] at h
    cases h
  · next n rest h =>
    rw [hnumber] at h
    obtain ⟨rfl, rfl⟩ := Prod.mk.inj (Option.some.inj h)
    dsimp only
    have hvalid : c.toNat.isValidChar := c.valid
    rw [hdiv, hmod, hcode', hi, if_pos hvalid, Char.ofNat_toNat]
    rfl

section Steps

variable {basic n : Nat} {before rest t : Text} {c : Char} {p : Progress} {r : Reader}

theorem filter_concat_of_le (before : Text) (hc : c.toNat ≤ n) :
    ((before ++ [c]).filter (·.toNat ≤ n)).length = (before.filter (·.toNat ≤ n)).length + 1 := by
  have hle : [c].filter (·.toNat ≤ n) = [c] := by simp [hc]
  rw [List.filter_append, hle, List.length_append]
  rfl

theorem filter_concat_of_lt (before : Text) (hc : n < c.toNat) :
    (before ++ [c]).filter (·.toNat ≤ n) = before.filter (·.toNat ≤ n) := by
  have hlt : [c].filter (·.toNat ≤ n) = [] := by simp [hc]
  rw [List.filter_append, hlt, List.append_nil]

theorem Meets.write (h : Meets basic c.toNat before (c :: rest) p r) :
    let r' := r.put c p.delta (before.filter (·.toNat ≤ c.toNat)).length
    let p' : Progress :=
      { written := p.written ++ digits p.bias 36 p.delta
        delta := 0
        bias := adapt p.delta (p.count + 1) (p.count == basic)
        count := p.count + 1 }
    Leads p p' r r' ∧ Meets basic c.toNat (before ++ [c]) rest p' r' := by
  have hdelta := h.delta
  have hj : (before.filter (·.toNat ≤ c.toNat)).length ≤ r.read.length := by
    rw [h.read]
    exact length_before_le c.toNat before (c :: rest)
  have hread : r.read.insertIdx (before.filter (·.toNat ≤ c.toNat)).length c =
      written c.toNat (before ++ [c]) rest := by
    rw [written_pass_of_eq before rest rfl, h.read]
  have hbasic : (r.i == 0) = (p.count == basic) := by
    rw [Bool.eq_iff_iff, beq_iff_eq, beq_iff_eq]
    exact h.first
  intro r' p'
  refine ⟨⟨digits p.bias 36 p.delta, rfl, fun d hd => isDigit_of_mem_digits hd, fun more => ?_⟩, ?_⟩
  · rw [← h.bias]
    rw [h.count] at hdelta
    exact Reader.run_digits h.code_le hj hdelta more
  · refine ⟨hread, ?_, ?_, ?_, Nat.le_succ_of_le h.basic_le, Nat.le_refl _, ?_⟩
    · change adapt p.delta (r.read.length + 1) (r.i == 0) = _
      rw [← h.count, hbasic]
    · change p.count + 1 = (r.read.insertIdx _ c).length
      rw [List.length_insertIdx_of_le_length hj, h.count]
    · have := h.basic_le
      change _ + 1 = 0 ↔ p.count + 1 = basic
      omega
    · change 0 + ((before.filter (·.toNat ≤ c.toNat)).length + 1) = (c.toNat - c.toNat) * _ + _
      rw [filter_concat_of_le before (Nat.le_refl _), Nat.sub_self, Nat.zero_mul]

theorem Meets.pass (h : Meets basic n before (c :: rest) p r) :
    ∃ r', Leads p (Punycode.pass basic n p c) r r' ∧
      Meets basic n (before ++ [c]) rest (Punycode.pass basic n p c) r' := by
  have hdelta := h.delta
  rw [Punycode.pass]
  by_cases hlt : c.toNat < n
  · rw [if_pos hlt]
    refine ⟨r, Leads.of_eq rfl r, { h with read := ?_, delta := ?_ }⟩
    · rw [h.read, written_pass_of_ne before rest (Nat.ne_of_lt hlt)]
    · rw [filter_concat_of_le before (Nat.le_of_lt hlt)]
      dsimp only
      omega
  · rw [if_neg hlt]
    by_cases heq : c.toNat = n
    · subst heq
      rw [if_pos rfl]
      exact ⟨_, h.write⟩
    · rw [if_neg heq]
      have hgt : n < c.toNat := by omega
      refine ⟨r, Leads.of_eq rfl r, { h with read := ?_, delta := ?_ }⟩
      · rw [h.read, written_pass_of_ne before rest heq]
      · rw [filter_concat_of_lt before hgt]
        exact hdelta

theorem Meets.passAll (h : Meets basic n before rest p r) :
    ∃ r', Leads p (rest.foldl (Punycode.pass basic n) p) r r' ∧
      Meets basic n (before ++ rest) [] (rest.foldl (Punycode.pass basic n) p) r' := by
  induction rest generalizing before p r with
  | nil =>
    rw [List.append_nil]
    exact ⟨r, Leads.of_eq rfl r, h⟩
  | cons c rest ih =>
    obtain ⟨r₁, hleads, h₁⟩ := h.pass
    obtain ⟨r₂, hleads', h₂⟩ := ih h₁
    rw [List.append_assoc] at h₂
    exact ⟨r₂, hleads.trans hleads', h₂⟩

theorem Meets.skip {m : Nat} (h : Meets basic n [] t p r) (hle : n ≤ m)
    (ht : ∀ c ∈ t, n ≤ c.toNat → m ≤ c.toNat) :
    Meets basic m [] t { p with delta := p.delta + (m - n) * (p.count + 1) } r := by
  have hfilter : t.filter (·.toNat < m) = t.filter (·.toNat < n) := by
    apply List.filter_congr
    intro c hc
    have := ht c hc
    exact decide_eq_decide.mpr (by omega)
  have hdelta := h.delta
  have hmul : (m - r.code) * (p.count + 1) =
      (n - r.code) * (p.count + 1) + (m - n) * (p.count + 1) := by
    rw [← Nat.add_mul]
    congr 1
    have := h.code_le
    omega
  refine { h with read := ?_, code_le := Nat.le_trans h.code_le hle, delta := ?_ }
  · rw [h.read, written, written, hfilter]
    rfl
  · dsimp only
    rw [hmul]
    simp only [List.filter_nil, List.length_nil] at hdelta ⊢
    omega

theorem Meets.next (h : Meets basic n t [] p r) :
    Meets basic (n + 1) [] t { p with delta := p.delta + 1 } r := by
  have hfilter : t.filter (·.toNat < n + 1) = t.filter (·.toNat ≤ n) :=
    List.filter_congr fun c _ => decide_eq_decide.mpr Nat.lt_succ_iff
  have hread : r.read = t.filter (·.toNat ≤ n) := by rw [h.read, written, List.filter_nil, List.append_nil]
  have hdelta := h.delta
  rw [← hread, ← h.count] at hdelta
  have hmul : (n + 1 - r.code) * (p.count + 1) = (n - r.code) * (p.count + 1) + (p.count + 1) := by
    have := h.code_le
    rw [Nat.succ_sub this, Nat.succ_mul]
  refine { h with read := ?_, code_le := Nat.le_succ_of_le h.code_le, delta := ?_ }
  · rw [hread, written, hfilter]
    rfl
  · dsimp only
    rw [hmul]
    simp only [List.filter_nil, List.length_nil]
    omega

theorem Meets.writeFrom {codes : List Nat} (h : Meets basic n [] t p r)
    (hcodes : codes.Pairwise (· < ·)) (hle : ∀ m ∈ codes, n ≤ m)
    (ht : ∀ c ∈ t, n ≤ c.toNat → c.toNat ∈ codes) :
    ∃ r', Leads p (Punycode.writeFrom t basic n p codes) r r' ∧ r'.read = t := by
  induction codes generalizing n p r with
  | nil =>
    refine ⟨r, Leads.of_eq rfl r, ?_⟩
    rw [h.read, written, List.filter_nil, List.nil_append, List.filter_eq_self]
    intro c hc
    exact decide_eq_true (Nat.not_le.mp fun hn => absurd (ht c hc hn) List.not_mem_nil)
  | cons m codes ih =>
    rw [List.pairwise_cons] at hcodes
    have hm := hle m (List.mem_cons_self ..)
    have hskip := h.skip hm fun c hc hn => by
      rcases List.mem_cons.mp (ht c hc hn) with heq | hmem
      · exact Nat.le_of_eq heq.symm
      · exact Nat.le_of_lt (hcodes.1 _ hmem)
    obtain ⟨r₁, hleads, h₁⟩ := hskip.passAll
    obtain ⟨r₂, hleads', hread⟩ := ih h₁.next hcodes.2 (fun k hk => hcodes.1 k hk) fun c hc hn => by
      rcases List.mem_cons.mp (ht c hc (by omega)) with heq | hmem
      · omega
      · exact hmem
    exact ⟨r₂, hleads.trans hleads', hread⟩

end Steps

theorem pairwise_eraseDups {l : List Nat} (h : l.Pairwise (· ≤ ·)) :
    l.eraseDups.Pairwise (· < ·) := by
  induction hn : l.length using Nat.strongRecOn generalizing l with
  | ind n ih =>
    cases l with
    | nil => exact List.Pairwise.nil
    | cons m l =>
      rw [List.pairwise_cons] at h
      rw [List.eraseDups_cons, List.pairwise_cons]
      refine ⟨fun k hk => ?_, ?_⟩
      · obtain ⟨hk, hne⟩ := List.mem_filter.mp (List.mem_eraseDups.mp hk)
        have hle := h.1 k hk
        have : k ≠ m := by simpa using hne
        omega
      · refine ih _ ?_ (h.2.filter _) rfl
        rw [← hn, List.length_cons]
        exact Nat.lt_succ_of_le (List.length_filter_le ..)

def others (t : Text) : List Nat :=
  ((t.filter fun c => !isBasic c).map Char.toNat).mergeSort.eraseDups

theorem mem_others {t : Text} {n : Nat} : n ∈ others t ↔ ∃ c ∈ t, 0x80 ≤ n ∧ c.toNat = n := by
  rw [others, List.mem_eraseDups, List.mem_mergeSort, List.mem_map]
  constructor
  · rintro ⟨c, hc, rfl⟩
    obtain ⟨hc, hbasic⟩ := List.mem_filter.mp hc
    refine ⟨c, hc, ?_, rfl⟩
    simpa [isBasic] using hbasic
  · rintro ⟨c, hc, hle, rfl⟩
    refine ⟨c, List.mem_filter.mpr ⟨hc, ?_⟩, rfl⟩
    simpa [isBasic] using hle

theorem pairwise_others (t : Text) : (others t).Pairwise (· < ·) := by
  apply pairwise_eraseDups
  have htrans (a b c : Nat) (hab : decide (a ≤ b) = true) (hbc : decide (b ≤ c) = true) :
      decide (a ≤ c) = true :=
    decide_eq_true (Nat.le_trans (of_decide_eq_true hab) (of_decide_eq_true hbc))
  have htotal (a b : Nat) : (decide (a ≤ b) || decide (b ≤ a)) = true := by
    rw [Bool.or_eq_true, decide_eq_true_iff, decide_eq_true_iff]
    exact Nat.le_total a b
  exact (List.pairwise_mergeSort htrans htotal _).imp of_decide_eq_true

def front (t : Text) : Text :=
  if (t.filter isBasic).isEmpty then [] else t.filter isBasic ++ ['-']

theorem exists_encode (t : Text) : ∃ out, encode t = front t ++ out ∧
    (∀ c ∈ out, IsDigit c) ∧
    readFrom 0x80 0 72 (t.filter isBasic) out = some t := by
  let p : Progress := ⟨front t, 0, 72, (t.filter isBasic).length⟩
  let r : Reader := ⟨0x80, 0, 72, t.filter isBasic⟩
  have hmeets : Meets (t.filter isBasic).length 0x80 [] t p r :=
    ⟨rfl, rfl, rfl, iff_of_true rfl rfl, Nat.le_refl _, Nat.le_refl _, (Nat.zero_mul _).symm⟩
  obtain ⟨r', ⟨out, hwritten, hout, hrun⟩, hread⟩ := hmeets.writeFrom (pairwise_others t)
    (fun m hm => (mem_others.mp hm).choose_spec.2.1)
    (fun c hc hle => mem_others.mpr ⟨c, hc, hle, rfl⟩)
  refine ⟨out, hwritten, hout, ?_⟩
  have hend := hrun []
  rw [List.append_nil] at hend
  have hdone : r'.run [] = some t := by
    rw [Reader.run, readFrom, hread]
    rfl
  exact hend.trans hdone

theorem mem_front {t : Text} {c : Char} (h : c ∈ front t) :
    (c ∈ t ∧ isBasic c = true) ∨ c = '-' := by
  rw [front] at h
  split at h
  · cases h
  · rcases List.mem_append.mp h with h | h
    · exact .inl (List.mem_filter.mp h)
    · exact .inr (List.mem_singleton.mp h)

theorem mem_encode {t : Text} {c : Char} (h : c ∈ encode t) :
    (c ∈ t ∧ isBasic c = true) ∨ c = '-' ∨ IsDigit c := by
  obtain ⟨out, hencode, hout, -⟩ := exists_encode t
  rw [hencode] at h
  rcases List.mem_append.mp h with h | h
  · exact (mem_front h).imp_right .inl
  · exact .inr (.inr (hout c h))

theorem getLast?_front (t : Text) : ∀ c ∈ (front t).getLast?, c = '-' := by
  rw [front]
  split
  · exact nofun
  · rw [List.getLast?_concat]
    rintro _ ⟨⟩
    rfl

theorem takeWhile_hyphen (t : Text) {out : Text} (hout : '-' ∉ out) :
    ((front t ++ out).reverse.takeWhile (· ≠ '-')).reverse = out := by
  rw [List.reverse_append, Text.takeWhile_append, List.reverse_reverse]
  · exact Text.decide_ne_of_not_mem (mt List.mem_reverse.mp hout)
  · rw [List.head?_reverse]
    exact fun c hc => decide_eq_false (not_not_intro (getLast?_front t c hc))

theorem decode_encode (t : Text) : decode (encode t) = some t := by
  obtain ⟨out, hencode, hout, hread⟩ := exists_encode t
  have htail := takeWhile_hyphen t fun hc => (hout _ hc).spec.2.1 rfl
  rw [hencode, decode]
  by_cases hbasic : (t.filter isBasic).isEmpty = true
  · have hfront : front t = [] := if_pos hbasic
    rw [hfront, List.nil_append] at htail ⊢
    rw [htail, Nat.sub_self]
    rw [List.isEmpty_iff.mp hbasic] at hread
    exact hread
  · have hfront : front t = t.filter isBasic ++ ['-'] := if_neg hbasic
    have hlength : (front t ++ out).length - out.length - 1 = (t.filter isBasic).length := by
      rw [hfront, List.length_append, List.length_append, List.length_singleton]
      omega
    have htake : (front t ++ out).take (t.filter isBasic).length = t.filter isBasic := by
      rw [hfront, List.append_assoc, List.take_left]
    rw [htail, hlength, htake, if_neg hbasic]
    exact hread

theorem mem_readFrom {code i bias : Nat} {read t u : Text} {c : Char}
    (h : readFrom code i bias read t = some u) (hcode : 0x80 ≤ code) (hc : c ∈ u) :
    c ∈ read ∨ isBasic c = false := by
  fun_induction readFrom code i bias read t with
  | case1 => exact .inl (Option.some.inj h ▸ hc)
  | case2 => cases h
  | case3 code i bias read t ht n rest hnumber count code' hvalid ih =>
    rcases ih h (Nat.le_add_right_of_le hcode) with hread | hbeyond
    · rcases List.eq_or_mem_of_mem_insertIdx hread with rfl | hread
      · right
        have hle : 0x80 ≤ code' := Nat.le_add_right_of_le hcode
        rw [isBasic, Text.toNat_ofNat hvalid]
        exact decide_eq_false (Nat.not_lt.mpr hle)
      · exact .inl hread
    · exact .inr hbeyond
  | case4 => cases h

theorem mem_decode {t u : Text} {c : Char} (h : decode t = some u) (hc : c ∈ u) :
    c ∈ t ∨ isBasic c = false :=
  (mem_readFrom h (Nat.le_refl _) hc).imp_left fun hread => List.mem_of_mem_take hread

end RefPages.Domain.Punycode
