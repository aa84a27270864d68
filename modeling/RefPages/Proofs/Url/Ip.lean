import RefPages.Proofs.Text.Digits
import RefPages.Proofs.Text.Lines
import RefPages.Url.Ip

namespace RefPages.Url.Ip

open Host (ipv4Text ipv6Text joinPieces zeroRun)

def IsPiece (n : Nat) : Prop :=
  n < 65536

theorem zeroRun_spec (start : Nat) (pieces : List Nat) :
    ∃ before after, pieces = before ++ List.replicate (zeroRun start pieces).2 0 ++ after ∧
      (zeroRun start pieces).1 = start + before.length := by
  induction pieces generalizing start with
  | nil => exact ⟨[], [], rfl, rfl⟩
  | cons n rest ih =>
    rw [zeroRun]
    split
    · refine ⟨[], (n :: rest).dropWhile (· = 0), ?_, rfl⟩
      have hzero : (n :: rest).takeWhile (· = 0) =
          List.replicate ((n :: rest).takeWhile (· = 0)).length 0 := by
        rw [List.eq_replicate_iff]
        refine ⟨rfl, fun m hm => ?_⟩
        exact of_decide_eq_true (List.all_eq_true.mp List.all_takeWhile m hm)
      rw [List.nil_append, ← hzero, List.takeWhile_append_dropWhile]
    · obtain ⟨before, after, hrest, hstart⟩ := ih (start + 1)
      refine ⟨n :: before, after, congrArg (n :: ·) hrest, ?_⟩
      rw [hstart, List.length_cons]
      omega

section Pieces

variable {n : Nat} {pieces : List Nat}

theorem colon_not_mem_ofNat (n : Nat) : ':' ∉ Text.ofNat 16 n ∧ '.' ∉ Text.ofNat 16 n := by
  have hall : ∀ d < 16, ':' ≠ Nat.digitChar d ∧ '.' ≠ Nat.digitChar d := by decide
  constructor
  all_goals
    intro h
    obtain ⟨d, hd, heq⟩ := Text.exists_digitChar_of_mem_ofNat (by decide) h
  · exact (hall d hd).1 heq
  · exact (hall d hd).2 heq

theorem length_ofNat_le (h : IsPiece n) : (Text.ofNat 16 n).length ≤ 4 :=
  (Nat.length_toDigits_le_iff (by decide) (by decide)).mpr h

theorem number?_piece (n : Nat) : Text.number? 16 (Text.ofNat 16 n) = some n :=
  Text.number?_ofNat (by decide) (by decide) n

theorem pieces?_map (h : ∀ n ∈ pieces, IsPiece n) :
    pieces? (pieces.map (Text.ofNat 16)) = some pieces := by
  induction pieces with
  | nil => rfl
  | cons n pieces ih =>
    rw [List.forall_mem_cons] at h
    have hlength := length_ofNat_le h.1
    cases pieces with
    | nil =>
      have hdot : ¬(Text.ofNat 16 n).any (· == '.') = true := by
        rw [List.any_beq']
        simpa using (colon_not_mem_ofNat n).2
      rw [List.map_singleton, pieces?, if_neg hdot, if_pos hlength, number?_piece]
      rfl
    | cons m pieces =>
      have hrest := ih h.2
      rw [List.map_cons] at hrest
      rw [List.map_cons, List.map_cons, pieces?, if_pos hlength, number?_piece, hrest]
      · rfl
      · exact nofun

theorem joinPieces_cons_cons (n m : Nat) (pieces : List Nat) :
    joinPieces (n :: m :: pieces) = Text.ofNat 16 n ++ ':' :: joinPieces (m :: pieces) := by
  rw [joinPieces, List.map_cons, List.map_cons, List.intercalate_cons_cons, List.append_assoc]
  rfl

theorem exists_joinPieces_cons (n : Nat) (pieces : List Nat) :
    ∃ c t, joinPieces (n :: pieces) = c :: t ∧ c ≠ ':' := by
  obtain ⟨c, t, hn⟩ : ∃ c t, Text.ofNat 16 n = c :: t :=
    List.exists_cons_of_ne_nil Nat.toDigits_ne_nil
  have hc : c ≠ ':' := by
    rintro rfl
    exact (colon_not_mem_ofNat n).1 (hn ▸ List.mem_cons_self ..)
  cases pieces with
  | nil =>
    have hone : joinPieces [n] = Text.ofNat 16 n := List.intercalate_singleton ..
    exact ⟨c, t, hone.trans hn, hc⟩
  | cons m pieces =>
    rw [joinPieces_cons_cons, hn]
    exact ⟨c, _, rfl, hc⟩

theorem group?_joinPieces (h : ∀ n ∈ pieces, IsPiece n) :
    group? (joinPieces pieces) = some pieces := by
  cases pieces with
  | nil => rfl
  | cons n pieces =>
    have hcolon : ∀ part ∈ (n :: pieces).map (Text.ofNat 16), ':' ∉ part := by
      rw [List.forall_mem_map]
      exact fun m _ => (colon_not_mem_ofNat m).1
    have hsplit : (joinPieces (n :: pieces)).splitOn ':' = (n :: pieces).map (Text.ofNat 16) :=
      List.splitOn_intercalate ':' hcolon nofun
    have hne : ¬(joinPieces (n :: pieces)).isEmpty = true := by
      obtain ⟨c, t, hjoin, -⟩ := exists_joinPieces_cons n pieces
      rw [hjoin]
      exact nofun
    rw [group?, if_neg hne, hsplit, pieces?_map h]

end Pieces

section Colons

theorem splitAt?_cons (read : Text) {c : Char} (t : Text) (h : c = ':' → t.head? ≠ some ':') :
    Text.splitAt? "::".toList read (c :: t) = Text.splitAt? "::".toList (c :: read) t := by
  rw [Text.splitAt?, if_neg]
  intro hp
  obtain ⟨rest, hrest⟩ := List.isPrefixOf_iff_prefix.mp hp
  cases hrest
  exact h rfl rfl

theorem splitAt?_append_of_not_mem (read : Text) {s : Text} (h : ':' ∉ s) (t : Text) :
    Text.splitAt? "::".toList read (s ++ t) = Text.splitAt? "::".toList (s.reverse ++ read) t := by
  induction s generalizing read with
  | nil => rfl
  | cons c s ih =>
    rw [List.mem_cons, not_or] at h
    rw [List.cons_append, splitAt?_cons read _ fun hc => absurd hc.symm h.1, ih _ h.2,
      List.reverse_cons, List.append_assoc]
    rfl

theorem splitAt?_joinPieces (read : Text) (pieces : List Nat) (t : Text) :
    Text.splitAt? "::".toList read (joinPieces pieces ++ t) =
      Text.splitAt? "::".toList ((joinPieces pieces).reverse ++ read) t := by
  induction pieces generalizing read with
  | nil => rfl
  | cons n pieces ih =>
    have hn := (colon_not_mem_ofNat n).1
    cases pieces with
    | nil =>
      have hone : joinPieces [n] = Text.ofNat 16 n := List.intercalate_singleton ..
      rw [hone, splitAt?_append_of_not_mem read hn]
    | cons m pieces =>
      obtain ⟨c, rest, hm, hc⟩ := exists_joinPieces_cons m pieces
      have hhead : (joinPieces (m :: pieces) ++ t).head? ≠ some ':' := by
        rw [hm]
        exact fun h => hc (Option.some.inj h)
      rw [joinPieces_cons_cons, List.append_assoc, List.cons_append,
        splitAt?_append_of_not_mem read hn, splitAt?_cons _ _ fun _ => hhead, ih]
      simp

theorem splitAt?_joinPieces_nil (pieces : List Nat) :
    Text.splitAt? "::".toList [] (joinPieces pieces) = none := by
  have h := splitAt?_joinPieces [] pieces []
  rw [List.append_nil] at h
  rw [h]
  rfl

theorem splitAt?_joinPieces_colons (pieces : List Nat) (t : Text) :
    Text.splitAt? "::".toList [] (joinPieces pieces ++ "::".toList ++ t) =
      some (joinPieces pieces, t) := by
  rw [List.append_assoc, splitAt?_joinPieces, List.append_nil]
  have hcolons : "::".toList.isPrefixOf ("::".toList ++ t) = true :=
    List.isPrefixOf_iff_prefix.mpr (List.prefix_append ..)
  have hcons : "::".toList ++ t = ':' :: ':' :: t := rfl
  rw [hcons] at hcolons ⊢
  rw [Text.splitAt?, if_pos hcolons, List.reverse_reverse]
  rfl

end Colons

theorem mem_joinPieces {pieces : List Nat} {c : Char} (h : c ∈ joinPieces pieces) :
    c = ':' ∨ ∃ d < 16, c = Nat.digitChar d := by
  refine (Text.mem_intercalate h).imp_right ?_
  rintro ⟨part, hpart, hc⟩
  obtain ⟨n, -, rfl⟩ := List.mem_map.mp hpart
  exact Text.exists_digitChar_of_mem_ofNat (by decide) hc

theorem mem_ipv6Text {pieces : List Nat} {c : Char} (h : c ∈ ipv6Text pieces) :
    c = ':' ∨ ∃ d < 16, c = Nat.digitChar d := by
  rw [ipv6Text] at h
  split at h
  split at h
  · exact mem_joinPieces h
  · rw [List.mem_append, List.mem_append] at h
    obtain (h | h) | h := h
    · exact mem_joinPieces h
    · left
      simpa using h
    · exact mem_joinPieces h

theorem dot_not_mem_joinPieces (pieces : List Nat) : '.' ∉ joinPieces pieces := by
  have hall : ∀ d < 16, '.' ≠ Nat.digitChar d := by decide
  intro h
  obtain h | ⟨d, hd, h⟩ := mem_joinPieces h
  · cases h
  · exact hall d hd h

theorem ipv6?_ipv6Text {pieces : List Nat} (hlength : pieces.length = 8)
    (h : ∀ n ∈ pieces, IsPiece n) : ipv6? (ipv6Text pieces) = some pieces := by
  obtain ⟨before, after, hpieces, hstart⟩ := zeroRun_spec 0 pieces
  rw [Nat.zero_add] at hstart
  rw [ipv6Text]
  split
  next start length hrun =>
  rw [hrun] at hpieces hstart
  dsimp only at hpieces hstart
  subst hstart
  split
  · rw [ipv6?, splitAt?_joinPieces_nil, group?_joinPieces h]
    dsimp only
    rw [Option.filter_some, hlength]
    rfl
  · next hlong =>
    have htake : pieces.take before.length = before := by
      rw [hpieces, List.append_assoc, List.take_left]
    have hdrop : pieces.drop (before.length + length) = after := by
      rw [hpieces]
      exact List.drop_left' (by simp)
    have hbefore : ∀ n ∈ before, IsPiece n := by
      intro n hn
      exact h n (hpieces ▸ by simp [hn])
    have hafter : ∀ n ∈ after, IsPiece n := by
      intro n hn
      exact h n (hpieces ▸ by simp [hn])
    have hdot : ¬(joinPieces before).any (· == '.') = true := by
      rw [List.any_beq']
      simpa using dot_not_mem_joinPieces before
    have hsum : before.length + length + after.length = 8 := by
      rw [← hlength, hpieces, List.length_append, List.length_append, List.length_replicate]
    have hmissing : 8 - (before.length + after.length) = length := by omega
    rw [htake, hdrop, ipv6?, splitAt?_joinPieces_colons]
    dsimp only
    rw [if_neg hdot, group?_joinPieces hbefore, group?_joinPieces hafter]
    dsimp only [Option.bind_eq_bind, Option.bind_some]
    rw [hmissing, if_neg (by omega), ← hpieces]

theorem isPiece_of_number? {part : Text} {n : Nat} (hlength : part.length ≤ 4)
    (h : Text.number? 16 part = some n) : IsPiece n :=
  Nat.lt_of_lt_of_le (Text.number?_lt h) (Nat.pow_le_pow_right (by decide) hlength)

theorem isPiece_of_embedded? {t : Text} {pieces : List Nat} (h : embedded? t = some pieces) :
    ∀ n ∈ pieces, IsPiece n := by
  obtain ⟨numbers, -, h⟩ := Option.bind_eq_some_iff.mp h
  split at h
  · next a b c d =>
    split at h
    · next hall =>
      cases h
      simp only [List.all_cons, List.all_nil, Bool.and_true, Bool.and_eq_true,
        decide_eq_true_iff] at hall
      obtain ⟨ha, hb, hc, hd⟩ := hall
      simp only [List.mem_cons, List.not_mem_nil, or_false, forall_eq_or_imp, forall_eq, IsPiece]
      omega
    · cases h
  · cases h

theorem isPiece_of_pieces? {parts : List Text} {pieces : List Nat}
    (h : pieces? parts = some pieces) : ∀ n ∈ pieces, IsPiece n := by
  induction parts generalizing pieces with
  | nil =>
    cases h
    exact List.forall_mem_nil _
  | cons part rest ih =>
    cases rest with
    | nil =>
      rw [pieces?] at h
      split at h
      · exact isPiece_of_embedded? h
      · split at h
        · next hlength =>
          obtain ⟨n, hn, rfl⟩ := Option.map_eq_some_iff.mp h
          exact List.forall_mem_singleton.mpr (isPiece_of_number? hlength hn)
        · cases h
    | cons next rest =>
      rw [pieces?] at h
      · split at h
        · next hlength =>
          obtain ⟨n, hn, h⟩ := Option.bind_eq_some_iff.mp h
          obtain ⟨pieces', hpieces, h⟩ := Option.bind_eq_some_iff.mp h
          cases h
          exact List.forall_mem_cons.mpr ⟨isPiece_of_number? hlength hn, ih hpieces⟩
        · cases h
      · exact nofun

theorem isPiece_of_group? {t : Text} {pieces : List Nat} (h : group? t = some pieces) :
    ∀ n ∈ pieces, IsPiece n := by
  rw [group?] at h
  split at h
  · cases h
    exact List.forall_mem_nil _
  · exact isPiece_of_pieces? h

theorem ipv6?_spec {t : Text} {pieces : List Nat} (h : ipv6? t = some pieces) :
    pieces.length = 8 ∧ ∀ n ∈ pieces, IsPiece n := by
  rw [ipv6?] at h
  split at h
  · obtain ⟨hgroup, hlength⟩ := Option.filter_eq_some_iff.mp h
    exact ⟨of_decide_eq_true hlength, isPiece_of_group? hgroup⟩
  · split at h
    · cases h
    · obtain ⟨first, hfirst, h⟩ := Option.bind_eq_some_iff.mp h
      obtain ⟨second, hsecond, h⟩ := Option.bind_eq_some_iff.mp h
      dsimp only at h
      split at h
      · cases h
      · next hmissing =>
        cases h
        constructor
        · rw [List.length_append, List.length_append, List.length_replicate]
          omega
        · intro n hn
          rw [List.mem_append, List.mem_append] at hn
          obtain (hn | hn) | hn := hn
          · exact isPiece_of_group? hfirst n hn
          · rw [(List.mem_replicate.mp hn).2]
            exact Nat.zero_lt_succ _
          · exact isPiece_of_group? hsecond n hn

theorem number?_ofNat (n : Nat) : number? (Text.ofNat 10 n) = some n := by
  have hdigit {c : Char} (h : c ∈ Text.ofNat 10 n) : c.isDigit = true := Text.isDigit_of_mem_ofNat h
  have hx {c d : Char} {t : Text} (h : Text.ofNat 10 n = c :: d :: t) : d.isDigit = true :=
    hdigit (h ▸ List.mem_cons_of_mem c (List.mem_cons_self ..))
  rw [number?.eq_def]
  split
  · next h => cases hx h
  · next h => cases hx h
  · next h => cases hx h
  · next h => cases hx h
  · next c t _ _ h =>
    have hzero : n = 0 := Text.eq_zero_of_head?_ofNat (by rw [h]; rfl)
    rw [hzero] at h
    cases h
  · exact Text.number?_ofNat (by decide) (by decide) n

theorem parts_ipv4Text (n : Nat) : parts (ipv4Text n) =
    [n / 16777216, n / 65536 % 256, n / 256 % 256, n % 256].map (Text.ofNat 10) := by
  have hsplit : (ipv4Text n).splitOn '.' =
      [n / 16777216, n / 65536 % 256, n / 256 % 256, n % 256].map (Text.ofNat 10) := by
    apply List.splitOn_intercalate
    · rw [List.forall_mem_map]
      intro d _ hdot
      cases Text.isDigit_of_mem_ofNat hdot
    · exact nofun
  have hlast : Text.ofNat 10 (n % 256) ≠ [] := Nat.toDigits_ne_nil
  rw [parts, hsplit]
  exact if_neg fun h => hlast (Option.some.inj h)

theorem ipv4?_of_four {t : Text} {a b c d : Nat}
    (h : (parts t).mapM number? = some [a, b, c, d]) (ha : a < 256) (hb : b < 256) (hc : c < 256)
    (hd : d < 256) : ipv4? t = some (((a * 256 + b) * 256 + c) * 256 + d) := by
  have hothers : ([a, b, c].all (· < 256)) = true := by simp [ha, hb, hc]
  rw [ipv4?, h]
  refine (if_pos ⟨Nat.le_refl 3, hd, hothers⟩).trans ?_
  change some ((((0 * 256 + a) * 256 + b) * 256 + c) * 256 + d) = _
  rw [Nat.zero_mul, Nat.zero_add]

theorem mem_ipv4Text {n : Nat} {c : Char} (h : c ∈ ipv4Text n) :
    c = '.' ∨ ∃ d < 10, c = Nat.digitChar d := by
  refine (Text.mem_intercalate h).imp_right ?_
  rintro ⟨part, hpart, hc⟩
  obtain ⟨n, -, rfl⟩ := List.mem_map.mp hpart
  exact Text.exists_digitChar_of_mem_ofNat (by decide) hc

theorem endsInNumber_ipv4Text (n : Nat) : endsInNumber (ipv4Text n) = true := by
  have hdigits : (Text.ofNat 10 (n % 256)).all Char.isDigit = true :=
    List.all_eq_true.mpr fun _ => Text.isDigit_of_mem_ofNat
  have hne : (Text.ofNat 10 (n % 256)).isEmpty = false :=
    Bool.eq_false_iff.mpr (mt List.isEmpty_iff.mp Nat.toDigits_ne_nil)
  rw [endsInNumber, parts_ipv4Text]
  simp only [List.map_cons, List.map_nil, List.getLast?_cons_cons, List.getLast?_singleton]
  rw [hdigits, hne]
  rfl

theorem ipv4?_ipv4Text {n : Nat} (h : n < 4294967296) : ipv4? (ipv4Text n) = some n := by
  have hnumbers : (parts (ipv4Text n)).mapM number? =
      some [n / 16777216, n / 65536 % 256, n / 256 % 256, n % 256] := by
    rw [parts_ipv4Text, List.mapM_map]
    exact Text.mapM_eq_some fun d _ => number?_ofNat d
  rw [ipv4?_of_four hnumbers (by omega) (by omega) (by omega) (by omega)]
  congr 1
  omega

theorem ipv4?_lt {t : Text} {n : Nat} (h : ipv4? t = some n) : n < 4294967296 := by
  obtain ⟨numbers, -, h⟩ := Option.bind_eq_some_iff.mp h
  obtain ⟨last, -, h⟩ := Option.bind_eq_some_iff.mp h
  dsimp only at h
  split at h
  · next hfits =>
    cases h
    obtain ⟨hlength, hlast, hothers⟩ := hfits
    have hfold : numbers.dropLast.foldl (fun n d => n * 256 + d) 0 < 256 ^ numbers.dropLast.length :=
      Text.number_lt fun d hd => of_decide_eq_true (List.all_eq_true.mp hothers d hd)
    generalize numbers.dropLast.foldl (fun n d => n * 256 + d) 0 = front at *
    generalize numbers.dropLast.length = length at *
    have hpow : 256 ^ length * 256 ^ (4 - length) = 4294967296 := by
      rw [← Nat.pow_add]
      have : length + (4 - length) = 4 := by omega
      rw [this]
    calc front * Nat.pow 256 (4 - length) + last
        < front * 256 ^ (4 - length) + 256 ^ (4 - length) := Nat.add_lt_add_left hlast _
      _ = (front + 1) * 256 ^ (4 - length) := (Nat.succ_mul _ _).symm
      _ ≤ 256 ^ length * 256 ^ (4 - length) := Nat.mul_le_mul_right _ hfold
      _ = 4294967296 := hpow
  · cases h

end RefPages.Url.Ip
