import RefPages.Proofs.Domain.Name
import RefPages.Proofs.Url.Ip
import RefPages.Proofs.Url.Percent
import RefPages.Url.Authority

namespace RefPages.Url

def isInner (c : Char) : Bool :=
  0x20 < c.toNat && !"/\\?#@".toList.contains c

theorem isInner_of_eq_false {p : Char → Bool} (hlow : ∀ c, c.toNat ≤ 0x20 → p c = true)
    (hsigns : "/\\?#@".toList.all p = true) {c : Char} (h : p c = false) :
    isInner c = true := by
  rw [isInner, Bool.and_eq_true, decide_eq_true_iff, Bool.not_eq_true', List.contains_eq_mem,
    decide_eq_false_iff_not]
  constructor
  · apply Nat.lt_of_not_le
    intro hle
    rw [hlow c hle] at h
    cases h
  · intro hmem
    rw [List.all_eq_true.mp hsigns c hmem] at h
    cases h

theorem isInner_of_isEncoding {c : Char} (h : Percent.IsEncoding c) : isInner c = true :=
  h.forall (p := (isInner · = true)) (by decide) (by decide)

structure Legible (read : Text → Except Fault Host) (h : Host) : Prop where
  nonempty : h.text ≠ []
  inner : ∀ c ∈ h.text, isInner c = true
  split {rest : Text} : (∀ c ∈ rest.head?, c = ':') →
    splitHost false (h.text ++ rest) = (h.text, rest)
  read : read h.text = .ok h

section SplitHost

variable {t rest : Text}

theorem splitHost_rest (h : ∀ c ∈ rest.head?, c = ':') : splitHost false rest = ([], rest) := by
  cases rest with
  | nil => rfl
  | cons c rest =>
    rw [h c rfl, splitHost, if_pos ⟨rfl, rfl⟩]

theorem splitHost_cons {c : Char} {inBrackets : Bool} (after : Bool)
    (hc : ¬(c = ':' ∧ (!inBrackets) = true))
    (hafter : (if c = '[' then true else if c = ']' then false else inBrackets) = after) :
    splitHost inBrackets (c :: t) = (c :: (splitHost after t).1, (splitHost after t).2) := by
  subst hafter
  rw [splitHost, if_neg hc]

theorem splitHost_of_not_mem (hcolon : ':' ∉ t) (hopen : '[' ∉ t)
    (h : ∀ c ∈ rest.head?, c = ':') : splitHost false (t ++ rest) = (t, rest) := by
  induction t with
  | nil => exact splitHost_rest h
  | cons c t ih =>
    rw [List.mem_cons, not_or] at hcolon hopen
    have hc : ¬(c = ':' ∧ (!false) = true) := fun hc => hcolon.1 hc.1.symm
    have hafter : (if c = '[' then true else if c = ']' then false else false) = false := by
      rw [if_neg (Ne.symm hopen.1), ite_self]
    rw [List.cons_append, splitHost_cons false hc hafter, ih hcolon.2 hopen.2]

theorem splitHost_close (hclose : ']' ∉ t) (h : ∀ c ∈ rest.head?, c = ':') :
    splitHost true (t ++ ']' :: rest) = (t ++ [']'], rest) := by
  have hinside (c : Char) : ¬(c = ':' ∧ (!true) = true) := fun hc => Bool.false_ne_true hc.2
  induction t with
  | nil =>
    rw [List.nil_append, splitHost_cons false (hinside ']') rfl, splitHost_rest h]
    rfl
  | cons c t ih =>
    rw [List.mem_cons, not_or] at hclose
    have hafter : (if c = '[' then true else if c = ']' then false else true) = true := by
      rw [if_neg (Ne.symm hclose.1), ite_self]
    rw [List.cons_append, splitHost_cons true (hinside c) hafter, ih hclose.2]
    rfl

end SplitHost

section Bracketed

variable {pieces : List Nat}

theorem bracketed_spec {t : Text} {h : Host} (hread : bracketed t = .ok h) :
    ∃ pieces, h = .ipv6 pieces ∧ pieces.length = 8 ∧ ∀ n ∈ pieces, Ip.IsPiece n := by
  rw [bracketed] at hread
  split at hread
  · cases hread
  · split at hread
    · cases hread
    · next pieces hpieces =>
      cases hread
      exact ⟨pieces, rfl, Ip.ipv6?_spec hpieces⟩

theorem bracketed_text (hlength : pieces.length = 8) (h : ∀ n ∈ pieces, Ip.IsPiece n) :
    bracketed (Host.ipv6 pieces).text = .ok (.ipv6 pieces) := by
  have hinner : ((Host.ipv6 pieces).text.drop 1).dropLast = Host.ipv6Text pieces :=
    List.dropLast_concat
  have hlast : (Host.ipv6 pieces).text.getLast? = some ']' := by
    rw [Host.text, List.cons_append, ← List.cons_append, List.getLast?_concat]
  have hends : ¬((Host.ipv6 pieces).text.length < 2 ∨
      (Host.ipv6 pieces).text.getLast? ≠ some ']') := by
    rw [hlast, Host.text]
    simp
  rw [bracketed, if_neg hends, hinner, Ip.ipv6?_ipv6Text hlength h]

theorem legible_ipv6 {read : Text → Except Fault Host}
    (hread : ∀ t, t.head? = some '[' → read t = bracketed t)
    (hlength : pieces.length = 8) (h : ∀ n ∈ pieces, Ip.IsPiece n) :
    Legible read (.ipv6 pieces) := by
  have hmem {c : Char} (hc : c ∈ Host.ipv6Text pieces) : isInner c = true ∧ c ≠ ']' := by
    have hall : ∀ d < 16, isInner (Nat.digitChar d) = true ∧ Nat.digitChar d ≠ ']' := by decide
    obtain rfl | ⟨d, hd, rfl⟩ := Ip.mem_ipv6Text hc
    · decide
    · exact hall d hd
  have htext : (Host.ipv6 pieces).text = '[' :: (Host.ipv6Text pieces ++ [']']) := rfl
  refine ⟨nofun, ?_, fun {rest} hrest => ?_, ?_⟩
  · intro c hc
    rw [htext, List.mem_cons, List.mem_append, List.mem_singleton] at hc
    obtain rfl | hc | rfl := hc
    · decide
    · exact (hmem hc).1
    · decide
  · have hopen : ¬('[' = ':' ∧ (!false) = true) := by decide
    rw [htext, List.cons_append, splitHost_cons true hopen rfl, List.append_assoc,
      List.singleton_append, splitHost_close (fun hc => (hmem hc).2 rfl) hrest]
  · rw [hread _ rfl, bracketed_text hlength h]

end Bracketed

theorem isInner_of_not_isForbidden {c : Char} : Domain.isForbidden c = false → isInner c = true := by
  apply isInner_of_eq_false
  · intro d hd
    rw [Domain.isForbidden, decide_eq_true hd]
    rfl
  · decide

def hostOfName (name : Text) : Except Fault Host :=
  if Ip.endsInNumber name then
    match Ip.ipv4? name with
    | none => .error .ipv4
    | some n => .ok (.ipv4 n)
  else .ok (.name name)

section Name

variable {t name : Text} {h : Host}

theorem specialHost_eq (hhead : t.head? ≠ some '[')
    (hname : Domain.toAscii? (Percent.decode t) = some name) (hne : name ≠ []) :
    specialHost t = hostOfName name := by
  rw [specialHost, if_neg hhead, hname]
  cases name with
  | nil => exact absurd rfl hne
  | cons c name => rfl

theorem legible_of_name (hname : Domain.toAscii? t = some name) (hne : name ≠ [])
    (htext : h.text = name) (hhost : hostOfName name = .ok h) : Legible specialHost h := by
  have hfree := Domain.not_isForbidden_of_toAscii? hname
  have hnot {c : Char} (hc : Domain.isForbidden c = true) : c ∉ name := by
    intro hmem
    rw [hfree c hmem] at hc
    cases hc
  have hplain : ∀ c ∈ name, c.toNat < 0x80 ∧ c ≠ '%' := by
    intro c hc
    refine ⟨Domain.ascii_of_toAscii? hname c hc, ?_⟩
    rintro rfl
    exact hnot rfl hc
  have hhead : name.head? ≠ some '[' := fun hhead => hnot rfl (List.mem_of_head? hhead)
  have hagain : Domain.toAscii? (Percent.decode name) = some name := by
    rw [Percent.decode_of_plain hplain]
    exact Domain.toAscii?_of_toAscii? hname
  subst htext
  refine ⟨hne, fun c hc => isInner_of_not_isForbidden (hfree c hc), fun hrest => ?_, ?_⟩
  · exact splitHost_of_not_mem (hnot rfl) (hnot rfl) hrest
  · rw [specialHost_eq hhead hagain hne, hhost]

end Name

theorem small_of_mem_ipv4Text {n : Nat} {c : Char} (h : c ∈ Host.ipv4Text n) :
    c.toNat < 0x80 ∧ c.toLower = c ∧ Domain.isForbidden c = false ∧ c ≠ 'x' := by
  have hall : ∀ d < 10, (Nat.digitChar d).toNat < 0x80 ∧
      (Nat.digitChar d).toLower = Nat.digitChar d ∧
      Domain.isForbidden (Nat.digitChar d) = false ∧ Nat.digitChar d ≠ 'x' := by decide
  obtain rfl | ⟨d, hd, rfl⟩ := Ip.mem_ipv4Text h
  · decide
  · exact hall d hd

theorem legible_ipv4 {n : Nat} (h : n < 4294967296) : Legible specialHost (.ipv4 n) := by
  have hnumber := Ip.endsInNumber_ipv4Text n
  have hname : Domain.toAscii? (Host.ipv4Text n) = some (Host.ipv4Text n) :=
    Domain.toAscii?_of_small fun _ => small_of_mem_ipv4Text
  have hne : Host.ipv4Text n ≠ [] := by
    intro hnil
    rw [hnil] at hnumber
    cases hnumber
  have hhost : hostOfName (Host.ipv4Text n) = .ok (.ipv4 n) := by
    rw [hostOfName, if_pos hnumber, Ip.ipv4?_ipv4Text h]
  exact legible_of_name hname hne rfl hhost

theorem legible_specialHost {t : Text} {h : Host} (hread : specialHost t = .ok h) :
    Legible specialHost h := by
  by_cases hhead : t.head? = some '['
  · rw [specialHost, if_pos hhead] at hread
    obtain ⟨pieces, rfl, hlength, hpieces⟩ := bracketed_spec hread
    exact legible_ipv6 (fun t ht => if_pos ht) hlength hpieces
  · rw [specialHost, if_neg hhead] at hread
    split at hread
    · cases hread
    · cases hread
    · next name hne hname =>
      have hhost : hostOfName name = .ok h := hread
      split at hread
      · split at hread
        · cases hread
        · next n hn =>
          cases hread
          exact legible_ipv4 (Ip.ipv4?_lt hn)
      · cases hread
        exact legible_of_name hname hne rfl hhost

section Plain

variable {t : Text} {c : Char}

theorem free_of_mem_encode (hfree : ∀ c ∈ t, isForbiddenInHost c = false)
    (h : c ∈ Percent.encode Percent.isControl t) :
    isForbiddenInHost c = false ∧ Percent.isControl c = false := by
  obtain ⟨hc, hcontrol⟩ | hc := Percent.mem_encode h
  · exact ⟨hfree c hc, hcontrol⟩
  · exact hc.forall (p := fun c => isForbiddenInHost c = false ∧ Percent.isControl c = false)
      (by decide) (by decide)

theorem isInner_of_free (hfree : isForbiddenInHost c = false) (hcontrol : Percent.isControl c = false) :
    isInner c = true := by
  apply isInner_of_eq_false (p := fun c => isForbiddenInHost c || Percent.isControl c)
  · intro d hd
    rcases Nat.lt_or_eq_of_le hd with hd | hd
    · rw [Percent.isControl, decide_eq_true hd, Bool.true_or, Bool.or_true]
    · have hblank : d = ' ' := Char.toNat_inj.mp hd
      rw [hblank]
      rfl
  · decide
  · rw [hfree, hcontrol]
    rfl

theorem legible_plain (hne : t ≠ []) (hfree : ∀ c ∈ t, isForbiddenInHost c = false) :
    Legible plainHost (.name (Percent.encode Percent.isControl t)) := by
  have hmem {c : Char} (hc : c ∈ Percent.encode Percent.isControl t) :=
    free_of_mem_encode hfree hc
  have hnot {c : Char} (hc : isForbiddenInHost c = true) :
      c ∉ Percent.encode Percent.isControl t := by
    intro hm
    rw [(hmem hm).1] at hc
    cases hc
  have hopen : (Percent.encode Percent.isControl t).head? ≠ some '[' :=
    fun h => hnot rfl (List.mem_of_head? h)
  have hfree' : ¬(Percent.encode Percent.isControl t).any isForbiddenInHost = true := by
    rw [List.any_eq_true]
    rintro ⟨c, hc, hf⟩
    exact hnot hf hc
  refine ⟨?_, fun c hc => isInner_of_free (hmem hc).1 (hmem hc).2, fun hrest => ?_, ?_⟩
  · obtain ⟨c, rest, rfl⟩ := List.exists_cons_of_ne_nil hne
    obtain ⟨d, rest', hencode, -⟩ := Percent.exists_encode_cons Percent.isControl c rest
    rw [Host.text, hencode]
    exact nofun
  · exact splitHost_of_not_mem (hnot rfl) (hnot rfl) hrest
  · rw [Host.text, plainHost, if_neg hopen, if_neg hfree',
      Percent.encode_of_free fun c hc => (hmem hc).2]

theorem legible_plainHost {h : Host} (hne : t ≠ []) (hread : plainHost t = .ok h) :
    Legible plainHost h := by
  by_cases hhead : t.head? = some '['
  · rw [plainHost, if_pos hhead] at hread
    obtain ⟨pieces, rfl, hlength, hpieces⟩ := bracketed_spec hread
    exact legible_ipv6 (fun t ht => if_pos ht) hlength hpieces
  · rw [plainHost, if_neg hhead] at hread
    split at hread
    · cases hread
    · next hfree =>
      cases hread
      rw [List.any_eq_true, not_exists] at hfree
      exact legible_plain hne fun c hc => Bool.eq_false_iff.mpr fun hf => hfree c ⟨hc, hf⟩

end Plain

end RefPages.Url
