import RefPages.Proofs.Scan.Region
import RefPages.Proofs.Text.Lines
import RefPages.Proofs.Text.Stops

namespace RefPages

open Text (AreLines)

namespace Feed

theorem dropWhile_close (t : Text) :
    ('>' ∉ t ∧ t.dropWhile (· ≠ '>') = []) ∨
      ∃ w rest, '>' ∉ w ∧ t = w ++ '>' :: rest ∧ t.dropWhile (· ≠ '>') = '>' :: rest := by
  induction t with
  | nil => exact .inl ⟨List.not_mem_nil, rfl⟩
  | cons c t ih =>
    by_cases hc : c = '>'
    · subst hc
      exact .inr ⟨[], t, List.not_mem_nil, rfl, rfl⟩
    · rw [List.dropWhile_cons_of_pos (by simpa using hc)]
      rcases ih with ⟨hm, hd⟩ | ⟨w, rest, hw, rfl, hd⟩
      · exact .inl ⟨by simp [hm, Ne.symm hc], hd⟩
      · exact .inr ⟨c :: w, rest, by simp [hw, Ne.symm hc], rfl, hd⟩

theorem afterClose_eq (ahead : Text) (pending : List Text) :
    (afterClose ahead pending = none ∧ '>' ∉ ahead ++ unread pending) ∨
      ∃ f w, afterClose ahead pending = some f ∧ '>' ∉ w ∧
        ahead ++ unread pending = w ++ '>' :: f.text := by
  induction pending generalizing ahead with
  | nil =>
    rcases dropWhile_close ahead with ⟨hm, hd⟩ | ⟨w, rest, hw, ht, hd⟩
    · exact .inl ⟨by rw [afterClose, hd], by simpa using hm⟩
    · exact .inr ⟨⟨rest, []⟩, w, by rw [afterClose, hd], hw, by simpa [text] using ht⟩
  | cons line pending ih =>
    rcases dropWhile_close ahead with ⟨hm, hd⟩ | ⟨w, rest, hw, ht, hd⟩
    · rcases ih line with ⟨hn, hl⟩ | ⟨f, w, hf, hw, he⟩
      · refine .inl ⟨by rw [afterClose, hd, hn], ?_⟩
        simpa [hm] using hl
      · refine .inr ⟨f, ahead ++ '\n' :: w, by rw [afterClose, hd, hf], by simp [hm, hw], ?_⟩
        simp [he]
    · exact .inr ⟨⟨rest, line :: pending⟩, w, by rw [afterClose, hd], hw, by simp [text, ht]⟩

theorem afterClose_lines {ahead : Text} {pending : List Text} {f : Feed}
    (h : afterClose ahead pending = some f) (ha : '\n' ∉ ahead) (hp : AreLines pending) :
    '\n' ∉ f.ahead ∧ AreLines f.pending := by
  induction pending generalizing ahead with
  | nil =>
    rcases dropWhile_close ahead with ⟨hm, hd⟩ | ⟨w, rest, hw, rfl, hd⟩
    · rw [afterClose, hd] at h
      cases h
    · rw [afterClose, hd] at h
      cases h
      exact ⟨by simp_all, hp⟩
  | cons line pending ih =>
    rcases dropWhile_close ahead with ⟨hm, hd⟩ | ⟨w, rest, hw, rfl, hd⟩
    · rw [afterClose, hd] at h
      exact ih h (hp line (List.mem_cons_self ..)) (hp.of_suffix (List.suffix_cons ..))
    · rw [afterClose, hd] at h
      cases h
      exact ⟨by simp_all, hp⟩

theorem takeWhile_text {ahead : Text} (h : '\n' ∉ ahead) (pending : List Text) :
    (text ⟨ahead, pending⟩).takeWhile (· ≠ '\n') = ahead := by
  rw [text]
  apply Text.takeWhile_append (Text.decide_ne_of_not_mem h)
  cases pending with
  | nil => rintro _ ⟨⟩
  | cons line pending =>
    rintro _ ⟨⟩
    exact Text.decide_ne_self '\n'

theorem eq_of_text_eq {a b : Text} {ps qs : List Text} (h : text ⟨a, ps⟩ = text ⟨b, qs⟩)
    (ha : '\n' ∉ a) (hb : '\n' ∉ b) (hp : AreLines ps) (hq : AreLines qs) : a = b ∧ ps = qs := by
  induction ps generalizing a b qs with
  | nil =>
    obtain rfl : a = b := by rw [← takeWhile_text ha [], h, takeWhile_text hb qs]
    have hunread : unread [] = unread qs := List.append_cancel_left h
    cases qs with
    | nil => exact ⟨rfl, rfl⟩
    | cons q qs => cases hunread
  | cons p ps ih =>
    obtain rfl : a = b := by rw [← takeWhile_text ha (p :: ps), h, takeWhile_text hb qs]
    have hunread : unread (p :: ps) = unread qs := List.append_cancel_left h
    cases qs with
    | nil => cases hunread
    | cons q qs =>
      have htext : text ⟨p, ps⟩ = text ⟨q, qs⟩ := List.tail_eq_of_cons_eq hunread
      obtain ⟨rfl, rfl⟩ := ih htext (hp p (List.mem_cons_self ..)) (hq q (List.mem_cons_self ..))
        (hp.of_suffix (List.suffix_cons ..)) (hq.of_suffix (List.suffix_cons ..))
      exact ⟨rfl, rfl⟩

theorem eq_of_suffix {f rest : Feed} {t : Text} (hs : rest.text <:+ f.text)
    (ht : rest.text = t ++ unread f.pending) (ha : '\n' ∉ f.ahead) (hp : AreLines f.pending)
    (hra : '\n' ∉ rest.ahead) (hrp : AreLines rest.pending) :
    rest.ahead = t ∧ rest.pending = f.pending := by
  obtain ⟨front, hfront⟩ := hs
  rw [ht, text, ← List.append_assoc] at hfront
  have hn : '\n' ∉ t := by
    intro hn
    apply ha
    rw [← List.append_cancel_right hfront]
    exact List.mem_append_right front hn
  exact eq_of_text_eq ht hra hn hrp hp

def BreaksWithin (n : Nat) (t : Text) : Prop :=
  ∀ u v, t = u ++ '\n' :: v → u.byteSize < n

theorem breaksWithin_of_not_mem {n : Nat} {t : Text} (h : '\n' ∉ t) : BreaksWithin n t := by
  rintro u v rfl
  simp at h

theorem BreaksWithin.of_append {n : Nat} {s t : Text} (h : BreaksWithin n (s ++ t)) :
    BreaksWithin n t := by
  rintro u v rfl
  have := h (s ++ u) v (by simp)
  rw [Text.byteSize_append] at this
  omega

theorem breaksWithin_fill {n : Nat} {ahead : Text} {pending : List Text}
    (ha : BreaksWithin n ahead) (hp : AreLines pending) :
    BreaksWithin n (fill n ahead pending).ahead := by
  fun_induction fill n ahead pending with
  | case1 => exact ha
  | case2 => exact ha
  | case3 ahead line pending hn ih =>
    rw [Text.hasBytes_iff] at hn
    apply ih
    · -- The line feed before the line comes after fewer than `n` bytes, and none comes later.
      intro u v hu
      apply Nat.lt_of_not_le
      intro hlt
      have hle : (ahead ++ ['\n']).byteSize ≤ u.byteSize := by
        have : ('\n').utf8Size = 1 := rfl
        simp only [Text.byteSize_append, Text.byteSize_cons, Text.byteSize_nil]
        omega
      rw [List.append_cons] at hu
      obtain ⟨m, -, hm⟩ := Text.exists_of_append_eq_append hu hle
      apply hp line (List.mem_cons_self ..)
      rw [hm]
      simp
    · exact hp.of_suffix (List.suffix_cons ..)

end Feed

namespace Region

theorem not_mem_ahead_of_read {tag : Text} {depth : Nat} {taken ahead region : Text}
    {pending : List Text} {rest : Feed}
    (h : read tag depth taken ahead pending = some (region, rest))
    (ha : Feed.BreaksWithin (lookahead tag) ahead) (hp : AreLines pending) :
    '\n' ∉ rest.ahead := by
  have filled {ahead t : Text} {pending pending' : List Text}
      (hf : Feed.fill (lookahead tag) ahead pending = ⟨t, pending'⟩)
      (ha : Feed.BreaksWithin (lookahead tag) ahead) (hp : AreLines pending) :
      Feed.BreaksWithin (lookahead tag) t ∧ AreLines pending' := by
    have hb := Feed.breaksWithin_fill ha hp
    have hs := Feed.fill_pending_suffix (lookahead tag) ahead pending
    rw [hf] at hb hs
    exact ⟨hb, hp.of_suffix hs⟩
  fun_induction read tag depth taken ahead pending with
  | case1 => cases h
  | case2 taken ahead pending c t pending' hf w taken' hc =>
    have hb := (filled hf ha hp).1
    cases h
    intro hm
    obtain ⟨u, v, huv⟩ := List.append_of_mem hm
    have hw : (c :: t).take w = closing tag := take_width_of_closesAt hc
    have := hb (closing tag ++ u) v (by
      rw [List.append_assoc, ← huv, ← hw]
      exact (List.take_append_drop w (c :: t)).symm)
    rw [Text.byteSize_append, byteSize_closing] at this
    omega
  | case3 taken ahead pending c t pending' hf w taken' hc depth ih =>
    obtain ⟨hb, hl⟩ := filled hf ha hp
    rw [← List.take_append_drop w (c :: t)] at hb
    exact ih h hb.of_append hl
  | case4 depth taken ahead pending c t pending' hf w taken' hc ih =>
    obtain ⟨hb, hl⟩ := filled hf ha hp
    rw [← List.take_append_drop w (c :: t)] at hb
    exact ih h hb.of_append hl

end Region

theorem Feed.region_lines {tag region : Text} {f rest : Feed}
    (h : f.region tag = some (region, rest)) (ha : '\n' ∉ f.ahead) (hp : AreLines f.pending) :
    '\n' ∉ rest.ahead ∧ AreLines rest.pending :=
  ⟨Region.not_mem_ahead_of_read h (breaksWithin_of_not_mem ha) hp,
    hp.of_suffix (Region.read_pending_suffix h)⟩

end RefPages
