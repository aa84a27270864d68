import RefPages.Proofs.Text.Words
import RefPages.Prose

namespace RefPages.Prose

open Text (IsWord collapse joinWords words)

namespace Draft

def pushChar (c : Char) (d : Draft) : Draft :=
  if isBlank c then d.pushBlank else d.push c

def pushText (t : Text) (d : Draft) : Draft :=
  t.foldl (fun d c => d.pushChar c) d

def gap (ws : List Text) (d : Draft) : Text :=
  if d.spaced && !ws.isEmpty then [' '] else []

/-- The current string is made of words with one space between them, and with one behind them where
a blank was read last. -/
structure Tidy (ws : List Text) (d : Draft) : Prop where
  words : ∀ w ∈ ws, IsWord w
  current : d.current.reverse = joinWords ws ++ d.gap ws

variable {ws : List Text} {d : Draft}

theorem gap_cases (ws : List Text) (d : Draft) :
    d.gap ws = [] ∧ (d.spaced = false ∨ ws = []) ∨
      d.gap ws = [' '] ∧ d.spaced = true ∧ ws ≠ [] := by
  rw [gap]
  cases d.spaced <;> cases ws <;> simp

theorem isBlank_of_mem_gap {c : Char} (h : c ∈ d.gap ws) : isBlank c = true := by
  rcases gap_cases ws d with ⟨hg, -⟩ | ⟨hg, -⟩
  · rw [hg] at h
    cases h
  · rw [hg, List.mem_singleton] at h
    subst h
    rfl

theorem Tidy.words_append (h : d.Tidy ws) {c : Char} (hc : isBlank c = true) (t : Text) :
    Text.words (d.current.reverse ++ c :: t) = ws ++ Text.words t := by
  rw [Text.words_append_blank hc, h.current]
  rcases gap_cases ws d with ⟨hg, -⟩ | ⟨hg, -⟩
  · rw [hg, List.append_nil, Text.words_joinWords h.words]
  · rw [hg, Text.words_append_blank rfl, Text.words_nil, List.append_nil,
      Text.words_joinWords h.words]

theorem Tidy.words_current (h : d.Tidy ws) : Text.words d.current.reverse = ws := by
  have := h.words_append (c := ' ') rfl []
  rwa [Text.words_append_blank rfl, Text.words_nil, List.append_nil, List.append_nil] at this

theorem Tidy.trim_current (h : d.Tidy ws) : Text.trim d.current.reverse = joinWords ws := by
  rw [h.current]
  exact Text.trim_joinWords h.words fun c hc => isBlank_of_mem_gap hc

theorem Tidy.eq_nil_iff (h : d.Tidy ws) : ws = [] ↔ d.current = [] := by
  constructor
  · rintro rfl
    have := h.current
    simpa [joinWords, gap] using this
  · intro hc
    have := h.words_current
    rwa [hc, List.reverse_nil, Text.words_nil, eq_comm] at this

theorem Tidy.words_append_of_spaced (h : d.Tidy ws) (hs : d.spaced = true) (t : Text) :
    Text.words (d.current.reverse ++ t) = ws ++ Text.words t := by
  rcases gap_cases ws d with ⟨-, hf | rfl⟩ | ⟨hg, -, -⟩
  · rw [hs] at hf
    cases hf
  · rw [h.eq_nil_iff.mp rfl]
    rfl
  · rw [h.current, hg, List.append_assoc, List.singleton_append, Text.words_append_blank rfl,
      Text.words_joinWords h.words]

theorem Tidy.pushBlank (h : d.Tidy ws) : d.pushBlank.Tidy ws where
  words := h.words
  current := by
    have hcur := h.current
    by_cases hne : ws = []
    · have := h.eq_nil_iff.mp hne
      simp [Draft.pushBlank, gap, hne, this, joinWords]
    · have := mt h.eq_nil_iff.mpr hne
      cases hs : d.spaced <;> simp [Draft.pushBlank, gap, hne, this, hs] at hcur ⊢ <;> exact hcur

theorem Tidy.push {c : Char} (h : d.Tidy ws) (hc : isBlank c = false) :
    ∃ vs, (d.push c).Tidy vs := by
  have word {s : Text} (hs : ∀ a ∈ s, isBlank a = false) : IsWord (s ++ [c]) := by
    refine ⟨List.append_ne_nil_of_right_ne_nil s (List.cons_ne_nil c []), ?_⟩
    intro a ha
    rcases List.mem_append.mp ha with ha | ha
    · exact hs a ha
    · rw [List.mem_singleton.mp ha]
      exact hc
  have hcur : (d.push c).current.reverse = joinWords ws ++ d.gap ws ++ [c] := by
    rw [← h.current]
    exact List.reverse_cons
  have hgap (vs : List Text) : (d.push c).gap vs = [] := rfl
  rcases gap_cases ws d with ⟨hg, -⟩ | ⟨hg, -, hne⟩
  · rcases List.eq_nil_or_concat ws with rfl | ⟨us, w, rfl⟩
    · refine ⟨[[] ++ [c]], by simpa using word (s := []) (by simp), ?_⟩
      rw [hcur, hg, hgap]
      simp [joinWords]
    · refine ⟨us ++ [w ++ [c]], ?_, ?_⟩
      · intro v hv
        rcases List.mem_append.mp hv with hv | hv
        · exact h.words v (by simp [hv])
        · rw [List.mem_singleton.mp hv]
          exact word (h.words w (by simp)).2
      · rw [hcur, hg, hgap, Text.joinWords_concat]
        simp
  · refine ⟨ws ++ [[] ++ [c]], ?_, ?_⟩
    · intro v hv
      rcases List.mem_append.mp hv with hv | hv
      · exact h.words v hv
      · rw [List.mem_singleton.mp hv]
        exact word (by simp)
    · rw [hcur, hg, hgap, Text.joinWords_concat_of_ne_nil hne]
      simp

theorem Tidy.pushText (h : d.Tidy ws) (t : Text) :
    (d.pushText t).Tidy (Text.words (d.current.reverse ++ t)) := by
  induction t generalizing d ws with
  | nil =>
    rw [List.append_nil, h.words_current]
    exact h
  | cons c t ih =>
    rw [Draft.pushText, List.foldl_cons, ← Draft.pushText, pushChar]
    split
    · next hc =>
      have := ih h.pushBlank
      rwa [h.pushBlank.words_append_of_spaced rfl, ← h.words_append hc] at this
    · next hc =>
      obtain ⟨vs, hv⟩ := h.push (Bool.eq_false_iff.mpr hc)
      have := ih hv
      rwa [show (d.push c).current.reverse ++ t = d.current.reverse ++ c :: t by
        simp [Draft.push]] at this

theorem pushText_frame (t : Text) (d : Draft) :
    (d.pushText t).done = d.done ∧ (d.pushText t).inTag = d.inTag := by
  induction t generalizing d with
  | nil => exact ⟨rfl, rfl⟩
  | cons c t ih =>
    rw [pushText, List.foldl_cons, ← pushText, (ih _).1, (ih _).2, pushChar]
    split <;> exact ⟨rfl, rfl⟩

theorem done_flush_pushText (hd : d.current = []) (t : Text) :
    (d.pushText t).flush.done = if collapse t = [] then d.done else collapse t :: d.done := by
  have h : d.Tidy [] := ⟨by simp, by simp [hd, joinWords, gap]⟩
  have ht := (h.pushText t).trim_current
  rw [hd, List.reverse_nil, List.nil_append] at ht
  rw [Draft.flush, (pushText_frame t d).1, ht, ← collapse]
  simp

theorem newString_pushText (hd : d.current = []) (t : Text) :
    (d.pushText t).newString =
      ⟨d.inTag, false, [], if collapse t = [] then d.done else collapse t :: d.done⟩ := by
  rw [← done_flush_pushText hd, ← (pushText_frame t d).2]
  rfl

end Draft

def IsLiteral (t : Text) : Prop :=
  ∀ c ∈ t, c ≠ '<' ∧ c ≠ '>' ∧ c ≠ '&' ∧ c ≠ ';'

variable {d : Draft}

theorem pass_cons {c : Char} (h₁ : c ≠ '<') (h₂ : c ≠ '>') (h₃ : c ≠ '&') (d : Draft) (t : Text) :
    pass d (c :: t) =
      if d.inTag then pass d t
      else if c = ';' then pass (d.pushChar c).newString t
      else pass (d.pushChar c) t := by
  rw [pass]
  · rw [Draft.pushChar]
    by_cases hb : isBlank c = true
    · have hne : c ≠ ';' := by
        rintro rfl
        cases hb
      rw [if_pos hb, if_pos hb, if_neg hne]
    · rw [if_neg hb, if_neg hb]
  · exact h₁
  · exact h₂
  · exact fun _ hc => absurd hc h₃
  · exact fun _ hc => absurd hc h₃

theorem pass_literal {s : Text} (h : IsLiteral s) (hd : d.inTag = false) (t : Text) :
    pass d (s ++ t) = pass (d.pushText s) t := by
  induction s generalizing d with
  | nil => rfl
  | cons c s ih =>
    obtain ⟨h₁, h₂, h₃, h₄⟩ := h c (List.mem_cons_self ..)
    have hs : IsLiteral s := fun a ha => h a (List.mem_cons_of_mem c ha)
    have htag : (d.pushChar c).inTag = false := by
      rw [← hd]
      exact (Draft.pushText_frame [c] d).2
    rw [List.cons_append, pass_cons h₁ h₂ h₃, if_neg (by simp [hd]), if_neg h₄, ih hs htag]
    rfl

theorem pass_semicolon (hd : d.inTag = false) (t : Text) :
    pass d (';' :: t) = pass (d.pushText [';']).newString t := by
  rw [pass_cons (by decide) (by decide) (by decide), if_neg (by simp [hd]), if_pos rfl]
  rfl

theorem pass_inTag {s : Text} (h : IsLiteral s) (hd : d.inTag = true) (t : Text) :
    pass d (s ++ '>' :: t) = pass { d with inTag := false } t := by
  induction s with
  | nil => rw [List.nil_append, pass]
  | cons c s ih =>
    obtain ⟨h₁, h₂, h₃, -⟩ := h c (List.mem_cons_self ..)
    rw [List.cons_append, pass_cons h₁ h₂ h₃, if_pos hd]
    exact ih fun a ha => h a (List.mem_cons_of_mem c ha)

theorem pass_tag {name : Text} (h : IsLiteral name) (hd : d.inTag = false) {t : Text}
    (hp : opensParagraph (name ++ '>' :: t) = false) :
    pass d ('<' :: name ++ '>' :: t) = pass d t := by
  rw [List.cons_append, pass, if_neg (by simp [hp]), pass_inTag h rfl]
  rw [← hd]

theorem pass_paragraph (d : Draft) (t : Text) :
    pass d ('<' :: 'p' :: '>' :: t) = pass { d.newString with inTag := false } t := by
  have hp : opensParagraph ('p' :: '>' :: t) = true := rfl
  rw [pass, if_pos hp]
  exact pass_inTag (s := ['p']) (by simp [IsLiteral]) rfl t

end RefPages.Prose
