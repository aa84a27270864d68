import RefPages.Proofs.Prose

/-!
The strings of a fragment in stages: its tags are taken out, then its signs are decoded, then it is
cut into pieces, and the pieces are collapsed. The one pass gives the same strings.
-/

namespace RefPages.Prose

open Text (collapse joinWords words)

inductive Mark where
  | char (c : Char)
  | gap
  | paragraph
  deriving DecidableEq, Repr

/-- A tag goes from a `<` to the next `>`. It leaves a gap for each of its characters, and so does a
`>` outside of a tag; a `<` that begins a paragraph leaves a break. -/
@[simp] def marks : (inTag : Bool) → Text → List Mark
  | _, [] => []
  | _, '<' :: t => (if opensParagraph t then .paragraph else .gap) :: marks true t
  | _, '>' :: t => .gap :: marks false t
  | true, _ :: t => .gap :: marks true t
  | false, c :: t => .char c :: marks false t

@[simp] def decode : List Mark → List Mark
  | .char '&' :: .char 'g' :: .char 't' :: .char ';' :: ms => .char '>' :: .char ' ' :: decode ms
  | .char '&' :: .char 'l' :: .char 't' :: .char ';' :: ms => .char '<' :: .char ' ' :: decode ms
  | m :: ms => m :: decode ms
  | [] => []

@[simp] def pieces : List Mark → List Text
  | [] => [[]]
  | .char c :: ms => if c = ';' then [c] :: pieces ms else (pieces ms).modifyHead (c :: ·)
  | .gap :: ms => pieces ms
  | .paragraph :: ms => [] :: pieces ms

def collapsed (ps : List Text) : List Text :=
  (ps.map collapse).filter fun t => !t.isEmpty

def staged (fragment : Text) : List Text :=
  collapsed (pieces (decode (marks false fragment)))

theorem marks_tag (inTag : Bool) (t : Text) :
    marks inTag ('<' :: t) =
      (if opensParagraph t then .paragraph else .gap) :: marks true t := by
  rw [marks]

theorem marks_close (inTag : Bool) (t : Text) : marks inTag ('>' :: t) = .gap :: marks false t := by
  rw [marks]

variable {c : Char} {t : Text} {ms : List Mark}

theorem marks_inTag (h₁ : c ≠ '<') (h₂ : c ≠ '>') (t : Text) :
    marks true (c :: t) = .gap :: marks true t := by
  rw [marks]
  · exact h₁
  · exact h₂

theorem marks_char (h₁ : c ≠ '<') (h₂ : c ≠ '>') (t : Text) :
    marks false (c :: t) = .char c :: marks false t := by
  rw [marks]
  · exact h₁
  · exact h₂

theorem exists_of_marks (h : marks false t = .char c :: ms) :
    ∃ rest, t = c :: rest ∧ ms = marks false rest := by
  cases t with
  | nil => cases h
  | cons d rest =>
    by_cases h₁ : d = '<'
    · subst h₁
      rw [marks_tag] at h
      split at h <;> cases h
    · by_cases h₂ : d = '>'
      · subst h₂
        rw [marks_close] at h
        cases h
      · rw [marks_char h₁ h₂] at h
        cases h
        exact ⟨rest, rfl, rfl⟩

theorem decode_gap (ms : List Mark) : decode (.gap :: ms) = .gap :: decode ms := by
  rw [decode] <;> simp

theorem decode_paragraph (ms : List Mark) :
    decode (.paragraph :: ms) = .paragraph :: decode ms := by
  rw [decode] <;> simp

def IsSign (t : Text) : Prop :=
  ∃ rest, t = 'g' :: 't' :: ';' :: rest ∨ t = 'l' :: 't' :: ';' :: rest

theorem not_isSign (h₃ : ∀ rest, c = '&' → t = 'g' :: 't' :: ';' :: rest → False)
    (h₄ : ∀ rest, c = '&' → t = 'l' :: 't' :: ';' :: rest → False) : c = '&' → ¬IsSign t := by
  rintro hc ⟨rest, hr | hr⟩
  · exact h₃ rest hc hr
  · exact h₄ rest hc hr

theorem decode_char (h : c = '&' → ¬IsSign t) :
    decode (.char c :: marks false t) = .char c :: decode (marks false t) := by
  have key {a : Char} {ms : List Mark} (hc : c = '&')
      (hm : marks false t = .char a :: .char 't' :: .char ';' :: ms) :
      ∃ rest, t = a :: 't' :: ';' :: rest := by
    obtain ⟨t₁, rfl, h₁⟩ := exists_of_marks hm
    obtain ⟨t₂, rfl, h₂⟩ := exists_of_marks h₁.symm
    obtain ⟨t₃, rfl, -⟩ := exists_of_marks h₂.symm
    exact ⟨t₃, rfl⟩
  rw [decode]
  · intro ms hc hm
    obtain ⟨rest, hr⟩ := key (Mark.char.inj hc) hm
    exact h (Mark.char.inj hc) ⟨rest, .inl hr⟩
  · intro ms hc hm
    obtain ⟨rest, hr⟩ := key (Mark.char.inj hc) hm
    exact h (Mark.char.inj hc) ⟨rest, .inr hr⟩

def piecesBehind (front : Text) (ms : List Mark) : List Text :=
  (pieces ms).modifyHead (front ++ ·)

theorem piecesBehind_nil (ms : List Mark) : piecesBehind [] ms = pieces ms := by
  rw [piecesBehind]
  cases pieces ms <;> rfl

theorem piecesBehind_end (front : Text) : piecesBehind front [] = [front] := by
  simp [piecesBehind, pieces]

theorem piecesBehind_gap (front : Text) (ms : List Mark) :
    piecesBehind front (.gap :: ms) = piecesBehind front ms := by
  rw [piecesBehind, pieces, piecesBehind]

theorem piecesBehind_paragraph (front : Text) (ms : List Mark) :
    piecesBehind front (.paragraph :: ms) = front :: piecesBehind [] ms := by
  rw [piecesBehind_nil, piecesBehind, pieces]
  simp

theorem piecesBehind_semicolon (front : Text) (ms : List Mark) :
    piecesBehind front (.char ';' :: ms) = (front ++ [';']) :: piecesBehind [] ms := by
  rw [piecesBehind_nil, piecesBehind, pieces, if_pos rfl]
  rfl

theorem piecesBehind_char (h : c ≠ ';') (front : Text) (ms : List Mark) :
    piecesBehind front (.char c :: ms) = piecesBehind (front ++ [c]) ms := by
  rw [piecesBehind, pieces, if_neg h, piecesBehind, List.modifyHead_modifyHead]
  congr 1
  funext t
  simp

theorem pieces_inTag {s : Text} (h : ∀ c ∈ s, c ≠ '<' ∧ c ≠ '>') (front t : Text) :
    piecesBehind front (decode (marks true (s ++ t))) =
      piecesBehind front (decode (marks true t)) := by
  induction s with
  | nil => rfl
  | cons c s ih =>
    obtain ⟨h₁, h₂⟩ := h c (List.mem_cons_self ..)
    rw [List.cons_append, marks_inTag h₁ h₂, decode_gap, piecesBehind_gap]
    exact ih fun a ha => h a (List.mem_cons_of_mem c ha)

theorem pieces_greater (front t : Text) :
    piecesBehind front (decode (marks false ('&' :: 'g' :: 't' :: ';' :: t))) =
      piecesBehind (front ++ ['>'] ++ [' ']) (decode (marks false t)) := by
  repeat rw [marks_char (by decide) (by decide)]
  rw [decode, piecesBehind_char (by decide), piecesBehind_char (by decide)]

theorem pieces_less (front t : Text) :
    piecesBehind front (decode (marks false ('&' :: 'l' :: 't' :: ';' :: t))) =
      piecesBehind (front ++ ['<'] ++ [' ']) (decode (marks false t)) := by
  repeat rw [marks_char (by decide) (by decide)]
  rw [decode, piecesBehind_char (by decide), piecesBehind_char (by decide)]

theorem collapsed_cons (p : Text) (ps : List Text) :
    collapsed (p :: ps) = collapsed [p] ++ collapsed ps := by
  simp [collapsed, List.filter_cons]
  split <;> rfl

/-- The draft of a string stands for the text that it was read from: whatever is read next, the
words are the same. -/
structure Draft.Represents (front : Text) (d : Draft) : Prop where
  tidy : ∃ ws, d.Tidy ws
  words : ∀ s, words (d.current.reverse ++ s) = words (front ++ s)

namespace Draft.Represents

variable {front : Text} {d : Draft}

theorem of_current_nil (h : d.current = []) : d.Represents [] where
  tidy := ⟨[], by simp, by simp [h, joinWords, gap]⟩
  words := by simp [h]

theorem withTag (h : d.Represents front) (inTag : Bool) :
    { d with inTag := inTag }.Represents front where
  tidy := by
    obtain ⟨ws, hw⟩ := h.tidy
    exact ⟨ws, hw.words, hw.current⟩
  words := h.words

theorem push (h : d.Represents front) (hc : isBlank c = false) :
    (d.push c).Represents (front ++ [c]) where
  tidy := by
    obtain ⟨ws, hw⟩ := h.tidy
    exact hw.push hc
  words := by
    intro s
    simpa [Draft.push] using h.words (c :: s)

theorem pushBlank (h : d.Represents front) (hc : isBlank c = true) :
    d.pushBlank.Represents (front ++ [c]) where
  tidy := by
    obtain ⟨ws, hw⟩ := h.tidy
    exact ⟨ws, hw.pushBlank⟩
  words := by
    intro s
    obtain ⟨ws, hw⟩ := h.tidy
    rw [hw.pushBlank.words_append_of_spaced rfl, ← hw.words_append hc, h.words, List.append_assoc]
    rfl

theorem pushSign (h : d.Represents front) (hc : isBlank c = false) :
    (d.pushSign c).Represents (front ++ [c] ++ [' ']) :=
  (h.push hc).pushBlank rfl

theorem done_flush (h : d.Represents front) :
    d.flush.done.reverse = d.done.reverse ++ collapsed [front] := by
  obtain ⟨ws, hw⟩ := h.tidy
  have hwords := h.words []
  rw [List.append_nil, List.append_nil, hw.words_current] at hwords
  rw [Draft.flush, hw.trim_current, hwords, ← collapse]
  by_cases hempty : (collapse front).isEmpty = true
  · simp [collapsed, hempty]
  · simp [collapsed, hempty]

end Draft.Represents

variable {front : Text} {d : Draft}

theorem represents_newString (d : Draft) : d.newString.Represents [] :=
  .of_current_nil rfl

theorem done_pass (h : d.Represents front) (t : Text) :
    (pass d t).done.reverse =
      d.done.reverse ++ collapsed (piecesBehind front (decode (marks d.inTag t))) := by
  fun_induction pass d t generalizing front with
  | case1 d => rw [marks, decode, piecesBehind_end, h.done_flush]
  | case2 d t ih =>
    rw [marks_tag]
    by_cases hp : opensParagraph t = true
    · rw [if_pos hp] at ih ⊢
      rw [if_pos hp, decode_paragraph, piecesBehind_paragraph, collapsed_cons, ← List.append_assoc,
        ← h.done_flush]
      exact ih ((represents_newString d).withTag true)
    · rw [if_neg hp] at ih ⊢
      rw [if_neg hp, decode_gap, piecesBehind_gap]
      exact ih (h.withTag true)
  | case3 d t ih =>
    rw [marks_close, decode_gap, piecesBehind_gap]
    exact ih (h.withTag false)
  | case4 d t ht ih =>
    rw [ih h, ht]
    exact congrArg (d.done.reverse ++ collapsed ·)
      (pieces_inTag (s := ['&', 'g', 't', ';']) (by simp) front t).symm
  | case5 d t ht ih =>
    rw [Bool.eq_false_iff.mpr ht, pieces_greater, ← Bool.eq_false_iff.mpr ht]
    exact ih (h.pushSign rfl)
  | case6 d t ht ih =>
    rw [ih h, ht]
    exact congrArg (d.done.reverse ++ collapsed ·)
      (pieces_inTag (s := ['&', 'l', 't', ';']) (by simp) front t).symm
  | case7 d t ht ih =>
    rw [Bool.eq_false_iff.mpr ht, pieces_less, ← Bool.eq_false_iff.mpr ht]
    exact ih (h.pushSign rfl)
  | case8 d c t h₁ h₂ _ _ ht ih =>
    rw [ih h, ht, marks_inTag h₁ h₂, decode_gap, piecesBehind_gap]
  | case9 d c t h₁ h₂ h₃ h₄ ht hb ih =>
    have hc : c ≠ ';' := by
      rintro rfl
      cases hb
    rw [Bool.eq_false_iff.mpr ht, marks_char h₁ h₂, decode_char (not_isSign h₃ h₄),
      piecesBehind_char hc, ← Bool.eq_false_iff.mpr ht]
    exact ih (h.pushBlank hb)
  | case10 d t ht _ _ h₃ h₄ _ ih =>
    have hpush : (d.push ';').Represents (front ++ [';']) := h.push (by decide)
    have hdone : (d.push ';').flush.done.reverse = d.done.reverse ++ collapsed [front ++ [';']] :=
      hpush.done_flush
    rw [Bool.eq_false_iff.mpr ht, marks_char (by decide) (by decide),
      decode_char (not_isSign h₃ h₄), piecesBehind_semicolon, ← Bool.eq_false_iff.mpr ht,
      collapsed_cons, ← List.append_assoc, ← hdone]
    exact ih (represents_newString _)
  | case11 d c t h₁ h₂ h₃ h₄ ht hb hc ih =>
    rw [Bool.eq_false_iff.mpr ht, marks_char h₁ h₂, decode_char (not_isSign h₃ h₄),
      piecesBehind_char hc, ← Bool.eq_false_iff.mpr ht]
    exact ih (h.push (Bool.eq_false_iff.mpr hb))

/-- The strings of the one pass are the pieces of the stages, for every fragment. -/
theorem strings_eq_staged (fragment : Text) : strings fragment = staged fragment := by
  have h := done_pass (.of_current_nil rfl : Draft.empty.Represents []) fragment
  rwa [piecesBehind_nil] at h

end RefPages.Prose
