import RefPages.Proofs.Text.Lines
import RefPages.Text.Words

namespace RefPages.Text

def Spaced (t : Text) : Prop :=
  ∀ c ∈ t, isBlank c = true → c = ' '

def Plain (t : Text) : Prop :=
  t ≠ [] ∧ Spaced t

theorem Spaced.not_mem_break {t : Text} (h : Spaced t) : '\n' ∉ t := by
  intro hn
  have := h '\n' hn rfl
  revert this
  decide

theorem isBlank_of_mem_words {t w : Text} {c : Char} (hw : w ∈ words t) (hc : c ∈ w) :
    isBlank c = false :=
  eq_false_of_mem_splitOnP (List.mem_filter.mp hw).1 hc

theorem words_append_blank {c : Char} (h : isBlank c = true) (s t : Text) :
    words (s ++ c :: t) = words s ++ words t := by
  rw [words, words, words, List.splitOnP_append_cons s t h, List.filter_append]

theorem words_nil : words [] = [] := by
  rw [words, List.splitOnP_nil]
  rfl

theorem words_cons_blank {c : Char} (h : isBlank c = true) (t : Text) :
    words (c :: t) = words t := by
  have := words_append_blank h [] t
  rwa [words_nil, List.nil_append, List.nil_append] at this

def IsWord (w : Text) : Prop :=
  w ≠ [] ∧ ∀ c ∈ w, isBlank c = false

theorem words_of_isWord {w : Text} (h : IsWord w) : words w = [w] := by
  rw [words, List.splitOnP_eq_singleton h.2]
  simp [h.1]

theorem isWord_of_mem_words {t w : Text} (h : w ∈ words t) : IsWord w := by
  refine ⟨?_, fun c hc => isBlank_of_mem_words h hc⟩
  simpa using (List.mem_filter.mp h).2

theorem joinWords_cons_cons (w v : Text) (ws : List Text) :
    joinWords (w :: v :: ws) = w ++ ' ' :: joinWords (v :: ws) := by
  rw [joinWords, List.intercalate_cons_cons, List.append_assoc]
  rfl

theorem joinWords_concat (ws : List Text) (w s : Text) :
    joinWords (ws ++ [w ++ s]) = joinWords (ws ++ [w]) ++ s := by
  induction ws with
  | nil => simp [joinWords]
  | cons v ws ih =>
    cases ws with
    | nil => simp [joinWords]
    | cons u ws =>
      simp only [List.cons_append] at ih ⊢
      rw [joinWords_cons_cons, joinWords_cons_cons, ih]
      simp

theorem joinWords_concat_of_ne_nil {ws : List Text} (h : ws ≠ []) (w : Text) :
    joinWords (ws ++ [w]) = joinWords ws ++ ' ' :: w := by
  induction ws with
  | nil => exact absurd rfl h
  | cons v ws ih =>
    cases ws with
    | nil => simp [joinWords]
    | cons u ws =>
      simp only [List.cons_append] at ih ⊢
      rw [joinWords_cons_cons, joinWords_cons_cons, ih (List.cons_ne_nil u ws)]
      simp

theorem words_joinWords {ws : List Text} (h : ∀ w ∈ ws, IsWord w) : words (joinWords ws) = ws := by
  induction ws with
  | nil => exact words_nil
  | cons w ws ih =>
    have hw := words_of_isWord (h w (List.mem_cons_self ..))
    cases ws with
    | nil => rw [joinWords, List.intercalate_singleton, hw]
    | cons v ws =>
      rw [joinWords_cons_cons, words_append_blank rfl, hw,
        ih fun u hu => h u (List.mem_cons_of_mem w hu), List.singleton_append]

theorem words_cons_ne_nil {c : Char} (h : isBlank c = false) (t : Text) : words (c :: t) ≠ [] := by
  obtain ⟨first, rest, -, hs⟩ := exists_splitOnP_cons h t
  rw [words, hs]
  simp

theorem words_ne_nil {c : Char} {t : Text} (hc : c ∈ t) (h : isBlank c = false) : words t ≠ [] := by
  induction t with
  | nil => cases hc
  | cons d t ih =>
    by_cases hd : isBlank d = true
    · rw [words_cons_blank hd]
      apply ih
      rcases List.mem_cons.mp hc with rfl | hc
      · rw [h] at hd
        cases hd
      · exact hc
    · exact words_cons_ne_nil (Bool.eq_false_iff.mpr hd) t

theorem joinWords_ne_nil {ws : List Text} (hne : ws ≠ []) (h : ∀ w ∈ ws, IsWord w) :
    joinWords ws ≠ [] := by
  intro he
  have := words_joinWords h
  rw [he, words_nil] at this
  exact hne this.symm

theorem words_blanks_append {v : Text} (hv : ∀ c ∈ v, isBlank c = true) (t : Text) :
    words (v ++ t) = words t := by
  induction v with
  | nil => rfl
  | cons c v ih =>
    rw [List.cons_append, words_cons_blank (hv c (List.mem_cons_self ..))]
    exact ih fun d hd => hv d (List.mem_cons_of_mem c hd)

theorem words_around_blanks {w : Text} (hne : w ≠ []) (hw : ∀ c ∈ w, isBlank c = true)
    (s t : Text) : words (s ++ w ++ t) = words s ++ words t := by
  obtain ⟨c, v, rfl⟩ := List.exists_cons_of_ne_nil hne
  rw [List.append_assoc, List.cons_append, words_append_blank (hw c (List.mem_cons_self ..)),
    words_blanks_append fun d hd => hw d (List.mem_cons_of_mem c hd)]

theorem words_append_of_blank {t : Text} (h : ∀ c ∈ t, isBlank c = true) (s : Text) :
    words (s ++ t) = words s := by
  by_cases hne : t = []
  · rw [hne, List.append_nil]
  · have := words_around_blanks hne h s []
    rwa [List.append_nil, words_nil, List.append_nil] at this

theorem collapse_cons_blank {c : Char} (h : isBlank c = true) (t : Text) :
    collapse (c :: t) = collapse t := by
  rw [collapse, collapse, words_cons_blank h]

theorem collapse_ne_nil {c : Char} {t : Text} (hc : c ∈ t) (h : isBlank c = false) :
    collapse t ≠ [] :=
  joinWords_ne_nil (words_ne_nil hc h) fun _ => isWord_of_mem_words

theorem dropWhile_joinWords {ws : List Text} (hne : ws ≠ []) (h : ∀ w ∈ ws, IsWord w) (t : Text) :
    (joinWords ws ++ t).dropWhile isBlank = joinWords ws ++ t := by
  obtain ⟨w, ws, rfl⟩ := List.exists_cons_of_ne_nil hne
  obtain ⟨hw, hblank⟩ := h w (List.mem_cons_self ..)
  obtain ⟨c, w, rfl⟩ := List.exists_cons_of_ne_nil hw
  have hc : ¬isBlank c = true := Bool.eq_false_iff.mp (hblank c (List.mem_cons_self ..))
  cases ws with
  | nil => rw [joinWords, List.intercalate_singleton, List.cons_append, List.dropWhile_cons_of_neg hc]
  | cons v ws =>
    rw [joinWords_cons_cons, List.cons_append, List.cons_append, List.dropWhile_cons_of_neg hc]

theorem dropWhile_reverse_joinWords {ws : List Text} (hne : ws ≠ []) (h : ∀ w ∈ ws, IsWord w)
    {gap : Text} (hg : ∀ c ∈ gap, isBlank c = true) :
    (joinWords ws ++ gap).reverse.dropWhile isBlank = (joinWords ws).reverse := by
  obtain ⟨vs, w, rfl⟩ : ∃ vs w, ws = vs ++ [w] := ⟨_, _, (List.dropLast_concat_getLast hne).symm⟩
  obtain ⟨hw, hblank⟩ := h w (by simp)
  obtain ⟨v, c, rfl⟩ : ∃ v c, w = v ++ [c] := ⟨_, _, (List.dropLast_concat_getLast hw).symm⟩
  have hc : ¬isBlank c = true := Bool.eq_false_iff.mp (hblank c (by simp))
  rw [joinWords_concat, List.reverse_append, List.dropWhile_append_of_pos]
  · rw [List.reverse_append, List.reverse_singleton, List.singleton_append,
      List.dropWhile_cons_of_neg hc]
  · exact fun d hd => hg d (List.mem_reverse.mp hd)

theorem trim_joinWords {ws : List Text} (h : ∀ w ∈ ws, IsWord w) {gap : Text}
    (hg : ∀ c ∈ gap, isBlank c = true) : trim (joinWords ws ++ gap) = joinWords ws := by
  by_cases hne : ws = []
  · subst hne
    have hgap : (gap ++ []).dropWhile isBlank = [] := List.dropWhile_append_of_pos hg
    rw [List.append_nil] at hgap
    rw [joinWords, List.intercalate_nil, List.nil_append, trim, hgap]
    rfl
  · rw [trim, dropWhile_joinWords hne h, dropWhile_reverse_joinWords hne h hg, List.reverse_reverse]

theorem joinWords_append {us vs : List Text} (hu : us ≠ []) (hv : vs ≠ []) :
    joinWords (us ++ vs) = joinWords us ++ ' ' :: joinWords vs := by
  obtain ⟨v, vs, rfl⟩ := List.exists_cons_of_ne_nil hv
  induction us with
  | nil => exact absurd rfl hu
  | cons u us ih =>
    cases us with
    | nil => simp [joinWords]
    | cons w us =>
      simp only [List.cons_append] at ih ⊢
      rw [joinWords_cons_cons, joinWords_cons_cons, ih (List.cons_ne_nil w us)]
      simp

theorem joinWords_flatten {groups : List (List Text)} (h : ∀ ws ∈ groups, ∀ w ∈ ws, IsWord w) :
    joinWords ((groups.map joinWords).filter fun t => !t.isEmpty) = joinWords groups.flatten := by
  induction groups with
  | nil => rfl
  | cons ws groups ih =>
    have hws := h ws (List.mem_cons_self ..)
    have hmore : ∀ vs ∈ groups, ∀ w ∈ vs, IsWord w :=
      fun vs hvs => h vs (List.mem_cons_of_mem ws hvs)
    rw [List.map_cons, List.flatten_cons]
    by_cases hn : ws = []
    · subst hn
      exact ih hmore
    have hne := joinWords_ne_nil hn hws
    rw [List.filter_cons_of_pos (by simpa using hne)]
    by_cases hg : groups.flatten = []
    · have hall : (groups.map joinWords).filter (fun t => !t.isEmpty) = [] := by
        rw [List.filter_eq_nil_iff]
        intro t ht
        obtain ⟨vs, hvs, rfl⟩ := List.mem_map.mp ht
        rw [List.flatten_eq_nil_iff.mp hg vs hvs]
        simp [joinWords]
      rw [hall, hg, List.append_nil, joinWords, List.intercalate_singleton]
    · have hsome : (groups.map joinWords).filter (fun t => !t.isEmpty) ≠ [] := by
        intro he
        rw [he] at ih
        refine joinWords_ne_nil hg ?_ (ih hmore).symm
        intro w hw
        obtain ⟨vs, hvs, hw⟩ := List.mem_flatten.mp hw
        exact hmore vs hvs w hw
      rw [← List.singleton_append, joinWords_append (List.cons_ne_nil _ _) hsome, ih hmore,
        joinWords_append hn hg, joinWords, List.intercalate_singleton]

theorem collapse_joinWords {ws : List Text} (h : ∀ w ∈ ws, IsWord w) :
    collapse (joinWords ws) = joinWords ws := by
  rw [collapse, words_joinWords h]

theorem collapse_collapse (t : Text) : collapse (collapse t) = collapse t :=
  collapse_joinWords fun _ => isWord_of_mem_words

theorem mem_joinWords {ws : List Text} {c : Char} (h : c ∈ joinWords ws) :
    c = ' ' ∨ ∃ w ∈ ws, c ∈ w := by
  induction ws with
  | nil => cases h
  | cons w ws ih =>
    cases ws with
    | nil =>
      rw [joinWords, List.intercalate_singleton] at h
      exact .inr ⟨w, List.mem_cons_self .., h⟩
    | cons next ws =>
      rw [joinWords, List.intercalate_cons_cons, List.append_assoc] at h
      rcases List.mem_append.mp h with h | h
      · exact .inr ⟨w, List.mem_cons_self .., h⟩
      · rcases List.mem_cons.mp h with h | h
        · exact .inl h
        · refine (ih h).imp_right ?_
          rintro ⟨v, hv, hc⟩
          exact ⟨v, List.mem_cons_of_mem _ hv, hc⟩

theorem spaced_collapse (t : Text) : Spaced (collapse t) := by
  intro c hc hb
  rcases mem_joinWords hc with hs | ⟨w, hw, hcw⟩
  · exact hs
  · rw [isBlank_of_mem_words hw hcw] at hb
    cases hb

def Neat (t : Text) : Prop :=
  t ≠ [] ∧ collapse t = t

theorem neat_joinWords {ws : List Text} (h : ∀ w ∈ ws, IsWord w) (hne : joinWords ws ≠ []) :
    Neat (joinWords ws) :=
  ⟨hne, collapse_joinWords h⟩

theorem neat_collapse {t : Text} (h : collapse t ≠ []) : Neat (collapse t) :=
  ⟨h, collapse_collapse t⟩

theorem splitOnP_joinWords {ws : List Text} (hne : ws ≠ []) (h : ∀ w ∈ ws, IsWord w) :
    (joinWords ws).splitOnP isBlank = ws := by
  induction ws with
  | nil => exact absurd rfl hne
  | cons w ws ih =>
    have hw := List.splitOnP_eq_singleton (h w (List.mem_cons_self ..)).2
    cases ws with
    | nil => rw [joinWords, List.intercalate_singleton, hw]
    | cons v ws =>
      rw [joinWords_cons_cons, List.splitOnP_append_cons _ _ rfl, hw,
        ih (List.cons_ne_nil v ws) fun u hu => h u (List.mem_cons_of_mem w hu)]
      rfl

namespace Neat

variable {t : Text}

theorem plain (h : t.Neat) : t.Plain := by
  refine ⟨h.1, ?_⟩
  rw [← h.2]
  exact spaced_collapse t

theorem words_ne_nil (h : t.Neat) : words t ≠ [] := by
  intro hw
  apply h.1
  rw [← h.2, collapse, hw]
  rfl

theorem isBlank_head? (h : t.Neat) : ∀ c ∈ t.head?, isBlank c = false := by
  have hd := dropWhile_joinWords h.words_ne_nil (fun _ => isWord_of_mem_words) []
  rw [← collapse, h.2, List.append_nil] at hd
  intro c hc
  have := List.head?_dropWhile_not isBlank t
  rw [hd, Option.mem_def.mp hc] at this
  simpa using this

theorem isBlank_getLast? (h : t.Neat) : ∀ c ∈ t.getLast?, isBlank c = false := by
  have hnil : ∀ c ∈ ([] : Text), isBlank c = true := by simp
  have hd := dropWhile_reverse_joinWords h.words_ne_nil (fun _ => isWord_of_mem_words) hnil
  rw [← collapse, h.2, List.append_nil] at hd
  intro c hc
  have := List.head?_dropWhile_not isBlank t.reverse
  rw [hd, List.head?_reverse, Option.mem_def.mp hc] at this
  simpa using this

theorem not_infix_spaces (h : t.Neat) : ¬[' ', ' '] <:+: t := by
  rintro ⟨u, v, huv⟩
  have hpieces := splitOnP_joinWords h.words_ne_nil fun _ => isWord_of_mem_words
  have ht : t = u ++ ' ' :: ([] ++ ' ' :: v) := by
    rw [← huv, List.append_assoc]
    rfl
  have hempty : [] ∈ t.splitOnP isBlank := by
    rw [ht, List.splitOnP_append_cons _ _ rfl, List.splitOnP_append_cons _ _ rfl,
      List.splitOnP_nil]
    simp
  rw [← collapse, h.2] at hpieces
  rw [hpieces] at hempty
  exact (isWord_of_mem_words hempty).1 rfl

end Neat
end RefPages.Text
