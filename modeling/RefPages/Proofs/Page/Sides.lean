import RefPages.Page.Tree
import RefPages.Proofs.Text.Words

/-!
Words of an element and the elements below it. A separating element keeps the words before it from
going on in it or behind it; its end separates nothing, so that a word that ends it goes on with the
text right behind it.
-/

namespace RefPages

namespace Text

def wordsBy {α : Type} (blank : α → Bool) (t : List α) : List (List α) :=
  (t.splitOnP blank).filter fun w => !w.isEmpty

section wordsBy

variable {α β : Type} {blank : α → Bool} {a b : α}

theorem splitOnP_map (f : β → α) (t : List β) :
    (t.map f).splitOnP blank = (t.splitOnP (blank ∘ f)).map (List.map f) := by
  induction t with
  | nil => simp
  | cons b t ih =>
    rw [List.map_cons, List.splitOnP_cons_eq_if_modifyHead, List.splitOnP_cons_eq_if_modifyHead, ih]
    by_cases hb : blank (f b) = true
    · simp [hb]
    · have hf : (blank ∘ f) b = false := Bool.eq_false_iff.mpr hb
      obtain ⟨first, more, he, -⟩ := exists_splitOnP_cons hf t
      simp [hb, he]

theorem wordsBy_map (f : β → α) (t : List β) :
    wordsBy blank (t.map f) = (wordsBy (blank ∘ f) t).map (List.map f) := by
  rw [wordsBy, splitOnP_map, List.filter_map, wordsBy]
  congr 1
  apply List.filter_congr
  intro w _
  simp

theorem words_eq_wordsBy (t : Text) : words t = wordsBy isBlank t := rfl

theorem wordsBy_append_blank (h : blank a = true) (s t : List α) :
    wordsBy blank (s ++ a :: t) = wordsBy blank s ++ wordsBy blank t := by
  rw [wordsBy, wordsBy, wordsBy, List.splitOnP_append_cons s t h, List.filter_append]

theorem subset_of_mem_wordsBy {t w : List α} (h : w ∈ wordsBy blank t) : w ⊆ t :=
  subset_of_mem_splitOnP (List.mem_filter.mp h).1

theorem exists_word_of_adjacent (ha : blank a = false) (hb : blank b = false) (s t : List α) :
    ∃ w ∈ wordsBy blank (s ++ a :: b :: t), a ∈ w ∧ b ∈ w := by
  have key : ∃ w ∈ (s ++ a :: b :: t).splitOnP blank, a ∈ w ∧ b ∈ w := by
    induction s with
    | nil =>
      obtain ⟨first, more, he, hcons⟩ := exists_splitOnP_cons hb t
      obtain ⟨first', more', he', hcons'⟩ := exists_splitOnP_cons ha (b :: t)
      rw [hcons] at he'
      obtain ⟨rfl, rfl⟩ := List.cons.inj he'
      rw [List.nil_append, hcons']
      exact ⟨_, List.mem_cons_self .., by simp⟩
    | cons c s ih =>
      obtain ⟨w, hw, hmem⟩ := ih
      by_cases hc : blank c = true
      · rw [List.cons_append, List.splitOnP_cons_eq_if_modifyHead, if_pos hc]
        exact ⟨w, List.mem_cons_of_mem _ hw, hmem⟩
      · obtain ⟨first, more, he, hcons⟩ :=
          exists_splitOnP_cons (Bool.eq_false_iff.mpr hc) (s ++ a :: b :: t)
        rw [he] at hw
        rw [List.cons_append, hcons]
        rcases List.mem_cons.mp hw with rfl | hw
        · exact ⟨c :: w, List.mem_cons_self .., List.mem_cons_of_mem c hmem.1,
            List.mem_cons_of_mem c hmem.2⟩
        · exact ⟨w, List.mem_cons_of_mem _ hw, hmem⟩
  obtain ⟨w, hw, hmem⟩ := key
  refine ⟨w, List.mem_filter.mpr ⟨hw, ?_⟩, hmem⟩
  cases w with
  | nil => cases hmem.1
  | cons c w => rfl

end wordsBy
end Text

namespace Page

open Markup
open Text (wordsBy words)

structure Level where
  parent : Element
  left : List Node
  right : List Node

def enclose : List Level → Node → Node
  | [], n => n
  | l :: ls, n => enclose ls (.element l.parent (l.left ++ n :: l.right))

def textBefore : List Level → Text
  | [] => []
  | l :: ls => textBefore ls ++ (if separators.contains l.parent.name then [' '] else []) ++
      rawTexts l.left

def textBehind : List Level → Text
  | [] => []
  | l :: ls => rawTexts l.right ++ textBehind ls

inductive Side where
  | before
  | inside
  | behind
  deriving DecidableEq, Repr

/-- The text of the outermost element, each character with the side of the node that it is from. -/
def sided (ls : List Level) (n : Node) : List (Side × Char) :=
  (textBefore ls).map (Prod.mk Side.before) ++ (rawText n).map (Prod.mk Side.inside) ++
    (textBehind ls).map (Prod.mk Side.behind)

def sidedWords (ls : List Level) (n : Node) : List (List (Side × Char)) :=
  wordsBy (isBlank ∘ Prod.snd) (sided ls n)

theorem rawTexts_append (ms ns : List Node) : rawTexts (ms ++ ns) = rawTexts ms ++ rawTexts ns := by
  induction ms with
  | nil => rfl
  | cons m ms ih => rw [List.cons_append, rawTexts, rawTexts, ih, List.append_assoc]

theorem rawText_enclose (ls : List Level) (n : Node) :
    rawText (enclose ls n) = textBefore ls ++ rawText n ++ textBehind ls := by
  induction ls generalizing n with
  | nil => simp [enclose, textBefore, textBehind]
  | cons l ls ih =>
    rw [enclose, ih, rawText, rawTexts_append, rawTexts, textBefore, textBehind]
    simp only [List.append_assoc]

theorem map_snd_sided (ls : List Level) (n : Node) :
    (sided ls n).map Prod.snd = rawText (enclose ls n) := by
  rw [rawText_enclose, sided]
  simp [Function.comp_def]

theorem map_sidedWords (ls : List Level) (n : Node) :
    (sidedWords ls n).map (List.map Prod.snd) = words (nodeText (enclose ls n)) := by
  rw [sidedWords, ← Text.wordsBy_map, map_snd_sided, nodeText, Text.collapse,
    Text.words_joinWords fun _ => Text.isWord_of_mem_words, Text.words_eq_wordsBy]

def EndsInWord (t : Text) : Prop :=
  ∃ s c, t = s ++ [c] ∧ isBlank c = false

def BeginsWithWord (t : Text) : Prop :=
  ∃ c s, t = c :: s ∧ isBlank c = false

variable {ls : List Level} {e : Element} {children : List Node}

theorem rawText_separator (h : separators.contains e.name = true) (children : List Node) :
    rawText (.element e children) = ' ' :: rawTexts children := by
  rw [rawText, if_pos h]
  rfl

theorem side_of_mem_map {side : Side} {t : Text} {x : Side × Char}
    (h : x ∈ t.map (Prod.mk side)) : x.1 = side := by
  obtain ⟨c, -, rfl⟩ := List.mem_map.mp h
  rfl

theorem sidedWords_separator (h : separators.contains e.name = true) (ls : List Level)
    (children : List Node) :
    sidedWords ls (.element e children) =
      wordsBy (isBlank ∘ Prod.snd) ((textBefore ls).map (Prod.mk Side.before)) ++
        wordsBy (isBlank ∘ Prod.snd) ((rawTexts children).map (Prod.mk Side.inside) ++
          (textBehind ls).map (Prod.mk Side.behind)) := by
  rw [sidedWords, sided, rawText_separator h, List.map_cons, List.append_assoc, List.cons_append,
    Text.wordsBy_append_blank rfl]

theorem before_of_mem_sidedWords (h : separators.contains e.name = true)
    {w : List (Side × Char)} (hw : w ∈ sidedWords ls (.element e children))
    (hbefore : ∃ x ∈ w, x.1 = .before) : ∀ x ∈ w, x.1 = .before := by
  rw [sidedWords_separator h] at hw
  rcases List.mem_append.mp hw with hw | hw
  · exact fun x hx => side_of_mem_map (Text.subset_of_mem_wordsBy hw hx)
  · obtain ⟨x, hx, hside⟩ := hbefore
    rcases List.mem_append.mp (Text.subset_of_mem_wordsBy hw hx) with hx | hx
    · cases hside.symm.trans (side_of_mem_map hx)
    · cases hside.symm.trans (side_of_mem_map hx)

def Crosses (w : List (Side × Char)) : Prop :=
  (∃ x ∈ w, x.1 = .inside) ∧ ∃ x ∈ w, x.1 = .behind

theorem ne_of_mem_map {side other : Side} (h : side ≠ other) {t : Text} {x : Side × Char}
    (hx : x ∈ t.map (Prod.mk side)) : x.1 ≠ other := by
  rw [side_of_mem_map hx]
  exact h

variable {u v w : List (Side × Char)} {a : Side × Char}

theorem not_crosses (hw : w ⊆ u) (h : (∀ x ∈ u, x.1 ≠ .inside) ∨ ∀ x ∈ u, x.1 ≠ .behind) :
    ¬Crosses w := by
  rintro ⟨⟨x, hx, hinside⟩, y, hy, hbehind⟩
  rcases h with h | h
  · exact h x (hw hx) hinside
  · exact h y (hw hy) hbehind

theorem not_crosses_blank (hw : w ∈ wordsBy (isBlank ∘ Prod.snd) (u ++ a :: v))
    (ha : (isBlank ∘ Prod.snd) a = true) (hu : ∀ x ∈ u, x.1 ≠ .behind)
    (hv : ∀ x ∈ v, x.1 ≠ .inside) : ¬Crosses w := by
  rw [Text.wordsBy_append_blank ha] at hw
  rcases List.mem_append.mp hw with hw | hw
  · exact not_crosses (Text.subset_of_mem_wordsBy hw) (.inr hu)
  · exact not_crosses (Text.subset_of_mem_wordsBy hw) (.inl hv)

theorem endsInWord_of_crosses {n : Node} (hw : w ∈ sidedWords ls n) (h : Crosses w) :
    EndsInWord (rawText n) := by
  have hbefore {x : Side × Char} (hx : x ∈ (textBefore ls).map (Prod.mk Side.before)) :
      x.1 ≠ .behind ∧ x.1 ≠ .inside :=
    ⟨ne_of_mem_map (by decide) hx, ne_of_mem_map (by decide) hx⟩
  have hbehind : ∀ x ∈ (textBehind ls).map (Prod.mk Side.behind), x.1 ≠ .inside :=
    fun x hx => ne_of_mem_map (by decide) hx
  rw [sidedWords, sided] at hw
  rcases List.eq_nil_or_concat (rawText n) with hn | ⟨s, c, hn⟩
  · rw [hn, List.map_nil, List.append_nil] at hw
    refine absurd h (not_crosses (Text.subset_of_mem_wordsBy hw) (.inl ?_))
    intro x hx
    rcases List.mem_append.mp hx with hx | hx
    · exact (hbefore hx).2
    · exact hbehind x hx
  · rw [List.concat_eq_append] at hn
    refine ⟨s, c, hn, Bool.eq_false_iff.mpr fun hc => ?_⟩
    rw [hn, List.map_append, List.map_singleton, ← List.append_assoc, List.append_assoc,
      List.singleton_append] at hw
    refine not_crosses_blank hw hc ?_ hbehind h
    intro x hx
    rcases List.mem_append.mp hx with hx | hx
    · exact (hbefore hx).1
    · exact ne_of_mem_map (by decide) hx

theorem beginsWithWord_of_crosses {n : Node} (hw : w ∈ sidedWords ls n) (h : Crosses w) :
    BeginsWithWord (textBehind ls) := by
  have hfront : ∀ x ∈ (textBefore ls).map (Prod.mk Side.before) ++
      (rawText n).map (Prod.mk Side.inside), x.1 ≠ .behind := by
    intro x hx
    rcases List.mem_append.mp hx with hx | hx
    · exact ne_of_mem_map (by decide) hx
    · exact ne_of_mem_map (by decide) hx
  rw [sidedWords, sided] at hw
  cases hb : textBehind ls with
  | nil =>
    rw [hb, List.map_nil, List.append_nil] at hw
    exact absurd h (not_crosses (Text.subset_of_mem_wordsBy hw) (.inr hfront))
  | cons c t =>
    refine ⟨c, t, rfl, Bool.eq_false_iff.mpr fun hc => ?_⟩
    rw [hb, List.map_cons] at hw
    exact not_crosses_blank hw hc hfront (fun x hx => ne_of_mem_map (by decide) hx) h

theorem exists_crossing {n : Node} (hn : EndsInWord (rawText n))
    (hb : BeginsWithWord (textBehind ls)) : ∃ w ∈ sidedWords ls n, Crosses w := by
  obtain ⟨s, c, hs, hc⟩ := hn
  obtain ⟨d, t, ht, hd⟩ := hb
  have hsided : sided ls n =
      (textBefore ls).map (Prod.mk Side.before) ++ s.map (Prod.mk Side.inside) ++
        (Side.inside, c) :: (Side.behind, d) :: t.map (Prod.mk Side.behind) := by
    rw [sided, hs, ht]
    simp
  have hinside : (isBlank ∘ Prod.snd) (Side.inside, c) = false := hc
  have hbehind : (isBlank ∘ Prod.snd) (Side.behind, d) = false := hd
  obtain ⟨w, hw, hcw, hdw⟩ := Text.exists_word_of_adjacent hinside hbehind
    ((textBefore ls).map (Prod.mk Side.before) ++ s.map (Prod.mk Side.inside))
    (t.map (Prod.mk Side.behind))
  rw [sidedWords, hsided]
  exact ⟨w, hw, ⟨_, hcw, rfl⟩, _, hdw, rfl⟩

/-- No word of an element goes from the text before a separating element into it or behind it. A
word goes on from inside of it just when its text does not end with a blank and the text behind it
does not begin with one. -/
theorem word_sides (ls : List Level) {e : Element} (h : separators.contains e.name = true)
    (children : List Node) :
    (sidedWords ls (.element e children)).map (List.map Prod.snd) =
        words (nodeText (enclose ls (.element e children))) ∧
      (∀ w ∈ sidedWords ls (.element e children),
          (∃ x ∈ w, x.1 = .before) → ∀ x ∈ w, x.1 = .before) ∧
        ((∃ w ∈ sidedWords ls (.element e children), Crosses w) ↔
          EndsInWord (rawText (.element e children)) ∧ BeginsWithWord (textBehind ls)) := by
  refine ⟨map_sidedWords ls _, fun w hw => before_of_mem_sidedWords h hw, ?_, ?_⟩
  · rintro ⟨w, hw, hacross⟩
    exact ⟨endsInWord_of_crosses hw hacross, beginsWithWord_of_crosses hw hacross⟩
  · rintro ⟨hn, hb⟩
    exact exists_crossing hn hb

theorem word_sides_cell :
    let ls : List Level :=
      [⟨⟨1, .html, "tr", []⟩, [.text "a".toList], [.text " c".toList]⟩,
        ⟨⟨0, .html, "em", []⟩, [], []⟩]
    let cell : Element := ⟨2, .html, "td", []⟩
    let children : List Node := [.text "b".toList]
    separators.contains cell.name = true ∧
      words (nodeText (enclose ls (.element cell children))) =
        ["a".toList, "b".toList, "c".toList] ∧
      ∀ w ∈ sidedWords ls (.element cell children), ¬Crosses w := by
  intro ls cell children
  have hcell : separators.contains cell.name = true := by decide
  obtain ⟨hwords, -, hcrosses⟩ := word_sides ls hcell children
  refine ⟨hcell, ?_, ?_⟩
  · rw [← hwords]
    decide
  · intro w hw h
    obtain ⟨-, c, t, ht, hc⟩ := hcrosses.mp ⟨w, hw, h⟩
    cases ht
    cases hc

theorem word_crosses_paragraph_end :
    let ls : List Level := [⟨⟨0, .html, "div", []⟩, [], [.text "b".toList]⟩]
    let paragraph : Node := .element ⟨1, .html, "p", []⟩ [.text "a".toList]
    (∃ w ∈ sidedWords ls paragraph, Crosses w) ∧
      elementTexts "div" "<div><p>a</p>b</div>".toList = ["ab".toList] := by
  intro ls paragraph
  refine ⟨⟨[(.inside, 'a'), (.behind, 'b')], by decide, ?_⟩, by decide +kernel⟩
  exact ⟨⟨_, List.mem_cons_self .., rfl⟩, _, List.mem_cons_of_mem _ (List.mem_cons_self ..), rfl⟩

end Page
end RefPages
