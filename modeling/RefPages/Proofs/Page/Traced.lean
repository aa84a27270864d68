import RefPages.Proofs.Page.Items

/-!
Where the strings of a list come from. A text in a list is read once for each item that it is in, so
that the text of an item that is in another one is read with both.
-/

namespace RefPages

namespace Text

theorem flatten_wordsBy {α : Type} (blank : α → Bool) (t : List α) :
    (wordsBy blank t).flatten = t.filter fun a => !blank a := by
  rw [wordsBy, List.flatten_filter_not_isEmpty]
  induction t with
  | nil => rfl
  | cons a t ih =>
    by_cases h : blank a = true
    · rw [List.splitOnP_cons_eq_if_modifyHead, if_pos h, List.flatten_cons, ih]
      simp [h]
    · obtain ⟨first, more, he, hcons⟩ := exists_splitOnP_cons (Bool.eq_false_iff.mpr h) t
      rw [he] at ih
      rw [hcons, List.flatten_cons, List.cons_append, ← List.flatten_cons, ih]
      simp [h]

end Text

namespace Page

open Markup
open Text (collapse joinWords words wordsBy)

abbrev Address := List Nat

abbrev Traced := List (Address × Char)

def tracedWords (t : Traced) : List Traced :=
  wordsBy (isBlank ∘ Prod.snd) t

mutual

def tracedText (a : Address) : Node → Traced
  | .element e children =>
    (if separators.contains e.name then [(a, ' ')] else []) ++ tracedTexts a 0 children
  | .text t => t.map (Prod.mk a)
  | .comment _ => []

def tracedTexts (a : Address) (i : Nat) : List Node → Traced
  | [] => []
  | n :: rest => tracedText (i :: a) n ++ tracedTexts a (i + 1) rest

end

mutual

def tracedItems (a : Address) : Node → List Traced
  | .element e children =>
    (if e.name = "li" then [tracedText a (.element e children)] else []) ++
      tracedItemsOf a 0 children
  | _ => []

def tracedItemsOf (a : Address) (i : Nat) : List Node → List Traced
  | [] => []
  | n :: rest => tracedItems (i :: a) n ++ tracedItemsOf a (i + 1) rest

end

def tracedErrors (children : List Node) : List (List Traced) :=
  ((tracedItemsOf [] 0 children).map tracedWords).filter fun ws => !ws.isEmpty

def Holds (a : Address) (ws : List Traced) : Bool :=
  ws.flatten.any fun x => x.1 == a

structure Passage where
  address : Address
  text : Text
  items : Nat
  deriving DecidableEq, Repr

namespace Passage

def within (e : Element) (x : Passage) : Passage :=
  if e.name = "li" then { x with items := x.items + 1 } else x

def isBlank (x : Passage) : Bool :=
  x.text.all RefPages.isBlank

@[simp]
theorem within_address (e : Element) (x : Passage) : (x.within e).address = x.address := by
  rw [within]
  split
  · rfl
  · rfl

@[simp]
theorem within_text (e : Element) (x : Passage) : (x.within e).text = x.text := by
  rw [within]
  split
  · rfl
  · rfl

theorem within_items {e : Element} (h : e.name = "li") (x : Passage) :
    (x.within e).items = x.items + 1 := by
  rw [within, if_pos h]

theorem isBlank_within (e : Element) (x : Passage) : (x.within e).isBlank = x.isBlank := by
  rw [isBlank, isBlank, within_text]

end Passage

mutual

def passages (a : Address) : Node → List Passage
  | .element e children => (passagesOf a 0 children).map (Passage.within e)
  | .text t => [⟨a, t, 0⟩]
  | .comment _ => []

def passagesOf (a : Address) (i : Nat) : List Node → List Passage
  | [] => []
  | n :: rest => passages (i :: a) n ++ passagesOf a (i + 1) rest

end

mutual

theorem map_snd_tracedText (a : Address) (n : Node) :
    (tracedText a n).map Prod.snd = rawText n := by
  cases n with
  | element e children =>
    rw [tracedText, rawText, List.map_append, map_snd_tracedTexts a 0 children]
    split
    · rfl
    · rfl
  | text t => simp [tracedText, rawText, Function.comp_def]
  | comment t => rfl

theorem map_snd_tracedTexts (a : Address) (i : Nat) (ns : List Node) :
    (tracedTexts a i ns).map Prod.snd = rawTexts ns := by
  cases ns with
  | nil => rfl
  | cons n rest =>
    rw [tracedTexts, rawTexts, List.map_append, map_snd_tracedText, map_snd_tracedTexts]

end

mutual

theorem map_tracedItems (a : Address) (n : Node) :
    (tracedItems a n).map (List.map Prod.snd) = (elementsNamed "li" [n]).map rawText := by
  cases n with
  | element e children =>
    rw [tracedItems, elementsNamed_element, List.map_append, List.map_append,
      map_tracedItemsOf a 0 children]
    by_cases h : e.name = "li"
    · simp only [h, if_true, List.map_singleton, map_snd_tracedText]
    · simp [h]
  | text t => rfl
  | comment t => rfl

theorem map_tracedItemsOf (a : Address) (i : Nat) (ns : List Node) :
    (tracedItemsOf a i ns).map (List.map Prod.snd) = (elementsNamed "li" ns).map rawText := by
  cases ns with
  | nil => rfl
  | cons n rest =>
    rw [tracedItemsOf, elementsNamed_cons, List.map_append, List.map_append, map_tracedItems,
      map_tracedItemsOf]

end

theorem map_tracedErrors (children : List Node) :
    (tracedErrors children).map (fun ws => joinWords (ws.map (List.map Prod.snd))) =
      textsOf (elementsNamed "li" children) := by
  have hwords (t : Traced) : (tracedWords t).map (List.map Prod.snd) = words (t.map Prod.snd) := by
    rw [Text.words_eq_wordsBy, Text.wordsBy_map, tracedWords]
  have hstring (t : Traced) :
      joinWords ((tracedWords t).map (List.map Prod.snd)) = collapse (t.map Prod.snd) := by
    rw [hwords, collapse]
  have hempty (t : Traced) :
      (!(tracedWords t).isEmpty) = !(collapse (t.map Prod.snd)).isEmpty := by
    by_cases h : tracedWords t = []
    · rw [← hstring, h]
      rfl
    · have hne : collapse (t.map Prod.snd) ≠ [] := by
        apply Text.joinWords_ne_nil
        · rw [← hwords]
          simpa using h
        · exact fun _ => Text.isWord_of_mem_words
      rw [List.isEmpty_eq_false_iff.mpr h, List.isEmpty_eq_false_iff.mpr hne]
  have hnodes : (elementsNamed "li" children).map nodeText =
      (tracedItemsOf [] 0 children).map fun t => collapse (t.map Prod.snd) := by
    have := congrArg (List.map collapse) (map_tracedItemsOf [] 0 children)
    rw [List.map_map, List.map_map] at this
    exact this.symm
  rw [textsOf, hnodes, tracedErrors, List.filter_map, List.filter_map, List.map_map]
  simp only [Function.comp_def, hstring, hempty]

def Below (a : Address) (i : Nat) (b : Address) : Prop :=
  ∃ j, i ≤ j ∧ (j :: a) <:+ b

theorem Below.next {a b : Address} {i : Nat} (h : Below a (i + 1) b) : Below a i b := by
  obtain ⟨j, hj, hb⟩ := h
  exact ⟨j, Nat.le_of_succ_le hj, hb⟩

theorem not_below {a b : Address} {i : Nat} (h : (i :: a) <:+ b) : ¬Below a (i + 1) b := by
  rintro ⟨j, hj, hb⟩
  have hs : (i :: a) <:+ (j :: a) := List.suffix_of_suffix_length_le h hb (by simp)
  have := List.IsSuffix.eq_of_length hs rfl
  obtain ⟨rfl, -⟩ := List.cons.inj this
  omega

mutual

theorem suffix_of_mem_tracedText {a : Address} {n : Node} {x : Address × Char}
    (h : x ∈ tracedText a n) : a <:+ x.1 := by
  cases n with
  | element e children =>
    rw [tracedText] at h
    rcases List.mem_append.mp h with h | h
    · split at h
      · obtain rfl := List.mem_singleton.mp h
        exact List.suffix_refl a
      · cases h
    · obtain ⟨j, -, hj⟩ := below_of_mem_tracedTexts h
      exact (List.suffix_cons j a).trans hj
  | text t =>
    obtain ⟨c, -, rfl⟩ := List.mem_map.mp h
    exact List.suffix_refl a
  | comment t => cases h

theorem below_of_mem_tracedTexts {a : Address} {i : Nat} {ns : List Node} {x : Address × Char}
    (h : x ∈ tracedTexts a i ns) : Below a i x.1 := by
  cases ns with
  | nil => cases h
  | cons n rest =>
    rw [tracedTexts] at h
    rcases List.mem_append.mp h with h | h
    · exact ⟨i, Nat.le_refl i, suffix_of_mem_tracedText h⟩
    · exact (below_of_mem_tracedTexts h).next

end

mutual

theorem suffix_of_mem_passages {a : Address} {n : Node} {x : Passage} (h : x ∈ passages a n) :
    a <:+ x.address := by
  cases n with
  | element e children =>
    obtain ⟨y, hy, rfl⟩ := List.mem_map.mp h
    obtain ⟨j, -, hj⟩ := below_of_mem_passagesOf hy
    rw [Passage.within_address]
    exact (List.suffix_cons j a).trans hj
  | text t =>
    obtain rfl := List.mem_singleton.mp h
    exact List.suffix_refl a
  | comment t => cases h

theorem below_of_mem_passagesOf {a : Address} {i : Nat} {ns : List Node} {x : Passage}
    (h : x ∈ passagesOf a i ns) : Below a i x.address := by
  cases ns with
  | nil => cases h
  | cons n rest =>
    rw [passagesOf] at h
    rcases List.mem_append.mp h with h | h
    · exact ⟨i, Nat.le_refl i, suffix_of_mem_passages h⟩
    · exact (below_of_mem_passagesOf h).next

end

mutual

theorem subset_of_mem_tracedItems {a : Address} {n : Node} {t : Traced}
    (h : t ∈ tracedItems a n) : t ⊆ tracedText a n := by
  cases n with
  | element e children =>
    rw [tracedItems] at h
    rcases List.mem_append.mp h with h | h
    · split at h
      · obtain rfl := List.mem_singleton.mp h
        exact List.Subset.refl _
      · cases h
    · rw [tracedText]
      exact List.Subset.trans (subset_of_mem_tracedItemsOf h) (List.subset_append_right _ _)
  | text t => cases h
  | comment t => cases h

theorem subset_of_mem_tracedItemsOf {a : Address} {i : Nat} {ns : List Node}
    {t : Traced} (h : t ∈ tracedItemsOf a i ns) : t ⊆ tracedTexts a i ns := by
  cases ns with
  | nil => cases h
  | cons n rest =>
    rw [tracedItemsOf] at h
    rw [tracedTexts]
    rcases List.mem_append.mp h with h | h
    · exact List.Subset.trans (subset_of_mem_tracedItems h) (List.subset_append_left _ _)
    · exact List.Subset.trans (subset_of_mem_tracedItemsOf h) (List.subset_append_right _ _)

end

mutual

theorem nodup_passages (a : Address) (n : Node) : ((passages a n).map Passage.address).Nodup := by
  cases n with
  | element e children =>
    rw [passages, List.map_map]
    simpa [Function.comp_def] using nodup_passagesOf a 0 children
  | text t => simp [passages]
  | comment t => simp [passages]

theorem nodup_passagesOf (a : Address) (i : Nat) (ns : List Node) :
    ((passagesOf a i ns).map Passage.address).Nodup := by
  cases ns with
  | nil => simp [passagesOf]
  | cons n rest =>
    rw [passagesOf, List.map_append, List.nodup_append]
    refine ⟨nodup_passages _ n, nodup_passagesOf a _ rest, ?_⟩
    -- one address goes through the position of the first node, the other through a later one
    intro b hb c hc he
    obtain ⟨x, hx, rfl⟩ := List.mem_map.mp hb
    obtain ⟨y, hy, rfl⟩ := List.mem_map.mp hc
    have := suffix_of_mem_passages hx
    rw [he] at this
    exact not_below this (below_of_mem_passagesOf hy)

end

theorem holds_tracedWords_iff (a : Address) (t : Traced) :
    Holds a (tracedWords t) = true ↔ ∃ c, isBlank c = false ∧ (a, c) ∈ t := by
  rw [Holds, tracedWords, Text.flatten_wordsBy, List.any_eq_true]
  constructor
  · rintro ⟨⟨b, c⟩, hm, hb⟩
    obtain ⟨hm, hc⟩ := List.mem_filter.mp hm
    obtain rfl : b = a := by simpa using hb
    exact ⟨c, by simpa using hc, hm⟩
  · rintro ⟨c, hc, hm⟩
    exact ⟨(a, c), List.mem_filter.mpr ⟨hm, by simp [hc]⟩, by simp⟩

mutual

theorem mem_tracedText_iff {a : Address} {n : Node} {x : Passage} (h : x ∈ passages a n) {c : Char}
    (hc : isBlank c = false) : (x.address, c) ∈ tracedText a n ↔ c ∈ x.text := by
  cases n with
  | element e children =>
    obtain ⟨y, hy, rfl⟩ := List.mem_map.mp h
    have ih := mem_tracedTexts_iff hy hc
    rw [tracedText, List.mem_append, Passage.within_address, Passage.within_text, ih]
    constructor
    · rintro (hs | hm)
      · split at hs
        · obtain ⟨-, rfl⟩ := Prod.mk.inj (List.mem_singleton.mp hs)
          cases hc
        · cases hs
      · exact hm
    · exact .inr
  | text t =>
    obtain rfl := List.mem_singleton.mp h
    simp [tracedText]
  | comment t => cases h

theorem mem_tracedTexts_iff {a : Address} {i : Nat} {ns : List Node} {x : Passage}
    (h : x ∈ passagesOf a i ns) {c : Char} (hc : isBlank c = false) :
    (x.address, c) ∈ tracedTexts a i ns ↔ c ∈ x.text := by
  cases ns with
  | nil => cases h
  | cons n rest =>
    rw [tracedTexts, List.mem_append]
    rcases List.mem_append.mp h with h | h
    · rw [mem_tracedText_iff h hc, or_iff_left]
      intro hm
      exact not_below (suffix_of_mem_passages h) (below_of_mem_tracedTexts hm)
    · rw [mem_tracedTexts_iff h hc, or_iff_right]
      intro hm
      exact not_below (suffix_of_mem_tracedText hm) (below_of_mem_passagesOf h)

end

theorem holds_passage {a : Address} {n : Node} {x : Passage} (h : x ∈ passages a n) :
    Holds x.address (tracedWords (tracedText a n)) = !x.isBlank := by
  rw [Bool.eq_iff_iff, holds_tracedWords_iff]
  constructor
  · rintro ⟨c, hc, hm⟩
    have := (mem_tracedText_iff h hc).mp hm
    simpa [Passage.isBlank] using ⟨c, this, hc⟩
  · intro hx
    obtain ⟨c, hm, hc⟩ : ∃ c ∈ x.text, isBlank c = false := by simpa [Passage.isBlank] using hx
    exact ⟨c, hc, (mem_tracedText_iff h hc).mpr hm⟩

def timesRead (a : Address) (items : List Traced) : Nat :=
  items.countP fun t => Holds a (tracedWords t)

theorem timesRead_append (a : Address) (us vs : List Traced) :
    timesRead a (us ++ vs) = timesRead a us + timesRead a vs :=
  List.countP_append

theorem timesRead_eq_zero {b : Address} {items : List Traced}
    (h : ∀ t ∈ items, ∀ x ∈ t, x.1 ≠ b) : timesRead b items = 0 := by
  apply List.countP_eq_zero.mpr
  intro t ht hb
  obtain ⟨c, -, hm⟩ := (holds_tracedWords_iff b t).mp hb
  exact h t ht _ hm rfl

mutual

theorem timesRead_tracedItems {a : Address} {n : Node} {x : Passage} (h : x ∈ passages a n) :
    timesRead x.address (tracedItems a n) = if x.isBlank then 0 else x.items := by
  cases n with
  | element e children =>
    have hself := holds_passage h
    obtain ⟨y, hy, rfl⟩ := List.mem_map.mp h
    have ih := timesRead_tracedItemsOf hy
    -- an item adds its own text, which holds all that is below it
    rw [tracedItems, timesRead_append, Passage.within_address, ih]
    by_cases he : e.name = "li"
    · rw [if_pos he, timesRead, List.countP_singleton, ← Passage.within_address e, hself]
      by_cases hb : y.isBlank = true
      · simp [Passage.isBlank_within, hb]
      · simp [Passage.isBlank_within, hb, Passage.within_items he, Nat.add_comm]
    · rw [if_neg he, Passage.isBlank_within, Passage.within, if_neg he]
      simp [timesRead]
  | text t =>
    obtain rfl := List.mem_singleton.mp h
    simp [tracedItems, timesRead]
  | comment t => cases h

theorem timesRead_tracedItemsOf {a : Address} {i : Nat} {ns : List Node} {x : Passage}
    (h : x ∈ passagesOf a i ns) :
    timesRead x.address (tracedItemsOf a i ns) = if x.isBlank then 0 else x.items := by
  cases ns with
  | nil => cases h
  | cons n rest =>
    rw [tracedItemsOf, timesRead_append]
    rcases List.mem_append.mp h with h | h
    -- the nodes beside the one that the text is in have none of its characters
    · have hrest : timesRead x.address (tracedItemsOf a (i + 1) rest) = 0 := by
        apply timesRead_eq_zero
        intro t ht y hy he
        have := below_of_mem_tracedTexts (subset_of_mem_tracedItemsOf ht hy)
        rw [he] at this
        exact not_below (suffix_of_mem_passages h) this
      rw [timesRead_tracedItems h, hrest, Nat.add_zero]
    · have hfirst : timesRead x.address (tracedItems (i :: a) n) = 0 := by
        apply timesRead_eq_zero
        intro t ht y hy he
        have := suffix_of_mem_tracedText (subset_of_mem_tracedItems ht hy)
        rw [he] at this
        exact not_below this (below_of_mem_passagesOf h)
      rw [timesRead_tracedItemsOf h, hfirst, Nat.zero_add]

end

theorem countP_tracedErrors (b : Address) (children : List Node) :
    (tracedErrors children).countP (Holds b) = timesRead b (tracedItemsOf [] 0 children) := by
  rw [tracedErrors, List.countP_filter, List.countP_map, timesRead]
  apply List.countP_congr
  intro t _
  rw [Function.comp_apply, Bool.and_eq_true, and_iff_left_iff_imp]
  intro h
  cases hw : tracedWords t with
  | nil =>
    rw [hw] at h
    cases h
  | cons w ws => rfl

/-- A text in a list that is not blank is read with each item that it is in, and with nothing else.
So no text is read twice just when none is in an item of another item. -/
theorem read_with_each_item {e : Element} (h : e.name = "ul" ∨ e.name = "ol")
    (children : List Node) :
    (tracedErrors children).map (fun ws => joinWords (ws.map (List.map Prod.snd))) =
        entryErrors (.element e children) ∧
      ((passagesOf [] 0 children).map Passage.address).Nodup ∧
      (∀ x ∈ passagesOf [] 0 children,
        (tracedErrors children).countP (Holds x.address) = if x.isBlank then 0 else x.items) ∧
      ((∀ x ∈ passagesOf [] 0 children, (tracedErrors children).countP (Holds x.address) ≤ 1) ↔
        ∀ x ∈ passagesOf [] 0 children, x.isBlank = true ∨ x.items ≤ 1) := by
  have hcount : ∀ x ∈ passagesOf [] 0 children,
      (tracedErrors children).countP (Holds x.address) = if x.isBlank then 0 else x.items := by
    intro x hx
    rw [countP_tracedErrors, timesRead_tracedItemsOf hx]
  refine ⟨?_, nodup_passagesOf [] 0 children, hcount, ?_⟩
  · rw [map_tracedErrors]
    exact (if_pos h).symm
  · apply forall₂_congr
    intro x hx
    rw [hcount x hx]
    by_cases hb : x.isBlank = true
    · simp [hb]
    · simp [hb]

theorem read_with_each_item_flat :
    let list : Element := ⟨0, .html, "ul", []⟩
    let children : List Node := [.element ⟨1, .html, "li", []⟩ [.text "a".toList],
      .text "\n".toList, .element ⟨2, .html, "li", []⟩ [.text "b".toList]]
    (list.name = "ul" ∨ list.name = "ol") ∧
      passagesOf [] 0 children =
        [⟨[0, 0], "a".toList, 1⟩, ⟨[1], "\n".toList, 0⟩, ⟨[0, 2], "b".toList, 1⟩] ∧
      ∀ x ∈ passagesOf [] 0 children, (tracedErrors children).countP (Holds x.address) ≤ 1 := by
  intro list children
  have hlist : list.name = "ul" ∨ list.name = "ol" := .inl rfl
  obtain ⟨-, -, -, honce⟩ := read_with_each_item hlist children
  exact ⟨hlist, by decide, honce.mpr (by decide)⟩

theorem inner_item_read_twice :
    let children : List Node := [.element ⟨7, .html, "li", []⟩ [.text "a".toList,
      .element ⟨8, .html, "ul", []⟩ [.element ⟨9, .html, "li", []⟩ [.text "b".toList]]]]
    (∃ x ∈ passagesOf [] 0 children, (tracedErrors children).countP (Holds x.address) = 2) ∧
      (readTree "<div><h2>Errors</h2><ul><li>a<ul><li>b</li></ul></li></ul></div>".toList).errors =
        ["a b".toList, "b".toList] := by
  intro children
  refine ⟨⟨⟨[0, 0, 1, 0], "b".toList, 2⟩, by decide, by decide⟩, ?_⟩
  rw [readTree, ofDocument, Document.named,
    places_of_pairwise (by decide +kernel) (by decide +kernel)]
  decide +kernel

end Page
end RefPages
