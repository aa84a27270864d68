import RefPages.Markup.Lexer
import RefPages.Proofs.Text.Breaks
import RefPages.Proofs.Text.Stops

namespace RefPages.Markup.Lexer

open Text (skipBlanks splitOn_append_cons splitOn_of_not_mem withBreaks withBreaks_append
  withBreaks_cons withBreaks_of_not_mem withBreaks_return)

theorem head?_splitOn (t : Text) :
    ∃ first rest, t.splitOn '\r' = first :: rest ∧
      (first.head? = some '\n' ↔ t.head? = some '\n') := by
  by_cases hm : '\r' ∈ t
  · obtain ⟨a, b, rfl, ha⟩ := List.eq_append_cons_of_mem hm
    refine ⟨a, b.splitOn '\r', ?_, ?_⟩
    · rw [splitOn_append_cons, splitOn_of_not_mem ha]
      rfl
    · cases a with
      | nil => simp
      | cons c a => rfl
  · exact ⟨t, [], splitOn_of_not_mem hm, Iff.rfl⟩

theorem prepare_eq {t : Text} (h : t.head? ≠ some '\uFEFF') : prepare t = withBreaks '\n' t := by
  rw [prepare, if_neg h]
  clear h
  induction hn : t.length using Nat.strongRecOn generalizing t with
  | ind n ih =>
    by_cases hm : '\r' ∈ t
    · obtain ⟨a, b, rfl, ha⟩ := List.eq_append_cons_of_mem hm
      have hb := ih b.length (by simp [← hn]; omega) rfl
      obtain ⟨first, rest, hs, hhead⟩ := head?_splitOn b
      have hsplit : (a ++ '\r' :: b).splitOn '\r' = a :: first :: rest := by
        rw [splitOn_append_cons, splitOn_of_not_mem ha, hs]
        rfl
      rw [hs] at hb
      rw [hsplit, withBreaks_append (by simp), withBreaks_of_not_mem ha]
      dsimp only at hb ⊢
      rw [List.flatMap_cons]
      congr 1
      -- A line feed behind the carriage return stands for both.
      by_cases hf : b.head? = some '\n'
      · rw [if_pos (hhead.mpr hf), hb]
        obtain ⟨b', rfl⟩ := List.head?_eq_some_iff.mp hf
        rw [withBreaks, withBreaks_cons (by decide)]
      · rw [if_neg fun hx => hf (hhead.mp hx), withBreaks_return hf, ← hb]
        rfl
    · rw [splitOn_of_not_mem hm, withBreaks_of_not_mem hm]
      exact List.append_nil t

theorem decode_of_not_mem {inAttribute : Bool} {t : Text} (h : '&' ∉ t) :
    Reference.decode inAttribute t = t := by
  rw [Reference.decode, splitOn_of_not_mem h]
  exact List.append_nil t

theorem withoutNul_of_not_mem {t : Text} (h : '\x00' ∉ t) : withoutNul t = t := by
  have hc : ∀ c ∈ t, (if c = '\x00' then Reference.replacement else c) = c :=
    fun c hc => if_neg (by rintro rfl; exact h hc)
  rw [withoutNul, List.map_congr_left hc, List.map_id']

structure IsRun (t : Text) : Prop where
  markup : '<' ∉ t
  reference : '&' ∉ t
  nul : '\x00' ∉ t

theorem IsRun.inContent {t : Text} (h : IsRun t) : ∀ c ∈ t, inContent c = true := by
  intro c hc
  have h₁ : c ≠ '<' := fun he => h.markup (he ▸ hc)
  have h₂ : c ≠ '\x00' := fun he => h.nul (he ▸ hc)
  rw [Lexer.inContent, bne_iff_ne.mpr h₁, bne_iff_ne.mpr h₂]
  rfl

theorem next_run {c : Char} {s t : Text} (h : IsRun (c :: s)) (ht : t.head? = some '<') :
    next false .content c (s ++ t) = ⟨[.text (c :: s)], .content, t⟩ := by
  have hs : ∀ d ∈ s, inContent d = true := fun d hd => h.inContent d (List.mem_cons_of_mem c hd)
  obtain ⟨t, rfl⟩ := List.head?_eq_some_iff.mp ht
  have h₁ : c ≠ '<' := fun he => h.markup (he ▸ List.mem_cons_self ..)
  have h₂ : c ≠ '\x00' := fun he => h.nul (he ▸ List.mem_cons_self ..)
  rw [next, if_neg h₁, if_neg h₂, Text.takeWhile_append_cons hs rfl,
    Text.dropWhile_append_cons hs rfl,
    decode_of_not_mem h.reference]

def IsTagName (name : String) : Prop :=
  name.toList.head?.any Char.isAlpha = true ∧
    ∀ c ∈ name.toList, inTagName c = true ∧ c ≠ '\x00' ∧ c.toLower = c

-- Only the characters of the name are looked at, not all that there are.
instance (name : String) : Decidable (IsTagName name) :=
  haveI := List.decidableBAll (fun c => inTagName c = true ∧ c ≠ '\x00' ∧ c.toLower = c) name.toList
  inferInstanceAs (Decidable (_ ∧ _))

theorem IsTagName.exists_cons {name : String} (h : IsTagName name) :
    ∃ c cs, name.toList = c :: cs ∧ c.isAlpha = true := by
  have hhead := h.1
  cases hn : name.toList with
  | nil =>
    rw [hn] at hhead
    cases hhead
  | cons c cs =>
    rw [hn] at hhead
    exact ⟨c, cs, rfl, hhead⟩

theorem nameOf_toList {name : String} (h : ∀ c ∈ name.toList, c ≠ '\x00' ∧ c.toLower = c) :
    nameOf name.toList = name := by
  have hmap : name.toList.map Char.toLower = name.toList := by
    rw [List.map_congr_left fun c hc => (h c hc).2, List.map_id']
  rw [nameOf, withoutNul_of_not_mem fun hc => (h _ hc).1 rfl, hmap, String.ofList_toList]

theorem attributes_end (found : List Attribute) (t : Text) :
    attributes found ('>' :: t) = some (found.reverse, false, t) := by
  rw [attributes]
  rfl

theorem attributes_name {found : List Attribute} {c : Char} {more t : Text}
    (ht : skipBlanks t = c :: more) (h₁ : c ≠ '>') (h₂ : c ≠ '/') :
    attributes found t =
      let value := attributeValue (skipBlanks (more.dropWhile inAttributeName))
      attributes (addAttribute (c :: more.takeWhile inAttributeName) value.1 found) value.2 := by
  rw [attributes]
  split
  · next h => cases ht.symm.trans h
  · next h => exact absurd (List.cons.inj (ht.symm.trans h)).1 h₁
  · next h => exact absurd (List.cons.inj (ht.symm.trans h)).1 h₂
  · next h => exact absurd (List.cons.inj (ht.symm.trans h)).1 h₂
  · next h =>
    cases ht.symm.trans h
    rfl

theorem attributes_class {v : Text} (hq : '"' ∉ v) (hv : IsRun v) (t : Text) :
    attributes [] (" class=\"".toList ++ (v ++ "\">".toList ++ t)) =
      some ([⟨"class", v⟩], false, t) := by
  have hvalue : attributeValue ("=\"".toList ++ (v ++ "\">".toList ++ t)) = (v, '>' :: t) := by
    rw [List.append_assoc]
    change ((v ++ '"' :: '>' :: t).takeWhile (· ≠ '"'),
      ((v ++ '"' :: '>' :: t).dropWhile (· ≠ '"')).drop 1) = _
    rw [Text.takeWhile_ne hq, Text.dropWhile_ne hq]
    rfl
  have hadd : addAttribute "class".toList v [] = [⟨"class", v⟩] := by
    rw [addAttribute, withoutNul_of_not_mem hv.nul, decode_of_not_mem hv.reference]
    rfl
  have hname : skipBlanks (" class=\"".toList ++ (v ++ "\">".toList ++ t)) =
      'c' :: ("lass=\"".toList ++ (v ++ "\">".toList ++ t)) := rfl
  rw [attributes_name hname (by decide) (by decide)]
  change attributes (addAttribute "class".toList
    (attributeValue ("=\"".toList ++ (v ++ "\">".toList ++ t))).1 [])
    (attributeValue ("=\"".toList ++ (v ++ "\">".toList ++ t))).2 = _
  rw [hvalue, hadd, attributes_end]
  rfl

theorem tag_append {name : String} (h : IsTagName name) {t : Text}
    (ht : ∀ c ∈ t.head?, inTagName c = false) :
    tag (name.toList ++ t) =
      (attributes [] t).map fun (attrs, closed, rest) => (⟨name, attrs, closed⟩, rest) := by
  have hname : ∀ c ∈ name.toList, inTagName c = true := fun c hc => (h.2 c hc).1
  rw [tag, Text.dropWhile_append hname ht, Text.takeWhile_append hname ht,
    nameOf_toList fun c hc => (h.2 c hc).2]

theorem markup_start {c : Char} (h : c.isAlpha = true) (t : Text) :
    markup false (c :: t) = tagToken .start (c :: t) := by
  have not_sign {d : Char} (hd : d.isAlpha = false) : c ≠ d := by
    rintro rfl
    rw [h] at hd
    cases hd
  rw [markup, if_pos h]
  · exact not_sign rfl
  · exact not_sign rfl
  · exact not_sign rfl

theorem next_start {name : String} (h : IsTagName name) {t rest : Text} {attrs : List Attribute}
    (ht : ∀ c ∈ t.head?, inTagName c = false)
    (ha : attributes [] t = some (attrs, false, rest)) :
    next false .content '<' (name.toList ++ t) =
      ⟨[.start { name, attributes := attrs }], .content, rest⟩ := by
  have htag := tag_append h ht
  obtain ⟨c, cs, hn, hc⟩ := h.exists_cons
  rw [ha, hn] at htag
  rw [hn]
  change markup false (c :: (cs ++ t)) = _
  rw [markup_start hc, tagToken, ← List.cons_append, htag]
  rfl

theorem next_stop {name : String} (h : IsTagName name) (t : Text) :
    next false .content '<' ('/' :: (name.toList ++ '>' :: t)) =
      ⟨[.stop { name }], .content, t⟩ := by
  have htag := tag_append (t := '>' :: t) h (by rintro _ ⟨⟩; rfl)
  obtain ⟨c, cs, hn, hc⟩ := h.exists_cons
  rw [attributes_end, hn] at htag
  rw [hn]
  change closing (c :: (cs ++ '>' :: t)) = _
  rw [closing, if_pos hc, tagToken, ← List.cons_append, htag]
  · rfl
  · rintro rfl
    cases hc

end RefPages.Markup.Lexer
