import RefPages.Page.Strategy
import RefPages.Proofs.Page.Marked
import RefPages.Proofs.Prose

namespace RefPages

structure Extract.Each (P : Text → Prop) (e : Extract) : Prop where
  signatures : ∀ t ∈ e.signatures, P t
  errors : ∀ t ∈ e.errors, P t

namespace Extract.Each

variable {P Q : Text → Prop} {a b e : Extract}

theorem mono (h : e.Each P) (hpq : ∀ t, P t → Q t) : e.Each Q where
  signatures := fun t ht => hpq t (h.signatures t ht)
  errors := fun t ht => hpq t (h.errors t ht)

theorem append (ha : a.Each P) (hb : b.Each P) : (a ++ b).Each P where
  signatures := by
    intro t ht
    rcases List.mem_append.mp ht with ht | ht
    · exact ha.signatures t ht
    · exact hb.signatures t ht
  errors := by
    intro t ht
    rcases List.mem_append.mp ht with ht | ht
    · exact ha.errors t ht
    · exact hb.errors t ht

end Extract.Each

namespace Page

theorem neat_of_marked {marker : Text} {f : Feed} {strings pending : List Text}
    (h : marked marker f = .ok (strings, pending)) : ∀ t ∈ strings, t.Neat := by
  fun_induction marked marker f generalizing strings pending with
  | case1 =>
    cases h
    simp
  | case2 => cases h
  | case3 => cases h
  | case4 => cases h
  | case5 f before after hs content hc region rest hr strings' pending' hm ih =>
    cases h
    intro t ht
    rcases List.mem_append.mp ht with ht | ht
    · exact Prose.neat_of_mem_strings ht
    · exact ih hm t ht

theorem Block.neat_extract {b : Block} (h : ∀ t ∈ b.strings, t.Neat) : b.extract.Each Text.Neat := by
  obtain ⟨part, strings⟩ := b
  cases part with
  | synopsis => exact ⟨h, by simp [Block.extract]⟩
  | errors => exact ⟨by simp [Block.extract], h⟩

theorem neat_of_mem_blocks (lines : List Text) {b : Block} (h : b ∈ (blocks lines).1) :
    ∀ t ∈ b.strings, t.Neat := by
  fun_induction blocks lines with
  | case1 => cases h
  | case2 line pending hs ih => exact ih h
  | case3 => cases h
  | case4 line pending s hs found rest hm more fault hb ih =>
    rw [hb] at ih
    rcases List.mem_cons.mp h with rfl | h
    · exact neat_of_marked hm
    · exact ih h

theorem Block.neat_extractAll {bs : List Block} (h : ∀ b ∈ bs, b.extract.Each Text.Neat) :
    (extractAll bs).Each Text.Neat := by
  induction bs with
  | nil => exact ⟨by simp [extractAll], by simp [extractAll]⟩
  | cons b bs ih =>
    have hb := h b (List.mem_cons_self ..)
    exact hb.append (ih fun b' hb' => h b' (List.mem_cons_of_mem _ hb'))

theorem neat_of_scan {body : Text} {e : Extract} (h : scan body = .ok e) : e.Each Text.Neat := by
  rw [scan] at h
  split at h
  · next bs hb =>
    cases h
    apply Block.neat_extractAll
    intro b hmem
    apply Block.neat_extract
    apply neat_of_mem_blocks (Text.lines body)
    rw [hb]
    exact hmem
  · cases h

theorem neat_of_mem_textsOf {nodes : List Markup.Node} {t : Text} (h : t ∈ textsOf nodes) :
    t.Neat := by
  obtain ⟨hm, he⟩ := List.mem_filter.mp h
  obtain ⟨n, -, rfl⟩ := List.mem_map.mp hm
  have hne : nodeText n ≠ [] := by simpa using he
  exact Text.neat_collapse hne

theorem neat_of_mem_synopsisSignatures {p : Markup.Place} {t : Text}
    (h : t ∈ synopsisSignatures p) : t.Neat := by
  rw [synopsisSignatures] at h
  split at h
  · exact neat_of_mem_textsOf h
  · exact neat_of_mem_textsOf h

theorem neat_of_mem_entryErrors {n : Markup.Node} {t : Text} (h : t ∈ entryErrors n) :
    t.Neat := by
  cases n with
  | element e children =>
    rw [entryErrors] at h
    split at h
    · exact neat_of_mem_textsOf h
    · exact neat_of_mem_textsOf h
  | text => cases h
  | comment => cases h

theorem neat_of_mem_headingErrors {p : Markup.Place} {t : Text} (h : t ∈ headingErrors p) :
    t.Neat := by
  rw [headingErrors] at h
  split at h
  · obtain ⟨n, -, hn⟩ := List.mem_flatMap.mp h
    exact neat_of_mem_entryErrors hn
  · cases h

theorem neat_readTree (body : Text) : (readTree body).Each Text.Neat where
  signatures := by
    intro t ht
    obtain ⟨p, -, hp⟩ := List.mem_flatMap.mp ht
    exact neat_of_mem_synopsisSignatures hp
  errors := by
    intro t ht
    obtain ⟨p, -, hp⟩ := List.mem_flatMap.mp ht
    exact neat_of_mem_headingErrors hp

theorem neat_of_extract {strategy : Strategy} {body : Text} {e : Extract}
    (h : extract strategy body = .ok e) : e.Each Text.Neat := by
  cases strategy with
  | tree =>
    cases h
    exact neat_readTree body
  | raw => exact neat_of_scan h

theorem plain_of_extract {strategy : Strategy} {body : Text} {e : Extract}
    (h : extract strategy body = .ok e) : e.Each Text.Plain :=
  (neat_of_extract h).mono fun _ ht => ht.plain

theorem extract_collapsed (strategy : Strategy) (body : Text) :
    (strategy = .tree → ∃ e, extract strategy body = .ok e) ∧
      ∀ e, extract strategy body = .ok e → ∀ t, t ∈ e.signatures ∨ t ∈ e.errors →
        t ≠ [] ∧ Text.collapse t = t ∧
          (∀ c ∈ t.head?, isBlank c = false) ∧ (∀ c ∈ t.getLast?, isBlank c = false) ∧
          (∀ c ∈ t, isBlank c = true → c = ' ') ∧ ¬[' ', ' '] <:+: t := by
  constructor
  · rintro rfl
    exact ⟨readTree body, rfl⟩
  · intro e he t ht
    have hneat : t.Neat := by
      rcases ht with ht | ht
      · exact (neat_of_extract he).signatures t ht
      · exact (neat_of_extract he).errors t ht
    exact ⟨hneat.1, hneat.2, hneat.isBlank_head?, hneat.isBlank_getLast?, hneat.plain.2,
      hneat.not_infix_spaces⟩

theorem extract_collapsed_signs :
    let body := "<p funcsynopsis>\u00a0 &lt;\u2003;\ta<b> </b>\x0b&gt; </div>".toList
    let e : Extract := ⟨["< ;".toList, "a >".toList], []⟩
    extract .raw body = .ok e ∧ ∀ t ∈ e.signatures, t ≠ [] ∧ Text.collapse t = t := by
  intro body e
  have he : extract .raw body = .ok e := eq_ok_of_toOption (by decide +kernel)
  refine ⟨he, ?_⟩
  intro t ht
  obtain ⟨hne, hcollapse, -⟩ := (extract_collapsed .raw body).2 e he t (.inl ht)
  exact ⟨hne, hcollapse⟩

end Page
end RefPages
