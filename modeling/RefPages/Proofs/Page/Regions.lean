import RefPages.Proofs.Page.Marked
import RefPages.Proofs.Text.Search
import RefPages.Proofs.Text.Stops

/-!
The places of a page where regions begin. A line that is searched begins a region wherever its marker
stands, unless the marker stands inside a region of that line. A line with both markers is one of the
synopsis: no region of the errors begins on it.
-/

namespace RefPages.Page

open Text (AreLines lines splitAt? splitAt?_append splitAt?_eq_none_iff)

def searched : (lines : List Text) → List Feed
  | [] => []
  | line :: pending =>
    ⟨line, pending⟩ ::
      match Section.onLine? line with
      | none => searched pending
      | some s =>
        match _hm : marked s.marker ⟨line, pending⟩ with
        | .error _ => []
        | .ok (_, rest) => searched rest
termination_by lines => (Feed.unread lines).length
decreasing_by
  · simp only [Feed.unread_cons, List.length_append, List.length_cons]
    omega
  · have := unread_marked_le _hm
    simp only [Feed.text, Feed.unread_cons, List.length_append, List.length_cons] at this ⊢
    omega

/-- The regions that `marker` begins on a line, or on the rest of the line that one of them ends on,
each with what follows it. -/
def regions (marker : Text) (f : Feed) : List (Text × Text) :=
  match _hs : splitAt? marker [] f.ahead with
  | none => []
  | some (_, after) =>
    match _hc : Feed.afterClose (fromMarkerEnd marker after) f.pending with
    | none => []
    | some content =>
      match _hr : content.region container with
      | none => []
      | some (region, rest) => (region, rest.text) :: regions marker rest
termination_by f.text.length
decreasing_by exact length_rest_lt _hs _hc _hr

def regionBehind? (marker after : Text) : Option (Text × Text) :=
  match (fromMarkerEnd marker after).dropWhile (· ≠ '>') with
  | [] => none
  | _ :: content => Region.split container 0 content

def Section.strings (e : Extract) : Section → List Text
  | synopsis => e.signatures
  | errors => e.errors

def Section.yield (s : Section) (f : Feed) : List Text :=
  if onLine? f.ahead = some s then (regions s.marker f).flatMap fun g => Prose.strings g.1 else []

theorem regions_of_none {marker : Text} {f : Feed} (hs : splitAt? marker [] f.ahead = none) :
    regions marker f = [] := by
  rw [regions]
  split
  · rfl
  · next h => cases hs.symm.trans h

theorem regions_cons {marker : Text} {f content rest : Feed} {before after region : Text}
    (hs : splitAt? marker [] f.ahead = some (before, after))
    (hc : Feed.afterClose (fromMarkerEnd marker after) f.pending = some content)
    (hr : content.region container = some (region, rest)) :
    regions marker f = (region, rest.text) :: regions marker rest := by
  rw [regions]
  split
  · next h => cases hs.symm.trans h
  · next h =>
    cases hs.symm.trans h
    split
    · next h => cases hc.symm.trans h
    · next h =>
      cases hc.symm.trans h
      split
      · next h => cases hr.symm.trans h
      · next h =>
        cases hr.symm.trans h
        rfl

theorem marked_eq_regions {marker : Text} {f : Feed} {strings pending : List Text}
    (h : marked marker f = .ok (strings, pending)) :
    strings = (regions marker f).flatMap fun g => Prose.strings g.1 := by
  fun_induction marked marker f generalizing strings pending with
  | case1 f hs =>
    cases h
    rw [regions_of_none hs, List.flatMap_nil]
  | case2 => cases h
  | case3 => cases h
  | case4 => cases h
  | case5 f before after hs content hc region rest hr strings' pending' hm ih =>
    cases h
    rw [regions_cons hs hc hr, List.flatMap_cons, ← ih hm]

theorem exists_content {marker after region : Text} {pending : List Text} {content rest : Feed}
    (hc : Feed.afterClose (fromMarkerEnd marker after) pending = some content)
    (hr : content.region container = some (region, rest)) :
    ∃ w, '>' ∉ w ∧ fromMarkerEnd marker (after ++ Feed.unread pending) =
        w ++ '>' :: (region ++ rest.text) ∧
      Region.split container 0 (region ++ rest.text) = some (region, rest.text) := by
  have happ : region ++ rest.text = content.text := Feed.region_append hr
  have hsplit := Region.read_eq_split container 0 [] content.ahead content.pending
  rw [show Region.read container 0 [] content.ahead content.pending = some (region, rest) from hr]
    at hsplit
  rcases Feed.afterClose_eq (fromMarkerEnd marker after) pending with ⟨hn, -⟩ | ⟨f, w, hf, hw, ht⟩
  · cases hn.symm.trans hc
  · cases hf.symm.trans hc
    refine ⟨w, hw, ?_, ?_⟩
    · rw [fromMarkerEnd_append, ht, happ]
    · rw [happ]
      simpa [Feed.text] using hsplit.symm

theorem regionBehind?_eq {marker after w content : Text} {g : Text × Text} (hw : '>' ∉ w)
    (h : fromMarkerEnd marker after = w ++ '>' :: content)
    (hs : Region.split container 0 content = some g) : regionBehind? marker after = some g := by
  rw [regionBehind?, h, Text.dropWhile_ne hw]
  exact hs

theorem length_lt_of_ne {s t : Text} (h : t <+: s) (hne : t ≠ s) : t.length < s.length :=
  Nat.lt_of_le_of_ne h.length_le fun hlength => hne (h.eq_of_length hlength)

theorem Section.not_suffix_of_closing {s : Section} {t region : Text} (ht : t <+: s.marker)
    (hnil : t ≠ []) (hne : t ≠ s.marker) (hclose : Region.closing container <:+ region) :
    ¬t <:+ region := by
  have key : ∀ n < s.marker.length, n ≠ 0 →
      ¬(s.marker.take n <:+ Region.closing container) ∧
        ¬(Region.closing container <:+ s.marker.take n) := by
    cases s <;> decide
  obtain ⟨h₁, h₂⟩ := key t.length (length_lt_of_ne ht hne) (by simpa using hnil)
  rw [← List.prefix_iff_eq_take.mp ht] at h₁ h₂
  intro hs
  rcases List.suffix_or_suffix_of_suffix hs hclose with h | h
  · exact h₁ h
  · exact h₂ h

theorem Section.not_suffix_of_content {s : Section} {m w t before after content : Text} {c : Char}
    (hm : s.marker = m ++ [c]) (hw : '>' ∉ w)
    (hcontent : fromMarkerEnd s.marker after = w ++ '>' :: content) (ht : t <+: s.marker)
    (hnil : t ≠ []) (hne : t ≠ s.marker) : ¬t <:+ before ++ (m ++ (w ++ ['>'])) := by
  intro hs
  cases s with
  | synopsis =>
    simp only [← List.append_assoc] at hs
    obtain rfl | ⟨u, rfl, -⟩ := List.suffix_concat_iff.mp hs
    · exact hnil rfl
    · have hclose : '>' ∈ Section.synopsis.marker := ht.subset (by simp)
      revert hclose
      decide
  | errors =>
    obtain rfl : c = '>' := by
      have hlast := congrArg List.getLast? hm
      rw [List.getLast?_concat] at hlast
      exact (Option.some.inj hlast).symm
    obtain rfl : w = [] := by
      rw [fromMarkerEnd_eq hm] at hcontent
      cases w with
      | nil => rfl
      | cons d w =>
        obtain rfl := List.head_eq_of_cons_eq hcontent
        simp at hw
    rw [List.nil_append, ← hm] at hs
    have hsuffix : t <:+ Section.errors.marker :=
      List.suffix_of_suffix_length_le hs (List.suffix_append ..) ht.length_le
    have key : ∀ n < Section.errors.marker.length, n ≠ 0 →
        ¬(Section.errors.marker.take n <:+ Section.errors.marker) := by
      decide
    apply key t.length (length_lt_of_ne ht hne) (by simpa using hnil)
    rwa [← List.prefix_iff_eq_take.mp ht]

theorem inside_or_behind {s : Section} {region back u after : Text}
    (h : region ++ back = u ++ s.marker ++ after) (hclose : Region.closing container <:+ region) :
    (∃ v, region = u ++ s.marker ++ v ∧ v ++ back = after) ∨
      ∃ v, back = v ++ s.marker ++ after := by
  rcases List.append_eq_append_iff.mp h with ⟨v, hv, rfl⟩ | ⟨v, hregion, hafter⟩
  · rcases List.append_eq_append_iff.mp hv with ⟨z, hregion, hmarker⟩ | ⟨z, -, rfl⟩
    · by_cases hz : z = []
      · rw [hz, List.nil_append] at hmarker
        exact .inr ⟨[], by rw [hmarker, List.nil_append]⟩
      · by_cases hall : z = s.marker
        · have hv : v = [] := by
            rw [← hall] at hmarker
            exact List.self_eq_append_right.mp hmarker
          exact .inl ⟨[], by rw [hregion, hall, List.append_nil], by rw [hv]; rfl⟩
        · have hcut : ¬z <:+ region :=
            Section.not_suffix_of_closing ⟨v, hmarker.symm⟩ hz hall hclose
          exact absurd ⟨u, hregion.symm⟩ hcut
    · exact .inr ⟨z, rfl⟩
  · exact .inl ⟨v, hregion, hafter.symm⟩

theorem exists_close_of_eq {before₁ before m w y : Text} {c : Char} (hw : '>' ∉ w)
    (hfirst : before₁.length ≤ before.length)
    (h : before₁ ++ (m ++ (w ++ ['>'])) = before ++ (m ++ [c] ++ y)) :
    ∃ w', '>' ∉ w' ∧ c :: y = w' ++ ['>'] := by
  have hlength := congrArg List.length h
  simp only [List.length_append, List.length_cons, List.length_nil] at hlength
  have hy : c :: y <:+ before₁ ++ (m ++ (w ++ ['>'])) := ⟨before ++ m, by rw [h]; simp⟩
  have hclose : w ++ ['>'] <:+ before₁ ++ (m ++ (w ++ ['>'])) := ⟨before₁ ++ m, by simp⟩
  have hle : (c :: y).length ≤ (w ++ ['>']).length := by
    simp only [List.length_append, List.length_cons, List.length_nil]
    omega
  have hsuffix := List.suffix_of_suffix_length_le hy hclose hle
  obtain hnil | ⟨w', hy, hw'⟩ := List.suffix_concat_iff.mp hsuffix
  · cases hnil
  · exact ⟨w', fun hc => hw (hw'.subset hc), hy⟩

theorem occurrence_cases {s : Section} {before₁ after₁ before after w region back : Text}
    (h : before₁ ++ s.marker ++ after₁ = before ++ s.marker ++ after)
    (hfirst : before₁.length ≤ before.length) (hw : '>' ∉ w)
    (hcontent : fromMarkerEnd s.marker after₁ = w ++ '>' :: (region ++ back))
    (hclose : Region.closing container <:+ region) :
    (∃ w', '>' ∉ w' ∧ fromMarkerEnd s.marker after = w' ++ '>' :: (region ++ back)) ∨
      (∃ u v, region = u ++ s.marker ++ v ∧ v ++ back = after) ∨
        ∃ v, back = v ++ s.marker ++ after := by
  obtain ⟨m, c, hm, -⟩ := s.marker_ends
  have hfront : before₁ ++ (m ++ (w ++ ['>'])) ++ (region ++ back) =
      before ++ (s.marker ++ after) := by
    rw [fromMarkerEnd_eq hm] at hcontent
    rw [← List.append_assoc before, ← h, hm]
    simp [hcontent]
  have same {y : Text} (hy : before₁ ++ (m ++ (w ++ ['>'])) = before ++ (s.marker ++ y))
      (hafter : after = y ++ (region ++ back)) :
      ∃ w', '>' ∉ w' ∧ fromMarkerEnd s.marker after = w' ++ '>' :: (region ++ back) := by
    rw [hm] at hy
    obtain ⟨w', hw', hc⟩ := exists_close_of_eq hw hfirst hy
    refine ⟨w', hw', ?_⟩
    rw [fromMarkerEnd_eq hm, hafter, ← List.cons_append, hc, List.append_assoc]
    rfl
  -- The content of the first region begins before the marker does, behind its end, or inside it.
  rcases List.append_eq_append_iff.mp hfront with ⟨u, -, hrest⟩ | ⟨t, hbefore, hrest⟩
  · rw [← List.append_assoc u] at hrest
    exact .inr ((inside_or_behind hrest hclose).imp_left fun h => ⟨u, h⟩)
  · rcases List.append_eq_append_iff.mp hrest with ⟨y, rfl, hafter⟩ | ⟨y, hmarker, hrest⟩
    · exact .inl (same hbefore hafter)
    · by_cases ht : t = []
      · rw [ht, List.nil_append] at hmarker
        rw [← hmarker, ← List.nil_append s.marker] at hrest
        exact .inr ((inside_or_behind hrest hclose).imp_left fun h => ⟨[], h⟩)
      · by_cases hall : t = s.marker
        · have hy : y = [] := by
            rw [← hall] at hmarker
            exact List.self_eq_append_right.mp hmarker
          have hafter : after = [] ++ (region ++ back) := by rw [hrest, hy]; rfl
          exact .inl (same (by rw [hbefore, hall, List.append_nil]) hafter)
        · have hcut : ¬t <:+ before₁ ++ (m ++ (w ++ ['>'])) :=
            Section.not_suffix_of_content hm hw hcontent ⟨y, hmarker.symm⟩ ht hall
          exact absurd ⟨before, hbefore.symm⟩ hcut

theorem rest_suffix {s : Section} {f content rest : Feed} {before after region : Text}
    (hs : splitAt? s.marker [] f.ahead = some (before, after))
    (hc : Feed.afterClose (fromMarkerEnd s.marker after) f.pending = some content)
    (hr : content.region container = some (region, rest)) : rest.text <:+ f.text := by
  obtain ⟨m, hm, -⟩ := Section.exists_fromMarkerEnd hs
  have hrest : rest.text <:+ content.text := ⟨region, Feed.region_append hr⟩
  have hcontent := (List.suffix_cons '>' content.text).trans (Feed.afterClose_suffix hc)
  apply (hrest.trans hcontent).trans
  rw [Feed.text, hm, List.append_assoc]
  exact List.suffix_append ..

theorem marker_on_line {s : Section} {f : Feed} {strings pending : List Text}
    (hm : marked s.marker f = .ok (strings, pending)) (ha : '\n' ∉ f.ahead)
    (hp : AreLines f.pending) {before after : Text} (h : f.ahead = before ++ s.marker ++ after) :
    (∃ g ∈ regions s.marker f, ∃ u v, g.1 = u ++ s.marker ++ v ∧
        v ++ g.2 = after ++ Feed.unread f.pending) ∨
      ∃ g ∈ regions s.marker f,
        regionBehind? s.marker (after ++ Feed.unread f.pending) = some g := by
  fun_induction marked s.marker f generalizing strings pending before after with
  | case1 f hs => exact absurd ⟨before, after, h.symm⟩ (splitAt?_eq_none_iff.mp hs)
  | case2 => cases hm
  | case3 => cases hm
  | case4 => cases hm
  | case5 f before₁ after₁ hs content hc region rest hr strings' pending' hm' ih =>
    rw [regions_cons hs hc hr]
    obtain ⟨w, hw, hcontent, hsplit⟩ := exists_content hc hr
    have hclose := Region.closing_suffix_of_split hsplit
    have happ : before₁ ++ s.marker ++ after₁ = f.ahead := splitAt?_append hs
    have hfirst : before₁.length ≤ before.length := (Text.isPrefix_of_splitAt? hs h).length_le
    have htext : before₁ ++ s.marker ++ (after₁ ++ Feed.unread f.pending) =
        before ++ s.marker ++ (after ++ Feed.unread f.pending) := by
      rw [← List.append_assoc, happ, h, List.append_assoc]
    rcases occurrence_cases htext hfirst hw hcontent hclose with
      ⟨w', hw', hown⟩ | ⟨u, v, hu, hv⟩ | ⟨v, hv⟩
    · exact .inr ⟨_, List.mem_cons_self .., regionBehind?_eq hw' hown hsplit⟩
    · exact .inl ⟨_, List.mem_cons_self .., u, v, hu, hv⟩
    · -- The region ends on the line, so that the lines behind it are still to be loaded.
      have hsuffix : rest.text <:+ f.text := rest_suffix hs hc hr
      rw [← List.append_assoc] at hv
      obtain ⟨hra, hrp⟩ := region_lines hs hc hr ha hp
      obtain ⟨hahead, hpending⟩ := Feed.eq_of_suffix hsuffix hv ha hp hra hrp
      have hlater := ih hm' hra hrp hahead
      rw [hpending] at hlater
      rcases hlater with ⟨g, hg, hinside⟩ | ⟨g, hg, hown⟩
      · exact .inl ⟨g, List.mem_cons_of_mem _ hg, hinside⟩
      · exact .inr ⟨g, List.mem_cons_of_mem _ hg, hown⟩

theorem searched_of_none {line : Text} {pending : List Text}
    (hs : Section.onLine? line = none) :
    searched (line :: pending) = ⟨line, pending⟩ :: searched pending := by
  rw [searched, hs]

theorem searched_of_ok {s : Section} {line : Text} {pending strings rest : List Text}
    (hs : Section.onLine? line = some s)
    (hm : marked s.marker ⟨line, pending⟩ = .ok (strings, rest)) :
    searched (line :: pending) = ⟨line, pending⟩ :: searched rest := by
  rw [searched, hs]
  dsimp only
  split
  · next h => cases hm.symm.trans h
  · next h =>
    cases hm.symm.trans h
    rfl

theorem marked_lines {s : Section} {f : Feed} {strings pending : List Text}
    (h : marked s.marker f = .ok (strings, pending)) (ha : '\n' ∉ f.ahead)
    (hp : AreLines f.pending) : AreLines pending := by
  fun_induction marked s.marker f generalizing strings pending with
  | case1 =>
    cases h
    exact hp
  | case2 => cases h
  | case3 => cases h
  | case4 => cases h
  | case5 f before after hs content hc region rest hr strings' pending' hm ih =>
    cases h
    obtain ⟨hra, hrp⟩ := region_lines hs hc hr ha hp
    exact ih hm hra hrp

theorem Section.strings_append (s part : Section) (found : List Text) (e : Extract) :
    s.strings (Block.extract ⟨part, found⟩ ++ e) = (if part = s then found else []) ++ s.strings e := by
  cases s <;> cases part <;> rfl

theorem strings_eq_of_outcome {ls : List Text} {e : Extract} (h : outcome (blocks ls) = .ok e)
    (s : Section) : s.strings e = (searched ls).flatMap s.yield := by
  induction ls using blocks.induct generalizing e with
  | case1 =>
    rw [blocks] at h
    cases h
    rw [searched]
    cases s <;> rfl
  | case2 line pending hs ih =>
    rw [outcome_blocks_of_none hs] at h
    have hyield : s.yield ⟨line, pending⟩ = [] := by
      rw [Section.yield, hs]
      rfl
    rw [searched_of_none hs, List.flatMap_cons, hyield, List.nil_append, ih h]
  | case3 line pending part hs fault hm =>
    rw [outcome_blocks_of_error hs hm] at h
    cases h
  | case4 line pending part hs found rest hm _ _ _ ih =>
    obtain ⟨y, hy, rfl⟩ := exists_of_outcome_blocks hs hm h
    have hyield : s.yield ⟨line, pending⟩ = if part = s then found else [] := by
      rw [Section.yield, hs]
      by_cases hpart : part = s
      · rw [if_pos hpart, if_pos (congrArg some hpart), ← hpart, ← marked_eq_regions hm]
      · rw [if_neg hpart, if_neg fun hsome => hpart (Option.some.inj hsome)]
    rw [Section.strings_append, searched_of_ok hs hm, List.flatMap_cons, hyield, ih hy]

theorem marked_of_mem_searched {ls : List Text} {e : Extract} (h : outcome (blocks ls) = .ok e)
    (hl : AreLines ls) {f : Feed} (hf : f ∈ searched ls) :
    '\n' ∉ f.ahead ∧ AreLines f.pending ∧
      ∀ s, Section.onLine? f.ahead = some s → ∃ found, marked s.marker f = .ok found := by
  induction ls using blocks.induct generalizing e with
  | case1 =>
    rw [searched] at hf
    cases hf
  | case2 line pending hs ih =>
    have hline := hl line (List.mem_cons_self ..)
    have hpending := hl.of_suffix (List.suffix_cons line pending)
    rw [outcome_blocks_of_none hs] at h
    rw [searched_of_none hs] at hf
    rcases List.mem_cons.mp hf with rfl | hf
    · refine ⟨hline, hpending, ?_⟩
      intro s hsome
      cases hs.symm.trans hsome
    · exact ih h hpending hf
  | case3 line pending part hs fault hm =>
    rw [outcome_blocks_of_error hs hm] at h
    cases h
  | case4 line pending part hs found rest hm _ _ _ ih =>
    have hline := hl line (List.mem_cons_self ..)
    have hpending := hl.of_suffix (List.suffix_cons line pending)
    obtain ⟨y, hy, -⟩ := exists_of_outcome_blocks hs hm h
    rw [searched_of_ok hs hm] at hf
    rcases List.mem_cons.mp hf with rfl | hf
    · refine ⟨hline, hpending, ?_⟩
      intro s hsome
      cases hs.symm.trans hsome
      exact ⟨_, hm⟩
    · exact ih hy (marked_lines hm hline hpending) hf

theorem infix_flatMap {α β : Type} (f : α → List β) {a : α} {as : List α} (h : a ∈ as) :
    f a <:+: as.flatMap f := by
  rw [List.flatMap_def]
  exact List.infix_of_mem_flatten (List.mem_map_of_mem h)

theorem onLine?_of_infix {s : Section} {line : Text} (hi : s.marker <:+: line)
    (hs : s = .errors → ¬Section.synopsis.marker <:+: line) : Section.onLine? line = some s := by
  rw [← Text.contains_iff] at hi
  rw [Section.onLine?]
  cases s with
  | synopsis => rw [if_pos hi]
  | errors => rw [if_neg (mt Text.contains_iff.mp (hs rfl)), if_pos hi]

/-- A page that is read consists, for each section, of what the regions of the lines that are
searched yield. A marker on such a line begins one of them or is inside one of them, unless it is one
of the errors and the line has one of the synopsis. -/
theorem scan_markers {body : Text} {e : Extract} (h : scan body = .ok e) (s : Section) :
    s.strings e = (searched (lines body)).flatMap s.yield ∧
      ∀ f ∈ searched (lines body), (s = .errors → ¬Section.synopsis.marker <:+: f.ahead) →
        ∀ before after, f.ahead = before ++ s.marker ++ after →
          (∃ g ∈ regions s.marker f, ∃ u v, g.1 = u ++ s.marker ++ v ∧
              v ++ g.2 = after ++ Feed.unread f.pending) ∨
            ∃ g ∈ regions s.marker f,
              regionBehind? s.marker (after ++ Feed.unread f.pending) = some g ∧
                Prose.strings g.1 <:+: s.strings e := by
  rw [scan_eq_outcome] at h
  have hstrings := strings_eq_of_outcome h s
  refine ⟨hstrings, ?_⟩
  intro f hf hboth before after hocc
  have hs := onLine?_of_infix ⟨before, after, hocc.symm⟩ hboth
  obtain ⟨ha, hp, hmarked⟩ := marked_of_mem_searched h (Text.areLines_lines body) hf
  obtain ⟨⟨found, pending⟩, hm⟩ := hmarked s hs
  rcases marker_on_line hm ha hp hocc with hinside | ⟨g, hg, hown⟩
  · exact .inl hinside
  · refine .inr ⟨g, hg, hown, ?_⟩
    have hregion : Prose.strings g.1 <:+: s.yield f := by
      rw [Section.yield, if_pos hs]
      exact infix_flatMap (fun g => Prose.strings g.1) hg
    rw [hstrings]
    exact hregion.trans (infix_flatMap s.yield hf)

theorem scan_markers_line :
    let before := "<p funcsynopsis>f</div><b>".toList
    let after := "</b>g(".toList
    let f : Feed := ⟨before ++ Section.synopsis.marker ++ after, [");</div>".toList]⟩
    let e : Extract := ⟨["f".toList, "g( );".toList], []⟩
    scan f.text = .ok e ∧ f ∈ searched (lines f.text) ∧
      ∃ g ∈ regions Section.synopsis.marker f,
        regionBehind? Section.synopsis.marker (after ++ Feed.unread f.pending) = some g ∧
          Prose.strings g.1 <:+: e.signatures := by
  intro before after f e
  have he : scan f.text = .ok e := eq_ok_of_toOption (by decide +kernel)
  have hf : f ∈ searched (lines f.text) := by decide +kernel
  have hoff : ∀ g ∈ regions Section.synopsis.marker f,
      Text.contains Section.synopsis.marker g.1 = false := by
    decide +kernel
  refine ⟨he, hf, ?_⟩
  have hmarkers := (scan_markers he .synopsis).2 f hf (by intro h; cases h) before after rfl
  rcases hmarkers with ⟨g, hg, u, v, hu, -⟩ | hown
  · have hin := Text.contains_iff.mpr ⟨u, v, hu.symm⟩
    rw [hoff g hg] at hin
    cases hin
  · exact hown

theorem scan_errors_beside_synopsis :
    let before := "<div class=\"funcsynopsis\">void glFlush(void);</div><div>".toList
    let after := "<p>GL_X is generated.</p></div>".toList
    let f : Feed := ⟨before ++ Section.errors.marker ++ after, []⟩
    scan f.text = .ok ⟨["void glFlush(void);".toList], []⟩ ∧ f ∈ searched (lines f.text) ∧
      (∀ g ∈ regions Section.synopsis.marker f, ¬Section.errors.marker <:+: g.1) ∧
        ∃ g, regionBehind? Section.errors.marker (after ++ Feed.unread f.pending) = some g ∧
          Prose.strings g.1 = ["GL_X is generated.".toList] := by
  intro before after f
  have hoff : ∀ g ∈ regions Section.synopsis.marker f,
      Text.contains Section.errors.marker g.1 = false := by
    decide +kernel
  refine ⟨eq_ok_of_toOption (by decide +kernel), by decide +kernel, ?_, (after, []),
    by decide +kernel, by decide +kernel⟩
  intro g hg hin
  rw [← Text.contains_iff, hoff g hg] at hin
  cases hin

end RefPages.Page
