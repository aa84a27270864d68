import RefPages.Proofs.Page.ByOffset.Region

namespace RefPages.Page.ByOffset

open Text

theorem first?_marker (s : Section) (f : Feed) (front : Text) :
    first? s.marker (front ++ f.text) front.byteSize (front ++ f.ahead).byteSize =
      (splitAt? s.marker [] f.ahead).map fun x => front.byteSize + x.1.byteSize := by
  rw [Feed.text, ← List.append_assoc, byteSize_append]
  exact first?_eq (Section.marker_ne_nil s) ..

theorem first?_close {s : Section} {f : Feed} {before after : Text}
    (h : splitAt? s.marker [] f.ahead = some (before, after)) (front : Text) :
    match Feed.afterClose (fromMarkerEnd s.marker after) f.pending with
    | none =>
      first? ['>'] (front ++ f.text) (front.byteSize + before.byteSize + s.marker.byteSize - 1)
        (front ++ f.text).byteSize = none
    | some content => ∃ front', front ++ f.text = front' ++ '>' :: content.text ∧
      first? ['>'] (front ++ f.text) (front.byteSize + before.byteSize + s.marker.byteSize - 1)
        (front ++ f.text).byteSize = some front'.byteSize := by
  obtain ⟨m, hahead, hm⟩ := Section.exists_fromMarkerEnd h
  have ht : front ++ f.text =
      (front ++ before ++ m) ++ (fromMarkerEnd s.marker after ++ Feed.unread f.pending) := by
    rw [Feed.text, hahead]
    simp
  have hn : front.byteSize + before.byteSize + s.marker.byteSize - 1 =
      (front ++ before ++ m).byteSize := by
    rw [byteSize_append, byteSize_append]
    omega
  rw [hn, ht]
  rcases Feed.afterClose_eq (fromMarkerEnd s.marker after) f.pending with
    ⟨hf, hmem⟩ | ⟨content, w, hf, hw, he⟩
  · rw [hf]
    exact first?_char_eq_none _ hmem
  · rw [hf, he]
    refine ⟨front ++ before ++ m ++ w, by simp, ?_⟩
    rw [first?_char _ _ hw, byteSize_append _ w]

theorem regionEnd?_region (tag : Text) (content : Feed) (front : Text) :
    regionEnd? tag (front ++ '>' :: content.text) 0 (front.byteSize + 1) =
      (content.region tag).map fun x => (front ++ '>' :: x.1).byteSize := by
  have h := regionEnd?_eq_split tag 0 (front ++ ['>']) content.text
  rw [← Feed.region_eq_split, Option.map_map, List.append_assoc, byteSize_append] at h
  refine Eq.trans h (congrFun (congrArg Option.map (funext fun x => ?_)) _)
  simp only [Function.comp_def, byteSize_append, byteSize_cons, byteSize_nil]
  omega

theorem lineEnd_region {content rest : Feed} {region : Text}
    (h : content.region container = some (region, rest)) (hl : '\n' ∉ rest.ahead) (front : Text) :
    lineEnd (front ++ (region ++ rest.text)) ((front ++ region).byteSize - 1) =
      (front ++ region ++ rest.ahead).byteSize := by
  obtain ⟨r, hr⟩ : "</div".toList ++ ['>'] <:+ region := by
    have := Feed.region_eq_split container content
    rw [h] at this
    exact Region.closing_suffix_of_split this.symm
  have hsize : (front ++ region).byteSize - 1 = (front ++ (r ++ "</div".toList)).byteSize := by
    rw [← hr, ← List.append_assoc r, ← List.append_assoc front, byteSize_append _ ['>']]
    rfl
  have := @lineEnd_eq ('>' :: rest.ahead) (front ++ (r ++ "</div".toList)) rest.pending
    (by simp [hl])
  rw [hsize, ← hr]
  simpa [Feed.text] using this

theorem marked_region {s : Section} {f content rest : Feed} {before after region : Text}
    (hs : splitAt? s.marker [] f.ahead = some (before, after))
    (hclose : Feed.afterClose (fromMarkerEnd s.marker after) f.pending = some content)
    (hr : content.region container = some (region, rest)) (hl : '\n' ∉ rest.ahead)
    (front : Text) :
    ∃ front', front ++ f.text = front' ++ rest.text ∧
      marked (front ++ f.text) s.marker front.byteSize (front ++ f.ahead).byteSize =
        (marked (front ++ f.text) s.marker front'.byteSize (front' ++ rest.ahead).byteSize).map
          fun x => (Prose.strings region ++ x.1, x.2) := by
  have hc := first?_close hs front
  rw [hclose] at hc
  obtain ⟨front', ht, hc⟩ := hc
  have he := regionEnd?_region container content front'
  rw [hr, ← ht, Option.map_some] at he
  have happ : front ++ f.text = front' ++ ['>'] ++ (region ++ rest.text) := by
    rw [ht, ← Feed.region_append hr, List.append_assoc]
    rfl
  have hone : (front' ++ ['>']).byteSize = front'.byteSize + 1 := byteSize_append front' ['>']
  have hslice : slice? (front ++ f.text) (front'.byteSize + 1) (front' ++ '>' :: region).byteSize =
      some region := by
    have := slice?_append (front' ++ ['>']) region rest.text
    rw [← byteSize_append, hone] at this
    simpa [happ] using this
  have hline := lineEnd_region hr hl (front' ++ ['>'])
  refine ⟨front' ++ '>' :: region, by simpa using happ, ?_⟩
  rw [marked_unfold, first?_marker, hs, Option.map_some]
  dsimp only
  rw [hc]
  dsimp only
  rw [he]
  dsimp only
  rw [hslice]
  dsimp only
  rw [← happ] at hline
  simp only [List.append_assoc, List.singleton_append] at hline
  rw [hline, List.append_assoc]

theorem marked_eq (s : Section) (f : Feed) (front : Text) (ha : '\n' ∉ f.ahead)
    (hp : AreLines f.pending) :
    match Page.marked s.marker f with
    | .error fault =>
      marked (front ++ f.text) s.marker front.byteSize (front ++ f.ahead).byteSize =
        .error (.unclosed fault)
    | .ok (strings, pending) =>
      AreLines pending ∧ ∃ front', front ++ f.text = front' ++ Feed.unread pending ∧
        marked (front ++ f.text) s.marker front.byteSize (front ++ f.ahead).byteSize =
          .ok (strings, front'.byteSize) := by
  -- The text in front of the feed has been passed, and its size is the offset reached.
  fun_induction Page.marked s.marker f generalizing front with
  | case1 f hs =>
    refine ⟨hp, front ++ f.ahead, by simp [Feed.text], ?_⟩
    rw [marked_unfold, first?_marker, hs]
    rfl
  | case2 f before after hs hclose =>
    have hc := first?_close hs front
    rw [hclose] at hc
    dsimp only at hc ⊢
    rw [marked_unfold, first?_marker, hs, Option.map_some]
    dsimp only
    rw [hc]
  | case3 f before after hs content hclose hr =>
    have hc := first?_close hs front
    rw [hclose] at hc
    obtain ⟨front', ht, hc⟩ := hc
    have he := regionEnd?_region container content front'
    rw [hr, ← ht, Option.map_none] at he
    dsimp only
    rw [marked_unfold, first?_marker, hs, Option.map_some]
    dsimp only
    rw [hc]
    dsimp only
    rw [he]
  | case4 f before after hs content hclose region rest hr fault hm ih =>
    obtain ⟨hl, hlp⟩ := region_lines hs hclose hr ha hp
    obtain ⟨front', ht, he⟩ := marked_region hs hclose hr hl front
    have := ih front' hl hlp
    rw [hm, ← ht] at this
    dsimp only at this ⊢
    rw [he, this]
    rfl
  | case5 f before after hs content hclose region rest hr strings pending hm ih =>
    obtain ⟨hl, hlp⟩ := region_lines hs hclose hr ha hp
    obtain ⟨front', ht, he⟩ := marked_region hs hclose hr hl front
    have := ih front' hl hlp
    rw [hm, ← ht] at this
    obtain ⟨hpending, last, hlast, hmarked⟩ := this
    refine ⟨hpending, last, hlast, ?_⟩
    rw [he, hmarked]
    rfl

theorem find?_onLine {line : Text} (front : Text) (pending : List Text) :
    ([Section.synopsis, .errors].find? fun s =>
      (first? s.marker (front ++ (line ++ Feed.unread pending)) front.byteSize
        (front ++ line).byteSize).isSome) = Section.onLine? line := by
  have h (s : Section) : (first? s.marker (front ++ (line ++ Feed.unread pending)) front.byteSize
      (front ++ line).byteSize).isSome = contains s.marker line := by
    have := first?_marker s ⟨line, pending⟩ front
    rw [Feed.text] at this
    rw [this, Option.isSome_map, contains]
  simp only [h, List.find?_cons, List.find?_nil, Section.onLine?]
  cases contains Section.synopsis.marker line with
  | true => rfl
  | false => cases contains Section.errors.marker line <;> rfl

theorem scanFrom_line {line : Text} {pending : List Text} (h : '\n' ∉ line) (hp : AreLines pending)
    (front : Text)
    (next : ∀ rest front', AreLines rest →
      front ++ (line ++ Feed.unread pending) = front' ++ Feed.unread rest →
      (Feed.unread rest).length ≤ (line ++ Feed.unread pending).length →
      scanFrom (front' ++ Feed.unread rest) (front'.byteSize + 1) =
        (outcome (blocks rest)).mapError Fault.unclosed) :
    scanFrom (front ++ (line ++ Feed.unread pending)) front.byteSize =
      (outcome (blocks (line :: pending))).mapError Fault.unclosed := by
  rw [scanFrom_unfold (by rw [byteSize_append]; omega), lineEnd_eq front pending h, find?_onLine,
    outcome_blocks_cons]
  cases Section.onLine? line with
  | none =>
    have := next pending (front ++ line) hp (by simp) (by simp)
    rwa [List.append_assoc] at this
  | some s =>
    have he := marked_eq s ⟨line, pending⟩ front h hp
    dsimp only [Feed.text] at he ⊢
    cases hm : Page.marked s.marker ⟨line, pending⟩ with
    | error fault =>
      rw [hm] at he
      rw [he]
      rfl
    | ok x =>
      rw [hm] at he
      obtain ⟨hrest, front', ht, hmarked⟩ := he
      rw [hmarked]
      dsimp only
      rw [ht, next x.2 front' hrest ht (unread_marked_le hm)]
      cases outcome (blocks x.2) <;> rfl

theorem scanFrom_unread (lines : List Text) (h : AreLines lines) (front : Text) :
    scanFrom (front ++ Feed.unread lines) (front.byteSize + 1) =
      (outcome (blocks lines)).mapError Fault.unclosed := by
  -- A line takes its line feed at least, and a region on it takes the lines that it ends behind.
  induction hn : (Feed.unread lines).length using Nat.strongRecOn generalizing lines front with
  | ind n ih =>
    cases lines with
    | nil =>
      rw [scanFrom, dif_neg (by simp), blocks]
      rfl
    | cons line pending =>
      have hbreak : (front ++ ['\n']).byteSize = front.byteSize + 1 := byteSize_append front ['\n']
      have := scanFrom_line (h line (List.mem_cons_self ..)) (h.of_suffix (List.suffix_cons ..))
        (front ++ ['\n']) fun rest front' hrest ht hlen => by
          apply ih _ _ rest hrest front' rfl
          rw [← hn, Feed.unread_cons]
          exact Nat.lt_succ_of_le hlen
      rw [hbreak] at this
      simpa using this

theorem joinLines_cons (line : Text) (pending : List Text) :
    joinLines (line :: pending) = line ++ Feed.unread pending := by
  rw [joinLines]
  induction pending generalizing line with
  | nil => simp
  | cons next pending ih => simp [ih]

theorem scan_eq (body : Text) :
    scan (joinLines (lines body)) = (Page.scan body).mapError Fault.unclosed := by
  have h := areLines_lines body
  have read (line : Text) (pending : List Text) (h : AreLines (line :: pending)) :=
    scanFrom_line (h line (List.mem_cons_self ..)) (h.of_suffix (List.suffix_cons ..)) []
      fun rest front' hrest _ _ => scanFrom_unread rest hrest front'
  rw [scan_eq_outcome, scan]
  generalize lines body = ls at h
  cases ls with
  | nil =>
    have := read [] [] (by simp [AreLines])
    rw [outcome_blocks_cons, show Section.onLine? [] = none from rfl] at this
    exact this
  | cons line pending =>
    rw [joinLines_cons]
    exact read line pending h

end RefPages.Page.ByOffset
