import RefPages.Proofs.Page.Marked
import RefPages.Proofs.Scan.Behind
import RefPages.Proofs.Text.Search

namespace RefPages.Page

open Text (lines splitAt? withoutReturn)
open Feed (addReturn returnBehind)

theorem marked_before {marker : Text} {f : Feed} {strings pending : List Text}
    (h : marked marker f = .ok (strings, pending)) (more : List Text) :
    marked marker (f.before more) = .ok (strings, pending ++ more) := by
  fun_induction marked marker f generalizing strings pending with
  | case1 f hs =>
    cases h
    rw [marked_unfold, Feed.before, hs]
  | case2 => cases h
  | case3 => cases h
  | case4 => cases h
  | case5 f before after hs content hc region rest hr strings' pending' hm ih =>
    cases h
    rw [marked_unfold, Feed.before, hs]
    dsimp only
    rw [Feed.afterClose_before hc]
    dsimp only
    rw [Feed.region_before hr]
    dsimp only
    rw [ih hm]
    rfl

theorem outcome_blocks_append {ls : List Text} {x : Extract} (h : outcome (blocks ls) = .ok x)
    (more : List Text) :
    outcome (blocks (ls ++ more)) = (outcome (blocks more)).map (x ++ ·) := by
  induction ls using blocks.induct generalizing x with
  | case1 =>
    rw [blocks] at h
    cases h
    rw [List.nil_append]
    cases outcome (blocks more) <;> rfl
  | case2 line pending hs ih =>
    rw [outcome_blocks_of_none hs] at h
    rw [List.cons_append, outcome_blocks_of_none hs, ih h]
  | case3 line pending s hs fault hm =>
    rw [outcome_blocks_of_error hs hm] at h
    cases h
  | case4 line pending s hs found rest hm _ _ _ ih =>
    obtain ⟨y, hy, rfl⟩ := exists_of_outcome_blocks hs hm h
    rw [List.cons_append, outcome_blocks_of_ok hs (marked_before hm more), ih hy]
    cases outcome (blocks more) with
    | error fault => rfl
    | ok z => exact congrArg Except.ok (append_append _ y z).symm

theorem splitAt?_returnBehind (s : Section) (ahead : Text) (pending : List Text) :
    splitAt? s.marker [] (ahead ++ returnBehind pending) =
      (splitAt? s.marker [] ahead).map fun x => (x.1, x.2 ++ returnBehind pending) := by
  cases pending with
  | nil =>
    apply Text.splitAt?_concat s.marker_ne_nil
    cases s <;> decide
  | cons line pending => simp [returnBehind]

theorem onLine?_returnBehind (line : Text) (pending : List Text) :
    Section.onLine? (line ++ returnBehind pending) = Section.onLine? line := by
  have contains (s : Section) :
      Text.contains s.marker (line ++ returnBehind pending) = Text.contains s.marker line := by
    rw [Text.contains, Text.contains, splitAt?_returnBehind, Option.isSome_map]
  rw [Section.onLine?, Section.onLine?, contains, contains]

theorem marked_of_withReturn {s : Section} {f g : Feed} {strings pending : List Text}
    (h : marked s.marker g = .ok (strings, pending)) (hg : g = f.withReturn) :
    ∃ pending', marked s.marker f = .ok (strings, pending') ∧ pending = addReturn pending' := by
  fun_induction marked s.marker g generalizing f strings pending with
  | case1 g hs =>
    subst hg
    cases h
    rw [Feed.withReturn, splitAt?_returnBehind, Option.map_eq_none_iff] at hs
    exact ⟨f.pending, by rw [marked_unfold, hs], rfl⟩
  | case2 => cases h
  | case3 => cases h
  | case4 => cases h
  | case5 g before after hs content hc region rest hr strings' pending' hm ih =>
    subst hg
    cases h
    rw [Feed.withReturn, splitAt?_returnBehind] at hs
    obtain ⟨⟨before', after'⟩, hs', he⟩ := Option.map_eq_some_iff.mp hs
    cases he
    rw [Feed.withReturn, fromMarkerEnd_append, Feed.afterClose_withReturn] at hc
    obtain ⟨content', hc', rfl⟩ := Option.map_eq_some_iff.mp hc
    obtain ⟨rest', hr', rfl⟩ := Feed.region_of_withReturn hr
    obtain ⟨pending'', hm', rfl⟩ := ih hm rfl
    refine ⟨pending'', ?_, rfl⟩
    rw [marked_unfold, hs']
    dsimp only
    rw [hc']
    dsimp only
    rw [hr']
    dsimp only
    rw [hm']
    rfl

theorem outcome_blocks_of_addReturn {ls : List Text} {x : Extract}
    (h : outcome (blocks (addReturn ls)) = .ok x) : outcome (blocks ls) = .ok x := by
  induction ls using blocks.induct generalizing x with
  | case1 => exact h
  | case2 line pending hs ih =>
    rw [addReturn, outcome_blocks_of_none (onLine?_returnBehind line pending ▸ hs)] at h
    rw [outcome_blocks_of_none hs, ih h]
  | case3 line pending s hs fault hm =>
    have hs' := (onLine?_returnBehind line pending).trans hs
    rw [addReturn] at h
    cases hr : marked s.marker (Feed.withReturn ⟨line, pending⟩) with
    | error fault =>
      rw [outcome_blocks_of_error hs' hr] at h
      cases h
    | ok found =>
      obtain ⟨pending', hm', -⟩ := marked_of_withReturn hr rfl
      rw [hm] at hm'
      cases hm'
  | case4 line pending s hs found rest hm _ _ _ ih =>
    have hs' := (onLine?_returnBehind line pending).trans hs
    rw [addReturn] at h
    cases hr : marked s.marker (Feed.withReturn ⟨line, pending⟩) with
    | error fault =>
      rw [outcome_blocks_of_error hs' hr] at h
      cases h
    | ok found' =>
      obtain ⟨pending', hm', hp⟩ := marked_of_withReturn hr rfl
      rw [hm] at hm'
      cases hm'
      obtain ⟨y, hy, rfl⟩ := exists_of_outcome_blocks hs' hr h
      rw [hp] at hy
      rw [outcome_blocks_of_ok hs hm, ih hy]
      rfl

theorem outcome_lines_append {a : Text} {x : Extract} (h : outcome (blocks (lines a)) = .ok x)
    (b : Text) :
    outcome (blocks (lines (a ++ '\n' :: b))) = (outcome (blocks (lines b))).map (x ++ ·) := by
  obtain ⟨ps, p, hp⟩ : ∃ ps p, a.splitOn '\n' = ps ++ [p] :=
    ⟨_, _, (List.dropLast_concat_getLast (List.splitOn_ne_nil '\n' a)).symm⟩
  rw [lines, hp, List.dropLast_concat, List.getLast?_concat] at h
  rw [Text.lines_append_break, hp, List.map_append, List.append_assoc]
  by_cases he : p = []
  · -- The line feed between the parts makes a line of its own.
    subst he
    rw [outcome_blocks_append (by simpa using h), List.map_singleton, List.singleton_append]
    rw [outcome_blocks_of_none rfl]
  · have hfilter : [p].filter (fun l => !l.isEmpty) = [p] := by simp [he]
    rw [Option.toList_some, hfilter] at h
    rw [← List.append_assoc, List.map_singleton]
    refine outcome_blocks_append ?_ (lines b)
    by_cases hr : p.getLast? = some '\r'
    · -- The line feed takes the carriage return before it into the end of the line.
      obtain ⟨q, rfl⟩ := List.getLast?_eq_some_iff.mp hr
      rw [withoutReturn, if_pos hr, List.dropLast_concat]
      rw [← Feed.addReturn_append] at h
      exact outcome_blocks_of_addReturn h
    · rwa [withoutReturn, if_neg hr]

/-- What a part that is read whole yields stays as it is whatever follows it, and what follows
yields what it yields alone. -/
theorem scan_append_break {a : Text} {x : Extract} (h : scan a = .ok x) (b : Text) :
    scan (a ++ '\n' :: b) =
      (scan b).map fun y => ⟨x.signatures ++ y.signatures, x.errors ++ y.errors⟩ := by
  rw [scan_eq_outcome] at h
  rw [scan_eq_outcome, scan_eq_outcome, outcome_lines_append h b]
  rfl

theorem scan_append_break_return :
    let a := "<div funcsynopsis>f(\n);</div> <div funcsynopsis>g();</div>\r".toList
    let x : Extract := ⟨["f( );".toList, "g();".toList], []⟩
    let b := "<h2>Errors</h2>e</div>".toList
    scan a = .ok x ∧ scan (a ++ '\n' :: b) = .ok ⟨x.signatures, ["e".toList]⟩ := by
  intro a x b
  have ha : scan a = .ok x := eq_ok_of_toOption (by decide +kernel)
  have hb : scan b = .ok ⟨[], ["e".toList]⟩ := eq_ok_of_toOption (by decide +kernel)
  exact ⟨ha, by rw [scan_append_break ha, hb]; rfl⟩

end RefPages.Page
