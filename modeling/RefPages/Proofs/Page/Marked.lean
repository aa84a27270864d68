import RefPages.Page.Marked
import RefPages.Proofs.Scan.Loaded

namespace RefPages.Page

open Text (AreLines splitAt? splitAt?_append)

inductive Fault where
  | unclosed (e : Unclosed)
  | bounds (start stop : Nat)
  deriving DecidableEq, Repr

theorem Section.marker_ends (s : Section) : ∃ m c, s.marker = m ++ [c] ∧ c.utf8Size = 1 := by
  cases s with
  | synopsis => exact ⟨"funcsynopsi".toList, 's', rfl, rfl⟩
  | errors => exact ⟨"<h2>Errors</h2".toList, '>', rfl, rfl⟩

theorem Section.marker_ne_nil (s : Section) : s.marker ≠ [] := by
  obtain ⟨m, c, hm, -⟩ := s.marker_ends
  rw [hm]
  exact List.append_ne_nil_of_right_ne_nil m (List.cons_ne_nil c [])

theorem Section.exists_fromMarkerEnd {s : Section} {ahead before after : Text}
    (h : splitAt? s.marker [] ahead = some (before, after)) :
    ∃ m, ahead = before ++ m ++ fromMarkerEnd s.marker after ∧
      m.byteSize + 1 = s.marker.byteSize := by
  obtain ⟨m, c, hm, hc⟩ := s.marker_ends
  have happ : before ++ s.marker ++ after = ahead := splitAt?_append h
  refine ⟨m, ?_, ?_⟩
  · rw [← happ, hm]
    simp [fromMarkerEnd]
  · rw [hm, Text.byteSize_append, Text.byteSize_cons, Text.byteSize_nil, hc]

theorem fromMarkerEnd_append (marker after t : Text) :
    fromMarkerEnd marker (after ++ t) = fromMarkerEnd marker after ++ t :=
  (List.append_assoc ..).symm

theorem fromMarkerEnd_eq {s : Section} {m : Text} {c : Char} (h : s.marker = m ++ [c])
    (after : Text) : fromMarkerEnd s.marker after = c :: after := by
  rw [fromMarkerEnd, h, List.getLast?_concat]
  rfl

theorem region_lines {s : Section} {f content rest : Feed} {before after region : Text}
    (hs : splitAt? s.marker [] f.ahead = some (before, after))
    (hclose : Feed.afterClose (fromMarkerEnd s.marker after) f.pending = some content)
    (hr : content.region container = some (region, rest)) (ha : '\n' ∉ f.ahead)
    (hp : AreLines f.pending) : '\n' ∉ rest.ahead ∧ AreLines rest.pending := by
  have happ : before ++ s.marker ++ after = f.ahead := splitAt?_append hs
  have hm : '\n' ∉ fromMarkerEnd s.marker after := by
    intro hn
    apply ha
    rw [← happ]
    rcases List.mem_append.mp hn with hn | hn
    · have := List.mem_of_getLast? (Option.mem_toList.mp hn)
      simp [this]
    · simp [hn]
  obtain ⟨hca, hcp⟩ := Feed.afterClose_lines hclose hm hp
  exact Feed.region_lines hr hca hcp

theorem marked_unfold (marker : Text) (f : Feed) :
    marked marker f =
      match splitAt? marker [] f.ahead with
      | none => .ok ([], f.pending)
      | some (_, after) =>
        match Feed.afterClose (fromMarkerEnd marker after) f.pending with
        | none => .error ⟨marker⟩
        | some content =>
          match content.region container with
          | none => .error ⟨container⟩
          | some (region, rest) =>
            (marked marker rest).map fun x => (Prose.strings region ++ x.1, x.2) := by
  rw [marked]
  split
  · next hs => rw [hs]
  · next hs =>
    rw [hs]
    dsimp only
    split
    · next hc => rw [hc]
    · next hc =>
      rw [hc]
      dsimp only
      split
      · next hr => rw [hr]
      · next region rest hr =>
        rw [hr]
        dsimp only
        cases marked marker rest <;> rfl

theorem append_append (x y z : Extract) : x ++ y ++ z = x ++ (y ++ z) := by
  obtain ⟨ss, es⟩ := x
  exact Extract.mk.injEq .. ▸ ⟨List.append_assoc .., List.append_assoc ..⟩

theorem append_empty (x : Extract) : x ++ ({} : Extract) = x := by
  obtain ⟨ss, es⟩ := x
  exact Extract.mk.injEq .. ▸ ⟨List.append_nil ss, List.append_nil es⟩

def outcome : List Block × Option Unclosed → Except Unclosed Extract
  | (bs, none) => .ok (Block.extractAll bs)
  | (_, some fault) => .error fault

theorem outcome_cons (b : Block) (x : List Block × Option Unclosed) :
    outcome (b :: x.1, x.2) = (outcome x).map (b.extract ++ ·) := by
  obtain ⟨bs, fault⟩ := x
  cases fault <;> rfl

theorem outcome_blocks_cons (line : Text) (pending : List Text) :
    outcome (blocks (line :: pending)) =
      match Section.onLine? line with
      | none => outcome (blocks pending)
      | some s =>
        match Page.marked s.marker ⟨line, pending⟩ with
        | .error fault => .error fault
        | .ok (strings, rest) => (outcome (blocks rest)).map (Block.extract ⟨s, strings⟩ ++ ·) := by
  rw [blocks]
  cases Section.onLine? line with
  | none => rfl
  | some s =>
    dsimp only
    split
    · next hm => rw [hm]; rfl
    · next hm => rw [hm]; exact outcome_cons ..

theorem outcome_blocks_of_none {line : Text} (hs : Section.onLine? line = none)
    (pending : List Text) : outcome (blocks (line :: pending)) = outcome (blocks pending) := by
  rw [outcome_blocks_cons, hs]

theorem outcome_blocks_of_error {s : Section} {line : Text} {pending : List Text} {fault : Unclosed}
    (hs : Section.onLine? line = some s) (hm : marked s.marker ⟨line, pending⟩ = .error fault) :
    outcome (blocks (line :: pending)) = .error fault := by
  rw [outcome_blocks_cons, hs]
  dsimp only
  rw [hm]

theorem outcome_blocks_of_ok {s : Section} {line : Text} {pending strings rest : List Text}
    (hs : Section.onLine? line = some s)
    (hm : marked s.marker ⟨line, pending⟩ = .ok (strings, rest)) :
    outcome (blocks (line :: pending)) =
      (outcome (blocks rest)).map (Block.extract ⟨s, strings⟩ ++ ·) := by
  rw [outcome_blocks_cons, hs]
  dsimp only
  rw [hm]

theorem exists_of_outcome_blocks {s : Section} {line : Text} {pending strings rest : List Text}
    {x : Extract} (hs : Section.onLine? line = some s)
    (hm : marked s.marker ⟨line, pending⟩ = .ok (strings, rest))
    (h : outcome (blocks (line :: pending)) = .ok x) :
    ∃ y, outcome (blocks rest) = .ok y ∧ x = Block.extract ⟨s, strings⟩ ++ y := by
  rw [outcome_blocks_of_ok hs hm] at h
  cases hy : outcome (blocks rest) with
  | error fault =>
    rw [hy] at h
    cases h
  | ok y =>
    rw [hy] at h
    cases h
    exact ⟨y, rfl, rfl⟩

theorem eq_ok_of_toOption {outcome : Except Unclosed Extract} {x : Extract}
    (h : outcome.toOption = some x) : outcome = .ok x := by
  cases outcome with
  | error fault => cases h
  | ok y => exact congrArg Except.ok (Option.some.inj h)

theorem scan_eq_outcome (body : Text) : Page.scan body = outcome (blocks (Text.lines body)) := by
  rw [Page.scan]
  obtain ⟨bs, fault⟩ := blocks (Text.lines body)
  cases fault <;> rfl

end RefPages.Page
