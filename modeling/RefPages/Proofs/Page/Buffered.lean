import RefPages.Proofs.Page.Marked
import RefPages.Proofs.Scan.Session
import RefPages.Proofs.Text.Search

namespace RefPages.Page.Buffered

theorem text_of_contentStart {markerAt start : Nat} {marker : Text} {b c : Buffer}
    (h : b.contentStart markerAt marker = (.ok start, c)) : c.text = b.text ∧ markerAt < start := by
  obtain ⟨ha, ht⟩ := Buffer.contentStart_eq markerAt marker b
  rw [h] at ha ht
  refine ⟨ht, ?_⟩
  cases hs : Buffer.contentStart? markerAt marker b.text with
  | none =>
    rw [hs] at ha
    cases ha
  | some n =>
    rw [hs] at ha
    cases ha
    exact Buffer.contentStart?_bounds hs

theorem text_of_regionEnd {start stop : Nat} {tag : Text} {b c : Buffer}
    (h : b.regionEnd start tag = (.ok stop, c)) :
    c.text = b.text ∧ start < stop ∧ stop ≤ b.text.byteSize := by
  obtain ⟨ha, ht⟩ := Buffer.regionEnd_eq start tag b
  rw [h] at ha ht
  refine ⟨ht, ?_⟩
  cases hs : Buffer.regionEnd? start tag b.text with
  | none =>
    rw [hs] at ha
    cases ha
  | some n =>
    rw [hs] at ha
    cases ha
    exact Buffer.regionEnd?_bounds hs

theorem regionEnd_append (tag front ahead : Text) (pending : List Text) :
    Buffer.regionEnd front.byteSize tag ⟨front ++ ahead, pending⟩ =
      match Feed.region tag ⟨ahead, pending⟩ with
      | some (region, rest) =>
        (.ok (front ++ region).byteSize, ⟨front ++ region ++ rest.ahead, rest.pending⟩)
      | none => (.error ⟨tag⟩, Buffer.loadAll ⟨front ++ ahead, pending⟩) := by
  rw [Buffer.regionEnd, Feed.fill_append]
  dsimp only
  rw [Text.cutAfter_byteSize, Feed.region_fill]
  cases Feed.region tag ⟨ahead, pending⟩ with
  | none => rfl
  | some x => simp

theorem closeAfter?_byteSize (front t : Text) :
    Buffer.closeAfter? front.byteSize (front ++ t) =
      (Text.offsetOf? '>' t).map (front.byteSize + · + 1) := by
  rw [Buffer.closeAfter?, Text.from?_append, Option.bind_some]

theorem closeAfter?_eq_none {front t : Text} (h : '>' ∉ t) :
    Buffer.closeAfter? front.byteSize (front ++ t) = none := by
  rw [closeAfter?_byteSize, Text.offsetOf?_eq_none h, Option.map_none]

theorem closeAfter?_cons {t : Text} (front rest : Text) (h : '>' ∉ t) :
    Buffer.closeAfter? front.byteSize (front ++ (t ++ '>' :: rest)) =
      some (front ++ t ++ ['>']).byteSize := by
  rw [closeAfter?_byteSize, Text.offsetOf?_append_cons rest h, Option.map_some,
    Text.byteSize_append, Text.byteSize_append]
  rfl

theorem seekClose_append {u : Text} (front ahead : Text) (pending : List Text) (hu : '>' ∉ u) :
    (Feed.afterClose ahead pending = none ∧
        (Buffer.seekClose front.byteSize (front ++ (u ++ ahead)) pending).1 = none) ∨
      ∃ content w, Feed.afterClose ahead pending = some content ∧
        Buffer.seekClose front.byteSize (front ++ (u ++ ahead)) pending =
          (some w.byteSize, ⟨w ++ content.ahead, content.pending⟩) := by
  induction pending generalizing u ahead with
  | nil =>
    rcases Feed.dropWhile_close ahead with ⟨hm, hd⟩ | ⟨t, rest, ht, rfl, hd⟩
    · refine .inl ⟨by rw [Feed.afterClose, hd], ?_⟩
      exact closeAfter?_eq_none (by simp [hu, hm])
    · refine .inr ⟨⟨rest, []⟩, front ++ (u ++ t) ++ ['>'], by rw [Feed.afterClose, hd], ?_⟩
      rw [Buffer.seekClose, ← List.append_assoc u, closeAfter?_cons front rest (by simp [hu, ht])]
      simp
  | cons line pending ih =>
    rcases Feed.dropWhile_close ahead with ⟨hm, hd⟩ | ⟨t, rest, ht, rfl, hd⟩
    · have hnone : '>' ∉ u ++ ahead := by simp [hu, hm]
      have hbreak : '>' ∉ u ++ ahead ++ ['\n'] := by simp [hu, hm]
      rw [Feed.afterClose, hd, Buffer.seekClose, closeAfter?_eq_none hnone]
      simpa using ih line hbreak
    · refine .inr ⟨⟨rest, line :: pending⟩, front ++ (u ++ t) ++ ['>'],
        by rw [Feed.afterClose, hd], ?_⟩
      rw [Buffer.seekClose, ← List.append_assoc u, closeAfter?_cons front rest (by simp [hu, ht])]
      simp

def marked (marker : Text) (i : Nat) (b : Buffer) : Except Fault (List Text × List Text) :=
  match (b.loaded.from? i).bind (Text.splitAt? marker []) with
  | none => .ok ([], b.pending)
  | some (before, _) =>
    match _hc : b.contentStart (i + before.byteSize) marker with
    | (.error e, _) => .error (.unclosed e)
    | (.ok start, b') =>
      match _hr : b'.regionEnd start container with
      | (.error e, _) => .error (.unclosed e)
      | (.ok stop, b'') =>
        match b''.loaded.slice? start stop with
        | none => .error (.bounds start stop)
        | some fragment =>
          (marked marker stop b'').map fun x => (Prose.strings fragment ++ x.1, x.2)
termination_by b.text.byteSize - i
decreasing_by
  obtain ⟨htext, hlt⟩ := text_of_contentStart _hc
  obtain ⟨htext', hlt', hle⟩ := text_of_regionEnd _hr
  rw [htext', htext]
  rw [htext] at hle
  omega

theorem contentStart_marker {s : Section} {f : Feed} {before after : Text}
    (h : Text.splitAt? s.marker [] f.ahead = some (before, after)) (front : Text) :
    match Feed.afterClose (fromMarkerEnd s.marker after) f.pending with
    | none => (Buffer.contentStart (front.byteSize + before.byteSize) s.marker
        ⟨front ++ f.ahead, f.pending⟩).1 = .error ⟨s.marker⟩
    | some content => ∃ w, Buffer.contentStart (front.byteSize + before.byteSize) s.marker
        ⟨front ++ f.ahead, f.pending⟩ =
          (.ok w.byteSize, ⟨w ++ content.ahead, content.pending⟩) := by
  obtain ⟨m, hahead, hm⟩ := Section.exists_fromMarkerEnd h
  have hn : front.byteSize + before.byteSize + (s.marker.byteSize - 1) =
      (front ++ before ++ m).byteSize := by
    rw [Text.byteSize_append, Text.byteSize_append]
    omega
  have hloaded : front ++ f.ahead =
      front ++ before ++ m ++ ([] ++ fromMarkerEnd s.marker after) := by
    rw [hahead]
    simp
  rw [Buffer.contentStart, hn, hloaded]
  rcases seekClose_append (front ++ before ++ m) (fromMarkerEnd s.marker after) f.pending
    List.not_mem_nil with ⟨hclose, hseek⟩ | ⟨content, w, hclose, hseek⟩
  · rw [hclose]
    dsimp only
    split
    · next hs =>
      rw [hs] at hseek
      cases hseek
    · rfl
  · rw [hclose]
    exact ⟨w, by rw [hseek]⟩

theorem marked_unfold (marker : Text) (i : Nat) (b : Buffer) :
    marked marker i b =
      match (b.loaded.from? i).bind (Text.splitAt? marker []) with
      | none => .ok ([], b.pending)
      | some (before, _) =>
        match b.contentStart (i + before.byteSize) marker with
        | (.error e, _) => .error (.unclosed e)
        | (.ok start, b') =>
          match b'.regionEnd start container with
          | (.error e, _) => .error (.unclosed e)
          | (.ok stop, b'') =>
            match b''.loaded.slice? start stop with
            | none => .error (.bounds start stop)
            | some fragment =>
              (marked marker stop b'').map fun x => (Prose.strings fragment ++ x.1, x.2) := by
  rw [marked]
  split
  · rfl
  · split
    · next hc => rw [hc]
    · next hc =>
      rw [hc]
      dsimp only
      split
      · next hr => rw [hr]
      · next hr => rw [hr]

theorem marked_region {s : Section} {f content rest : Feed} {before after region : Text}
    (hs : Text.splitAt? s.marker [] f.ahead = some (before, after))
    (hclose : Feed.afterClose (fromMarkerEnd s.marker after) f.pending = some content)
    (hr : Feed.region container ⟨content.ahead, content.pending⟩ = some (region, rest))
    (front : Text) :
    ∃ front', marked s.marker front.byteSize ⟨front ++ f.ahead, f.pending⟩ =
      (marked s.marker front'.byteSize ⟨front' ++ rest.ahead, rest.pending⟩).map
        fun x => (Prose.strings region ++ x.1, x.2) := by
  have hc := contentStart_marker hs front
  rw [hclose] at hc
  obtain ⟨w, hc⟩ := hc
  refine ⟨w ++ region, ?_⟩
  rw [marked_unfold, Text.from?_append, Option.bind_some, hs]
  dsimp only
  rw [hc]
  dsimp only
  rw [regionEnd_append, hr]
  dsimp only
  rw [Text.byteSize_append, Text.slice?_append]

theorem marked_eq (s : Section) (f : Feed) (front : Text) :
    marked s.marker front.byteSize ⟨front ++ f.ahead, f.pending⟩ =
      (Page.marked s.marker f).mapError Fault.unclosed := by
  -- The buffer holds what was passed and what the feed has loaded, and both have the same lines left.
  fun_induction Page.marked s.marker f generalizing front with
  | case1 f hs =>
    rw [marked_unfold, Text.from?_append, Option.bind_some, hs]
    rfl
  | case2 f before after hs hclose =>
    have hc := contentStart_marker hs front
    rw [hclose] at hc
    rw [marked_unfold, Text.from?_append, Option.bind_some, hs]
    dsimp only at hc ⊢
    split
    · next h =>
      rw [h] at hc
      cases hc
      rfl
    · next h =>
      rw [h] at hc
      cases hc
  | case3 f before after hs content hclose hr =>
    have hc := contentStart_marker hs front
    rw [hclose] at hc
    obtain ⟨w, hc⟩ := hc
    have hr' : Feed.region container ⟨content.ahead, content.pending⟩ = none := hr
    rw [marked_unfold, Text.from?_append, Option.bind_some, hs]
    dsimp only
    rw [hc]
    dsimp only
    rw [regionEnd_append, hr']
    rfl
  | case4 f before after hs content hclose region rest hr fault hm ih =>
    obtain ⟨front', he⟩ := marked_region hs hclose hr front
    rw [he, ih, hm]
    rfl
  | case5 f before after hs content hclose region rest hr strings pending hm ih =>
    obtain ⟨front', he⟩ := marked_region hs hclose hr front
    rw [he, ih, hm]
    rfl

theorem marked_line (s : Section) (line : Text) (pending : List Text) :
    marked s.marker 0 ⟨line, pending⟩ =
      (Page.marked s.marker ⟨line, pending⟩).mapError Fault.unclosed :=
  marked_eq s ⟨line, pending⟩ []

theorem unread_marked_le {s : Section} {line : Text} {pending strings rest : List Text}
    (h : marked s.marker 0 ⟨line, pending⟩ = .ok (strings, rest)) :
    (Feed.unread rest).length ≤ (line ++ Feed.unread pending).length := by
  rw [marked_line] at h
  cases hm : Page.marked s.marker ⟨line, pending⟩ with
  | error fault =>
    rw [hm] at h
    cases h
  | ok x =>
    rw [hm] at h
    cases h
    exact Page.unread_marked_le hm

def scanLines : (lines : List Text) → Except Fault Extract
  | [] => .ok {}
  | line :: pending =>
    match Section.onLine? line with
    | none => scanLines pending
    | some s =>
      match _hm : marked s.marker 0 ⟨line, pending⟩ with
      | .error fault => .error fault
      | .ok (strings, rest) => (scanLines rest).map (Block.extract ⟨s, strings⟩ ++ ·)
termination_by lines => (Feed.unread lines).length
decreasing_by
  · simp only [Feed.unread_cons, List.length_append, List.length_cons]
    omega
  · rw [Feed.unread_cons]
    exact Nat.lt_succ_of_le (unread_marked_le _hm)

def scan (body : Text) : Except Fault Extract :=
  scanLines (Text.lines body)

theorem scanLines_eq (lines : List Text) :
    scanLines lines = (outcome (blocks lines)).mapError Fault.unclosed := by
  fun_induction scanLines lines with
  | case1 =>
    rw [blocks]
    rfl
  | case2 line pending hs ih => rw [outcome_blocks_cons, hs, ih]
  | case3 line pending s hs fault hm =>
    rw [marked_line] at hm
    rw [outcome_blocks_cons, hs]
    dsimp only
    cases hp : Page.marked s.marker ⟨line, pending⟩ with
    | error e =>
      rw [hp] at hm
      cases hm
      rfl
    | ok x =>
      rw [hp] at hm
      cases hm
  | case4 line pending s hs strings rest hm ih =>
    rw [marked_line] at hm
    rw [outcome_blocks_cons, hs, ih]
    dsimp only
    cases hp : Page.marked s.marker ⟨line, pending⟩ with
    | error e =>
      rw [hp] at hm
      cases hm
    | ok x =>
      rw [hp] at hm
      cases hm
      dsimp only
      cases outcome (blocks rest) <;> rfl

theorem scan_eq (body : Text) : scan body = (Page.scan body).mapError Fault.unclosed := by
  rw [scan, scanLines_eq, scan_eq_outcome]

end RefPages.Page.Buffered
