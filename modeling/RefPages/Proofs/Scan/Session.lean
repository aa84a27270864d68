import RefPages.Proofs.Scan.Region
import RefPages.Scan.Buffer

namespace RefPages.Buffer

@[simp]
theorem text_loadAll (b : Buffer) : b.loadAll.text = b.text := by
  simp [loadAll, text]

theorem loadAll_of_pending_nil {b : Buffer} (h : b.pending = []) : b.loadAll = b := by
  obtain ⟨loaded, pending⟩ := b
  subst h
  simp [loadAll, text]

def regionEnd? (start : Nat) (tag t : Text) : Option Nat :=
  let (read, ahead) := Text.cutAfter start [] t
  (Region.split tag 0 ahead).map fun x => read.byteSize + x.1.byteSize

theorem cutAfter_fill {start n : Nat} (h : start ≤ n) (loaded : Text) (pending : List Text) :
    Text.cutAfter start [] (loaded ++ Feed.unread pending) =
      ((Text.cutAfter start [] (Feed.fill n loaded pending).ahead).1,
        (Text.cutAfter start [] (Feed.fill n loaded pending).ahead).2 ++
          Feed.unread (Feed.fill n loaded pending).pending) := by
  rw [← Feed.fill_text n, Feed.text]
  rcases Feed.byteSize_fill n loaded pending with hn | hp
  · exact Text.cutAfter_append_right (Nat.le_trans h hn)
  · rw [hp, Feed.unread_nil, List.append_nil, List.append_nil]

theorem regionEnd_eq (start : Nat) (tag : Text) (b : Buffer) :
    (b.regionEnd start tag).1 = (regionEnd? start tag b.text).elim (.error ⟨tag⟩) .ok ∧
      (b.regionEnd start tag).2.text = b.text := by
  have hcut := cutAfter_fill (Nat.le_add_right start (Region.lookahead tag)) b.loaded b.pending
  rw [← text] at hcut
  dsimp only [regionEnd, regionEnd?]
  generalize Feed.fill (start + Region.lookahead tag) b.loaded b.pending = f at *
  generalize Text.cutAfter start [] f.ahead = cut at *
  obtain ⟨read, ahead⟩ := cut
  have htext : read.reverse ++ (ahead ++ Feed.unread f.pending) = b.text := by
    have := Text.cutAfter_append start [] b.text
    rwa [hcut] at this
  have hsplit := Feed.region_eq_split tag ⟨ahead, f.pending⟩
  rw [Feed.text] at hsplit
  rw [hcut, ← hsplit]
  cases hr : Feed.region tag ⟨ahead, f.pending⟩ with
  | none => exact ⟨rfl, text_loadAll b⟩
  | some x =>
    refine ⟨rfl, ?_⟩
    have happ : x.1 ++ x.2.text = ahead ++ Feed.unread f.pending := Feed.region_append hr
    rw [← htext, ← happ]
    simp [text, Feed.text]

theorem regionEnd?_bounds {start n : Nat} {tag t : Text} (h : regionEnd? start tag t = some n) :
    start < n ∧ n ≤ t.byteSize := by
  obtain ⟨⟨region, rest⟩, hs, rfl⟩ := Option.map_eq_some_iff.mp h
  dsimp only at hs ⊢
  have happ := Region.split_append hs
  obtain ⟨r, hr⟩ := Region.closing_suffix_of_split hs
  have hpos := Region.lookahead_pos tag
  have hregion := congrArg Text.byteSize hr
  rw [Text.byteSize_append, Region.byteSize_closing] at hregion
  have hcut := congrArg Text.byteSize (Text.cutAfter_append start [] t)
  have hahead := congrArg Text.byteSize happ
  rw [Text.byteSize_append] at hahead
  simp only [Text.byteSize_append, Text.byteSize_reverse, Text.byteSize_nil] at hcut
  have hle := @Text.le_byteSize_cutAfter start [] t (by
    intro hnil
    rw [hnil, Text.byteSize_nil] at hahead
    omega)
  rw [Text.byteSize_nil] at hle
  omega

theorem regionEnd_pending_suffix (start : Nat) (tag : Text) (b : Buffer) :
    (b.regionEnd start tag).2.pending <:+ b.pending := by
  dsimp only [regionEnd]
  split
  · next region rest hr =>
    exact (Region.read_pending_suffix hr).trans (Feed.fill_pending_suffix ..)
  · exact List.nil_suffix

theorem closeAfter?_append {start n : Nat} {t : Text} (s : Text)
    (h : closeAfter? start t = some n) : closeAfter? start (t ++ s) = some n := by
  have offset {t : Text} {n : Nat} (h : Text.offsetOf? '>' t = some n) :
      Text.offsetOf? '>' (t ++ s) = some n := by
    fun_induction Text.offsetOf? '>' t generalizing n with
    | case1 => cases h
    | case2 c => simpa [Text.offsetOf?] using h
    | case3 c t hc ih =>
      obtain ⟨m, hm, rfl⟩ := Option.map_eq_some_iff.mp h
      rw [List.cons_append, Text.offsetOf?, if_neg hc, ih hm]
      rfl
  obtain ⟨rest, hr, ho⟩ := Option.bind_eq_some_iff.mp h
  obtain ⟨m, hm, rfl⟩ := Option.map_eq_some_iff.mp ho
  obtain ⟨front, rfl, rfl⟩ := Text.from?_eq_some_iff.mp hr
  rw [closeAfter?, List.append_assoc, Text.from?_append, Option.bind_some, offset hm]
  rfl

theorem seekClose_eq (start : Nat) (loaded : Text) (pending : List Text) :
    (seekClose start loaded pending).1 = closeAfter? start (loaded ++ Feed.unread pending) ∧
      (seekClose start loaded pending).2.text = loaded ++ Feed.unread pending := by
  fun_induction seekClose start loaded pending with
  | case1 loaded => simp [text]
  | case2 loaded line pending n hn => exact ⟨(closeAfter?_append _ hn).symm, rfl⟩
  | case3 loaded line pending hn ih =>
    rw [Feed.unread_cons]
    simpa using ih

def contentStart? (markerAt : Nat) (marker t : Text) : Option Nat :=
  closeAfter? (markerAt + (marker.byteSize - 1)) t

theorem contentStart?_bounds {markerAt n : Nat} {marker t : Text}
    (h : contentStart? markerAt marker t = some n) : markerAt < n := by
  obtain ⟨rest, -, ho⟩ := Option.bind_eq_some_iff.mp h
  obtain ⟨m, -, rfl⟩ := Option.map_eq_some_iff.mp ho
  omega

theorem contentStart_eq (markerAt : Nat) (marker : Text) (b : Buffer) :
    (b.contentStart markerAt marker).1 =
        (contentStart? markerAt marker b.text).elim (.error ⟨marker⟩) .ok ∧
      (b.contentStart markerAt marker).2.text = b.text := by
  obtain ⟨ha, ht⟩ := seekClose_eq (markerAt + (marker.byteSize - 1)) b.loaded b.pending
  rw [contentStart, contentStart?, text, ← ha]
  split
  · next n b' h =>
    rw [h] at ht ⊢
    exact ⟨rfl, ht⟩
  · next b' h =>
    rw [h] at ht ⊢
    exact ⟨rfl, ht⟩

theorem seekClose_pending_suffix (start : Nat) (loaded : Text) (pending : List Text) :
    (seekClose start loaded pending).2.pending <:+ pending := by
  fun_induction seekClose start loaded pending with
  | case1 => exact List.suffix_refl _
  | case2 => exact List.suffix_refl _
  | case3 loaded line pending hn ih => exact ih.trans (List.suffix_cons ..)

theorem contentStart_pending_suffix (markerAt : Nat) (marker : Text) (b : Buffer) :
    (b.contentStart markerAt marker).2.pending <:+ b.pending := by
  have h := seekClose_pending_suffix (markerAt + (marker.byteSize - 1)) b.loaded b.pending
  rw [contentStart]
  split
  · next hs => rwa [hs] at h
  · next hs => rwa [hs] at h

namespace Search

def answer (last : Nat) (t : Text) : Search → Except Unclosed Nat
  | .regionEnd start tag => (regionEnd? (start.getD last) tag t).elim (.error ⟨tag⟩) .ok
  | .contentStart at? marker =>
    (contentStart? (at?.getD last) marker t).elim (.error ⟨marker⟩) .ok

theorem run_eq (last : Nat) (b : Buffer) (s : Search) :
    (s.run last b).1 = s.answer last b.text ∧ (s.run last b).2.text = b.text := by
  cases s with
  | regionEnd start tag => exact regionEnd_eq ..
  | contentStart at? marker => exact contentStart_eq ..

theorem run_pending_suffix (last : Nat) (b : Buffer) (s : Search) :
    (s.run last b).2.pending <:+ b.pending := by
  cases s with
  | regionEnd start tag => exact regionEnd_pending_suffix ..
  | contentStart at? marker => exact contentStart_pending_suffix ..

theorem run_loadAll (last : Nat) (b : Buffer) (s : Search) :
    s.run last b.loadAll = (s.answer last b.text, b.loadAll) := by
  obtain ⟨ha, ht⟩ := run_eq last b.loadAll s
  rw [text_loadAll] at ha ht
  have hp : (s.run last b.loadAll).2.pending = [] :=
    List.suffix_nil.mp (run_pending_suffix last b.loadAll s)
  have hb : (s.run last b.loadAll).2 = b.loadAll := by
    rw [← loadAll_of_pending_nil hp, loadAll, ht, loadAll]
  rw [← ha]
  exact Prod.ext rfl hb

end Search

/-- Searches that share a buffer and its lines keep the text of both together, failed ones included,
and each answers what it answers when all lines are loaded before the first. -/
theorem session_text_and_answers (last : Nat) (b : Buffer) (searches : List Search) :
    (session last b searches).map (·.2.text) = List.replicate searches.length b.text ∧
      session last b.loadAll searches =
        (session last b searches).map fun answer => (answer.1, b.loadAll) := by
  -- The whole text is all that one search hands on to the next, however it is cut.
  induction searches generalizing last b with
  | nil => exact ⟨rfl, rfl⟩
  | cons s rest ih =>
    obtain ⟨ha, ht⟩ := Search.run_eq last b s
    obtain ⟨htexts, hanswers⟩ := ih ((s.run last b).1.toOption.getD last) (s.run last b).2
    have hload : (s.run last b).2.loadAll = b.loadAll := by rw [loadAll, ht, loadAll]
    rw [ht] at htexts
    rw [hload] at hanswers
    constructor
    · rw [session, List.map_cons, htexts, ht, List.length_cons, List.replicate_succ]
    · rw [session, Search.run_loadAll, session, List.map_cons, ← ha, hanswers]

end RefPages.Buffer
