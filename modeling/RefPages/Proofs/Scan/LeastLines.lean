import RefPages.Proofs.Scan.Session
import RefPages.Proofs.Text.Search
import Mathlib.Order.Bounds.Basic

/-!
A search takes no more lines than its answer needs: those that it loads are the fewest with which
the buffer reaches to the place that it answers. Only a search that finds nothing loads them all.
-/

namespace RefPages

namespace Feed

theorem unread_append (ls ms : List Text) : unread (ls ++ ms) = unread ls ++ unread ms :=
  List.flatMap_append

def Needed (n : Nat) (ahead : Text) (pending left : List Text) : Prop :=
  ∀ ls line, pending = ls ++ line :: left → (ahead ++ unread ls).byteSize < n

variable {n m : Nat} {ahead : Text} {pending left : List Text}

theorem needed_self (n : Nat) (ahead : Text) (pending : List Text) :
    Needed n ahead pending pending := by
  intro ls line h
  have := congrArg List.length h
  simp at this
  omega

theorem Needed.cons {line : Text} (h : ahead.byteSize < n)
    (hn : Needed n (ahead ++ '\n' :: line) pending left) :
    Needed n ahead (line :: pending) left := by
  intro ls last hls
  cases ls with
  | nil => simpa using h
  | cons first ls =>
    obtain ⟨rfl, hrest⟩ := List.cons.inj hls
    have := hn ls last hrest
    simpa using this

theorem Needed.mono (h : Needed n ahead pending left) (hnm : n ≤ m) :
    Needed m ahead pending left :=
  fun ls line hls => Nat.lt_of_lt_of_le (h ls line hls) hnm

theorem Needed.append (h : Needed n ahead pending left) (front : Text) :
    Needed (front.byteSize + n) (front ++ ahead) pending left := by
  intro ls line hls
  have := h ls line hls
  rw [List.append_assoc, Text.byteSize_append]
  omega

theorem Needed.trans {ls middle : List Text} (hpending : pending = ls ++ middle)
    (hleft : left <:+ middle) (h : Needed n ahead pending middle)
    (h' : Needed n (ahead ++ unread ls) middle left) : Needed n ahead pending left := by
  intro ms line hms
  rcases List.append_eq_append_iff.mp (hpending.symm.trans hms) with ⟨k, rfl, hk⟩ | ⟨k, hls, hk⟩
  · have := h' k line hk
    rwa [List.append_assoc, ← unread_append] at this
  · cases k with
    | nil =>
      have := h' [] line hk.symm
      rwa [hls, List.append_nil, unread_nil, List.append_nil] at this
    | cons first k =>
      obtain ⟨rfl, hrest⟩ := List.cons.inj hk
      have hmiddle : left = middle := by
        apply hleft.eq_of_length
        have hle := hleft.length_le
        have hlen := congrArg List.length hrest
        simp at hlen
        omega
      rw [hmiddle] at hms
      exact h ms line hms

theorem needed_fill (n : Nat) (ahead : Text) (pending : List Text) :
    Needed n ahead pending (fill n ahead pending).pending := by
  fun_induction fill n ahead pending with
  | case1 ahead => exact needed_self n ahead []
  | case2 ahead line pending hn => exact needed_self n ahead (line :: pending)
  | case3 ahead line pending hn ih =>
    rw [Text.hasBytes_iff] at hn
    exact ih.cons (Nat.lt_of_not_le hn)

theorem exists_of_suffix {after : Text} (hs : left <:+ pending)
    (ht : after ++ unread left = ahead ++ unread pending) :
    ∃ ls, pending = ls ++ left ∧ after = ahead ++ unread ls := by
  obtain ⟨ls, rfl⟩ := hs
  refine ⟨ls, rfl, ?_⟩
  rw [unread_append, ← List.append_assoc] at ht
  exact List.append_cancel_right ht

theorem exists_fill (n : Nat) (ahead : Text) (pending : List Text) :
    ∃ ls, pending = ls ++ (fill n ahead pending).pending ∧
      (fill n ahead pending).ahead = ahead ++ unread ls :=
  exists_of_suffix (fill_pending_suffix ..) (fill_text ..)

end Feed

namespace Region

variable {tag taken ahead region : Text} {depth : Nat} {pending : List Text} {rest : Feed}

theorem lookahead_le_of_read (h : read tag depth taken ahead pending = some (region, rest)) :
    taken.byteSize + lookahead tag ≤ region.byteSize := by
  have hs := read_eq_split tag depth taken ahead pending
  rw [h, Option.map_some] at hs
  obtain ⟨x, hx, he⟩ := Option.map_eq_some_iff.mp hs.symm
  obtain ⟨u, hu⟩ := closing_suffix_of_split hx
  obtain ⟨rfl, -⟩ := Prod.mk.inj he
  rw [← hu, Text.byteSize_append, Text.byteSize_append, Text.byteSize_reverse, byteSize_closing]
  omega

theorem needed_read (h : read tag depth taken ahead pending = some (region, rest)) :
    Feed.Needed region.byteSize (taken.reverse ++ ahead) pending rest.pending := by
  have step {taken ahead t : Text} {pending pending' : List Text}
      (hf : Feed.fill (lookahead tag) ahead pending = ⟨t, pending'⟩)
      (hle : taken.byteSize + lookahead tag ≤ region.byteSize)
      (hleft : rest.pending <:+ pending')
      (hnext : Feed.Needed region.byteSize (taken.reverse ++ t) pending' rest.pending) :
      Feed.Needed region.byteSize (taken.reverse ++ ahead) pending rest.pending := by
    obtain ⟨ls, hls, ht⟩ := Feed.exists_fill (lookahead tag) ahead pending
    have hfill := (Feed.needed_fill (lookahead tag) ahead pending).append taken.reverse
    rw [hf] at hls ht hfill
    rw [Text.byteSize_reverse] at hfill
    apply Feed.Needed.trans hls hleft (hfill.mono hle)
    rw [List.append_assoc, ← ht]
    exact hnext
  have tail (taken : Text) (c : Char) (t : Text) (w : Nat) :
      (((c :: t).take w).reverse ++ taken).reverse ++ (c :: t).drop w =
        taken.reverse ++ c :: t := by
    rw [List.reverse_append, List.reverse_reverse, List.append_assoc, List.take_append_drop]
  have hle := lookahead_le_of_read h
  fun_induction read tag depth taken ahead pending with
  | case1 => cases h
  | case2 taken ahead pending c t pending' hf w taken' hc =>
    cases h
    exact step hf hle (List.suffix_refl _) (Feed.needed_self _ _ _)
  | case3 taken ahead pending c t pending' hf w taken' hc depth ih =>
    apply step hf hle (read_pending_suffix h)
    rw [← tail taken c t w]
    exact ih h (lookahead_le_of_read h)
  | case4 depth taken ahead pending c t pending' hf w taken' hc ih =>
    rw [dite_eq_ite] at ih
    apply step hf hle (read_pending_suffix h)
    rw [← tail taken c t w]
    exact ih h (lookahead_le_of_read h)

end Region

namespace Buffer

def load (k : Nat) (b : Buffer) : Buffer :=
  ⟨b.loaded ++ Feed.unread (b.pending.take k), b.pending.drop k⟩

/-- What a search answers, with the buffer after it: either the lines that were loaded are the
fewest with which the buffer reaches to the place that was found, which is between two of its
characters, or nothing was found and all lines are loaded. -/
def LoadsLeast (b : Buffer) : Except Unclosed Nat × Buffer → Prop
  | (.ok n, after) => ∃ k, IsLeast {k | n ≤ (b.load k).loaded.byteSize} k ∧
      k ≤ b.pending.length ∧ after = b.load k ∧
        ∃ front, front <+: after.loaded ∧ Text.byteSize front = n
  | (.error _, after) => after = b.loadAll

variable {b after : Buffer} {n : Nat}

theorem loaded_load_mono (b : Buffer) {j k : Nat} (h : j ≤ k) :
    (b.load j).loaded <+: (b.load k).loaded := by
  rw [load, load, List.prefix_append_right_inj]
  obtain ⟨ls, hls⟩ := List.take_prefix_take_left h
  rw [← hls, Feed.unread_append]
  exact List.prefix_append ..

theorem loadsLeast_ok (front : Text) (hs : after.pending <:+ b.pending)
    (ht : after.text = b.text) (hf : front <+: after.loaded) (hn : front.byteSize = n)
    (hneed : Feed.Needed n b.loaded b.pending after.pending) : b.LoadsLeast (.ok n, after) := by
  obtain ⟨ls, hls, hloaded⟩ := Feed.exists_of_suffix hs ht
  have hload : after = b.load ls.length := by
    rw [load, hls, List.take_left, List.drop_left, ← hloaded]
  refine ⟨ls.length, ⟨?_, ?_⟩, ?_, hload, front, hf, hn⟩
  · obtain ⟨back, hback⟩ := hf
    have hsize := congrArg Text.byteSize hback
    rw [Text.byteSize_append] at hsize
    rw [Set.mem_ofPred_eq, ← hload]
    omega
  · intro k hk
    rw [Set.mem_ofPred_eq] at hk
    apply Nat.le_of_not_lt
    intro hlt
    -- Without the last of the lines the buffer is too short already.
    obtain ⟨ms, line, rfl⟩ : ∃ ms line, ls = ms ++ [line] :=
      ⟨_, _, (List.dropLast_concat_getLast (List.ne_nil_of_length_pos (by omega))).symm⟩
    have hshort := hneed ms line (by rw [hls, List.append_assoc]; rfl)
    have hms : (b.load ms.length).loaded = b.loaded ++ Feed.unread ms := by
      rw [load, hls, List.append_assoc, List.take_left]
    have hle : k ≤ ms.length := by
      rw [List.length_append, List.length_singleton] at hlt
      omega
    obtain ⟨back, hback⟩ := loaded_load_mono b hle
    have hsize := congrArg Text.byteSize hback
    rw [hms, Text.byteSize_append] at hsize
    omega
  · rw [hls, List.length_append]
    exact Nat.le_add_right ..

theorem le_byteSize_of_region {start : Nat} {tag t read ahead region : Text} {pending : List Text}
    {rest : Feed} (hcut : Text.cutAfter start [] t = (read, ahead ++ Feed.unread pending))
    (hr : Feed.region tag ⟨ahead, pending⟩ = some (region, rest)) : start ≤ read.byteSize := by
  have hne : (Text.cutAfter start [] t).2 ≠ [] := by
    intro hnil
    have hlookahead := Region.lookahead_le_of_read hr
    have happ := congrArg Text.byteSize (Feed.region_append hr)
    have hpos := Region.lookahead_pos tag
    rw [hcut] at hnil
    have hempty := congrArg Text.byteSize hnil
    simp only [Feed.text, Text.byteSize_append, Text.byteSize_nil] at happ hlookahead hempty
    omega
  have := Text.le_byteSize_cutAfter hne
  rwa [hcut, Text.byteSize_nil, Nat.zero_add] at this

theorem loadsLeast_regionEnd (start : Nat) (tag : Text) (b : Buffer) :
    b.LoadsLeast (b.regionEnd start tag) := by
  have htext := (regionEnd_eq start tag b).2
  have hsuffix := regionEnd_pending_suffix start tag b
  have hcut := cutAfter_fill (Nat.le_add_right start (Region.lookahead tag)) b.loaded b.pending
  obtain ⟨ls, hls, hahead⟩ :=
    Feed.exists_fill (start + Region.lookahead tag) b.loaded b.pending
  have hfill := Feed.needed_fill (start + Region.lookahead tag) b.loaded b.pending
  dsimp only [regionEnd] at htext hsuffix ⊢
  generalize Feed.fill (start + Region.lookahead tag) b.loaded b.pending = f at *
  have hfront := Text.cutAfter_append start [] f.ahead
  generalize Text.cutAfter start [] f.ahead = cut at *
  obtain ⟨read, ahead⟩ := cut
  dsimp only at hcut hfront htext hsuffix ⊢
  cases hr : Feed.region tag ⟨ahead, f.pending⟩ with
  | none => rfl
  | some x =>
    obtain ⟨region, rest⟩ := x
    rw [hr] at htext hsuffix
    have hlookahead := Region.lookahead_le_of_read hr
    have hread := le_byteSize_of_region hcut hr
    apply loadsLeast_ok (read.reverse ++ region) hsuffix htext (List.prefix_append ..)
    · rw [Text.byteSize_append, Text.byteSize_reverse]
    · apply Feed.Needed.trans hls (Region.read_pending_suffix hr) (hfill.mono _)
      · have := (Region.needed_read hr).append read.reverse
        rw [← hahead, ← List.nil_append f.ahead, ← List.reverse_nil, ← hfront]
        rwa [Text.byteSize_reverse] at this
      · rw [Text.byteSize_nil, Nat.zero_add] at hlookahead
        omega

theorem closeAfter?_eq_some_iff {start n : Nat} {t : Text} :
    closeAfter? start t = some n ↔ ∃ front mid rest, t = front ++ mid ++ ['>'] ++ rest ∧
      Text.byteSize front = start ∧ '>' ∉ mid ∧ n = Text.byteSize (front ++ mid ++ ['>']) := by
  constructor
  · intro h
    obtain ⟨back, hb, ho⟩ := Option.bind_eq_some_iff.mp h
    obtain ⟨front, rfl, rfl⟩ := Text.from?_eq_some_iff.mp hb
    by_cases hm : '>' ∈ back
    · obtain ⟨mid, rest, rfl, hmid⟩ := List.eq_append_cons_of_mem hm
      rw [Text.offsetOf?_append_cons rest hmid] at ho
      cases ho
      refine ⟨front, mid, rest, by simp, rfl, hmid, ?_⟩
      simp [Nat.add_assoc, Char.utf8Size]
    · rw [Text.offsetOf?_eq_none hm] at ho
      cases ho
  · rintro ⟨front, mid, rest, rfl, rfl, hmid, rfl⟩
    rw [closeAfter?, List.append_assoc, List.append_assoc, Text.from?_append, Option.bind_some,
      List.singleton_append, Text.offsetOf?_append_cons rest hmid]
    simp [Nat.add_assoc, Char.utf8Size]

theorem closeAfter?_of_append {start : Nat} {t s : Text}
    (h : closeAfter? start (t ++ s) = some n) (hn : n ≤ t.byteSize) :
    closeAfter? start t = some n := by
  obtain ⟨front, mid, rest, ht, hstart, hmid, rfl⟩ := closeAfter?_eq_some_iff.mp h
  obtain ⟨m, hm, -⟩ := Text.exists_of_append_eq_append ht.symm hn
  exact closeAfter?_eq_some_iff.mpr ⟨front, mid, m, hm, hstart, hmid, rfl⟩

theorem seekClose_loaded (start : Nat) (loaded : Text) (pending : List Text) :
    closeAfter? start (seekClose start loaded pending).2.loaded =
      (seekClose start loaded pending).1 := by
  fun_induction seekClose start loaded pending with
  | case1 loaded => rfl
  | case2 loaded line pending n hn => exact hn
  | case3 loaded line pending hn ih => exact ih

theorem pending_seekClose {start : Nat} {loaded : Text} {pending : List Text}
    (h : (seekClose start loaded pending).1 = none) :
    (seekClose start loaded pending).2.pending = [] := by
  fun_induction seekClose start loaded pending with
  | case1 loaded => rfl
  | case2 loaded line pending n hn => cases h
  | case3 loaded line pending hn ih => exact ih h

theorem needed_seekClose {start : Nat} {loaded : Text} {pending : List Text}
    (h : (seekClose start loaded pending).1 = some n) :
    Feed.Needed n loaded pending (seekClose start loaded pending).2.pending := by
  have hfound := (seekClose_eq start loaded pending).1
  rw [h] at hfound
  fun_induction seekClose start loaded pending with
  | case1 loaded => exact Feed.needed_self _ _ _
  | case2 loaded line pending m hm => exact Feed.needed_self _ _ _
  | case3 loaded line pending hn ih =>
    apply Feed.Needed.cons
    · apply Nat.lt_of_not_le
      intro hle
      rw [closeAfter?_of_append hfound.symm hle] at hn
      cases hn
    · apply ih h
      rw [hfound, Feed.unread_cons]
      simp

theorem loadsLeast_contentStart (markerAt : Nat) (marker : Text) (b : Buffer) :
    b.LoadsLeast (b.contentStart markerAt marker) := by
  have htext := (contentStart_eq markerAt marker b).2
  have hsuffix := contentStart_pending_suffix markerAt marker b
  have hloaded := seekClose_loaded (markerAt + (marker.byteSize - 1)) b.loaded b.pending
  rw [contentStart] at htext hsuffix ⊢
  split
  · next n after h =>
    rw [h] at htext hsuffix hloaded
    obtain ⟨front, mid, rest, ht, -, -, rfl⟩ := closeAfter?_eq_some_iff.mp hloaded
    have hneed := needed_seekClose (congrArg Prod.fst h)
    rw [h] at hneed
    exact loadsLeast_ok (front ++ mid ++ ['>']) hsuffix htext ⟨rest, ht.symm⟩ rfl hneed
  · next after h =>
    have hp := pending_seekClose (congrArg Prod.fst h)
    rw [h] at htext hp
    have hall : after.loadAll = b.loadAll := by
      rw [loadAll, loadAll, show after.text = b.text from htext]
    exact (loadAll_of_pending_nil hp).symm.trans hall

/-- Both searches load no more lines than they need, whatever is looked for and from where, and the
end of a region is behind the offset that it was looked for from. -/
theorem searches_load_least (b : Buffer) :
    (∀ start tag, b.LoadsLeast (b.regionEnd start tag) ∧
        ∀ n, (b.regionEnd start tag).1 = .ok n → start < n) ∧
      ∀ markerAt marker, b.LoadsLeast (b.contentStart markerAt marker) := by
  refine ⟨?_, fun markerAt marker => loadsLeast_contentStart markerAt marker b⟩
  intro start tag
  refine ⟨loadsLeast_regionEnd start tag b, ?_⟩
  intro n hn
  rw [(regionEnd_eq start tag b).1] at hn
  cases h : regionEnd? start tag b.text with
  | none =>
    rw [h] at hn
    cases hn
  | some m =>
    rw [h] at hn
    cases hn
    exact (regionEnd?_bounds h).1

end Buffer
end RefPages
