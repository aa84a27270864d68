import RefPages.Proofs.Scan.Session
import RefPages.Proofs.Text.Search
import Mathlib.Order.Bounds.Basic

/-!
A region ends where its tags balance. Closing and opening tags are places of the text, told by what
stands there alone; the end of a region is the first closing tag up to which there is one more of
them than of opening tags.
-/

namespace RefPages.Region

open Text (standsAt)

def tally (kind : Nat → Bool) (i j : Nat) : Nat :=
  (List.range j).countP fun n => decide (i ≤ n) && kind n

section tally

variable {kind : Nat → Bool} {i j k : Nat}

theorem tally_succ (h : i ≤ j) :
    tally kind i (j + 1) = tally kind i j + if kind j then 1 else 0 := by
  rw [tally, List.range_succ, List.countP_append, ← tally, List.countP_singleton]
  simp [h]

theorem tally_of_le (h : j ≤ i) : tally kind i j = 0 := by
  rw [tally, List.countP_eq_zero]
  intro n hn
  rw [List.mem_range] at hn
  simp
  omega

theorem tally_add (hij : i ≤ j) (hjk : j ≤ k) :
    tally kind i k = tally kind i j + tally kind j k := by
  induction k, hjk using Nat.le_induction with
  | base => simp [tally_of_le (Nat.le_refl j)]
  | succ k hjk ih =>
    rw [tally_succ (Nat.le_trans hij hjk), tally_succ hjk, ih, Nat.add_assoc]

theorem tally_mono (kind : Nat → Bool) (i : Nat) (h : j ≤ k) : tally kind i j ≤ tally kind i k :=
  (List.range_sublist.mpr h).countP_le

theorem tally_eq_zero (h : ∀ n, i ≤ n → n < j → kind n = false) : tally kind i j = 0 := by
  rw [tally, List.countP_eq_zero]
  intro n hn hk
  rw [Bool.and_eq_true, decide_eq_true_eq] at hk
  rw [h n hk.1 (List.mem_range.mp hn)] at hk
  cases hk.2

theorem tally_congr_from (h : ∀ n, kind n = true → (i ≤ n ↔ j ≤ n)) (k : Nat) :
    tally kind i k = tally kind j k := by
  apply List.countP_congr
  intro n _
  rw [Bool.and_eq_true, Bool.and_eq_true, decide_eq_true_eq, decide_eq_true_eq]
  exact and_congr_left (h n)

theorem tally_step (h : ∀ n, i < n → n < k → kind n = false) (hij : i < j) (hjk : j ≤ k) :
    tally kind i j = if kind i then 1 else 0 := by
  rw [tally_add (Nat.le_succ i) hij, tally_succ (Nat.le_refl i), tally_of_le (Nat.le_refl i),
    tally_eq_zero fun n hn hj => h n hn (Nat.lt_of_lt_of_le hj hjk)]
  omega

end tally

def nameEnds : Text :=
  ['>', '/', ' ', '\t', '\n', '\x0c', '\r']

def isClose (tag t : Text) (n : Nat) : Bool :=
  standsAt (closing tag) t n

def isOpen (tag t : Text) (n : Nat) : Bool :=
  !isClose tag t n && nameEnds.any fun c => standsAt (opening tag ++ [c]) t n

def closes (tag t : Text) (i j : Nat) : Nat :=
  tally (isClose tag t) i j

def opens (tag t : Text) (i j : Nat) : Nat :=
  tally (isOpen tag t) i j

/-- The closing tag at byte `p` is the one more that closes what is open from byte `start` on. -/
structure Balances (tag t : Text) (start p : Nat) : Prop where
  start_le : start ≤ p
  close : isClose tag t p = true
  counts : closes tag t start (p + 1) = opens tag t start p + 1

/-- How many levels above the end of its region the text from byte `start` to byte `q` leads. A tag
counts when it has been read in full, an opening one with the character behind its name. -/
def depth (tag t : Text) (start q : Nat) : Int :=
  1 + opens tag t start (q - (opening tag).byteSize) -
    closes tag t start (q + 1 - (closing tag).byteSize)

variable {tag t front whole : Text}

theorem endsName_iff {c : Char} : endsName c = true ↔ c ∈ nameEnds := by
  simp [endsName, isAsciiBlank, nameEnds, or_assoc]

theorem opensAt_eq_any :
    opensAt tag t = nameEnds.any fun c => (opening tag ++ [c]).isPrefixOf t := by
  rw [Bool.eq_iff_iff, List.any_eq_true, opensAt, Bool.and_eq_true, List.isPrefixOf_iff_prefix]
  constructor
  · rintro ⟨⟨u, rfl⟩, hu⟩
    rw [List.drop_left, Option.any_eq_true] at hu
    obtain ⟨c, hc, he⟩ := hu
    obtain ⟨u, rfl⟩ := List.head?_eq_some_iff.mp hc
    refine ⟨c, endsName_iff.mp he, List.isPrefixOf_iff_prefix.mpr ⟨u, ?_⟩⟩
    simp
  · rintro ⟨c, hc, hp⟩
    obtain ⟨u, rfl⟩ := List.isPrefixOf_iff_prefix.mp hp
    rw [List.append_assoc]
    refine ⟨List.prefix_append .., ?_⟩
    rw [List.drop_left]
    simpa using endsName_iff.mpr hc

theorem isClose_append (tag front t : Text) :
    isClose tag (front ++ t) front.byteSize = closesAt tag t :=
  Text.standsAt_append ..

theorem isOpen_append (tag front t : Text) :
    isOpen tag (front ++ t) front.byteSize = (!closesAt tag t && opensAt tag t) := by
  rw [isOpen, isClose_append, opensAt_eq_any]
  simp only [Text.standsAt_append]

theorem isOpen_eq_false {n : Nat} (h : isClose tag t n = true) : isOpen tag t n = false := by
  rw [isOpen, h]
  rfl

theorem not_standsAt_inside {p mid rest : Text} {c : Char} {n : Nat} (hp : p.head? = some '<')
    (hm : '<' ∉ mid) (h : front.byteSize < n) (hn : n < (front ++ c :: mid).byteSize) :
    standsAt p (front ++ c :: mid ++ rest) n = false := by
  rw [Bool.eq_false_iff]
  intro hs
  obtain ⟨u, v, huv, rfl⟩ := Text.standsAt_iff.mp hs
  obtain ⟨p, rfl⟩ := List.head?_eq_some_iff.mp hp
  rw [List.append_assoc u] at huv
  obtain ⟨m, hm', hrest⟩ := Text.exists_of_append_eq_append huv.symm (Nat.le_of_lt hn)
  obtain ⟨k, rfl, hk⟩ := Text.exists_of_append_eq_append hm' (Nat.le_of_lt h)
  cases k with
  | nil => simp at h
  | cons d k =>
    cases m with
    | nil =>
      rw [hm'] at hn
      simp at hn
    | cons a m =>
      obtain ⟨-, rfl⟩ := List.cons.inj hk
      obtain ⟨rfl, -⟩ := List.cons.inj hrest
      simp at hm

theorem isClose_inside {mid rest : Text} {c : Char} {n : Nat} (hm : '<' ∉ mid)
    (h : front.byteSize < n) (hn : n < (front ++ c :: mid).byteSize) :
    isClose tag (front ++ c :: mid ++ rest) n = false :=
  not_standsAt_inside rfl hm h hn

theorem isOpen_inside {mid rest : Text} {c : Char} {n : Nat} (hm : '<' ∉ mid)
    (h : front.byteSize < n) (hn : n < (front ++ c :: mid).byteSize) :
    isOpen tag (front ++ c :: mid ++ rest) n = false := by
  rw [isOpen, Bool.and_eq_false_iff, List.any_eq_false]
  right
  intro d _
  rw [not_standsAt_inside rfl hm h hn]
  exact Bool.false_ne_true

theorem exists_take_width (htag : '<' ∉ tag) {c : Char} (t : Text) :
    ∃ mid, (c :: t).take (width tag (c :: t)) = c :: mid ∧ '<' ∉ mid := by
  obtain ⟨w, hw⟩ := Nat.exists_eq_add_one.mpr (width_pos tag (c :: t))
  rw [hw, List.take_succ_cons]
  refine ⟨t.take w, rfl, ?_⟩
  have htake : (c :: t).take (width tag (c :: t)) = c :: t.take w := by
    rw [hw, List.take_succ_cons]
  by_cases hc : closesAt tag (c :: t) = true
  · rw [take_width_of_closesAt hc, closing] at htake
    rw [← (List.cons.inj htake).2]
    simp [htag]
  · by_cases ho : opensAt tag (c :: t) = true
    · rw [take_width_of_opensAt hc ho, opening] at htake
      rw [← (List.cons.inj htake).2]
      exact htag
    · rw [width, if_neg hc, if_neg ho] at hw
      obtain rfl : w = 0 := by omega
      simp

variable {c : Char} {d d' : Nat}

theorem closes_step (htag : '<' ∉ tag) (hwhole : whole = front ++ c :: t) {j : Nat}
    (h : front.byteSize < j)
    (hj : j ≤ (front ++ (c :: t).take (width tag (c :: t))).byteSize) :
    closes tag whole front.byteSize j = (if closesAt tag (c :: t) then 1 else 0) ∧
      opens tag whole front.byteSize j =
        if !closesAt tag (c :: t) && opensAt tag (c :: t) then 1 else 0 := by
  obtain ⟨mid, hmid, hm⟩ := exists_take_width htag (c := c) t
  have hsplit : whole = front ++ c :: mid ++ (c :: t).drop (width tag (c :: t)) := by
    rw [hwhole, List.append_assoc, ← hmid, List.take_append_drop]
  rw [hmid] at hj
  constructor
  · rw [closes, tally_step (k := (front ++ c :: mid).byteSize) _ h hj, hwhole, isClose_append]
    intro n hn hk
    rw [hsplit]
    exact isClose_inside hm hn hk
  · rw [opens, tally_step (k := (front ++ c :: mid).byteSize) _ h hj, hwhole, isOpen_append]
    intro n hn hk
    rw [hsplit]
    exact isOpen_inside hm hn hk

def Inside (tag whole : Text) (i d j : Nat) : Prop :=
  ∀ n ≤ j, closes tag whole i n ≤ opens tag whole i n + d

theorem depthAfter?_counts (hd : depthAfter? tag t d = some d') :
    (if closesAt tag t then 1 else 0) + d' =
      (if !closesAt tag t && opensAt tag t then 1 else 0) + d := by
  rw [depthAfter?] at hd
  by_cases hc : closesAt tag t = true
  · rw [if_pos hc] at hd
    by_cases h0 : d = 0
    · rw [if_pos h0] at hd
      cases hd
    · rw [if_neg h0] at hd
      cases hd
      simp [hc]
      omega
  · rw [if_neg hc] at hd
    cases hd
    by_cases ho : opensAt tag t = true
    · simp [hc, ho, Nat.add_comm]
    · simp [hc, ho]

theorem step_counts (htag : '<' ∉ tag) (hwhole : whole = front ++ c :: t)
    (hd : depthAfter? tag (c :: t) d = some d') {j : Nat} (h : front.byteSize < j)
    (hj : j ≤ (front ++ (c :: t).take (width tag (c :: t))).byteSize) :
    closes tag whole front.byteSize j + d' = opens tag whole front.byteSize j + d := by
  obtain ⟨hclose, hopen⟩ := closes_step htag hwhole h hj
  rw [hclose, hopen, depthAfter?_counts hd]

theorem byteSize_lt_step (tag front : Text) (c : Char) (t : Text) :
    front.byteSize < (front ++ (c :: t).take (width tag (c :: t))).byteSize := by
  obtain ⟨w, hw⟩ := Nat.exists_eq_add_one.mpr (width_pos tag (c :: t))
  have hc := c.utf8Size_pos
  rw [hw, List.take_succ_cons, Text.byteSize_append, Text.byteSize_cons]
  omega

theorem counts_from_step (htag : '<' ∉ tag) (hwhole : whole = front ++ c :: t)
    (hd : depthAfter? tag (c :: t) d = some d') {n : Nat}
    (hn : (front ++ (c :: t).take (width tag (c :: t))).byteSize ≤ n) :
    ∃ x y, x + d' = y + d ∧
      closes tag whole front.byteSize n =
        x + closes tag whole (front ++ (c :: t).take (width tag (c :: t))).byteSize n ∧
      opens tag whole front.byteSize n =
        y + opens tag whole (front ++ (c :: t).take (width tag (c :: t))).byteSize n := by
  have hlt := byteSize_lt_step tag front c t
  exact ⟨_, _, step_counts htag hwhole hd hlt (Nat.le_refl _), tally_add (Nat.le_of_lt hlt) hn,
    tally_add (Nat.le_of_lt hlt) hn⟩

theorem Inside.of_step (htag : '<' ∉ tag) (hwhole : whole = front ++ c :: t)
    (hd : depthAfter? tag (c :: t) d = some d') {j : Nat}
    (h : Inside tag whole (front ++ (c :: t).take (width tag (c :: t))).byteSize d' j) :
    Inside tag whole front.byteSize d j := by
  intro n hn
  by_cases hfront : n ≤ front.byteSize
  · rw [closes, tally_of_le hfront]
    exact Nat.zero_le _
  · by_cases hstep : n ≤ (front ++ (c :: t).take (width tag (c :: t))).byteSize
    · have := step_counts htag hwhole hd (Nat.lt_of_not_le hfront) hstep
      omega
    · obtain ⟨x, y, hxy, hx, hy⟩ := counts_from_step htag hwhole hd (Nat.le_of_not_le hstep)
      have := h n hn
      omega

structure Ends (tag whole : Text) (i d p : Nat) : Prop where
  le : i ≤ p
  close : isClose tag whole p = true
  counts : closes tag whole i p = opens tag whole i p + d
  inside : Inside tag whole i d p

theorem inside_of_split (htag : '<' ∉ tag) (hwhole : whole = front ++ t)
    (h : split tag d t = none) (j : Nat) : Inside tag whole front.byteSize d j := by
  fun_induction split tag d t generalizing front with
  | case1 d =>
    rw [List.append_nil] at hwhole
    intro n _
    rw [closes, tally_eq_zero]
    · exact Nat.zero_le _
    · intro m hm _
      rw [Bool.eq_false_iff]
      intro hs
      have hsize := Text.le_byteSize_of_standsAt hs
      have := lookahead_pos tag
      rw [byteSize_closing, hwhole] at hsize
      omega
  | case2 d c t hd => cases h
  | case3 d c t d' hd ih =>
    apply Inside.of_step htag hwhole hd
    apply ih _ (Option.map_eq_none_iff.mp h)
    rw [hwhole, List.append_assoc, List.take_append_drop]

theorem ends_of_split {region rest : Text} (htag : '<' ∉ tag) (hwhole : whole = front ++ t)
    (h : split tag d t = some (region, rest)) :
    ∃ p, Ends tag whole front.byteSize d p ∧
      p + (closing tag).byteSize = (front ++ region).byteSize := by
  fun_induction split tag d t generalizing front region with
  | case1 d => cases h
  | case2 d c t hd =>
    cases h
    have hc := closesAt_of_depthAfter? hd
    rw [take_width_of_closesAt hc]
    refine ⟨front.byteSize, ⟨Nat.le_refl _, ?_, ?_, ?_⟩, (Text.byteSize_append ..).symm⟩
    · rw [hwhole, isClose_append]
      exact hc
    · rw [depthAfter?, if_pos hc] at hd
      by_cases h0 : d = 0
      · rw [closes, opens, tally_of_le (Nat.le_refl _), tally_of_le (Nat.le_refl _), h0]
      · rw [if_neg h0] at hd
        cases hd
    · intro n hn
      rw [closes, tally_of_le hn]
      exact Nat.zero_le _
  | case3 d c t d' hd ih =>
    obtain ⟨x, hx, he⟩ := Option.map_eq_some_iff.mp h
    cases he
    have hwhole' : whole = front ++ (c :: t).take (width tag (c :: t)) ++
        (c :: t).drop (width tag (c :: t)) := by
      rw [hwhole, List.append_assoc, List.take_append_drop]
    obtain ⟨p, hp, hsize⟩ := ih hwhole' hx
    refine ⟨p, ⟨?_, hp.close, ?_, hp.inside.of_step htag hwhole hd⟩, ?_⟩
    · exact Nat.le_trans (Nat.le_of_lt (byteSize_lt_step tag front c t)) hp.le
    · obtain ⟨x, y, hxy, hx, hy⟩ := counts_from_step htag hwhole hd hp.le
      have := hp.counts
      omega
    · rw [hsize, List.append_assoc]

theorem Inside.not_balances {i j p : Nat} (h : Inside tag t i 0 j) (hp : p < j) :
    ¬Balances tag t i p := by
  intro hb
  have := h (p + 1) hp
  rw [opens, tally_succ hb.start_le, isOpen_eq_false hb.close, ← opens, hb.counts,
    if_neg Bool.false_ne_true] at this
  omega

variable {i p : Nat}

theorem Ends.isLeast (h : Ends tag t i 0 p) : IsLeast {p | Balances tag t i p} p := by
  constructor
  · refine ⟨h.le, h.close, ?_⟩
    rw [closes, tally_succ h.le, h.close, ← closes, h.counts]
    rfl
  · intro q hq
    exact Nat.le_of_not_lt fun hlt => h.inside.not_balances hlt hq

theorem byteSize_closing_eq (tag : Text) :
    (closing tag).byteSize = (opening tag).byteSize + 2 := by
  simp [closing, opening, Char.utf8Size]
  omega

theorem Ends.depth_pos (h : Ends tag t i 0 p) {q : Nat} (hq : q < p + (closing tag).byteSize) :
    1 ≤ depth tag t i q := by
  have hsize := byteSize_closing_eq tag
  have hinside := h.inside (q + 1 - (closing tag).byteSize) (by omega)
  have hmono := tally_mono (isOpen tag t) i
    (show q + 1 - (closing tag).byteSize ≤ q - (opening tag).byteSize by omega)
  rw [← opens, ← opens] at hmono
  rw [depth]
  omega

theorem isOpen_behind_close (htag : '<' ∉ tag) (h : isClose tag t p = true) :
    isOpen tag t (p + 1) = false := by
  obtain ⟨u, v, rfl, rfl⟩ := Text.standsAt_iff.mp h
  have hinside : '<' ∉ '/' :: tag ++ ['>'] := by simp [htag]
  refine isOpen_inside hinside (Nat.lt_succ_self _) ?_
  change u.byteSize + 1 < Text.byteSize (u ++ closing tag)
  rw [Text.byteSize_append, byteSize_closing_eq]
  omega

theorem Ends.depth_eq_zero (htag : '<' ∉ tag) (h : Ends tag t i 0 p) :
    depth tag t i (p + (closing tag).byteSize) = 0 := by
  have hsize := byteSize_closing_eq tag
  have hclose := h.isLeast.1.counts
  have hopen : opens tag t i (p + 1 + 1) = opens tag t i p := by
    rw [opens, tally_succ (Nat.le_succ_of_le h.le), isOpen_behind_close htag h.close,
      tally_succ h.le, isOpen_eq_false h.close]
    rfl
  rw [depth, show p + (closing tag).byteSize - (opening tag).byteSize = p + 1 + 1 by omega,
    show p + (closing tag).byteSize + 1 - (closing tag).byteSize = p + 1 by omega, hopen, hclose]
  omega

theorem byteSize_cutAfter_le (read : Text) {start n : Nat} {v : Text} (h : start ≤ n)
    (ht : t = front ++ v) (hn : front.byteSize = n) :
    (Text.cutAfter start read t).1.byteSize ≤ read.byteSize + n := by
  fun_induction Text.cutAfter start read t generalizing front n with
  | case1 read t => exact Nat.le_add_right ..
  | case2 k read => exact Nat.le_add_right ..
  | case3 k read c t ih =>
    cases front with
    | nil =>
      rw [Text.byteSize_nil] at hn
      omega
    | cons d front =>
      obtain ⟨rfl, ht'⟩ := List.cons.inj ht
      rw [Text.byteSize_cons] at hn
      have := ih (n := Text.byteSize front) (by omega) ht' rfl
      rw [Text.byteSize_cons] at this
      omega

theorem le_iff_of_standsAt {p : Text} {start n : Nat} (hp : p ≠ []) (h : standsAt p t n = true) :
    start ≤ n ↔ (Text.cutAfter start [] t).1.byteSize ≤ n := by
  constructor
  · intro hle
    obtain ⟨u, v, huv, hn⟩ := Text.standsAt_iff.mp h
    have := byteSize_cutAfter_le [] hle (huv.trans (List.append_assoc u p v)) hn
    rwa [Text.byteSize_nil, Nat.zero_add] at this
  · intro hle
    by_cases hrest : (Text.cutAfter start [] t).2 = []
    · have hcut := congrArg Text.byteSize (Text.cutAfter_append start [] t)
      have hpos : p.byteSize ≠ 0 := fun h0 => hp (Text.eq_nil_of_byteSize_eq_zero h0)
      have hsize := Text.le_byteSize_of_standsAt h
      rw [hrest, List.append_nil, Text.byteSize_reverse, List.reverse_nil, List.nil_append] at hcut
      omega
    · have := Text.le_byteSize_cutAfter hrest
      rw [Text.byteSize_nil, Nat.zero_add] at this
      exact Nat.le_trans this hle

theorem isClose_cutAfter (tag t : Text) (start : Nat) {n : Nat} (h : isClose tag t n = true) :
    start ≤ n ↔ (Text.cutAfter start [] t).1.byteSize ≤ n :=
  le_iff_of_standsAt (List.cons_ne_nil _ _) h

theorem isOpen_cutAfter (tag t : Text) (start : Nat) {n : Nat} (h : isOpen tag t n = true) :
    start ≤ n ↔ (Text.cutAfter start [] t).1.byteSize ≤ n := by
  rw [isOpen, Bool.and_eq_true, List.any_eq_true] at h
  obtain ⟨-, c, -, hc⟩ := h
  exact le_iff_of_standsAt (List.cons_ne_nil _ _) hc

theorem Inside.of_cutAfter {start d j : Nat}
    (h : Inside tag t (Text.cutAfter start [] t).1.byteSize d j) : Inside tag t start d j := by
  intro n hn
  rw [closes, opens, tally_congr_from fun _ => isClose_cutAfter tag t start,
    tally_congr_from fun _ => isOpen_cutAfter tag t start]
  exact h n hn

theorem Ends.of_cutAfter {start d : Nat}
    (h : Ends tag t (Text.cutAfter start [] t).1.byteSize d p) : Ends tag t start d p where
  le := (isClose_cutAfter tag t start h.close).mpr h.le
  close := h.close
  counts := by
    rw [closes, opens, tally_congr_from fun _ => isClose_cutAfter tag t start,
      tally_congr_from fun _ => isOpen_cutAfter tag t start]
    exact h.counts
  inside := h.inside.of_cutAfter

end RefPages.Region

namespace RefPages.Buffer

open Region

variable {tag t : Text} {start : Nat}

theorem inside_of_regionEnd? (htag : '<' ∉ tag) (h : regionEnd? start tag t = none) (j : Nat) :
    Inside tag t start 0 j := by
  have hcut := Text.cutAfter_append start [] t
  rw [List.reverse_nil, List.nil_append] at hcut
  apply Inside.of_cutAfter
  rw [← Text.byteSize_reverse]
  exact inside_of_split htag hcut.symm (Option.map_eq_none_iff.mp h) j

theorem ends_of_regionEnd? {r : Nat} (htag : '<' ∉ tag) (h : regionEnd? start tag t = some r) :
    ∃ p, Ends tag t start 0 p ∧ p + (closing tag).byteSize = r := by
  have hcut := Text.cutAfter_append start [] t
  rw [List.reverse_nil, List.nil_append] at hcut
  obtain ⟨⟨region, rest⟩, hs, rfl⟩ := Option.map_eq_some_iff.mp h
  obtain ⟨p, hp, hsize⟩ := ends_of_split htag hcut.symm hs
  rw [Text.byteSize_reverse] at hp
  refine ⟨p, hp.of_cutAfter, ?_⟩
  rw [hsize, Text.byteSize_append, Text.byteSize_reverse]

/-- The search for the end of a region answers the end of the first closing tag that balances the
tags before it, and fails only where there is none. Before that end the text is never outside of the
region. -/
theorem regionEnd_balances (start : Nat) {tag : Text} (htag : '<' ∉ tag) (b : Buffer) :
    (∀ r, (b.regionEnd start tag).1 = .ok r ↔
        ∃ p, IsLeast {p | Balances tag b.text start p} p ∧ r = p + (closing tag).byteSize) ∧
      ((b.regionEnd start tag).1 = .error ⟨tag⟩ ↔ ∀ p, ¬Balances tag b.text start p) ∧
        ∀ r, (b.regionEnd start tag).1 = .ok r →
          (∀ q < r, 1 ≤ depth tag b.text start q) ∧ depth tag b.text start r = 0 := by
  rw [(regionEnd_eq start tag b).1]
  cases h : regionEnd? start tag b.text with
  | none =>
    have hnone (p : Nat) : ¬Balances tag b.text start p :=
      (inside_of_regionEnd? htag h (p + 1)).not_balances (Nat.lt_succ_self p)
    refine ⟨?_, by simpa using hnone, by simp⟩
    intro r
    constructor
    · intro hr
      cases hr
    · rintro ⟨p, hp, -⟩
      exact absurd hp.1 (hnone p)
  | some n =>
    obtain ⟨p, hp, rfl⟩ := ends_of_regionEnd? htag h
    refine ⟨?_, ?_, ?_⟩
    · intro r
      constructor
      · intro hr
        cases hr
        exact ⟨p, hp.isLeast, rfl⟩
      · rintro ⟨q, hq, rfl⟩
        rw [hq.unique hp.isLeast]
        rfl
    · constructor
      · intro he
        cases he
      · intro hnone
        exact absurd hp.isLeast.1 (hnone p)
    · intro r hr
      cases hr
      exact ⟨fun q hq => hp.depth_pos hq, hp.depth_eq_zero htag⟩

theorem regionEnd_balances_nested :
    let tag := "div".toList
    let b : Buffer :=
      ⟨"<div>a<div\t>".toList, ["<divider></div></di".toList, "</div>b".toList]⟩
    '<' ∉ tag ∧ (b.regionEnd 5 tag).1 = .ok 39 ∧
      IsLeast {p | Balances tag b.text 5 p} 33 ∧ 1 ≤ depth tag b.text 5 38 := by
  intro tag b
  have htag : '<' ∉ tag := by decide
  have hr : (b.regionEnd 5 tag).1 = .ok 39 := by decide +kernel
  obtain ⟨hend, -, hdepth⟩ := regionEnd_balances 5 htag b
  obtain ⟨p, hp, hsize⟩ := (hend 39).mp hr
  obtain rfl : p = 33 := Nat.add_right_cancel (m := 6) hsize.symm
  exact ⟨htag, hr, hp, (hdepth 39 hr).1 38 (by decide)⟩

end RefPages.Buffer
