import RefPages.Proofs.Scan.LeastLines

namespace RefPages

namespace Text

variable {c : Char} {t : Text} {i n : Nat}

def placesOf (c : Char) (t : Text) (i : Nat) : Set Nat :=
  {n | i ≤ n ∧ standsAt [c] t n = true}

theorem standsAt_inside : (standsAt [c] t n && decide (n + byteSize [c] ≤ t.byteSize)) =
    standsAt [c] t n := by
  rw [Bool.and_eq_left_iff_imp]
  intro h
  exact decide_eq_true (le_byteSize_of_standsAt h)

theorem lt_byteSize_of_standsAt (h : standsAt [c] t n = true) : n < t.byteSize := by
  have hc := c.utf8Size_pos
  have := le_byteSize_of_standsAt h
  rw [byteSize_cons] at this
  omega

theorem first?_eq_some_iff :
    first? [c] t i t.byteSize = some n ↔ IsLeast (placesOf c t i) n := by
  simp only [first?, standsAt_inside]
  rw [List.find?_range'_eq_some, List.mem_range'_1]
  constructor
  · rintro ⟨hat, hn, hmin⟩
    refine ⟨⟨hn.1, hat⟩, ?_⟩
    rintro m ⟨hm, hat'⟩
    apply Nat.le_of_not_lt
    intro hlt
    have := hmin m hm hlt
    rw [hat'] at this
    cases this
  · rintro ⟨⟨hn, hat⟩, hmin⟩
    have hlt := lt_byteSize_of_standsAt hat
    refine ⟨hat, ⟨hn, by omega⟩, ?_⟩
    intro m hm hmn
    rw [Bool.not_eq_true', Bool.eq_false_iff]
    intro hat'
    exact Nat.not_lt.mpr (hmin ⟨hm, hat'⟩) hmn

theorem first?_eq_none_iff : first? [c] t i t.byteSize = none ↔ placesOf c t i = ∅ := by
  simp only [first?, standsAt_inside]
  rw [List.find?_range'_eq_none, Set.eq_empty_iff_forall_notMem]
  constructor
  · rintro h n ⟨hn, hat⟩
    have hlt := lt_byteSize_of_standsAt hat
    have := h n hn (by omega)
    rw [hat] at this
    cases this
  · intro h n hn _
    rw [Bool.not_eq_true', Bool.eq_false_iff]
    intro hat
    exact h n ⟨hn, hat⟩

end Text

namespace Buffer

theorem closeAfter?_eq_first? {start : Nat} {t back : Text} (h : Text.from? start t = some back) :
    closeAfter? start t = (Text.first? ['>'] t start t.byteSize).map (· + 1) := by
  obtain ⟨front, rfl, rfl⟩ := Text.from?_eq_some_iff.mp h
  rw [closeAfter?, h, Option.bind_some]
  by_cases hc : '>' ∈ back
  · obtain ⟨mid, rest, rfl, hmid⟩ := List.eq_append_cons_of_mem hc
    rw [Text.offsetOf?_append_cons rest hmid, Text.first?_char front rest hmid]
    rfl
  · rw [Text.offsetOf?_eq_none hc, Text.first?_char_eq_none front hc]
    rfl

def EndsInByte (t : Text) : Prop :=
  ∃ c ∈ t.getLast?, c.utf8Size = 1

def lastByte (n : Nat) (t : Text) : Nat :=
  n + t.byteSize - 1

variable {front m : Text} {c : Char}

theorem endsInByte_concat : EndsInByte (m ++ [c]) ↔ c.utf8Size = 1 := by
  simp [EndsInByte]

theorem lastByte_concat : lastByte front.byteSize (m ++ [c]) =
    (front ++ m).byteSize + (c.utf8Size - 1) := by
  have hc := c.utf8Size_pos
  simp only [lastByte, Text.byteSize_append, Text.byteSize_cons, Text.byteSize_nil]
  omega

theorem contentStart?_concat (rest : Text) :
    contentStart? front.byteSize (m ++ [c]) (front ++ (m ++ [c]) ++ rest) =
      closeAfter? ((front ++ m).byteSize + (c.utf8Size - 1)) ((front ++ m) ++ c :: rest) := by
  have hc := c.utf8Size_pos
  have hstart : front.byteSize + (Text.byteSize (m ++ [c]) - 1) =
      (front ++ m).byteSize + (c.utf8Size - 1) := by
    simp only [Text.byteSize_append, Text.byteSize_cons, Text.byteSize_nil]
    omega
  rw [contentStart?, hstart]
  simp

variable {markerAt : Nat} {marker t : Text}

theorem contentStart?_of_endsInByte (h : Text.standsAt marker t markerAt = true)
    (hends : EndsInByte marker) :
    contentStart? markerAt marker t =
      (Text.first? ['>'] t (lastByte markerAt marker) t.byteSize).map (· + 1) := by
  obtain ⟨front, rest, rfl, rfl⟩ := Text.standsAt_iff.mp h
  obtain ⟨c, hlast, hc⟩ := hends
  obtain ⟨m, rfl⟩ := List.getLast?_eq_some_iff.mp hlast
  have hback : Text.from? (front ++ m).byteSize ((front ++ m) ++ c :: rest) = some (c :: rest) :=
    Text.from?_append ..
  rw [contentStart?_concat, lastByte_concat, hc, Nat.sub_self, Nat.add_zero,
    closeAfter?_eq_first? hback]
  simp

theorem contentStart?_of_not_endsInByte (h : Text.standsAt marker t markerAt = true)
    (hne : marker ≠ []) (hends : ¬EndsInByte marker) : contentStart? markerAt marker t = none := by
  obtain ⟨front, rest, rfl, rfl⟩ := Text.standsAt_iff.mp h
  obtain ⟨m, c, rfl⟩ : ∃ m c, marker = m ++ [c] :=
    ⟨_, _, (List.dropLast_concat_getLast hne).symm⟩
  have hc := c.utf8Size_pos
  rw [endsInByte_concat] at hends
  rw [contentStart?_concat, closeAfter?, Text.from?_eq_none_of_inside (by omega) (by omega)]
  rfl

theorem standsAt_text {b : Buffer} (h : Text.standsAt marker b.loaded markerAt = true) :
    Text.standsAt marker b.text markerAt = true := by
  obtain ⟨front, rest, hb, hat⟩ := Text.standsAt_iff.mp h
  apply Text.standsAt_iff.mpr
  refine ⟨front, rest ++ Feed.unread b.pending, ?_, hat⟩
  rw [text, hb, List.append_assoc]

theorem eq_loadAll_of_error {b : Buffer} {e : Unclosed}
    (h : (b.contentStart markerAt marker).1 = .error e) :
    (b.contentStart markerAt marker).2 = b.loadAll := by
  have hleast := loadsLeast_contentStart markerAt marker b
  generalize b.contentStart markerAt marker = answer at h hleast
  obtain ⟨result, after⟩ := answer
  cases h
  exact hleast

/-- The content of a region begins behind the first `>` that stands at or after the last byte of the
marker, and there is none only where no such `>` stands, if that byte is a character. If it is not,
nothing is found and all lines are loaded. -/
theorem contentStart_isLeast {b : Buffer} (hne : marker ≠ [])
    (h : Text.standsAt marker b.loaded markerAt = true) :
    (∀ r, (b.contentStart markerAt marker).1 = .ok r ↔ EndsInByte marker ∧
        ∃ p, IsLeast (Text.placesOf '>' b.text (lastByte markerAt marker)) p ∧ r = p + 1) ∧
      ((b.contentStart markerAt marker).1 = .error ⟨marker⟩ ↔
        (EndsInByte marker → Text.placesOf '>' b.text (lastByte markerAt marker) = ∅)) ∧
      (¬EndsInByte marker → b.contentStart markerAt marker = (.error ⟨marker⟩, b.loadAll)) := by
  have hat := standsAt_text h
  have hanswer := (contentStart_eq markerAt marker b).1
  by_cases hends : EndsInByte marker
  · rw [contentStart?_of_endsInByte hat hends] at hanswer
    refine ⟨?_, ?_, fun hn => absurd hends hn⟩
    · intro r
      simp only [hends, true_and, ← Text.first?_eq_some_iff]
      rw [hanswer]
      cases Text.first? ['>'] b.text (lastByte markerAt marker) b.text.byteSize with
      | none => simp
      | some p => simp [eq_comm]
    · simp only [hends, true_imp_iff, ← Text.first?_eq_none_iff]
      rw [hanswer]
      cases Text.first? ['>'] b.text (lastByte markerAt marker) b.text.byteSize <;> simp
  · rw [contentStart?_of_not_endsInByte hat hne hends] at hanswer
    refine ⟨?_, ?_, fun _ => Prod.ext hanswer (eq_loadAll_of_error hanswer)⟩
    · intro r
      rw [hanswer]
      simp [hends]
    · rw [hanswer]
      simp [hends]

theorem contentStart_isLeast_split :
    let marker := "é class".toList
    let b : Buffer := ⟨"<h2 é class".toList, ["=a>b".toList, ">".toList]⟩
    marker ≠ [] ∧ Text.standsAt marker b.loaded 4 = true ∧
      (b.contentStart 4 marker).1 = .ok 16 ∧
        IsLeast (Text.placesOf '>' b.text (lastByte 4 marker)) 15 := by
  intro marker b
  have hne : marker ≠ [] := by decide
  have hat : Text.standsAt marker b.loaded 4 = true := by decide +kernel
  have hr : (b.contentStart 4 marker).1 = .ok 16 := by decide +kernel
  obtain ⟨-, p, hp, hsize⟩ := ((contentStart_isLeast hne hat).1 16).mp hr
  obtain rfl : p = 15 := Nat.add_right_cancel (m := 1) hsize.symm
  exact ⟨hne, hat, hr, hp⟩

/-- The last byte of the marker is the second of a character, so that the `>` behind it is not
found. -/
theorem contentStart_misses_close :
    let marker := "é".toList
    let b : Buffer := ⟨"é>x".toList, []⟩
    marker ≠ [] ∧ Text.standsAt marker b.loaded 0 = true ∧
      IsLeast (Text.placesOf '>' b.text (lastByte 0 marker)) 2 ∧
        (b.contentStart 0 marker).1 = .error ⟨marker⟩ := by
  intro marker b
  refine ⟨by decide, by decide +kernel, ?_, by decide +kernel⟩
  exact Text.first?_eq_some_iff.mp (by decide +kernel)

end Buffer
end RefPages
