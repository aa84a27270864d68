import RefPages.Proofs.Page.Marked
import RefPages.Proofs.Text.Search

/-!
The raw reading of a page as offsets of bytes in one text. No buffer grows here and no lines are
taken from a list: a line is the text between two line feeds, and a region is searched for in all of
the text that follows.
-/

namespace RefPages.Page.ByOffset

open Text

def lineEnd (t : Text) (n : Nat) : Nat :=
  (first? ['\n'] t n t.byteSize).getD t.byteSize

def opensAt (tag t : Text) (n : Nat) : Bool :=
  standsAt (Region.opening tag) t n &&
    (from? (n + (Region.opening tag).byteSize) t).any (·.head?.any Region.endsName)

def regionEnd? (tag t : Text) (depth n : Nat) : Option Nat :=
  if n < t.byteSize then
    if standsAt (Region.closing tag) t n then
      if depth = 0 then some (n + (Region.closing tag).byteSize)
      else regionEnd? tag t (depth - 1) (n + (Region.closing tag).byteSize)
    else if opensAt tag t n then regionEnd? tag t (depth + 1) (n + (Region.opening tag).byteSize)
    else regionEnd? tag t depth (n + 1)
  else none
termination_by t.byteSize - n
decreasing_by
  · have := Region.lookahead_pos tag
    rw [Region.byteSize_closing]
    omega
  · have := Nat.one_le_iff_ne_zero.mp ('<').utf8Size_pos
    rw [Region.opening, byteSize_cons]
    omega
  · omega

theorem regionEnd?_bounds {tag t : Text} {depth n e : Nat}
    (h : regionEnd? tag t depth n = some e) : n < e ∧ e ≤ t.byteSize := by
  fun_induction regionEnd? tag t depth n with
  | case1 n hn hc =>
    cases h
    have := Region.lookahead_pos tag
    rw [← Region.byteSize_closing] at this
    exact ⟨by omega, le_byteSize_of_standsAt hc⟩
  | case2 depth n hn hc hd ih =>
    have := ih h
    omega
  | case3 depth n hn hc ho ih =>
    have := ih h
    omega
  | case4 depth n hn hc ho ih =>
    have := ih h
    omega
  | case5 => cases h

theorem lineEnd_bounds {t : Text} {n : Nat} (h : n ≤ t.byteSize) :
    n ≤ lineEnd t n ∧ lineEnd t n ≤ t.byteSize := by
  rw [lineEnd]
  cases hf : first? ['\n'] t n t.byteSize with
  | none => exact ⟨h, Nat.le_refl _⟩
  | some m =>
    have := first?_bounds hf
    dsimp only [Option.getD_some]
    omega

def marked (t marker : Text) (i j : Nat) : Except Fault (List Text × Nat) :=
  match _hm : first? marker t i j with
  | none => .ok ([], j)
  | some m =>
    match _hs : first? ['>'] t (m + marker.byteSize - 1) t.byteSize with
    | none => .error (.unclosed ⟨marker⟩)
    | some s =>
      match _he : regionEnd? container t 0 (s + 1) with
      | none => .error (.unclosed ⟨container⟩)
      | some e =>
        match slice? t (s + 1) e with
        | none => .error (.bounds (s + 1) e)
        | some fragment =>
          match marked t marker e (lineEnd t (e - 1)) with
          | .error fault => .error fault
          | .ok (strings, j) => .ok (Prose.strings fragment ++ strings, j)
termination_by t.byteSize - i
decreasing_by
  have hm := first?_bounds _hm
  have hs := first?_bounds _hs
  have he := regionEnd?_bounds _he
  omega

theorem marked_unfold (t marker : Text) (i j : Nat) :
    marked t marker i j =
      match first? marker t i j with
      | none => .ok ([], j)
      | some m =>
        match first? ['>'] t (m + marker.byteSize - 1) t.byteSize with
        | none => .error (.unclosed ⟨marker⟩)
        | some s =>
          match regionEnd? container t 0 (s + 1) with
          | none => .error (.unclosed ⟨container⟩)
          | some e =>
            match slice? t (s + 1) e with
            | none => .error (.bounds (s + 1) e)
            | some fragment => (marked t marker e (lineEnd t (e - 1))).map fun x =>
                (Prose.strings fragment ++ x.1, x.2) := by
  rw [marked]
  split
  · next hm => rw [hm]
  · next m hm =>
    rw [hm]
    dsimp only
    split
    · next hs => rw [hs]
    · next s hs =>
      rw [hs]
      dsimp only
      split
      · next he => rw [he]
      · next e he =>
        rw [he]
        dsimp only
        cases slice? t (s + 1) e with
        | none => rfl
        | some fragment =>
          dsimp only
          cases marked t marker e (lineEnd t (e - 1)) <;> rfl

theorem le_of_marked {t marker : Text} {i j k : Nat} {strings : List Text}
    (h : marked t marker i j = .ok (strings, k)) : min i j ≤ k := by
  fun_induction marked t marker i j generalizing strings with
  | case1 => cases h; exact Nat.min_le_right ..
  | case2 => cases h
  | case3 => cases h
  | case4 => cases h
  | case5 => cases h
  | case6 i j m hm s hs e he fragment hf strings' k' hk ih =>
    cases h
    have hi := first?_bounds hm
    have hs := first?_bounds hs
    have he := regionEnd?_bounds he
    have hl := @lineEnd_bounds t (e - 1) (by omega)
    have := ih hk
    omega

def scanFrom (t : Text) (i : Nat) : Except Fault Extract :=
  if _h : i ≤ t.byteSize then
    match [Section.synopsis, .errors].find? fun s => (first? s.marker t i (lineEnd t i)).isSome with
    | none => scanFrom t (lineEnd t i + 1)
    | some s =>
      match _hm : marked t s.marker i (lineEnd t i) with
      | .error fault => .error fault
      | .ok (strings, j) => (scanFrom t (j + 1)).map (Block.extract ⟨s, strings⟩ ++ ·)
  else .ok {}
termination_by t.byteSize + 1 - i
decreasing_by
  · have := lineEnd_bounds _h
    omega
  · have := lineEnd_bounds _h
    have := le_of_marked _hm
    omega

theorem scanFrom_unfold {t : Text} {i : Nat} (h : i ≤ t.byteSize) :
    scanFrom t i =
      match [Section.synopsis, .errors].find? fun s =>
        (first? s.marker t i (lineEnd t i)).isSome with
      | none => scanFrom t (lineEnd t i + 1)
      | some s =>
        match marked t s.marker i (lineEnd t i) with
        | .error fault => .error fault
        | .ok (strings, j) => (scanFrom t (j + 1)).map (Block.extract ⟨s, strings⟩ ++ ·) := by
  rw [scanFrom, dif_pos h]
  split
  · rfl
  · split
    · next hm => rw [hm]
    · next hm => rw [hm]

def scan (t : Text) : Except Fault Extract :=
  scanFrom t 0

end RefPages.Page.ByOffset
