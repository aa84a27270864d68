/-!
Text as a list of characters. Positions in a text are counted in bytes of its UTF-8 form.
-/

namespace RefPages

abbrev Text := List Char

namespace Text

def byteSize : Text → Nat
  | [] => 0
  | c :: t => c.utf8Size + byteSize t

def hasBytes : Nat → Text → Bool
  | 0, _ => true
  | _ + 1, [] => false
  | n + 1, c :: t => hasBytes (n + 1 - c.utf8Size) t

def cutAfter : Nat → (read : Text) → Text → Text × Text
  | 0, read, t => (read, t)
  | _ + 1, read, [] => (read, [])
  -- A character that the cut would fall into is read whole.
  | n + 1, read, c :: t => cutAfter (n + 1 - c.utf8Size) (c :: read) t

def from? : Nat → Text → Option Text
  | 0, t => some t
  | _ + 1, [] => none
  | n + 1, c :: t => if c.utf8Size ≤ n + 1 then from? (n + 1 - c.utf8Size) t else none

def splitAt? (pattern : Text) : (read : Text) → Text → Option (Text × Text)
  | read, [] => if pattern.isEmpty then some (read.reverse, []) else none
  | read, c :: t =>
    if pattern.isPrefixOf (c :: t) then some (read.reverse, (c :: t).drop pattern.length)
    else splitAt? pattern (c :: read) t

def contains (pattern t : Text) : Bool :=
  (splitAt? pattern [] t).isSome

def offsetOf? (c : Char) : Text → Option Nat
  | [] => none
  | d :: t => if d = c then some 0 else (offsetOf? c t).map (d.utf8Size + ·)

@[simp]
theorem byteSize_nil : byteSize [] = 0 := rfl

@[simp]
theorem byteSize_cons (c : Char) (t : Text) : byteSize (c :: t) = c.utf8Size + byteSize t := rfl

@[simp]
theorem byteSize_append (s t : Text) : byteSize (s ++ t) = byteSize s + byteSize t := by
  induction s with
  | nil => simp
  | cons c s ih => simp [ih, Nat.add_assoc]

theorem length_le_byteSize (t : Text) : t.length ≤ byteSize t := by
  induction t with
  | nil => simp
  | cons c t ih =>
    have := c.utf8Size_pos
    simp only [List.length_cons, byteSize_cons]
    omega

theorem hasBytes_iff (n : Nat) (t : Text) : hasBytes n t = true ↔ n ≤ byteSize t := by
  fun_induction hasBytes n t with
  | case1 => simp
  | case2 => simp
  | case3 n c t ih =>
    rw [ih, byteSize_cons]
    omega

theorem cutAfter_append (n : Nat) (read t : Text) :
    (cutAfter n read t).1.reverse ++ (cutAfter n read t).2 = read.reverse ++ t := by
  fun_induction cutAfter n read t with
  | case1 => rfl
  | case2 => rfl
  | case3 n read c t ih => simp [ih]

theorem splitAt?_append {pattern read t before after : Text}
    (h : splitAt? pattern read t = some (before, after)) :
    before ++ pattern ++ after = read.reverse ++ t := by
  fun_induction splitAt? pattern read t with
  | case1 read hp =>
    cases h
    simp [List.isEmpty_iff.mp hp]
  | case2 => simp at h
  | case3 read c t hp =>
    obtain ⟨rest, hr⟩ := List.isPrefixOf_iff_prefix.mp hp
    cases h
    simp [← hr]
  | case4 read c t hp ih => simpa using ih h

end Text
end RefPages
