import RefPages.Text.Blank

/-!
A feed is text that arrives line by line: what has been loaded and not yet read, and the lines
still to come. Reading a region to the tag that closes it loads a line only when fewer bytes are
loaded than the closing tag is long.
-/

namespace RefPages

structure Unclosed where
  tag : Text
  deriving DecidableEq, Repr

def Unclosed.message (e : Unclosed) : Text :=
  "Unexpected end of input while looking for closing </".toList ++ e.tag ++ ['>']

structure Feed where
  ahead : Text
  pending : List Text
  deriving DecidableEq, Repr

namespace Feed

def unread (pending : List Text) : Text :=
  pending.flatMap fun line => '\n' :: line

def text (f : Feed) : Text :=
  f.ahead ++ unread f.pending

def fill (n : Nat) : (ahead : Text) → (pending : List Text) → Feed
  | ahead, [] => ⟨ahead, []⟩
  | ahead, line :: pending =>
    if Text.hasBytes n ahead then ⟨ahead, line :: pending⟩
    else fill n (ahead ++ '\n' :: line) pending

@[simp]
theorem unread_nil : unread [] = [] := rfl

@[simp]
theorem unread_cons (line : Text) (pending : List Text) :
    unread (line :: pending) = '\n' :: line ++ unread pending := rfl

theorem fill_text (n : Nat) (ahead : Text) (pending : List Text) :
    (fill n ahead pending).text = ahead ++ unread pending := by
  fun_induction fill n ahead pending with
  | case1 => rfl
  | case2 => rfl
  | case3 ahead line pending _ ih => simpa using ih

theorem fill_pending_suffix (n : Nat) (ahead : Text) (pending : List Text) :
    (fill n ahead pending).pending <:+ pending := by
  fun_induction fill n ahead pending with
  | case1 => exact List.suffix_refl _
  | case2 => exact List.suffix_refl _
  | case3 ahead line pending _ ih => exact ih.trans (List.suffix_cons _ _)

def afterClose (ahead : Text) : (pending : List Text) → Option Feed
  | [] =>
    match ahead.dropWhile (· ≠ '>') with
    | [] => none
    | _ :: rest => some ⟨rest, []⟩
  | line :: pending =>
    match ahead.dropWhile (· ≠ '>') with
    | [] => afterClose line pending
    | _ :: rest => some ⟨rest, line :: pending⟩

theorem afterClose_suffix {ahead : Text} {pending : List Text} {f : Feed}
    (h : afterClose ahead pending = some f) :
    List.IsSuffix ('>' :: f.text) (ahead ++ unread pending) := by
  have key : ∀ {c : Char} {ahead rest : Text} (pending : List Text),
      ahead.dropWhile (· ≠ '>') = c :: rest →
        List.IsSuffix ('>' :: (rest ++ unread pending)) (ahead ++ unread pending) := by
    intro c ahead rest pending hd
    have hc : c = '>' := by
      have := List.head?_dropWhile_not (· ≠ '>') ahead
      rw [hd] at this
      simpa using this
    obtain ⟨s, hs⟩ := List.dropWhile_suffix (l := ahead) (· ≠ '>')
    exact ⟨s, by rw [← hs, hd, hc]; simp⟩
  fun_induction afterClose ahead pending with
  | case1 => simp at h
  | case2 ahead c rest hd =>
    cases h
    exact key [] hd
  | case3 ahead line pending _ ih =>
    exact (ih h).trans ⟨ahead ++ ['\n'], by simp⟩
  | case4 ahead line pending c rest hd =>
    cases h
    exact key (line :: pending) hd

end Feed

namespace Region

def opening (tag : Text) : Text :=
  '<' :: tag

def closing (tag : Text) : Text :=
  '<' :: '/' :: tag ++ ['>']

def endsName (c : Char) : Bool :=
  c == '>' || c == '/' || isAsciiBlank c

def opensAt (tag t : Text) : Bool :=
  (opening tag).isPrefixOf t && (t.drop (opening tag).length).head?.any endsName

def closesAt (tag t : Text) : Bool :=
  (closing tag).isPrefixOf t

def lookahead (tag : Text) : Nat :=
  max (closing tag).byteSize ((opening tag).byteSize + 1)

def width (tag t : Text) : Nat :=
  if closesAt tag t then (closing tag).length
  else if opensAt tag t then (opening tag).length
  else 1

theorem width_pos (tag t : Text) : 0 < width tag t := by
  unfold width
  split
  · simp [closing]
  · split
    · simp [opening]
    · exact Nat.one_pos

/-- Reads to the end of the closing tag that ends the region, `depth` levels up. What has been
taken is in `taken`, last character first. -/
def read (tag : Text) (depth : Nat) (taken ahead : Text) (pending : List Text) :
    Option (Text × Feed) :=
  match h : Feed.fill (lookahead tag) ahead pending with
  | ⟨[], _⟩ => none
  | ⟨c :: t, pending'⟩ =>
    let w := width tag (c :: t)
    let taken := ((c :: t).take w).reverse ++ taken
    if closesAt tag (c :: t) then
      match depth with
      | 0 => some (taken.reverse, ⟨(c :: t).drop w, pending'⟩)
      | depth + 1 => read tag depth taken ((c :: t).drop w) pending'
    else
      read tag (if opensAt tag (c :: t) then depth + 1 else depth) taken ((c :: t).drop w) pending'
termination_by (ahead ++ Feed.unread pending).length
decreasing_by
  all_goals
    have hw := width_pos tag (c :: t)
    have ht := congrArg List.length (Feed.fill_text (lookahead tag) ahead pending)
    rw [h] at ht
    simp only [Feed.text, List.length_append, List.length_cons, List.length_drop] at ht ⊢
    omega

theorem read_append {tag : Text} {depth : Nat} {taken ahead : Text} {pending : List Text}
    {region : Text} {rest : Feed} (h : read tag depth taken ahead pending = some (region, rest)) :
    region ++ rest.text = taken.reverse ++ (ahead ++ Feed.unread pending) := by
  fun_induction read tag depth taken ahead pending with
  | case1 => simp at h
  | case2 taken ahead pending c t pending' hf w taken' hc =>
    cases h
    rw [← Feed.fill_text (lookahead tag) ahead pending, hf]
    simp [taken', Feed.text, ← List.append_assoc (List.take _ _)]
  | case3 taken ahead pending c t pending' hf w taken' hc depth ih =>
    rw [ih h, ← Feed.fill_text (lookahead tag) ahead pending, hf]
    simp [taken', Feed.text, ← List.append_assoc (List.take _ _)]
  | case4 depth taken ahead pending c t pending' hf w taken' hc ih =>
    rw [ih h, ← Feed.fill_text (lookahead tag) ahead pending, hf]
    simp [taken', Feed.text, ← List.append_assoc (List.take _ _)]

end Region

def Feed.region (tag : Text) (f : Feed) : Option (Text × Feed) :=
  Region.read tag 0 [] f.ahead f.pending

theorem Feed.region_append {tag : Text} {f rest : Feed} {region : Text}
    (h : f.region tag = some (region, rest)) : region ++ rest.text = f.text := by
  simpa [Feed.text] using Region.read_append h

end RefPages
