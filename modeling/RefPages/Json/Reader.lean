import RefPages.Json.Number

namespace RefPages.Json

structure Reader (α : Type) where
  read : Text → Except Fault (α × Text)
  shorter : ∀ {t a rest}, read t = .ok (a, rest) → rest.length < t.length

def isSpace (c : Char) : Bool :=
  c == ' ' || c == '\n' || c == '\t' || c == '\r'

def skipSpace (t : Text) : Text :=
  t.dropWhile isSpace

theorem length_skipSpace_le (t : Text) : (skipSpace t).length ≤ t.length :=
  (List.dropWhile_suffix isSpace).length_le

theorem length_of_skipSpace {t rest : Text} {c : Char} (h : skipSpace t = c :: rest) :
    rest.length < t.length := by
  have := length_skipSpace_le t
  rw [h] at this
  exact this

def readWord : (word t : Text) → Except Fault Text
  | [], t => .ok t
  | _ :: _, [] => .error .cutShort
  | w :: word, c :: t => if c = w then readWord word t else .error .malformed

theorem length_readWord_le {word t rest : Text} (h : readWord word t = .ok rest) :
    rest.length ≤ t.length := by
  fun_induction readWord word t with
  | case1 => cases h; simp
  | case2 => simp at h
  | case3 _ _ _ ih => exact Nat.le_succ_of_le (ih h)
  | case4 => simp at h

def misfit (t : Text) : Fault :=
  let orUnfit {α : Type} : Except Fault α → Fault
    | .error e => e
    | .ok _ => .unfit
  match t with
  | [] => .cutShort
  | 'n' :: t => orUnfit (readWord "ull".toList t)
  | 't' :: t => orUnfit (readWord "rue".toList t)
  | 'f' :: t => orUnfit (readWord "alse".toList t)
  | '-' :: t => orUnfit (Number.read t)
  | '"' :: t => orUnfit (Quoted.read t)
  | '[' :: _ => .unfit
  | '\x7b' :: _ => .unfit
  | c :: t => if c.isDigit then orUnfit (Number.read (c :: t)) else .malformed

namespace Reader

def readBehind {α : Type} (opening : Char) (read : Text → Except Fault (α × Text)) (t : Text) :
    Except Fault (α × Text) :=
  match skipSpace t with
  | [] => .error .cutShort
  | c :: rest => if c = opening then read rest else .error (misfit (c :: rest))

theorem length_readBehind {α : Type} {opening : Char} {read : Text → Except Fault (α × Text)}
    (hr : ∀ {t a rest}, read t = .ok (a, rest) → rest.length < t.length) {t rest : Text} {a : α}
    (h : readBehind opening read t = .ok (a, rest)) : rest.length < t.length := by
  have h₁ := length_skipSpace_le t
  unfold readBehind at h
  split at h
  · simp at h
  · rename_i h₂
    rw [h₂] at h₁
    split at h
    · have := hr h
      simp only [List.length_cons] at h₁
      omega
    · simp at h

def string : Reader Text where
  read := readBehind '"' Quoted.read
  shorter := length_readBehind Quoted.length_read

def readCount (t : Text) : Except Fault (Nat × Text) :=
  match skipSpace t with
  | [] => .error .cutShort
  | c :: rest =>
    if c.isDigit then
      match Number.read (c :: rest) with
      | .error e => .error e
      | .ok (none, _) => .error .unfit
      | .ok (some n, rest) => .ok (n, rest)
    else .error (misfit (c :: rest))

theorem length_readCount {t rest : Text} {n : Nat} (h : readCount t = .ok (n, rest)) :
    rest.length < t.length := by
  have h₁ := length_skipSpace_le t
  unfold readCount at h
  split at h
  · simp at h
  · rename_i h₂
    rw [h₂] at h₁
    split at h
    · split at h
      · simp at h
      · simp at h
      · rename_i h₃
        cases h
        have := Number.length_read h₃
        omega
    · simp at h

def count : Reader Nat where
  read := readCount
  shorter := length_readCount

inductive Next where
  | done (rest : Text)
  | more (rest : Text)

def Next.rest : Next → Text
  | done rest => rest
  | more rest => rest

def next (closing : Char) (isFirst : Bool) (t : Text) : Except Fault Next :=
  match skipSpace t with
  | [] => .error .cutShort
  | c :: rest =>
    if c = closing then .ok (.done rest)
    else if isFirst then .ok (.more (c :: rest))
    else if c = ',' then
      match skipSpace rest with
      | [] => .error .cutShort
      | d :: rest => if d = closing then .error .malformed else .ok (.more (d :: rest))
    else .error .malformed

theorem length_next_le {closing : Char} {isFirst : Bool} {t : Text} {n : Next}
    (h : next closing isFirst t = .ok n) : n.rest.length ≤ t.length := by
  have h₁ := length_skipSpace_le t
  unfold next at h
  split at h
  · simp at h
  · rename_i c rest h₂
    rw [h₂] at h₁
    simp only [List.length_cons] at h₁
    split at h
    · cases h
      simp only [Next.rest]
      omega
    · split at h
      · cases h
        simpa [Next.rest] using h₁
      · split at h
        · have h₃ := length_skipSpace_le rest
          split at h
          · simp at h
          · rename_i h₄
            split at h
            · simp at h
            · cases h
              rw [h₄] at h₃
              simp only [Next.rest]
              omega
        · simp at h

theorem length_done_lt {closing : Char} {isFirst : Bool} {t rest : Text}
    (h : next closing isFirst t = .ok (.done rest)) : rest.length < t.length := by
  have h₁ := length_skipSpace_le t
  unfold next at h
  split at h
  · simp at h
  · rename_i h₂
    rw [h₂] at h₁
    simp only [List.length_cons] at h₁
    split at h
    · cases h
      omega
    · split at h
      · cases h
      · split at h
        · split at h
          · simp at h
          · split at h <;> cases h
        · simp at h

def readElements {α : Type} (r : Reader α) (isFirst : Bool) (t : Text) :
    Except Fault (List α × Text) :=
  match _h₁ : next ']' isFirst t with
  | .error e => .error e
  | .ok (.done rest) => .ok ([], rest)
  | .ok (.more rest₁) =>
    match _h₂ : r.read rest₁ with
    | .error e => .error e
    | .ok (a, rest₂) => (readElements r false rest₂).map fun (list, rest) => (a :: list, rest)
termination_by t.length
decreasing_by
  have h₃ := length_next_le _h₁
  have h₄ := r.shorter _h₂
  simp only [Next.rest] at h₃
  omega

theorem length_readElements {α : Type} {r : Reader α} {isFirst : Bool} {t rest : Text}
    {list : List α} (h : readElements r isFirst t = .ok (list, rest)) :
    rest.length < t.length := by
  fun_induction readElements r isFirst t generalizing list with
  | case1 => simp at h
  | case2 _ _ _ h₁ =>
    cases h
    exact length_done_lt h₁
  | case3 => simp at h
  | case4 _ _ rest₁ h₁ a rest₂ h₂ ih =>
    have h₃ := length_next_le h₁
    have h₄ := r.shorter h₂
    simp only [Next.rest] at h₃
    cases h₅ : readElements r false rest₂ with
    | error e => simp [h₅, Except.map] at h
    | ok p =>
      obtain ⟨list', rest'⟩ := p
      simp only [h₅, Except.map, Except.ok.injEq, Prod.mk.injEq] at h
      have := ih (h.2 ▸ h₅)
      omega

def list {α : Type} (r : Reader α) : Reader (List α) where
  read := readBehind '[' (readElements r true)
  shorter := length_readBehind length_readElements

end Reader

def Reader.readAll {α : Type} (r : Reader α) (t : Text) : Except Fault α :=
  match r.read t with
  | .error e => .error e
  | .ok (a, rest) => if (skipSpace rest).isEmpty then .ok a else .error .malformed

end RefPages.Json
