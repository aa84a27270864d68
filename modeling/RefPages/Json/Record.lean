import RefPages.Json.Skip

/-!
Records. A record is written as its named fields in any order, or as the list of their values. Every
field must be there once; fields of other names are passed over.
-/

namespace RefPages.Json

def Reader.map {α β : Type} (f : α → β) (r : Reader α) : Reader β where
  read t := (r.read t).map fun (a, rest) => (f a, rest)
  shorter {t _ rest} h := by
    cases h₁ : r.read t with
    | error e => simp [h₁, Except.map] at h
    | ok p =>
      simp only [h₁, Except.map, Except.ok.injEq, Prod.mk.injEq] at h
      exact h.2 ▸ r.shorter h₁

structure Field (σ : Type) where
  name : Text
  isSet : σ → Bool
  value : Reader (σ → σ)

namespace Field

variable {σ : Type}

def ofReader {α : Type} (name : Text) (get : σ → Option α) (set : α → σ → σ) (r : Reader α) :
    Field σ :=
  ⟨name, fun s => (get s).isSome, r.map set⟩

def readColon (t : Text) : Except Fault Text :=
  match skipSpace t with
  | [] => .error .cutShort
  | c :: rest => if c = ':' then .ok rest else .error .malformed

theorem length_readColon {t rest : Text} (h : readColon t = .ok rest) :
    rest.length < t.length := by
  unfold readColon at h
  split at h
  · simp at h
  · rename_i h₁
    split at h
    · cases h
      exact length_of_skipSpace h₁
    · simp at h

def readKey : Text → Except Fault (Text × Text)
  | '"' :: t => Quoted.read t
  | _ => .error .malformed

theorem length_readKey {t key rest : Text} (h : readKey t = .ok (key, rest)) :
    rest.length < t.length := by
  unfold readKey at h
  split at h
  · exact Nat.lt_succ_of_lt (Quoted.length_read h)
  · simp at h

def reader? (fields : List (Field σ)) (key : Text) (s : σ) : Except Fault (Reader (σ → σ)) :=
  match fields.find? (·.name == key) with
  | none => .ok (Reader.ignored.map fun _ s => s)
  | some f => if f.isSet s then .error .unfit else .ok f.value

def readNamed (fields : List (Field σ)) (isFirst : Bool) (s : σ) (t : Text) :
    Except Fault (σ × Text) :=
  match _h₁ : Reader.next '\x7d' isFirst t with
  | .error e => .error e
  | .ok (.done rest) => .ok (s, rest)
  | .ok (.more t₁) =>
    match _h₂ : readKey t₁ with
    | .error e => .error e
    | .ok (key, t₂) =>
      match reader? fields key s with
      | .error e => .error e
      | .ok r =>
        match _h₃ : readColon t₂ with
        | .error e => .error e
        | .ok t₃ =>
          match _h₄ : r.read t₃ with
          | .error e => .error e
          | .ok (set, t₄) => readNamed fields false (set s) t₄
termination_by t.length
decreasing_by
  have h₁ := Reader.length_next_le _h₁
  have h₂ := length_readKey _h₂
  have h₃ := length_readColon _h₃
  have h₄ := r.shorter _h₄
  simp only [Reader.Next.rest] at h₁
  omega

theorem length_readNamed {fields : List (Field σ)} {isFirst : Bool} {s u : σ} {t rest : Text}
    (h : readNamed fields isFirst s t = .ok (u, rest)) : rest.length < t.length := by
  fun_induction readNamed fields isFirst s t with
  | case2 _ _ _ _ h₁ =>
    cases h
    exact Reader.length_done_lt h₁
  | case7 _ _ _ _ h₁ _ _ h₂ r _ _ h₃ _ _ h₄ ih =>
    have h₁ := Reader.length_next_le h₁
    have h₂ := length_readKey h₂
    have h₃ := length_readColon h₃
    have h₄ := r.shorter h₄
    simp only [Reader.Next.rest] at h₁
    have := ih h
    omega
  | _ => simp at h

def readClosing (t : Text) : Except Fault Text :=
  match skipSpace t with
  | [] => .error .cutShort
  | c :: rest => if c = ']' then .ok rest else .error .malformed

theorem length_readClosing {t rest : Text} (h : readClosing t = .ok rest) :
    rest.length < t.length := by
  unfold readClosing at h
  split at h
  · simp at h
  · rename_i h₁
    split at h
    · cases h
      exact length_of_skipSpace h₁
    · simp at h

def readListed (isFirst : Bool) (s : σ) : List (Field σ) → Text → Except Fault (σ × Text)
  | [], t => (readClosing t).map fun rest => (s, rest)
  | f :: fields, t =>
    match Reader.next ']' isFirst t with
    | .error e => .error e
    | .ok (.done _) => .error .unfit
    | .ok (.more rest) =>
      match f.value.read rest with
      | .error e => .error e
      | .ok (set, rest) => readListed false (set s) fields rest

theorem length_readListed {isFirst : Bool} {fields : List (Field σ)} {s u : σ} {t rest : Text}
    (h : readListed isFirst s fields t = .ok (u, rest)) : rest.length < t.length := by
  fun_induction readListed isFirst s fields t with
  | case1 _ _ t =>
    cases h₁ : readClosing t with
    | error e => simp [h₁, Except.map] at h
    | ok rest' =>
      simp only [h₁, Except.map, Except.ok.injEq, Prod.mk.injEq] at h
      exact h.2 ▸ length_readClosing h₁
  | case5 _ _ f _ _ _ h₁ _ _ h₂ ih =>
    have h₁ := Reader.length_next_le h₁
    have h₂ := f.value.shorter h₂
    simp only [Reader.Next.rest] at h₁
    have := ih h
    omega
  | _ => simp at h

def readFields (fields : List (Field σ)) (s : σ) (t : Text) : Except Fault (σ × Text) :=
  match skipSpace t with
  | [] => .error .cutShort
  | '[' :: rest => readListed true s fields rest
  | '\x7b' :: rest => readNamed fields true s rest
  | c :: rest => .error (misfit (c :: rest))

theorem length_readFields {fields : List (Field σ)} {s u : σ} {t rest : Text}
    (h : readFields fields s t = .ok (u, rest)) : rest.length < t.length := by
  unfold readFields at h
  split at h
  · simp at h
  · rename_i h₁
    exact Nat.lt_trans (length_readListed h) (length_of_skipSpace h₁)
  · rename_i h₁
    exact Nat.lt_trans (length_readNamed h) (length_of_skipSpace h₁)
  · simp at h

end Field

def Reader.record {σ ρ : Type} (fields : List (Field σ)) (start : σ) (finish : σ → Option ρ) :
    Reader ρ where
  read t :=
    match Field.readFields fields start t with
    | .error e => .error e
    | .ok (s, rest) =>
      match finish s with
      | none => .error .unfit
      | some r => .ok (r, rest)
  shorter h := by
    split at h
    · simp at h
    · rename_i h₁
      split at h
      · simp at h
      · cases h
        exact Field.length_readFields h₁

end RefPages.Json
