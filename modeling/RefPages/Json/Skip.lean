import RefPages.Json.Reader

/-!
Passing over a value that is not asked for. It must be well formed, except that its strings may hold
half of a pair, and it may be nested to any depth.
-/

namespace RefPages.Json.Skip

def escape : Text → Except Fault Text
  | [] => .error .cutShort
  | 'u' :: t => (Quoted.readHex t).map (·.2)
  | c :: t => if "\"\\/bfnrt".toList.contains c then .ok t else .error .malformed

theorem length_escape {t rest : Text} (h : escape t = .ok rest) : rest.length < t.length := by
  unfold escape at h
  split at h
  · simp at h
  · rename_i t
    cases h₁ : Quoted.readHex t with
    | error e => simp [h₁, Except.map] at h
    | ok p =>
      obtain ⟨n, rest'⟩ := p
      simp only [h₁, Except.map, Except.ok.injEq] at h
      have := Quoted.length_readHex h₁
      simp only [← h, List.length_cons]
      omega
  · split at h
    · cases h
      simp
    · simp at h

def string : Text → Except Fault Text
  | [] => .error .cutShort
  | '"' :: t => .ok t
  | '\\' :: t =>
    match _h : escape t with
    | .error e => .error e
    | .ok rest => string rest
  | c :: t => if c.toNat < 0x20 then .error .malformed else string t
termination_by t => t.length
decreasing_by
  · have := length_escape _h
    simp only [List.length_cons]
    omega
  · simp

theorem length_string {t rest : Text} (h : string t = .ok rest) : rest.length < t.length := by
  fun_induction string t with
  | case1 => simp at h
  | case2 => cases h; simp
  | case3 => simp at h
  | case4 t rest₁ h₁ ih =>
    have := length_escape h₁
    have := ih h
    simp only [List.length_cons]
    omega
  | case5 => simp at h
  | case6 _ _ _ _ _ ih =>
    have := ih h
    simp only [List.length_cons]
    omega

def scalar (c : Char) (t : Text) : Except Fault Text :=
  match c with
  | 'n' => readWord "ull".toList t
  | 't' => readWord "rue".toList t
  | 'f' => readWord "alse".toList t
  | '-' => Number.skip t
  | '"' => string t
  | c => if c.isDigit then Number.skip (c :: t) else .error .malformed

theorem length_scalar_le {c : Char} {t rest : Text} (h : scalar c t = .ok rest) :
    rest.length ≤ t.length := by
  unfold scalar at h
  split at h
  · exact length_readWord_le h
  · exact length_readWord_le h
  · exact length_readWord_le h
  · exact Nat.le_of_lt (Number.length_skip h)
  · exact Nat.le_of_lt (length_string h)
  · split at h
    · exact Nat.lt_succ_iff.mp (Number.length_skip h)
    · simp at h

def key (t : Text) : Except Fault Text :=
  match skipSpace t with
  | [] => .error .cutShort
  | c :: rest =>
    if c = '"' then
      match string rest with
      | .error e => .error e
      | .ok rest =>
        match skipSpace rest with
        | [] => .error .cutShort
        | c :: rest => if c = ':' then .ok rest else .error .malformed
    else .error .malformed

theorem length_key_le {t rest : Text} (h : key t = .ok rest) : rest.length ≤ t.length := by
  have h₁ := length_skipSpace_le t
  unfold key at h
  split at h
  · simp at h
  · rename_i h₂
    rw [h₂] at h₁
    simp only [List.length_cons] at h₁
    split at h
    · split at h
      · simp at h
      · rename_i rest₃ h₃
        have h₄ := length_string h₃
        have h₅ := length_skipSpace_le rest₃
        split at h
        · simp at h
        · rename_i h₆
          rw [h₆] at h₅
          simp only [List.length_cons] at h₅
          split at h
          · cases h
            omega
          · simp at h
    · simp at h

inductive Nest where
  | list
  | record
  deriving DecidableEq, Repr

def Nest.closing : Nest → Char
  | list => ']'
  | record => '\x7d'

def Nest.key : Nest → Text → Except Fault Text
  | list, t => .ok t
  | record, t => Skip.key t

theorem length_nestKey_le {n : Nest} {t rest : Text} (h : n.key t = .ok rest) :
    rest.length ≤ t.length := by
  cases n with
  | list =>
    cases h
    exact Nat.le_refl _
  | record => exact length_key_le h

def Nest.opened? (c : Char) : Option Nest :=
  if c = '[' then some .list else if c = '\x7b' then some .record else none

inductive Expect where
  | value
  | continuation
  deriving DecidableEq, Repr

/-- Passes over the rest of a value. `around` are the lists and records around what comes next,
from the inside out. -/
def run (around : List Nest) (expect : Expect) (t : Text) : Except Fault Text :=
  match expect, around with
  | .continuation, [] => .ok t
  | .continuation, n :: around =>
    match _h₁ : skipSpace t with
    | [] => .error .cutShort
    | c :: t₁ =>
      if c = n.closing then run around .continuation t₁
      else if c = ',' then
        match _h₂ : n.key t₁ with
        | .error e => .error e
        | .ok t₂ => run (n :: around) .value t₂
      else .error .malformed
  | .value, around =>
    match _h₁ : skipSpace t with
    | [] => .error .cutShort
    | c :: t₁ =>
      match Nest.opened? c with
      | none =>
        match _h₂ : scalar c t₁ with
        | .error e => .error e
        | .ok t₂ => run around .continuation t₂
      | some n =>
        match _h₂ : skipSpace t₁ with
        | [] => .error .cutShort
        | d :: t₂ =>
          if d = n.closing then run around .continuation t₂
          else
            match _h₃ : n.key (d :: t₂) with
            | .error e => .error e
            | .ok t₃ => run (n :: around) .value t₃
termination_by t.length
decreasing_by
  all_goals have h₁ := length_of_skipSpace _h₁
  · exact h₁
  · exact Nat.lt_of_le_of_lt (length_nestKey_le _h₂) h₁
  · exact Nat.lt_of_le_of_lt (length_scalar_le _h₂) h₁
  · exact Nat.lt_trans (length_of_skipSpace _h₂) h₁
  · exact Nat.lt_of_le_of_lt (length_nestKey_le _h₃)
      (Nat.lt_of_le_of_lt (length_of_skipSpace _h₂) h₁)

theorem length_run_le {around : List Nest} {expect : Expect} {t rest : Text}
    (h : run around expect t = .ok rest) :
    rest.length ≤ t.length ∧ (expect = .value → rest.length < t.length) := by
  fun_induction run around expect t with
  | case1 => cases h; simp
  | case3 _ _ _ _ h₁ ih =>
    have := length_of_skipSpace h₁
    have := (ih h).1
    exact ⟨by omega, by simp⟩
  | case5 _ _ _ _ _ h₂ h₁ _ ih =>
    have := length_of_skipSpace h₁
    have := length_nestKey_le h₂
    have := (ih h).1
    exact ⟨by omega, by simp⟩
  | case9 _ _ _ _ h₁ _ _ h₂ ih =>
    have := length_of_skipSpace h₁
    have := length_scalar_le h₂
    have := (ih h).1
    exact ⟨by omega, fun _ => by omega⟩
  | case11 _ _ _ _ h₁ _ _ _ h₂ ih =>
    have := length_of_skipSpace h₁
    have := length_of_skipSpace h₂
    have := (ih h).1
    exact ⟨by omega, fun _ => by omega⟩
  | case13 _ _ _ _ h₁ _ _ _ _ h₂ _ _ h₃ ih =>
    have := length_of_skipSpace h₁
    have := length_of_skipSpace h₂
    have := length_nestKey_le h₃
    simp only [List.length_cons] at this
    have := (ih h).1
    exact ⟨by omega, fun _ => by omega⟩
  | _ => simp at h

end Skip

def Reader.ignored : Reader Unit where
  read t := (Skip.run [] .value t).map fun rest => ((), rest)
  shorter {t _ rest} h := by
    cases h₁ : Skip.run [] .value t with
    | error e => simp [h₁, Except.map] at h
    | ok rest' =>
      simp only [h₁, Except.map, Except.ok.injEq, Prod.mk.injEq, true_and] at h
      exact h ▸ (Skip.length_run_le h₁).2 rfl

end RefPages.Json
