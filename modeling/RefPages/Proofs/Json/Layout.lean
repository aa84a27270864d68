import RefPages.Json.Record
import RefPages.Proofs.Json.Scalar

/-!
A reader that takes the parts of a value as they are laid out takes the whole value so: a list if it
takes the elements, and a record if it has a field for each name.
-/

namespace RefPages.Json

namespace Value

def layout (depth : Nat) (v : Value) : Text :=
  (v.pieces depth).flatten

def itemLayout (depth : Nat) (vs : List Value) : Text :=
  (itemPieces depth vs).flatten

def fieldLayout (depth : Nat) (members : List (Text × Value)) : Text :=
  (fieldPieces depth members).flatten

theorem layout_number (depth n : Nat) : (number n).layout depth = Text.ofNat 10 n := by
  rw [layout, pieces, List.flatten_singleton]

theorem layout_string (depth : Nat) (t : Text) :
    (string t).layout depth = Quoted.write t := by
  rw [layout, pieces, List.flatten_singleton]

theorem layout_list_cons (depth : Nat) (v : Value) (vs : List Value) :
    (list (v :: vs)).layout depth =
      '[' :: (newLine (depth + 1) ++ (v.layout (depth + 1) ++
        (itemLayout (depth + 1) vs ++ (newLine depth ++ [']'])))) := by
  simp [layout, itemLayout, pieces]

theorem layout_record_cons (depth : Nat) (key : Text) (v : Value) (members : List (Text × Value)) :
    (record ((key, v) :: members)).layout depth =
      '\x7b' :: (newLine (depth + 1) ++ (Quoted.write key ++ (':' :: ' ' ::
        (v.layout (depth + 1) ++ (fieldLayout (depth + 1) members ++
          (newLine depth ++ ['\x7d'])))))) := by
  simp [layout, fieldLayout, pieces]

theorem itemLayout_cons (depth : Nat) (v : Value) (vs : List Value) :
    itemLayout depth (v :: vs) =
      ',' :: (newLine depth ++ (v.layout depth ++ itemLayout depth vs)) := by
  simp [layout, itemLayout, itemPieces]

theorem fieldLayout_cons (depth : Nat) (key : Text) (v : Value) (members : List (Text × Value)) :
    fieldLayout depth ((key, v) :: members) =
      ',' :: (newLine depth ++ (Quoted.write key ++ (':' :: ' ' ::
        (v.layout depth ++ fieldLayout depth members)))) := by
  simp [layout, fieldLayout, fieldPieces]

end Value

def IsSpace (t : Text) : Prop :=
  ∀ c ∈ t, isSpace c = true

theorem isSpace_newLine (depth : Nat) : IsSpace (Value.newLine depth) := by
  intro c hc
  rcases List.mem_cons.mp hc with rfl | hc
  · rfl
  · rw [List.eq_of_mem_replicate hc]
    rfl

theorem skipSpace_append {space : Text} {c : Char} (t : Text) (hs : IsSpace space)
    (hc : isSpace c = false) : skipSpace (space ++ c :: t) = c :: t := by
  rw [skipSpace, Text.dropWhile_append_cons hs hc]

def IsBehind (rest : Text) : Prop :=
  ∀ c t, rest = c :: t → c = ',' ∨ c = '\n'

theorem isBehind_newLine (depth : Nat) (t : Text) : IsBehind (Value.newLine depth ++ t) := by
  intro c u h
  exact .inr (List.cons.inj h).1.symm

theorem isBehind_itemLayout (depth : Nat) (vs : List Value) {t : Text} (h : IsBehind t) :
    IsBehind (Value.itemLayout depth vs ++ t) := by
  cases vs with
  | nil => exact h
  | cons v vs =>
    intro c u hc
    rw [Value.itemLayout_cons] at hc
    exact .inl (List.cons.inj hc).1.symm

theorem isBehind_fieldLayout (depth : Nat) (members : List (Text × Value)) {t : Text}
    (h : IsBehind t) : IsBehind (Value.fieldLayout depth members ++ t) := by
  cases members with
  | nil => exact h
  | cons member members =>
    intro c u hc
    rw [Value.fieldLayout_cons] at hc
    exact .inl (List.cons.inj hc).1.symm

theorem IsBehind.ends {rest : Text} (h : IsBehind rest) : Number.Ends rest := by
  intro c t hc
  rcases h c t hc with rfl | rfl <;> decide

def closings : List Char :=
  [']', '\x7d']

def IsStart (c : Char) : Prop :=
  isSpace c = false ∧ c ∉ closings

instance (c : Char) : Decidable (IsStart c) :=
  inferInstanceAs (Decidable (_ ∧ _))

theorem isStart_of_isDigit {c : Char} (h : c.isDigit = true) : IsStart c := by
  constructor
  · apply Bool.eq_false_iff.mpr
    intro hs
    simp only [isSpace, Bool.or_eq_true, beq_iff_eq] at hs
    rcases hs with ((rfl | rfl) | rfl) | rfl <;> cases h
  · intro hc
    simp only [closings, List.mem_cons, List.not_mem_nil, or_false] at hc
    rcases hc with rfl | rfl <;> cases h

theorem exists_ofNat_cons (n : Nat) : ∃ c t, Text.ofNat 10 n = c :: t ∧ c.isDigit = true := by
  obtain ⟨c, t, h⟩ : ∃ c t, Text.ofNat 10 n = c :: t :=
    List.exists_cons_of_ne_nil Nat.toDigits_ne_nil
  refine ⟨c, t, h, Text.isDigit_of_mem_ofNat (n := n) ?_⟩
  rw [h]
  exact List.mem_cons_self ..

theorem exists_layout_cons (depth : Nat) (v : Value) :
    ∃ c t, v.layout depth = c :: t ∧ IsStart c := by
  cases v with
  | number n =>
    obtain ⟨c, t, h, hd⟩ := exists_ofNat_cons n
    exact ⟨c, t, by rw [Value.layout_number, h], isStart_of_isDigit hd⟩
  | string t => exact ⟨'"', _, Value.layout_string depth t, by decide⟩
  | list vs =>
    cases vs with
    | nil => exact ⟨'[', [']'], by simp [Value.layout, Value.pieces], by decide⟩
    | cons v vs => exact ⟨_, _, Value.layout_list_cons depth v vs, by decide⟩
  | record members =>
    cases members with
    | nil => exact ⟨'\x7b', ['\x7d'], by simp [Value.layout, Value.pieces], by decide⟩
    | cons member members =>
      exact ⟨_, _, Value.layout_record_cons depth member.1 member.2 members, by decide⟩

def Starts (t : Text) : Prop :=
  ∃ c u, t = c :: u ∧ IsStart c

theorem starts_layout (depth : Nat) (v : Value) (rest : Text) : Starts (v.layout depth ++ rest) := by
  obtain ⟨c, u, h, hc⟩ := exists_layout_cons depth v
  exact ⟨c, u ++ rest, by rw [h, List.cons_append], hc⟩

theorem starts_write (t rest : Text) : Starts (Quoted.write t ++ rest) := by
  rw [← Value.layout_string 0]
  exact starts_layout 0 (.string t) rest

def Reads {α : Type} (r : Reader α) (a : α) (v : Value) : Prop :=
  ∀ (space : Text) (depth : Nat) (rest : Text), IsSpace space → IsBehind rest →
    r.read (space ++ (v.layout depth ++ rest)) = .ok (a, rest)

variable {α : Type}

theorem Reads.layout {r : Reader α} {a : α} {v : Value} (h : Reads r a v) (depth : Nat)
    {rest : Text} (hr : IsBehind rest) : r.read (v.layout depth ++ rest) = .ok (a, rest) :=
  h [] depth rest (by simp [IsSpace]) hr

theorem Reads.map {β : Type} {r : Reader α} {a : α} {v : Value} (h : Reads r a v) (f : α → β) :
    Reads (r.map f) (f a) v := by
  intro space depth rest hs hr
  show (r.read _).map _ = _
  rw [h space depth rest hs hr]
  rfl

theorem readBehind_append {c : Char} {space : Text} {read : Text → Except Fault (α × Text)}
    (t : Text) (hs : IsSpace space) (hc : isSpace c = false) :
    Reader.readBehind c read (space ++ c :: t) = read t := by
  rw [Reader.readBehind, skipSpace_append t hs hc]
  exact if_pos rfl

theorem reads_string (t : Text) : Reads .string t (.string t) := by
  intro space depth rest hs hr
  rw [Value.layout_string, Quoted.write, List.cons_append, List.cons_append, List.append_assoc]
  exact (readBehind_append _ hs rfl).trans (Quoted.read_flatMap_escape t rest)

theorem reads_count {n : Nat} (h : n < Text.numberLimit) : Reads .count n (.number n) := by
  intro space depth rest hs hr
  have hread := Number.read_ofNat h hr.ends
  obtain ⟨c, t, hc, hd⟩ := exists_ofNat_cons n
  rw [hc, List.cons_append] at hread
  have hskip := skipSpace_append (t ++ rest) hs (isStart_of_isDigit hd).1
  rw [Value.layout_number, hc, List.cons_append]
  show Reader.readCount _ = _
  rw [Reader.readCount, hskip]
  dsimp only
  rw [if_pos hd, hread]

namespace Reader

theorem next_done {closing : Char} {space : Text} (isFirst : Bool) (rest : Text)
    (hs : IsSpace space) (hc : closing ∈ closings) :
    next closing isFirst (space ++ closing :: rest) = .ok (.done rest) := by
  have hall : closings.all (fun c => !isSpace c) = true := rfl
  have hspace : isSpace closing = false := by simpa using List.all_eq_true.mp hall closing hc
  rw [next, skipSpace_append rest hs hspace]
  exact if_pos rfl

theorem next_first (closing : Char) {space t : Text} (hs : IsSpace space)
    (hc : closing ∈ closings) (ht : Starts t) : next closing true (space ++ t) = .ok (.more t) := by
  obtain ⟨c, u, rfl, hstart⟩ := ht
  have hne : c ≠ closing := fun h => hstart.2 (h ▸ hc)
  rw [next, skipSpace_append u hs hstart.1]
  dsimp only
  rw [if_neg hne, if_pos rfl]

theorem next_comma (closing : Char) {space t : Text} (hs : IsSpace space)
    (hc : closing ∈ closings) (ht : Starts t) :
    next closing false (',' :: (space ++ t)) = .ok (.more t) := by
  obtain ⟨c, u, rfl, hstart⟩ := ht
  have hne : c ≠ closing := fun h => hstart.2 (h ▸ hc)
  have hcomma : ',' ≠ closing := by
    rintro rfl
    revert hc
    decide
  rw [next, show ∀ t, skipSpace (',' :: t) = ',' :: t from fun _ => rfl]
  dsimp only
  rw [if_neg hcomma, if_neg Bool.false_ne_true, if_pos rfl, skipSpace_append u hs hstart.1]
  dsimp only
  rw [if_neg hne]

theorem readElements_done {r : Reader α} {isFirst : Bool} {t rest : Text}
    (h : next ']' isFirst t = .ok (.done rest)) : readElements r isFirst t = .ok ([], rest) := by
  rw [readElements]
  grind

theorem readElements_more {r : Reader α} {isFirst : Bool} {t rest₁ : Text}
    (h : next ']' isFirst t = .ok (.more rest₁)) :
    readElements r isFirst t = (r.read rest₁).bind fun (a, rest₂) =>
      (readElements r false rest₂).map fun (list, rest) => (a :: list, rest) := by
  rw [readElements]
  cases hr : r.read rest₁ <;> grind [Except.bind]

end Reader

section

variable {r : Reader α} {f : α → Value} {as : List α}

theorem readElements_itemLayout (h : ∀ a ∈ as, Reads r a (f a)) (depth : Nat) (rest : Text) :
    Reader.readElements r false (Value.itemLayout (depth + 1) (as.map f) ++
      (Value.newLine depth ++ ']' :: rest)) = .ok (as, rest) := by
  induction as with
  | nil =>
    exact Reader.readElements_done
      (Reader.next_done false rest (isSpace_newLine depth) (by decide))
  | cons a as ih =>
    have hbehind := isBehind_itemLayout (depth + 1) (as.map f) (isBehind_newLine depth (']' :: rest))
    have hread := (h a (List.mem_cons_self ..)).layout (depth + 1) hbehind
    have hnext := Reader.next_comma ']' (isSpace_newLine (depth + 1)) (by decide)
      (starts_layout (depth + 1) (f a)
        (Value.itemLayout (depth + 1) (as.map f) ++ (Value.newLine depth ++ ']' :: rest)))
    rw [List.map_cons, Value.itemLayout_cons]
    simp only [List.cons_append, List.append_assoc]
    rw [Reader.readElements_more hnext, hread]
    dsimp only [Except.bind]
    rw [ih fun b hb => h b (List.mem_cons_of_mem _ hb)]
    rfl

theorem reads_list (h : ∀ a ∈ as, Reads r a (f a)) : Reads (.list r) as (.list (as.map f)) := by
  intro space depth rest hs hr
  cases as with
  | nil =>
    rw [List.map_nil, show (Value.list []).layout depth = ['[', ']'] by
      simp [Value.layout, Value.pieces]]
    exact (readBehind_append _ hs rfl).trans (Reader.readElements_done rfl)
  | cons a as =>
    have hbehind := isBehind_itemLayout (depth + 1) (as.map f) (isBehind_newLine depth (']' :: rest))
    have hread := (h a (List.mem_cons_self ..)).layout (depth + 1) hbehind
    have hnext := Reader.next_first ']' (isSpace_newLine (depth + 1)) (by decide)
      (starts_layout (depth + 1) (f a)
        (Value.itemLayout (depth + 1) (as.map f) ++ (Value.newLine depth ++ ']' :: rest)))
    rw [List.map_cons, Value.layout_list_cons]
    simp only [List.cons_append, List.append_assoc, List.nil_append]
    apply (readBehind_append _ hs rfl).trans
    rw [Reader.readElements_more hnext, hread]
    dsimp only [Except.bind]
    rw [readElements_itemLayout (fun b hb => h b (List.mem_cons_of_mem _ hb)) depth rest]
    rfl

end

namespace Field

variable {σ : Type}

inductive Fills (fields : List (Field σ)) : σ → List (Text × Value) → σ → Prop where
  | nil {s : σ} : Fills fields s [] s
  | cons {s u : σ} {key : Text} {v : Value} {members : List (Text × Value)} {f : Field σ}
      {set : σ → σ} (hf : fields.find? (·.name == key) = some f) (hs : f.isSet s = false)
      (hr : Reads f.value set v) (hm : Fills fields (set s) members u) :
      Fills fields s ((key, v) :: members) u

theorem reads_ofReader {name : Text} {get : σ → Option α} {set : α → σ → σ} {r : Reader α} {a : α}
    {v : Value} (h : Reads r a v) : Reads (ofReader name get set r).value (set a) v :=
  h.map set

variable {fields : List (Field σ)}

theorem readNamed_done {isFirst : Bool} {s : σ} {t rest : Text}
    (h : Reader.next '\x7d' isFirst t = .ok (.done rest)) :
    readNamed fields isFirst s t = .ok (s, rest) := by
  rw [readNamed]
  grind

theorem readNamed_more {isFirst : Bool} {s : σ} {t t₁ : Text}
    (h : Reader.next '\x7d' isFirst t = .ok (.more t₁)) :
    readNamed fields isFirst s t = (readKey t₁).bind fun (key, t₂) =>
      (reader? fields key s).bind fun r => (readColon t₂).bind fun t₃ =>
        (r.read t₃).bind fun (set, t₄) => readNamed fields false (set s) t₄ := by
  rw [readNamed]
  split
  · next he => cases h.symm.trans he
  · next he => cases h.symm.trans he
  · next he =>
    cases h.symm.trans he
    cases readKey t₁ with
    | error e => rfl
    | ok p =>
      dsimp only [Except.bind]
      cases reader? fields p.1 s with
      | error e => rfl
      | ok r =>
        dsimp only
        cases readColon p.2 with
        | error e => rfl
        | ok t₃ =>
          dsimp only
          cases r.read t₃ <;> rfl

theorem readKey_write (key rest : Text) : readKey (Quoted.write key ++ rest) = .ok (key, rest) := by
  rw [Quoted.write, List.cons_append, List.cons_append, List.append_assoc, readKey]
  exact Quoted.read_flatMap_escape key rest

theorem reader?_of_find? {s : σ} {f : Field σ} {key : Text}
    (hf : fields.find? (·.name == key) = some f) (hs : f.isSet s = false) :
    reader? fields key s = .ok f.value := by
  rw [reader?, hf]
  dsimp only
  rw [hs, if_neg Bool.false_ne_true]

theorem readNamed_member {isFirst : Bool} {s : σ} {f : Field σ} {set : σ → σ} {key t rest : Text}
    {v : Value} (depth : Nat)
    (hn : Reader.next '\x7d' isFirst t =
      .ok (.more (Quoted.write key ++ (':' :: ' ' :: (v.layout depth ++ rest)))))
    (hf : fields.find? (·.name == key) = some f) (hs : f.isSet s = false)
    (hr : Reads f.value set v) (hb : IsBehind rest) :
    readNamed fields isFirst s t = readNamed fields false (set s) rest := by
  have hcolon : readColon (':' :: ' ' :: (v.layout depth ++ rest)) =
      .ok (' ' :: (v.layout depth ++ rest)) := rfl
  have hread := hr [' '] depth rest (by simp [IsSpace, isSpace]) hb
  rw [List.singleton_append] at hread
  rw [readNamed_more hn, readKey_write]
  dsimp only [Except.bind]
  rw [reader?_of_find? hf hs]
  dsimp only
  rw [hcolon]
  dsimp only
  rw [hread]

theorem readNamed_fieldLayout {s u : σ} {members : List (Text × Value)}
    (h : Fills fields s members u) (depth : Nat) (rest : Text) :
    readNamed fields false s (Value.fieldLayout (depth + 1) members ++
      (Value.newLine depth ++ '\x7d' :: rest)) = .ok (u, rest) := by
  induction h with
  | nil =>
    exact readNamed_done (Reader.next_done false rest (isSpace_newLine depth) (by decide))
  | @cons s u key v members f set hf hs hr hm ih =>
    have hbehind := isBehind_fieldLayout (depth + 1) members (isBehind_newLine depth ('\x7d' :: rest))
    have hnext := Reader.next_comma '\x7d' (isSpace_newLine (depth + 1)) (by decide)
      (starts_write key (':' :: ' ' :: (v.layout (depth + 1) ++
        (Value.fieldLayout (depth + 1) members ++ (Value.newLine depth ++ '\x7d' :: rest)))))
    rw [Value.fieldLayout_cons]
    simp only [List.cons_append, List.append_assoc]
    rw [readNamed_member (depth + 1) hnext hf hs hr hbehind, ih]

theorem readFields_brace {space : Text} (s : σ) (t : Text) (hs : IsSpace space) :
    readFields fields s (space ++ '\x7b' :: t) = readNamed fields true s t := by
  rw [readFields, skipSpace_append t hs rfl]
  rfl

theorem readFields_layout {s u : σ} {members : List (Text × Value)}
    (h : Fills fields s members u) {space : Text} (depth : Nat) (rest : Text)
    (hs : IsSpace space) :
    readFields fields s (space ++ ((Value.record members).layout depth ++ rest)) =
      .ok (u, rest) := by
  cases h with
  | nil =>
    rw [show (Value.record []).layout depth = ['\x7b', '\x7d'] by
      simp [Value.layout, Value.pieces]]
    exact (readFields_brace _ _ hs).trans (readNamed_done rfl)
  | @cons _ _ key v members f set hf hset hr hm =>
    have hbehind := isBehind_fieldLayout (depth + 1) members (isBehind_newLine depth ('\x7d' :: rest))
    have hnext := Reader.next_first '\x7d' (isSpace_newLine (depth + 1)) (by decide)
      (starts_write key (':' :: ' ' :: (v.layout (depth + 1) ++
        (Value.fieldLayout (depth + 1) members ++ (Value.newLine depth ++ '\x7d' :: rest)))))
    rw [Value.layout_record_cons]
    simp only [List.cons_append, List.append_assoc, List.nil_append]
    rw [readFields_brace _ _ hs, readNamed_member (depth + 1) hnext hf hset hr hbehind,
      readNamed_fieldLayout hm depth rest]

end Field

theorem reads_record {σ ρ : Type} {fields : List (Field σ)} {start u : σ} {finish : σ → Option ρ}
    {members : List (Text × Value)} {r : ρ} (h : Field.Fills fields start members u)
    (hf : finish u = some r) : Reads (.record fields start finish) r (.record members) := by
  intro space depth rest hs hr
  simp only [Reader.record, Field.readFields_layout h depth rest hs, hf]

end RefPages.Json
