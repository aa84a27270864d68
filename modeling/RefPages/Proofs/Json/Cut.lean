import Mathlib.Data.List.TakeWhile
import RefPages.Proofs.Json.Layout
import RefPages.Proofs.Text.Offset

/-!
A value that is cut off is never taken for another one, and no fault is found in what is there of it:
its reader comes to the end of the text. Only the digits that a number has left are a number too.
-/

namespace RefPages.Json

open Text (numberLimit ofNat ofNat_of_le ofNat_of_lt)

theorem cut_append {s t u : Text} (h : u <+: s ++ t) :
    u <+: s ∧ u ≠ s ∨ ∃ q, q <+: t ∧ u = s ++ q := by
  rcases List.prefix_or_prefix_of_prefix h (List.prefix_append s t) with hs | ⟨q, rfl⟩
  · by_cases hu : u = s
    · exact .inr ⟨[], List.nil_prefix, by simp [hu]⟩
    · exact .inl ⟨hs, hu⟩
  · exact .inr ⟨q, (List.prefix_append_right_inj s).mp h, rfl⟩

theorem cut_concat {s u : Text} {c : Char} (h : u <+: s ++ [c]) (hne : u ≠ s ++ [c]) : u <+: s :=
  (List.prefix_concat_iff.mp h).resolve_left hne

theorem Number.exists_of_cut {n : Nat} {t : Text} (h : t <+: ofNat 10 n) (hne : t ≠ []) :
    ∃ m ≤ n, t = ofNat 10 m := by
  induction n using Nat.strongRecOn with
  | ind n ih =>
    by_cases hn : n < 10
    · refine ⟨n, Nat.le_refl n, ?_⟩
      rw [ofNat_of_lt hn] at h ⊢
      obtain rfl | ⟨u, rfl, hu⟩ := List.prefix_cons_iff.mp h
      · exact absurd rfl hne
      · rw [List.prefix_nil.mp hu]
    · have hle := ofNat_of_le (by decide) (Nat.le_of_not_lt hn)
      rw [hle] at h
      rcases List.prefix_concat_iff.mp h with rfl | h
      · exact ⟨n, Nat.le_refl n, hle.symm⟩
      · obtain ⟨m, hm, ht⟩ := ih (n / 10) (by omega) h
        exact ⟨m, by omega, ht⟩

namespace Quoted

theorem read_backslash {t : Text} (h : readEscape t = .error .cutShort) :
    read ('\\' :: t) = .error .cutShort := by
  rw [read]
  split
  · next he =>
    rw [h] at he
    cases he
    rfl
  · next he =>
    rw [h] at he
    cases he

theorem escape_cases (c : Char) :
    (∃ d, escape c = ['\\', d]) ∨
      (c.toNat < 0x20 ∧ escape c = '\\' :: 'u' :: '0' :: '0' :: hexDigits c.toNat) ∨
        escape c = [c] := by
  unfold escape
  split
  · exact .inl ⟨_, rfl⟩
  · exact .inl ⟨_, rfl⟩
  · exact .inl ⟨_, rfl⟩
  · exact .inl ⟨_, rfl⟩
  · exact .inl ⟨_, rfl⟩
  · exact .inl ⟨_, rfl⟩
  · exact .inl ⟨_, rfl⟩
  · split
    · next hc => exact .inr (.inl ⟨hc, rfl⟩)
    · exact .inr (.inr rfl)

theorem readEscape_code {t : Text} (h : t.byteSize < 4) :
    readEscape ('u' :: t) = .error .cutShort := by
  have hhex : readHex t = .error .cutShort := by
    rw [readHex.eq_def]
    split
    · next a b c d rest =>
      simp only [Text.byteSize_cons] at h
      have := a.utf8Size_pos
      have := b.utf8Size_pos
      have := c.utf8Size_pos
      have := d.utf8Size_pos
      omega
    · rw [if_pos h]
  rw [readEscape, readCode, hhex]

theorem read_cut_escape {c : Char} {t : Text} (h : t <+: escape c) (hne : t ≠ escape c) :
    read t = .error .cutShort := by
  have nil : read [] = .error .cutShort := by rw [read]
  obtain ⟨d, he⟩ | ⟨hc, he⟩ | he := escape_cases c
  · rw [he] at h hne
    obtain rfl | ⟨t₁, rfl, h₁⟩ := List.prefix_cons_iff.mp h
    · exact nil
    · obtain rfl | ⟨t₂, rfl, h₂⟩ := List.prefix_cons_iff.mp h₁
      · exact read_backslash rfl
      · exact absurd (by rw [List.prefix_nil.mp h₂]) hne
  · rw [he] at h hne
    obtain rfl | ⟨t₁, rfl, h₁⟩ := List.prefix_cons_iff.mp h
    · exact nil
    · obtain rfl | ⟨t₂, rfl, h₂⟩ := List.prefix_cons_iff.mp h₁
      · exact read_backslash rfl
      · -- The four digits take a byte each, and one of them is missing.
        obtain ⟨u, hu⟩ := h₂
        have hsize : ∀ n < 0x20, Text.byteSize ('0' :: '0' :: hexDigits n) = 4 := by decide
        have hsum := congrArg Text.byteSize hu
        rw [hsize _ hc, Text.byteSize_append] at hsum
        have hpos : Text.byteSize u ≠ 0 := by
          intro h0
          rw [Text.eq_nil_of_byteSize_eq_zero h0, List.append_nil] at hu
          exact hne (by rw [hu])
        apply read_backslash
        apply readEscape_code
        omega
  · rw [he] at h hne
    obtain rfl | ⟨t₁, rfl, h₁⟩ := List.prefix_cons_iff.mp h
    · exact nil
    · exact absurd (by rw [List.prefix_nil.mp h₁]) hne

theorem read_cut {s t : Text} (h : t <+: s.flatMap escape) : read t = .error .cutShort := by
  induction s generalizing t with
  | nil =>
    rw [List.prefix_nil.mp h, read]
  | cons c s ih =>
    rw [List.flatMap_cons] at h
    rcases cut_append h with ⟨h, hne⟩ | ⟨q, hq, rfl⟩
    · exact read_cut_escape h hne
    · rw [read_escape, ih hq]
      rfl

end Quoted

theorem isSpace_of_cut {space t : Text} (hs : IsSpace space) (h : t <+: space) : IsSpace t :=
  fun c hc => hs c (h.subset hc)

theorem skipSpace_eq_nil {space : Text} (hs : IsSpace space) : skipSpace space = [] :=
  List.dropWhile_eq_nil_iff.mpr hs

theorem cut_space {space t w : Text} (hs : IsSpace space) (h : t <+: space ++ w) :
    IsSpace t ∨ ∃ p, p ≠ [] ∧ p <+: w ∧ t = space ++ p := by
  rcases cut_append h with ⟨h, -⟩ | ⟨p, hp, rfl⟩
  · exact .inl (isSpace_of_cut hs h)
  · by_cases hne : p = []
    · exact .inl (by rwa [hne, List.append_nil])
    · exact .inr ⟨p, hne, hp, rfl⟩

theorem Starts.of_cut {w p : Text} (h : Starts w) (hp : p <+: w) (hne : p ≠ []) : Starts p := by
  obtain ⟨c, u, rfl, hc⟩ := h
  obtain rfl | ⟨q, rfl, -⟩ := List.prefix_cons_iff.mp hp
  · exact absurd rfl hne
  · exact ⟨c, q, rfl, hc⟩

theorem IsBehind.of_cut {rest q : Text} (h : IsBehind rest) (hq : q <+: rest) : IsBehind q := by
  rintro c t rfl
  obtain ⟨u, rfl⟩ := hq
  exact h c (t ++ u) rfl

theorem isBehind_nil : IsBehind [] := by
  intro c t h
  cases h

variable {α : Type}

def Exhausts (r : Reader α) (v : Value) : Prop :=
  ∀ (space : Text) (depth : Nat) (t : Text), IsSpace space → t <+: space ++ v.layout depth →
    r.read t = .error .cutShort ∨ ∃ a, r.read t = .ok (a, [])

structure Delimits (r : Reader α) (a : α) (v : Value) : Prop where
  whole : Reads r a v
  cut : ∀ (space : Text) (depth : Nat) (t : Text), IsSpace space → t <+: space ++ v.layout depth →
    t ≠ space ++ v.layout depth → r.read t = .error .cutShort

theorem Delimits.exhausts {r : Reader α} {a : α} {v : Value} (h : Delimits r a v) :
    Exhausts r v := by
  intro space depth t hs ht
  by_cases hne : t = space ++ v.layout depth
  · right
    have hread := h.whole space depth [] hs isBehind_nil
    rw [List.append_nil] at hread
    exact ⟨a, by rw [hne, hread]⟩
  · exact .inl (h.cut space depth t hs ht hne)

theorem Exhausts.map {β : Type} {r : Reader α} {v : Value} (h : Exhausts r v) (f : α → β) :
    Exhausts (r.map f) v := by
  intro space depth t hs ht
  show (r.read t).map _ = _ ∨ ∃ b, (r.read t).map _ = _
  rcases h space depth t hs ht with h | ⟨a, h⟩
  · left
    rw [h]
    rfl
  · right
    rw [h]
    exact ⟨f a, rfl⟩

theorem readBehind_cut {c : Char} {space t u : Text} {read : Text → Except Fault (α × Text)}
    (hs : IsSpace space) (hc : isSpace c = false) (h : t <+: space ++ c :: u)
    (hread : ∀ q, q <+: u → read q = .error .cutShort) :
    Reader.readBehind c read t = .error .cutShort := by
  rcases cut_space hs h with ht | ⟨p, hne, hp, rfl⟩
  · rw [Reader.readBehind, skipSpace_eq_nil ht]
  · obtain rfl | ⟨q, rfl, hq⟩ := List.prefix_cons_iff.mp hp
    · exact absurd rfl hne
    · rw [readBehind_append q hs hc, hread q hq]

theorem delimits_string (s : Text) : Delimits .string s (.string s) := by
  refine ⟨reads_string s, ?_⟩
  intro space depth t hs ht hne
  have hv : space ++ (Value.string s).layout depth =
      (space ++ '"' :: s.flatMap Quoted.escape) ++ ['"'] := by
    simp [Value.layout_string, Quoted.write]
  rw [hv] at ht hne
  exact readBehind_cut hs rfl (cut_concat ht hne) fun q hq => Quoted.read_cut hq

theorem exhausts_count {n : Nat} (h : n < numberLimit) : Exhausts .count (.number n) := by
  intro space depth t hs ht
  rw [Value.layout_number] at ht
  rcases cut_space hs ht with ht | ⟨p, hne, hp, rfl⟩
  · left
    show Reader.readCount t = _
    rw [Reader.readCount, skipSpace_eq_nil ht]
  · obtain ⟨m, hm, rfl⟩ := Number.exists_of_cut hp hne
    have hread := reads_count (Nat.lt_of_le_of_lt hm h) space depth [] hs isBehind_nil
    rw [Value.layout_number, List.append_nil] at hread
    exact .inr ⟨m, hread⟩

namespace Reader

def FindsSome (closing : Char) (isFirst : Bool) (t w : Text) : Prop :=
  next closing isFirst t = .error .cutShort ∨
    ∃ p, p ≠ [] ∧ p <+: w ∧ next closing isFirst t = .ok (.more p)

theorem next_space {closing : Char} {isFirst : Bool} {t : Text} (h : IsSpace t) :
    next closing isFirst t = .error .cutShort := by
  rw [next, skipSpace_eq_nil h]

theorem findsSome_first (closing : Char) {space t w : Text} (hs : IsSpace space)
    (hc : closing ∈ closings) (hw : Starts w) (h : t <+: space ++ w) :
    FindsSome closing true t w := by
  rcases cut_space hs h with ht | ⟨p, hne, hp, rfl⟩
  · exact .inl (next_space ht)
  · exact .inr ⟨p, hne, hp, next_first closing hs hc (hw.of_cut hp hne)⟩

theorem findsSome_comma (closing : Char) {space t w : Text} (hs : IsSpace space)
    (hc : closing ∈ closings) (hw : Starts w) (h : t <+: ',' :: (space ++ w)) :
    FindsSome closing false t w := by
  obtain rfl | ⟨t, rfl, ht⟩ := List.prefix_cons_iff.mp h
  · exact .inl rfl
  · rcases cut_space hs ht with ht | ⟨p, hne, hp, rfl⟩
    · left
      have hcomma : ',' ≠ closing := by
        rintro rfl
        revert hc
        decide
      rw [next, show skipSpace (',' :: t) = ',' :: t from rfl]
      dsimp only
      rw [if_neg hcomma, if_neg Bool.false_ne_true, if_pos rfl, skipSpace_eq_nil ht]
    · exact .inr ⟨p, hne, hp, next_comma closing hs hc (hw.of_cut hp hne)⟩

theorem readElements_error {r : Reader α} {isFirst : Bool} {t : Text} {e : Fault}
    (h : next ']' isFirst t = .error e) : readElements r isFirst t = .error e := by
  rw [readElements]
  grind

theorem readElements_cut_element {r : Reader α} {isFirst : Bool} {a : α} {v : Value}
    {depth : Nat} {t rest : Text} (hn : FindsSome ']' isFirst t (v.layout depth ++ rest))
    (hr : Reads r a v) (he : Exhausts r v) (hb : IsBehind rest)
    (hrest : ∀ q, q <+: rest → readElements r false q = .error .cutShort) :
    readElements r isFirst t = .error .cutShort := by
  rcases hn with hn | ⟨p, -, hp, hn⟩
  · exact readElements_error hn
  · rcases cut_append hp with ⟨hp, -⟩ | ⟨q, hq, rfl⟩
    · rcases he [] depth p (by simp [IsSpace]) hp with h | ⟨b, h⟩
      · rw [readElements_more hn, h]
        rfl
      · rw [readElements_more hn, h]
        dsimp only [Except.bind]
        rw [hrest [] List.nil_prefix]
        rfl
    · rw [readElements_more hn, hr.layout depth (hb.of_cut hq)]
      dsimp only [Except.bind]
      rw [hrest q hq]
      rfl

end Reader

theorem isBehind_items (depth : Nat) (vs : List Value) :
    IsBehind (Value.itemLayout (depth + 1) vs ++ Value.newLine depth) :=
  isBehind_itemLayout (depth + 1) vs (by simpa using isBehind_newLine depth [])

section

variable {r : Reader α} {f : α → Value} {as : List α}

theorem readElements_cut (h : ∀ a ∈ as, Reads r a (f a) ∧ Exhausts r (f a)) {depth : Nat} {t : Text}
    (ht : t <+: Value.itemLayout (depth + 1) (as.map f) ++ Value.newLine depth) :
    Reader.readElements r false t = .error .cutShort := by
  induction as generalizing t with
  | nil =>
    have hs := isSpace_of_cut (isSpace_newLine depth) ht
    exact Reader.readElements_error (Reader.next_space hs)
  | cons a as ih =>
    rw [List.map_cons, Value.itemLayout_cons] at ht
    simp only [List.cons_append, List.append_assoc] at ht
    have hn := Reader.findsSome_comma ']' (isSpace_newLine (depth + 1)) (by decide)
      (starts_layout (depth + 1) (f a) _) ht
    obtain ⟨hr, he⟩ := h a (List.mem_cons_self ..)
    apply Reader.readElements_cut_element hn hr he (isBehind_items depth _)
    intro q hq
    exact ih (fun b hb => h b (List.mem_cons_of_mem _ hb)) hq

theorem delimits_list (h : ∀ a ∈ as, Reads r a (f a) ∧ Exhausts r (f a)) :
    Delimits (.list r) as (.list (as.map f)) := by
  refine ⟨reads_list fun a ha => (h a ha).1, ?_⟩
  intro space depth t hs ht hne
  cases as with
  | nil =>
    have hv : space ++ (Value.list []).layout depth = (space ++ '[' :: []) ++ [']'] := by
      simp [Value.layout, Value.pieces]
    rw [List.map_nil, hv] at ht hne
    apply readBehind_cut hs rfl (cut_concat ht hne)
    intro q hq
    rw [List.prefix_nil.mp hq]
    exact Reader.readElements_error rfl
  | cons a as =>
    have hv : space ++ (Value.list (f a :: as.map f)).layout depth =
        (space ++ '[' :: (Value.newLine (depth + 1) ++ ((f a).layout (depth + 1) ++
          (Value.itemLayout (depth + 1) (as.map f) ++ Value.newLine depth)))) ++ [']'] := by
      simp [Value.layout_list_cons]
    rw [List.map_cons, hv] at ht hne
    apply readBehind_cut hs rfl (cut_concat ht hne)
    intro t ht
    have hn := Reader.findsSome_first ']' (isSpace_newLine (depth + 1)) (by decide)
      (starts_layout (depth + 1) (f a) _) ht
    obtain ⟨hr, he⟩ := h a (List.mem_cons_self ..)
    apply Reader.readElements_cut_element hn hr he (isBehind_items depth _)
    intro q hq
    exact readElements_cut (fun b hb => h b (List.mem_cons_of_mem _ hb)) hq

end

namespace Field

variable {σ : Type} {fields : List (Field σ)}

inductive Exhaust (fields : List (Field σ)) : List (Text × Value) → Prop where
  | nil : Exhaust fields []
  | cons {key : Text} {v : Value} {members : List (Text × Value)} {f : Field σ}
      (hf : fields.find? (·.name == key) = some f) (he : Exhausts f.value v)
      (hm : Exhaust fields members) : Exhaust fields ((key, v) :: members)

theorem exhausts_ofReader {name : Text} {get : σ → Option α} {set : α → σ → σ} {r : Reader α}
    {v : Value} (h : Exhausts r v) : Exhausts (ofReader name get set r).value v :=
  h.map set

theorem readNamed_error {isFirst : Bool} {s : σ} {t : Text} {e : Fault}
    (h : Reader.next '\x7d' isFirst t = .error e) :
    readNamed fields isFirst s t = .error e := by
  rw [readNamed]
  grind

theorem readKey_cut {key q : Text} (h : q <+: key.flatMap Quoted.escape) :
    readKey ('"' :: q) = .error .cutShort := by
  rw [readKey, Quoted.read_cut h]

theorem readNamed_cut_member {isFirst : Bool} {s : σ} {f : Field σ} {set : σ → σ} {key : Text}
    {v : Value} {depth : Nat} {t rest : Text}
    (hn : Reader.FindsSome '\x7d' isFirst t
      (Quoted.write key ++ (':' :: ' ' :: (v.layout depth ++ rest))))
    (hf : fields.find? (·.name == key) = some f) (hs : f.isSet s = false)
    (hr : Reads f.value set v) (he : Exhausts f.value v) (hb : IsBehind rest)
    (hrest : ∀ q, q <+: rest → readNamed fields false (set s) q = .error .cutShort) :
    readNamed fields isFirst s t = .error .cutShort := by
  rcases hn with hn | ⟨p, hne, hp, hn⟩
  · exact readNamed_error hn
  · rw [readNamed_more hn]
    rcases cut_append hp with ⟨hp, hkey⟩ | ⟨q, hq, rfl⟩
    · obtain rfl | ⟨q, rfl, hq⟩ := List.prefix_cons_iff.mp (cut_concat hp hkey)
      · exact absurd rfl hne
      · rw [readKey_cut hq]
        rfl
    · rw [readKey_write]
      dsimp only [Except.bind]
      rw [reader?_of_find? hf hs]
      dsimp only
      obtain rfl | ⟨q₁, rfl, hq₁⟩ := List.prefix_cons_iff.mp hq
      · rfl
      · have hspace : IsSpace [' '] := by simp [IsSpace, isSpace]
        have hcolon : readColon (':' :: q₁) = .ok q₁ := rfl
        rw [hcolon]
        dsimp only
        rw [← List.singleton_append, ← List.append_assoc] at hq₁
        rcases cut_append hq₁ with ⟨hv, -⟩ | ⟨q₂, hq₂, rfl⟩
        · rcases he [' '] depth q₁ hspace hv with h | ⟨b, h⟩
          · rw [h]
          · rw [h]
            exact readNamed_error rfl
        · rw [List.append_assoc, hr [' '] depth q₂ hspace (hb.of_cut hq₂)]
          exact hrest q₂ hq₂

theorem isBehind_members (depth : Nat) (members : List (Text × Value)) :
    IsBehind (Value.fieldLayout (depth + 1) members ++ Value.newLine depth) :=
  isBehind_fieldLayout (depth + 1) members (by simpa using isBehind_newLine depth [])

theorem readNamed_cut {s u : σ} {members : List (Text × Value)} (h : Fills fields s members u)
    (he : Exhaust fields members) {depth : Nat} {t : Text}
    (ht : t <+: Value.fieldLayout (depth + 1) members ++ Value.newLine depth) :
    readNamed fields false s t = .error .cutShort := by
  induction h generalizing t with
  | nil =>
    have hs := isSpace_of_cut (isSpace_newLine depth) ht
    exact readNamed_error (Reader.next_space hs)
  | @cons s u key v members f set hf hs hr hm ih =>
    rw [Value.fieldLayout_cons] at ht
    simp only [List.cons_append, List.append_assoc] at ht
    have hn := Reader.findsSome_comma '\x7d' (isSpace_newLine (depth + 1)) (by decide)
      (starts_write key _) ht
    cases he with
    | @cons _ _ _ f' hf' hv he =>
      cases hf.symm.trans hf'
      exact readNamed_cut_member hn hf hs hr hv (isBehind_members depth members)
        fun q hq => ih he hq

theorem readFields_cut_brace {s : σ} {space t u : Text} (hs : IsSpace space)
    (h : t <+: space ++ '\x7b' :: u)
    (hread : ∀ q, q <+: u → readNamed fields true s q = .error .cutShort) :
    readFields fields s t = .error .cutShort := by
  rcases cut_space hs h with ht | ⟨p, hne, hp, rfl⟩
  · rw [readFields, skipSpace_eq_nil ht]
  · obtain rfl | ⟨q, rfl, hq⟩ := List.prefix_cons_iff.mp hp
    · exact absurd rfl hne
    · rw [readFields_brace s q hs, hread q hq]

theorem readFields_cut {s u : σ} {members : List (Text × Value)} (h : Fills fields s members u)
    (he : Exhaust fields members) {space t : Text} {depth : Nat} (hs : IsSpace space)
    (ht : t <+: space ++ (Value.record members).layout depth)
    (hne : t ≠ space ++ (Value.record members).layout depth) :
    readFields fields s t = .error .cutShort := by
  cases h with
  | nil =>
    have hv : space ++ (Value.record []).layout depth = (space ++ '\x7b' :: []) ++ ['\x7d'] := by
      simp [Value.layout, Value.pieces]
    rw [hv] at ht hne
    apply readFields_cut_brace hs (cut_concat ht hne)
    intro q hq
    rw [List.prefix_nil.mp hq]
    exact readNamed_error rfl
  | @cons _ _ key v members f set hf hset hr hm =>
    have hv : space ++ (Value.record ((key, v) :: members)).layout depth =
        (space ++ '\x7b' :: (Value.newLine (depth + 1) ++ (Quoted.write key ++ (':' :: ' ' ::
          (v.layout (depth + 1) ++ (Value.fieldLayout (depth + 1) members ++
            Value.newLine depth)))))) ++ ['\x7d'] := by
      simp [Value.layout_record_cons]
    rw [hv] at ht hne
    apply readFields_cut_brace hs (cut_concat ht hne)
    intro q hq
    have hn := Reader.findsSome_first '\x7d' (isSpace_newLine (depth + 1)) (by decide)
      (starts_write key _) hq
    cases he with
    | @cons _ _ _ f' hf' hv he =>
      cases hf.symm.trans hf'
      exact readNamed_cut_member hn hf hset hr hv (isBehind_members depth members)
        fun q hq => readNamed_cut hm he hq

end Field

theorem delimits_record {σ ρ : Type} {fields : List (Field σ)} {start u : σ}
    {finish : σ → Option ρ} {members : List (Text × Value)} {r : ρ}
    (h : Field.Fills fields start members u) (he : Field.Exhaust fields members)
    (hf : finish u = some r) : Delimits (.record fields start finish) r (.record members) := by
  refine ⟨reads_record h hf, ?_⟩
  intro space depth t hs ht hne
  simp only [Reader.record, Field.readFields_cut h he hs ht hne]

end RefPages.Json
