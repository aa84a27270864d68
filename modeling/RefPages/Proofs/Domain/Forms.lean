import Mathlib.Data.List.Chain
import RefPages.Domain.Normal

/-!
The composed normal form, for all ways to compose characters that follow three laws. To order the
decomposition of a composed text gives what was composed, so that a normal form is its own, and a
character that composes with nothing parts a text into two that are brought into normal form apart.
-/

namespace RefPages.Domain.Forms

def IsSimple (f : Forms) (c : Char) : Prop :=
  f.units c = [c]

/-- Units are not composed of others, a composed form has the units of its first part and the second
behind them, and no mark is a first part. -/
structure Lawful (f : Forms) : Prop where
  simple {c d : Char} : d ∈ f.units c → f.IsSimple d
  units_compose? {a b w : Char} : f.compose? a b = some w → f.units w = f.units a ++ [b]
  classOf_first {a b w : Char} : f.compose? a b = some w → f.classOf a = 0

variable {f : Forms}

theorem decompose_append (s t : Text) : f.decompose (s ++ t) = f.decompose s ++ f.decompose t :=
  List.flatMap_append

theorem decompose_cons (c : Char) (t : Text) :
    f.decompose (c :: t) = f.units c ++ f.decompose t :=
  List.flatMap_cons

theorem decompose_of_simple {t : Text} (h : ∀ c ∈ t, f.IsSimple c) : f.decompose t = t := by
  induction t with
  | nil => rfl
  | cons c t ih =>
    rw [List.forall_mem_cons] at h
    rw [decompose_cons, h.1, ih h.2]
    rfl

theorem Lawful.simple_decompose (hf : f.Lawful) {t : Text} {c : Char} (h : c ∈ f.decompose t) :
    f.IsSimple c := by
  obtain ⟨d, -, hc⟩ := List.mem_flatMap.mp h
  exact hf.simple hc

def Follows (f : Forms) (c d : Char) : Prop :=
  f.classOf d = 0 ∨ f.classOf c ≤ f.classOf d

def IsOrdered (f : Forms) (t : Text) : Prop :=
  t.IsChain f.Follows

def insertAll (f : Forms) (read t : Text) : Text :=
  t.foldl (fun read c => f.insertMark c read) read

theorem order_eq (t : Text) : f.order t = (f.insertAll [] t).reverse := rfl

theorem insertAll_cons (read : Text) (c : Char) (t : Text) :
    f.insertAll read (c :: t) = f.insertAll (f.insertMark c read) t := rfl

theorem insertAll_append (read s t : Text) :
    f.insertAll read (s ++ t) = f.insertAll (f.insertAll read s) t :=
  List.foldl_append

theorem insertMark_nil (c : Char) : f.insertMark c [] = [c] := rfl

theorem insertMark_cons (c d : Char) (read : Text) :
    f.insertMark c (d :: read) =
      if f.classOf c ≠ 0 ∧ f.classOf c < f.classOf d then d :: f.insertMark c read
      else c :: d :: read := by
  by_cases h : f.classOf c ≠ 0 ∧ f.classOf c < f.classOf d
  · rw [if_pos h, insertMark, List.takeWhile_cons_of_pos (by simpa using h)]
    rfl
  · rw [if_neg h, insertMark, List.takeWhile_cons_of_neg (by simpa using h)]
    rfl

theorem mem_insertMark {c d : Char} {read : Text} :
    d ∈ f.insertMark c read ↔ d = c ∨ d ∈ read := by
  induction read with
  | nil => rw [insertMark_nil, List.mem_singleton, or_iff_left List.not_mem_nil]
  | cons e read ih =>
    rw [insertMark_cons]
    split
    · rw [List.mem_cons, ih, List.mem_cons, or_left_comm]
    · rw [List.mem_cons]

theorem mem_insertAll {d : Char} {read t : Text} :
    d ∈ f.insertAll read t ↔ d ∈ read ∨ d ∈ t := by
  induction t generalizing read with
  | nil => exact (or_iff_left List.not_mem_nil).symm
  | cons c t ih => rw [insertAll_cons, ih, mem_insertMark, List.mem_cons, or_assoc, or_left_comm]

theorem mem_order {d : Char} {t : Text} : d ∈ f.order t ↔ d ∈ t := by
  rw [order_eq, List.mem_reverse, mem_insertAll, or_iff_right List.not_mem_nil]

theorem insertMark_comm {a b : Char} (ha : f.classOf a ≠ 0) (hlt : f.classOf a < f.classOf b)
    (read : Text) :
    f.insertMark a (f.insertMark b read) = f.insertMark b (f.insertMark a read) := by
  have hb : f.classOf b ≠ 0 := by omega
  have hba : ¬f.classOf b < f.classOf a := by omega
  induction read with
  | nil =>
    rw [insertMark_nil, insertMark_nil, insertMark_cons, insertMark_cons, if_pos ⟨ha, hlt⟩,
      if_neg fun h => hba h.2, insertMark_nil]
  | cons d read ih =>
    by_cases hbd : f.classOf b < f.classOf d
    · have had : f.classOf a < f.classOf d := by omega
      rw [insertMark_cons b, if_pos ⟨hb, hbd⟩, insertMark_cons a, if_pos ⟨ha, had⟩,
        insertMark_cons a, if_pos ⟨ha, had⟩, insertMark_cons b, if_pos ⟨hb, hbd⟩, ih]
    · rw [insertMark_cons b, if_neg fun h => hbd h.2, insertMark_cons a b, if_pos ⟨ha, hlt⟩,
        insertMark_cons a]
      split
      · rw [insertMark_cons b, if_neg fun h => hbd h.2]
      · rw [insertMark_cons b, if_neg fun h => hba h.2]

theorem insertAll_comm {c : Char} {marks : Text}
    (h : ∀ m ∈ marks, f.classOf m ≠ 0 ∧ f.classOf m < f.classOf c) (read : Text) :
    f.insertAll (f.insertMark c read) marks = f.insertMark c (f.insertAll read marks) := by
  induction marks generalizing read with
  | nil => rfl
  | cons m marks ih =>
    rw [List.forall_mem_cons] at h
    rw [insertAll_cons, insertMark_comm h.1.1 h.1.2, ih h.2, insertAll_cons]

theorem insertAll_of_ordered {read t : Text} (h : f.IsOrdered t)
    (hlink : ∀ d ∈ read.head?, ∀ c ∈ t.head?, f.Follows d c) :
    f.insertAll read t = t.reverse ++ read := by
  induction t generalizing read with
  | nil => rfl
  | cons c t ih =>
    have hinsert : f.insertMark c read = c :: read := by
      cases read with
      | nil => rfl
      | cons d read =>
        have hfollows := hlink d rfl c rfl
        rw [Follows] at hfollows
        rw [insertMark_cons, if_neg (by omega)]
    rw [insertAll_cons, hinsert, ih (List.IsChain.tail h), List.reverse_cons, List.append_assoc]
    · rfl
    · rintro _ ⟨⟩ e he
      exact List.IsChain.rel_head? h he

theorem isChain_insertMark (c : Char) {read : Text} (h : read.IsChain (flip f.Follows)) :
    (f.insertMark c read).IsChain (flip f.Follows) := by
  induction read with
  | nil => exact List.IsChain.singleton c
  | cons d read ih =>
    rw [insertMark_cons]
    split
    · next hc =>
      refine List.IsChain.cons (ih (List.IsChain.tail h)) fun e he => ?_
      cases read with
      | nil =>
        rw [insertMark_nil] at he
        cases he
        exact .inr (Nat.le_of_lt hc.2)
      | cons e' read =>
        rw [insertMark_cons] at he
        split at he
        · cases he
          exact List.IsChain.rel h
        · cases he
          exact .inr (Nat.le_of_lt hc.2)
    · next hc =>
      refine List.IsChain.cons_cons ?_ h
      simp only [flip, Follows]
      omega

theorem isOrdered_order (t : Text) : f.IsOrdered (f.order t) := by
  have hread (read t : Text) (h : read.IsChain (flip f.Follows)) :
      (f.insertAll read t).IsChain (flip f.Follows) := by
    induction t generalizing read with
    | nil => exact h
    | cons c t ih => exact ih _ (isChain_insertMark c h)
  exact List.isChain_reverse.mpr (hread [] t List.IsChain.nil)

theorem order_of_ordered {t : Text} (h : f.IsOrdered t) : f.order t = t := by
  rw [order_eq, insertAll_of_ordered h (by simp), List.append_nil, List.reverse_reverse]

def AreMarks (f : Forms) (marks : Text) : Prop :=
  ∀ m ∈ marks, f.classOf m ≠ 0 ∧ ∀ last ∈ marks.head?, f.classOf m ≤ f.classOf last

theorem areMarks_nil : f.AreMarks [] := by
  rintro _ ⟨⟩

theorem AreMarks.lt_of_isFree {marks : Text} {c : Char} (h : f.AreMarks marks)
    (hfree : f.isFree c marks = true) :
    ∀ m ∈ marks, f.classOf m ≠ 0 ∧ f.classOf m < f.classOf c := by
  intro m hm
  cases marks with
  | nil => cases hm
  | cons last marks =>
    obtain ⟨hne, hle⟩ := h m hm
    exact ⟨hne, Nat.lt_of_le_of_lt (hle last rfl) (of_decide_eq_true hfree)⟩

theorem AreMarks.cons {marks : Text} {c : Char} (h : f.AreMarks marks) (hc : f.classOf c ≠ 0)
    (hlink : ∀ m ∈ marks.head?, f.Follows m c) : f.AreMarks (c :: marks) := by
  intro m hm
  refine ⟨?_, ?_⟩
  · rcases List.mem_cons.mp hm with rfl | hm
    · exact hc
    · exact (h m hm).1
  · rintro _ ⟨⟩
    rcases List.mem_cons.mp hm with rfl | hm
    · exact Nat.le_refl _
    · cases marks with
      | nil => cases hm
      | cons last marks =>
        exact Nat.le_trans ((h m hm).2 last rfl) ((hlink last rfl).resolve_left hc)

theorem Lawful.insertAll_composeFrom (hf : f.Lawful) {starter : Char} {marks rest : Text}
    (hmarks : f.AreMarks marks) (hrest : f.IsOrdered rest)
    (hlink : ∀ m ∈ marks.head?, ∀ c ∈ rest.head?, f.Follows m c)
    (hsimple : ∀ c ∈ marks.reverse ++ rest, f.IsSimple c) (read : Text) :
    f.insertAll read (f.decompose (f.composeFrom starter marks rest)) =
      f.insertAll read (f.units starter ++ marks.reverse ++ rest) := by
  fun_induction composeFrom f starter marks rest generalizing read with
  | case1 starter marks =>
    rw [List.append_nil] at hsimple ⊢
    rw [decompose_cons, decompose_of_simple hsimple]
  | case2 starter marks c rest whole hwhole ih =>
    obtain ⟨hfree, hwhole⟩ := Option.ite_none_right_eq_some.mp hwhole
    have hlt := hmarks.lt_of_isFree hfree
    have hlink' : ∀ m ∈ marks.head?, ∀ d ∈ rest.head?, f.Follows m d := by
      intro m hm d hd
      have hmc := (hlt m (List.mem_of_head? hm)).2
      have hcd := List.IsChain.rel_head? hrest hd
      rw [Follows] at hcd ⊢
      omega
    have hsimple' : ∀ d ∈ marks.reverse ++ rest, f.IsSimple d :=
      fun d hd => hsimple d (by
        rcases List.mem_append.mp hd with hd | hd
        · exact List.mem_append_left _ hd
        · exact List.mem_append_right _ (List.mem_cons_of_mem c hd))
    rw [ih hmarks (List.IsChain.tail hrest) hlink' hsimple', hf.units_compose? hwhole,
      insertAll_append, insertAll_append, insertAll_append, insertAll_append _ _ (c :: rest),
      insertAll_append, insertAll_cons _ c rest]
    congr 1
    exact insertAll_comm (fun m hm => hlt m (List.mem_reverse.mp hm)) _
  | case3 starter marks c rest hnone hc ih =>
    obtain ⟨hsimple, hsimple'⟩ := List.forall_mem_append.mp hsimple
    rw [List.forall_mem_cons] at hsimple'
    have hunits := ih areMarks_nil (List.IsChain.tail hrest) (by rintro _ ⟨⟩) hsimple'.2
    rw [hsimple'.1] at hunits
    rw [decompose_append, decompose_cons, decompose_of_simple hsimple, insertAll_append, hunits,
      insertAll_append _ _ (c :: rest)]
    rfl
  | case4 starter marks c rest hnone hc ih =>
    have hlink' : ∀ m ∈ (c :: marks).head?, ∀ d ∈ rest.head?, f.Follows m d := by
      rintro _ ⟨⟩ d hd
      exact List.IsChain.rel_head? hrest hd
    have hmarks' := hmarks.cons hc fun m hm => hlink m hm c rfl
    have heq : (c :: marks).reverse ++ rest = marks.reverse ++ c :: rest := by
      rw [List.reverse_cons, List.append_assoc]
      rfl
    rw [List.append_assoc, ← heq, ← List.append_assoc]
    exact ih hmarks' (List.IsChain.tail hrest) hlink' (by rwa [heq]) read

theorem Lawful.insertAll_compose (hf : f.Lawful) {t : Text} (ht : f.IsOrdered t)
    (hsimple : ∀ c ∈ t, f.IsSimple c) (read : Text) :
    f.insertAll read (f.decompose (f.compose t)) = f.insertAll read t := by
  cases t with
  | nil => rfl
  | cons c t =>
    rw [List.forall_mem_cons] at hsimple
    have htail : f.IsOrdered t := List.IsChain.tail ht
    rw [compose, hf.insertAll_composeFrom areMarks_nil htail (by rintro _ ⟨⟩) hsimple.2, hsimple.1]
    rfl

theorem Lawful.normalize_normalize (hf : f.Lawful) (t : Text) :
    f.normalize (f.normalize t) = f.normalize t := by
  have hordered := isOrdered_order (f := f) (f.decompose t)
  have hsimple : ∀ c ∈ f.order (f.decompose t), f.IsSimple c :=
    fun c hc => hf.simple_decompose (mem_order.mp hc)
  have hcompose : f.order (f.decompose (f.compose (f.order (f.decompose t)))) =
      f.order (f.decompose t) := by
    rw [order_eq, hf.insertAll_compose hordered hsimple, ← order_eq, order_of_ordered hordered]
  rw [normalize, normalize, hcompose]

structure Parts (f : Forms) (s : Char) : Prop where
  classOf : f.classOf s = 0
  simple : f.IsSimple s
  not_first (c : Char) : f.compose? s c = none
  not_second (c : Char) : f.compose? c s = none

variable {s : Char}

theorem Parts.order_append (hs : f.Parts s) (t u : Text) :
    f.order (t ++ s :: u) = f.order t ++ s :: f.order u := by
  have hinsert (c : Char) (read behind : Text) :
      f.insertMark c (read ++ s :: behind) = f.insertMark c read ++ s :: behind := by
    induction read with
    | nil => rw [List.nil_append, insertMark_cons, if_neg (by rw [hs.classOf]; omega)]; rfl
    | cons d read ih =>
      rw [List.cons_append, insertMark_cons, insertMark_cons, ih]
      split <;> rfl
  have hall (read behind u : Text) :
      f.insertAll (read ++ s :: behind) u = f.insertAll read u ++ s :: behind := by
    induction u generalizing read with
    | nil => rfl
    | cons c u ih => rw [insertAll_cons, hinsert, ih, insertAll_cons]
  have hself (read : Text) : f.insertMark s read = s :: read := by
    cases read with
    | nil => rfl
    | cons d read => rw [insertMark_cons, if_neg fun h => h.1 hs.classOf]
  rw [order_eq, insertAll_append, insertAll_cons, hself]
  have hempty := hall [] (f.insertAll [] t) u
  rw [List.nil_append] at hempty
  rw [hempty, List.reverse_append, List.reverse_cons, List.append_assoc]
  rfl

theorem composeFrom_cons_of_none {c d : Char} {marks t : Text} (h : f.compose? c d = none) :
    f.composeFrom c marks (d :: t) =
      if f.classOf d = 0 then c :: marks.reverse ++ f.composeFrom d [] t
      else f.composeFrom c (d :: marks) t := by
  rw [composeFrom, h, ite_self]

theorem Lawful.composeFrom_of_not_first (hf : f.Lawful) {c : Char}
    (hc : ∀ d, f.compose? c d = none) (marks t : Text) :
    f.composeFrom c marks t = c :: marks.reverse ++ f.compose t := by
  induction t generalizing c marks with
  | nil => exact (List.append_nil _).symm
  | cons d t ih =>
    rw [composeFrom_cons_of_none (hc d), compose]
    split
    · rfl
    · next hd =>
      have hmark : ∀ e, f.compose? d e = none := by
        intro e
        cases h : f.compose? d e with
        | none => rfl
        | some w => exact absurd (hf.classOf_first h) hd
      rw [ih hc, ih hmark, List.reverse_cons, List.cons_append, List.append_assoc]
      rfl

theorem Parts.compose_append (hf : f.Lawful) (hs : f.Parts s) (t u : Text) :
    f.compose (t ++ s :: u) = f.compose t ++ s :: f.compose u := by
  have hfrom (c : Char) (marks t : Text) :
      f.composeFrom c marks (t ++ s :: u) = f.composeFrom c marks t ++ s :: f.compose u := by
    have hu : f.composeFrom s [] u = s :: f.compose u := hf.composeFrom_of_not_first hs.not_first [] u
    fun_induction composeFrom f c marks t with
    | case1 c marks =>
      rw [List.nil_append, composeFrom_cons_of_none (hs.not_second c), if_pos hs.classOf, hu]
    | case2 c marks d t whole hwhole ih =>
      rw [List.cons_append, composeFrom, hwhole]
      exact ih
    | case3 c marks d t hnone hd ih =>
      rw [List.cons_append, composeFrom, hnone, if_pos hd, ih, List.append_assoc]
    | case4 c marks d t hnone hd ih =>
      rw [List.cons_append, composeFrom, hnone, if_neg hd, ih]
  cases t with
  | nil => exact hf.composeFrom_of_not_first hs.not_first [] u
  | cons c t => exact hfrom c [] t

theorem Parts.normalize_append (hf : f.Lawful) (hs : f.Parts s) (t u : Text) :
    f.normalize (t ++ s :: u) = f.normalize t ++ s :: f.normalize u := by
  have hdecompose : f.decompose (t ++ s :: u) = f.decompose t ++ s :: f.decompose u := by
    rw [decompose_append, decompose_cons, hs.simple]
    rfl
  rw [normalize, hdecompose, hs.order_append, hs.compose_append hf]
  rfl

theorem forall_mem_normalize {P : Char → Prop} (hunits : ∀ c, P c → ∀ d ∈ f.units c, P d)
    (hcompose : ∀ a b w, P a → P b → f.compose? a b = some w → P w) {t : Text}
    (ht : ∀ c ∈ t, P c) : ∀ c ∈ f.normalize t, P c := by
  have hfrom (c : Char) (marks t : Text) (hc : P c) (hmarks : ∀ m ∈ marks, P m)
      (ht : ∀ d ∈ t, P d) : ∀ d ∈ f.composeFrom c marks t, P d := by
    fun_induction composeFrom f c marks t with
    | case1 c marks => simpa [hc] using hmarks
    | case2 c marks d t whole hwhole ih =>
      rw [List.forall_mem_cons] at ht
      obtain ⟨-, hwhole⟩ := Option.ite_none_right_eq_some.mp hwhole
      exact ih (hcompose c d whole hc ht.1 hwhole) hmarks ht.2
    | case3 c marks d t hnone hd ih =>
      rw [List.forall_mem_cons] at ht
      have hrest := ih ht.1 (List.forall_mem_nil _) ht.2
      intro e he
      rcases List.mem_append.mp he with he | he
      · rcases List.mem_cons.mp he with rfl | he
        · exact hc
        · exact hmarks e (List.mem_reverse.mp he)
      · exact hrest e he
    | case4 c marks d t hnone hd ih =>
      rw [List.forall_mem_cons] at ht
      exact ih hc (List.forall_mem_cons.mpr ⟨ht.1, hmarks⟩) ht.2
  have hread : ∀ c ∈ f.order (f.decompose t), P c := by
    intro c hc
    obtain ⟨d, hd, hcd⟩ := List.mem_flatMap.mp (mem_order.mp hc)
    exact hunits d (ht d hd) c hcd
  rw [normalize]
  generalize f.order (f.decompose t) = u at hread
  cases u with
  | nil => exact List.forall_mem_nil _
  | cons c u =>
    rw [List.forall_mem_cons] at hread
    exact hfrom c [] u hread.1 (List.forall_mem_nil _) hread.2

theorem normalize_of_apart {t : Text}
    (h : ∀ c ∈ t, f.IsSimple c ∧ f.classOf c = 0 ∧ ∀ d, f.compose? d c = none) :
    f.normalize t = t := by
  have hordered : f.IsOrdered t :=
    List.Pairwise.isChain (List.pairwise_of_forall_mem_list fun _ _ d hd => .inl (h d hd).2.1)
  have hcompose (c : Char) (t : Text) (ht : ∀ d ∈ t, f.classOf d = 0 ∧ ∀ c, f.compose? c d = none) :
      f.composeFrom c [] t = c :: t := by
    induction t generalizing c with
    | nil => rfl
    | cons d t ih =>
      rw [List.forall_mem_cons] at ht
      rw [composeFrom_cons_of_none (ht.1.2 c), if_pos ht.1.1, ih d ht.2]
      rfl
  rw [normalize, decompose_of_simple fun c hc => (h c hc).1, order_of_ordered hordered]
  cases t with
  | nil => rfl
  | cons c t => exact hcompose c t fun d hd => (h d (List.mem_cons_of_mem c hd)).2

end RefPages.Domain.Forms
