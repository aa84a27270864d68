import RefPages.Markup.Node

/-!
Where elements stand. Every element of a document has an address, and in the order of their
addresses elements stand as they are written: each in front of what is in it, and that in front of
what follows it. A document lists its elements in the order of their making instead, and in that of
their addresses only where this leaves a choice.
-/

namespace RefPages.Markup

abbrev Site := List Nat

def Site.shift (count : Nat) : Site → Site
  | [] => []
  | i :: below => (i + count) :: below

def placeAt? (above : List Element) (ns : List Node) : Site → Option Place
  | [] => none
  | i :: below =>
    match ns[i]? with
    | some (.element e children) =>
      if below = [] then some ⟨above, e, children, ns.drop (i + 1)⟩
      else placeAt? (e :: above) children below
    | _ => none

mutual

def Node.sited (above : List Element) (following : List Node) : Node → List (Site × Place)
  | .element e children =>
    ([], ⟨above, e, children, following⟩) :: forestSited (e :: above) children
  | .text _ => []
  | .comment _ => []

def forestSited (above : List Element) : List Node → List (Site × Place)
  | [] => []
  | n :: rest =>
    (n.sited above rest).map (Prod.map (List.cons 0) id) ++
      (forestSited above rest).map (Prod.map (Site.shift 1) id)

end

mutual

theorem Node.map_snd_sited (above : List Element) (following : List Node) (n : Node) :
    (n.sited above following).map Prod.snd = n.places above following := by
  cases n with
  | element e children =>
    rw [Node.sited, Node.places, List.map_cons, map_snd_forestSited]
  | text t => rfl
  | comment t => rfl

theorem map_snd_forestSited (above : List Element) (ns : List Node) :
    (forestSited above ns).map Prod.snd = forestPlaces above ns := by
  cases ns with
  | nil => rfl
  | cons n rest =>
    rw [forestSited, forestPlaces, List.map_append, List.map_map, List.map_map,
      ← n.map_snd_sited above rest, ← map_snd_forestSited above rest]
    rfl

end

theorem placeAt?_shift (above : List Element) (n : Node) (rest : List Node) (a : Site) :
    placeAt? above (n :: rest) (a.shift 1) = placeAt? above rest a := by
  cases a with
  | nil => rfl
  | cons i below =>
    rw [Site.shift, placeAt?.eq_def, placeAt?.eq_def]
    dsimp only
    rw [List.getElem?_cons_succ, List.drop_succ_cons]

theorem placeAt?_element (above : List Element) (e : Element) (children rest : List Node)
    (a : Site) :
    placeAt? above (.element e children :: rest) (0 :: a) =
      if a = [] then some ⟨above, e, children, rest⟩ else placeAt? (e :: above) children a :=
  rfl

theorem mem_append_shift_iff {xs ys : List (Site × Place)} {above : List Element} {n : Node}
    {rest : List Node} {p : Place}
    (hn : ∀ a, (a, p) ∈ xs ↔ placeAt? above (n :: rest) (0 :: a) = some p)
    (hrest : ∀ a, (a, p) ∈ ys ↔ placeAt? above rest a = some p) (a : Site) :
    (a, p) ∈ xs.map (Prod.map (List.cons 0) id) ++ ys.map (Prod.map (Site.shift 1) id) ↔
      placeAt? above (n :: rest) a = some p := by
  rw [List.mem_append, List.mem_map, List.mem_map]
  constructor
  · rintro (⟨⟨b, q⟩, hb, hab⟩ | ⟨⟨b, q⟩, hb, hab⟩)
    · cases hab
      exact (hn b).mp hb
    · cases hab
      rw [placeAt?_shift]
      exact (hrest b).mp hb
  · intro h
    match a, h with
    | [], h => cases h
    | 0 :: b, h => exact .inl ⟨(b, p), (hn b).mpr h, rfl⟩
    | (i + 1) :: below, h =>
      refine .inr ⟨(i :: below, p), (hrest _).mpr ?_, rfl⟩
      rw [← placeAt?_shift above n]
      exact h

mutual

theorem Node.mem_sited_iff (above : List Element) (rest : List Node) (n : Node) (a : Site)
    (p : Place) :
    (a, p) ∈ n.sited above rest ↔ placeAt? above (n :: rest) (0 :: a) = some p := by
  cases n with
  | element e children =>
    rw [Node.sited, List.mem_cons, mem_forestSited_iff, placeAt?_element]
    cases a with
    | nil => simp [placeAt?, eq_comm]
    | cons i below => simp
  | text t => simp [Node.sited, placeAt?]
  | comment t => simp [Node.sited, placeAt?]

theorem mem_forestSited_iff (above : List Element) (ns : List Node) (a : Site) (p : Place) :
    (a, p) ∈ forestSited above ns ↔ placeAt? above ns a = some p := by
  cases ns with
  | nil => cases a <;> simp [forestSited, placeAt?]
  | cons n rest =>
    rw [forestSited]
    exact mem_append_shift_iff (fun b => n.mem_sited_iff above rest b p)
      (fun b => mem_forestSited_iff above rest b p) a

end

theorem exists_of_mem_forestSited {above : List Element} {ns : List Node} {a : Site} {p : Place}
    (h : (a, p) ∈ forestSited above ns) : ∃ i below, a = i :: below ∧ i < ns.length := by
  rw [mem_forestSited_iff] at h
  cases a with
  | nil => cases h
  | cons i below =>
    rw [placeAt?.eq_def] at h
    dsimp only at h
    split at h
    · next hn => exact ⟨i, below, rfl, (List.getElem?_eq_some_iff.mp hn).1⟩
    · cases h

def InFront (x y : Site × Place) : Prop :=
  x.1 < y.1

theorem pairwise_shift {above : List Element} {ns : List Node} (count : Nat)
    (h : (forestSited above ns).Pairwise InFront) :
    ((forestSited above ns).map (Prod.map (Site.shift count) id)).Pairwise InFront := by
  rw [List.pairwise_map]
  apply h.imp_of_mem
  rintro ⟨a, p⟩ ⟨b, q⟩ hx hy hxy
  obtain ⟨i, below, rfl, -⟩ := exists_of_mem_forestSited hx
  obtain ⟨j, rest, rfl, -⟩ := exists_of_mem_forestSited hy
  rcases List.cons_lt_cons_iff.mp hxy with hij | ⟨rfl, hrest⟩
  · exact List.cons_lt_cons_iff.mpr (.inl (Nat.add_lt_add_right hij count))
  · exact List.cons_lt_cons_iff.mpr (.inr ⟨rfl, hrest⟩)

mutual

theorem Node.pairwise_sited (above : List Element) (rest : List Node) (n : Node) :
    (n.sited above rest).Pairwise InFront := by
  cases n with
  | element e children =>
    rw [Node.sited, List.pairwise_cons]
    refine ⟨?_, pairwise_forestSited (e :: above) children⟩
    rintro ⟨a, p⟩ hx
    obtain ⟨i, below, rfl, -⟩ := exists_of_mem_forestSited hx
    exact List.nil_lt_cons i below
  | text t => exact List.Pairwise.nil
  | comment t => exact List.Pairwise.nil

theorem pairwise_forestSited (above : List Element) (ns : List Node) :
    (forestSited above ns).Pairwise InFront := by
  cases ns with
  | nil => exact List.Pairwise.nil
  | cons n rest =>
    rw [forestSited, List.pairwise_append]
    refine ⟨?_, pairwise_shift 1 (pairwise_forestSited above rest), ?_⟩
    · rw [List.pairwise_map]
      apply (n.pairwise_sited above rest).imp
      intro x y hxy
      exact List.cons_lt_cons_iff.mpr (.inr ⟨rfl, hxy⟩)
    · intro x hx y hy
      obtain ⟨x, -, rfl⟩ := List.mem_map.mp hx
      obtain ⟨⟨b, q⟩, hq, rfl⟩ := List.mem_map.mp hy
      obtain ⟨i, below, rfl, -⟩ := exists_of_mem_forestSited hq
      exact List.cons_lt_cons_iff.mpr (.inl (Nat.succ_pos i))

end

theorem suffix_of_placeAt? {above : List Element} {ns : List Node} {a : Site} {p : Place}
    (h : placeAt? above ns a = some p) : above <:+ p.ancestors := by
  induction a generalizing above ns with
  | nil => cases h
  | cons i below ih =>
    rw [placeAt?.eq_def] at h
    dsimp only at h
    split at h
    · split at h
      · cases h
        exact List.suffix_refl above
      · exact (List.suffix_cons _ above).trans (ih h)
    · cases h

def Place.isInside (p : Place) : Bool :=
  !p.ancestors.isEmpty

theorem filter_isInside_forestPlaces (e : Element) (children : List Node) :
    (forestPlaces [e] children).filter Place.isInside = forestPlaces [e] children := by
  rw [List.filter_eq_self, ← map_snd_forestSited]
  intro p hp
  obtain ⟨⟨a, p⟩, hx, rfl⟩ := List.mem_map.mp hp
  have hsuffix := suffix_of_placeAt? ((mem_forestSited_iff [e] children a p).mp hx)
  cases hp : p.ancestors with
  | nil =>
    rw [hp] at hsuffix
    cases List.suffix_nil.mp hsuffix
  | cons f above => rw [Place.isInside, hp]; rfl

theorem filter_isInside_places (ns : List Node) :
    (forestPlaces [] ns).filter Place.isInside = ns.flatMap fun
      | .element e children => forestPlaces [e] children
      | _ => [] := by
  induction ns with
  | nil => rfl
  | cons n rest ih =>
    rw [forestPlaces, List.filter_append, List.flatMap_cons, ih]
    cases n with
    | element e children =>
      rw [Node.places, List.filter_cons_of_neg Bool.false_ne_true, filter_isInside_forestPlaces]
    | text t => rfl
    | comment t => rfl

namespace Document

def placeAt? (d : Document) : Site → Option Place
  | [] => none
  | i :: below =>
    if i < d.nodes.length then Markup.placeAt? [] d.nodes (i :: below)
    else (Markup.placeAt? [] d.cutOff ((i - d.nodes.length) :: below)).filter Place.isInside

def sited (d : Document) : List (Site × Place) :=
  forestSited [] d.nodes ++
    ((forestSited [] d.cutOff).filter (·.2.isInside)).map (Prod.map (Site.shift d.nodes.length) id)

theorem mem_cutOff_iff {d : Document} {a : Site} {p : Place} :
    (a, p) ∈ ((forestSited [] d.cutOff).filter (·.2.isInside)).map
        (Prod.map (Site.shift d.nodes.length) id) ↔
      ∃ i below, a = (i + d.nodes.length) :: below ∧
        (Markup.placeAt? [] d.cutOff (i :: below)).filter Place.isInside = some p := by
  simp only [List.mem_map, List.mem_filter, Option.filter_eq_some_iff, ← mem_forestSited_iff]
  constructor
  · rintro ⟨⟨b, q⟩, ⟨hb, hinside⟩, hab⟩
    obtain ⟨i, below, rfl, -⟩ := exists_of_mem_forestSited hb
    cases hab
    exact ⟨i, below, rfl, hb, hinside⟩
  · rintro ⟨i, below, rfl, h⟩
    exact ⟨(i :: below, p), h, rfl⟩

theorem mem_sited_iff {d : Document} {a : Site} {p : Place} :
    (a, p) ∈ d.sited ↔ d.placeAt? a = some p := by
  rw [sited, List.mem_append, mem_cutOff_iff]
  constructor
  · rintro (h | ⟨i, below, rfl, h⟩)
    · obtain ⟨i, below, rfl, hi⟩ := exists_of_mem_forestSited h
      rw [placeAt?, if_pos hi]
      exact (mem_forestSited_iff _ _ _ _).mp h
    · rw [placeAt?, if_neg (by omega), Nat.add_sub_cancel]
      exact h
  · intro h
    cases a with
    | nil => cases h
    | cons i below =>
      rw [placeAt?] at h
      split at h
      · exact .inl ((mem_forestSited_iff _ _ _ _).mpr h)
      · next hi =>
        refine .inr ⟨i - d.nodes.length, below, ?_, h⟩
        rw [Nat.sub_add_cancel (Nat.le_of_not_lt hi)]

theorem pairwise_sited (d : Document) : d.sited.Pairwise InFront := by
  rw [sited, List.pairwise_append]
  refine ⟨pairwise_forestSited [] d.nodes, ?_, ?_⟩
  · exact (pairwise_shift _ (pairwise_forestSited [] d.cutOff)).sublist
      (List.filter_sublist.map _)
  · rintro ⟨a, p⟩ hx ⟨b, q⟩ hy
    obtain ⟨i, below, rfl, hi⟩ := exists_of_mem_forestSited hx
    obtain ⟨j, rest, rfl, -⟩ := mem_cutOff_iff.mp hy
    exact List.cons_lt_cons_iff.mpr (.inl (Nat.lt_add_left j hi))

def wasMadeBy (x y : Site × Place) : Bool :=
  x.2.element.serial ≤ y.2.element.serial

theorem wasMadeBy_trans (x y z : Site × Place) (hxy : wasMadeBy x y = true)
    (hyz : wasMadeBy y z = true) : wasMadeBy x z = true := by
  rw [wasMadeBy, decide_eq_true_eq] at *
  exact Nat.le_trans hxy hyz

theorem wasMadeBy_total (x y : Site × Place) : (wasMadeBy x y || wasMadeBy y x) = true := by
  rw [Bool.or_eq_true, wasMadeBy, wasMadeBy, decide_eq_true_eq, decide_eq_true_eq]
  exact Nat.le_total _ _

def listed (d : Document) : List (Site × Place) :=
  d.sited.mergeSort wasMadeBy

theorem map_snd_listed (d : Document) : d.listed.map Prod.snd = d.places := by
  have hmade : d.listed.map Prod.snd = (d.sited.map Prod.snd).mergeSort
      fun p q => decide (p.element.serial ≤ q.element.serial) :=
    List.map_mergeSort fun _ _ _ _ => rfl
  have hinside : ((forestSited [] d.cutOff).filter (·.2.isInside)).map Prod.snd =
      (forestPlaces [] d.cutOff).filter Place.isInside := by
    rw [← map_snd_forestSited, List.filter_map]
    rfl
  rw [hmade, sited, places, List.map_append, map_snd_forestSited, List.map_map]
  exact congrArg (fun outside => (forestPlaces [] d.nodes ++ outside).mergeSort _)
    (hinside.trans (filter_isInside_places d.cutOff))

theorem mem_listed_iff {d : Document} {a : Site} {p : Place} :
    (a, p) ∈ d.listed ↔ d.placeAt? a = some p := by
  rw [listed, List.mem_mergeSort, mem_sited_iff]

def Earlier (x y : Site × Place) : Prop :=
  x.2.element.serial < y.2.element.serial ∨
    x.2.element.serial = y.2.element.serial ∧ InFront x y

theorem filter_listed (d : Document) (serial : Nat) :
    d.listed.filter (·.2.element.serial == serial) =
      d.sited.filter (·.2.element.serial == serial) := by
  have hmade {x : Site × Place} (hx : x ∈ d.sited.filter (·.2.element.serial == serial)) :
      x.2.element.serial = serial :=
    eq_of_beq (List.mem_filter.mp hx).2
  have hsorted : (d.sited.filter (·.2.element.serial == serial)).Pairwise (wasMadeBy · ·) := by
    apply List.pairwise_of_forall_mem_list
    intro x hx y hy
    exact decide_eq_true (Nat.le_of_eq ((hmade hx).trans (hmade hy).symm))
  have hsub := (List.sublist_mergeSort wasMadeBy_trans wasMadeBy_total hsorted
    List.filter_sublist).filter (·.2.element.serial == serial)
  rw [List.filter_filter] at hsub
  simp only [Bool.and_self] at hsub
  exact (hsub.eq_of_length ((d.sited.mergeSort_perm wasMadeBy).filter _).length_eq.symm).symm

theorem pairwise_listed (d : Document) : d.listed.Pairwise Earlier := by
  rw [List.pairwise_iff_forall_sublist]
  intro x y hxy
  have hle : wasMadeBy x y = true :=
    List.pairwise_iff_forall_sublist.mp
      (List.pairwise_mergeSort wasMadeBy_trans wasMadeBy_total d.sited) hxy
  rcases Nat.lt_or_eq_of_le (of_decide_eq_true hle) with hlt | heq
  · exact .inl hlt
  · refine .inr ⟨heq, ?_⟩
    -- Among elements of one serial the sort leaves the order as it was.
    have hboth : [x, y].filter (·.2.element.serial == y.2.element.serial) = [x, y] := by
      simp [heq]
    have hsub := hxy.filter (·.2.element.serial == y.2.element.serial)
    rw [hboth, filter_listed] at hsub
    exact List.pairwise_iff_forall_sublist.mp d.pairwise_sited (hsub.trans List.filter_sublist)

def MadeFirst (d : Document) (a b : Site) : Prop :=
  ∃ p q, d.placeAt? a = some p ∧ d.placeAt? b = some q ∧ Earlier (a, p) (b, q)

theorem MadeFirst.asymm {d : Document} {a b : Site} (h : d.MadeFirst a b) : ¬d.MadeFirst b a := by
  rintro ⟨q', p', hq', hp', hba⟩
  obtain ⟨p, q, hp, hq, hab⟩ := h
  rw [hp, Option.some.injEq] at hp'
  rw [hq, Option.some.injEq] at hq'
  subst hp' hq'
  rcases hab with hab | ⟨hab, hfront⟩ <;> rcases hba with hba | ⟨hba, hbehind⟩
  · exact Nat.lt_asymm hab hba
  · exact Nat.ne_of_lt hab hba.symm
  · exact Nat.ne_of_lt hba hab.symm
  · exact List.lt_asymm hfront hbehind

theorem MadeFirst.ne {d : Document} {a b : Site} (h : d.MadeFirst a b) : a ≠ b := by
  rintro rfl
  exact h.asymm h

end Document

end RefPages.Markup
