import RefPages.Proofs.Index.Passed
import RefPages.Proofs.Markup.Sites
import RefPages.Proofs.Url.Fragment

/-!
Which links an index has and in what order they are found. Each is found once, whatever stands
around it. They are found in the order in which the document made them: it puts what does not belong
in a table in front of the table, when the rows before are made already.
-/

namespace RefPages.Index

open Markup
open Markup.Document (MadeFirst)

def NamesDisplay (space : Space) (value : Text) : Prop :=
  value = displayFrame ∨ space = .html ∧ value.map Char.toLower = displayFrame

inductive LinksAt (base : Url) (d : Document) (a : Site) : PageLink → Prop
  | mk {p : Place} {cell row : Element} {above : List Element} {target href : Text} {u : Url}
      (hplace : d.placeAt? a = some p) (hname : p.element.name = "a")
      (haround : p.ancestors = cell :: row :: above)
      (hcell : cell.name = "td") (hrow : row.name = "tr")
      (htarget : p.element.attribute? "target" = some target)
      (hframe : NamesDisplay p.element.space target)
      (hhref : p.element.attribute? "href" = some href)
      (hpage : href ≠ [] ∧ href.head? ≠ some '#' ∧ ¬"javascript:".toList <+: href)
      (hjoin : Url.join base href = .ok u) :
      LinksAt base d a ⟨href, u.withoutFragment.text⟩

theorem opensDisplay_iff (e : Element) :
    opensDisplay e = true ↔
      ∃ target, e.attribute? "target" = some target ∧ NamesDisplay e.space target := by
  rw [opensDisplay, Option.any_eq_true]
  refine exists_congr fun target => and_congr_right fun _ => ?_
  rw [NamesDisplay]
  split
  · next hspace =>
    rw [beq_iff_eq]
    constructor
    · exact fun h => .inr ⟨hspace, h⟩
    · rintro (rfl | ⟨-, h⟩)
      · decide
      · exact h
  · next hspace =>
    rw [beq_iff_eq]
    constructor
    · exact .inl
    · rintro (h | ⟨h, -⟩)
      · exact h
      · exact absurd h hspace

theorem isInCell_iff (p : Place) :
    isInCell p = true ↔
      ∃ cell row above, p.ancestors = cell :: row :: above ∧ cell.name = "td" ∧ row.name = "tr" := by
  rw [isInCell]
  split
  · next cell row above h =>
    rw [Bool.and_eq_true, beq_iff_eq, beq_iff_eq]
    constructor
    · rintro ⟨hcell, hrow⟩
      exact ⟨cell, row, above, h, hcell, hrow⟩
    · rintro ⟨cell', row', above', h', hcell, hrow⟩
      rw [h] at h'
      cases h'
      exact ⟨hcell, hrow⟩
  · next hnone =>
    constructor
    · rintro ⟨⟩
    · rintro ⟨cell, row, above, h, -⟩
      exact absurd h (hnone cell row above)

def linkAt? (base : Url) (p : Place) : Option PageLink :=
  if isPageLink p then linkOf? base p.element else none

theorem linkAt?_eq_some_iff {base : Url} {p : Place} {l : PageLink} :
    linkAt? base p = some l ↔ isPageLink p = true ∧ linkOf? base p.element = some l := by
  rw [linkAt?]
  split
  · next h => exact (and_iff_right h).symm
  · next h => simp [h]

theorem linksAt_iff {base : Url} {d : Document} {a : Site} {l : PageLink} :
    LinksAt base d a l ↔ (d.placeAt? a).bind (linkAt? base) = some l := by
  simp only [Option.bind_eq_some_iff, linkAt?_eq_some_iff, isPageLink, Bool.and_eq_true,
    beq_iff_eq, isInCell_iff, opensDisplay_iff, linkOf?_eq_some_iff, isSkipped_eq_false_iff]
  constructor
  · rintro ⟨hplace, hname, haround, hcell, hrow, htarget, hframe, hhref, hpage, hjoin⟩
    exact ⟨_, hplace, ⟨⟨hname, _, _, _, haround, hcell, hrow⟩, _, htarget, hframe⟩, hhref, hpage,
      _, hjoin, rfl⟩
  · rintro ⟨p, hplace, ⟨⟨hname, cell, row, above, haround, hcell, hrow⟩, target, htarget, hframe⟩,
      hhref, hpage, u, hjoin, hurl⟩
    obtain ⟨href, url⟩ := l
    cases hurl
    exact .mk hplace hname haround hcell hrow htarget hframe hhref hpage hjoin

instance (base : Url) (d : Document) (a : Site) (l : PageLink) : Decidable (LinksAt base d a l) :=
  decidable_of_iff _ linksAt_iff.symm

def found (base : Url) (d : Document) : List (Site × PageLink) :=
  d.listed.filterMap fun x => (linkAt? base x.2).map (Prod.mk x.1)

theorem linksOf_eq_filterMap (base : Url) (d : Document) :
    linksOf base d = d.places.filterMap (linkAt? base) := by
  rw [linksOf, List.filterMap_filter]
  rfl

theorem linksOf_eq_mergeSort (base : Url) (d : Document) :
    linksOf base d =
      ((d.sited.map fun x => (x.2.element.serial, linkAt? base x.2)).mergeSort
        (·.1 ≤ ·.1)).filterMap Prod.snd := by
  have hmade : d.listed.map (fun x => (x.2.element.serial, linkAt? base x.2)) =
      (d.sited.map fun x => (x.2.element.serial, linkAt? base x.2)).mergeSort (·.1 ≤ ·.1) :=
    List.map_mergeSort fun _ _ _ _ => rfl
  rw [← hmade, linksOf_eq_filterMap, ← d.map_snd_listed, List.filterMap_map, List.filterMap_map]
  rfl

theorem map_snd_found (base : Url) (d : Document) :
    (found base d).map Prod.snd = linksOf base d := by
  rw [found, List.map_filterMap, linksOf_eq_filterMap, ← d.map_snd_listed, List.filterMap_map]
  congr 1
  funext x
  simp [Function.comp_def]

theorem mem_found_iff {base : Url} {d : Document} {a : Site} {l : PageLink} :
    (a, l) ∈ found base d ↔ LinksAt base d a l := by
  rw [found, List.mem_filterMap, linksAt_iff, Option.bind_eq_some_iff]
  constructor
  · rintro ⟨⟨b, p⟩, hp, h⟩
    obtain ⟨l', hl', hal⟩ := Option.map_eq_some_iff.mp h
    cases hal
    exact ⟨p, Document.mem_listed_iff.mp hp, hl'⟩
  · rintro ⟨p, hp, hl⟩
    exact ⟨(a, p), Document.mem_listed_iff.mpr hp, by rw [hl]; rfl⟩

theorem pairwise_found (base : Url) (d : Document) :
    (found base d).Pairwise fun x y => d.MadeFirst x.1 y.1 := by
  rw [found, List.pairwise_filterMap]
  apply d.pairwise_listed.imp_of_mem
  rintro ⟨a, p⟩ ⟨b, q⟩ hp hq hearlier x hx y hy
  obtain ⟨l, -, rfl⟩ := Option.map_eq_some_iff.mp hx
  obtain ⟨l', -, rfl⟩ := Option.map_eq_some_iff.mp hy
  exact ⟨p, q, Document.mem_listed_iff.mp hp, Document.mem_listed_iff.mp hq, hearlier⟩

theorem pairwise_lt_iff {d : Document} {xs : List (Site × PageLink)}
    (hmade : xs.Pairwise fun x y => d.MadeFirst x.1 y.1) :
    xs.Pairwise (fun x y => x.1 < y.1) ↔
      ∀ x ∈ xs, ∀ y ∈ xs, x.1 < y.1 → d.MadeFirst x.1 y.1 := by
  constructor
  · intro hfront x hx y hy hxy
    obtain ⟨i, hi, rfl⟩ := List.mem_iff_getElem.mp hx
    obtain ⟨j, hj, rfl⟩ := List.mem_iff_getElem.mp hy
    rw [List.pairwise_iff_getElem] at hmade hfront
    rcases Nat.lt_trichotomy i j with hij | rfl | hji
    · exact hmade i j hi hj hij
    · exact absurd hxy (List.lt_irrefl _)
    · exact absurd hxy (List.lt_asymm (hfront j i hj hi hji))
  · intro hfront
    apply hmade.imp_of_mem
    intro x y hx hy hxy
    rcases List.le_total x.1 y.1 with hle | hle
    · exact (List.le_iff_lt_or_eq.mp hle).resolve_right hxy.ne
    · have hyx := (List.le_iff_lt_or_eq.mp hle).resolve_right hxy.ne.symm
      exact absurd (hfront y hy x hx hyx) hxy.asymm

/-- Every link of the index is found, once, and nothing else is. The links are found in the order of
their making, which is that in which they stand just when they were made so. -/
theorem links_listed (address html : Text) :
    (∀ invalid, links address html = .error invalid ↔
      ∃ fault, Url.parse address = .error fault ∧ invalid = ⟨address, fault⟩) ∧
    ∀ base, Url.parse address = .ok base →
      let d := Document.parse html
      ∃ ls : List (Site × PageLink), links address html = .ok (ls.map Prod.snd) ∧
        (∀ a l, (a, l) ∈ ls ↔ LinksAt base d a l) ∧
        (ls.map Prod.fst).Nodup ∧
        ls.Pairwise (fun x y => d.MadeFirst x.1 y.1) ∧
        (ls.Pairwise (fun x y => x.1 < y.1) ↔
          ∀ x ∈ ls, ∀ y ∈ ls, x.1 < y.1 → d.MadeFirst x.1 y.1) ∧
        ∀ x ∈ ls, '#' ∉ x.2.url := by
  constructor
  · intro invalid
    rw [links]
    cases hparse : Url.parse address with
    | error fault => simp [eq_comm]
    | ok base => simp
  · intro base hbase d
    refine ⟨found base d, ?_, fun a l => mem_found_iff, ?_, pairwise_found base d,
      pairwise_lt_iff (pairwise_found base d), ?_⟩
    · rw [links, hbase, map_snd_found]
    · rw [List.Nodup, List.pairwise_map]
      exact (pairwise_found base d).imp MadeFirst.ne
    · rintro ⟨a, l⟩ hl
      obtain ⟨-, -, -, -, -, -, -, -, -, hjoin⟩ := mem_found_iff.mp hl
      exact Url.sign_not_mem_link hbase hjoin

theorem links_listed_index :
    let address := "http://[::1]/i".toList
    let base : Url := { scheme := "http".toList, host := some (.ipv6 [0, 0, 0, 0, 0, 0, 0, 1]),
                        path := .segments ["i".toList] }
    let html := "<table><tr><td><a target=PageDisp href=1#s>x".toList
    Url.parse address = .ok base ∧
      ∃ ls : List (Site × PageLink), links address html = .ok (ls.map Prod.snd) ∧
        ([0, 1, 0, 0, 0, 0, 0], ⟨"1#s".toList, "http://[::1]/1".toList⟩) ∈ ls := by
  intro address base html
  have hbase : Url.parse address = .ok base := parse_eq_ok (by decide +kernel)
  obtain ⟨ls, hls, hmem, -⟩ := (links_listed address html).2 base hbase
  exact ⟨hbase, ls, hls, (hmem _ _).mpr (by decide +kernel)⟩

theorem links_out_of_order :
    let address := "http://[::1]/i".toList
    let html := ("<table><td><a target=pagedisp href=1></a></td>" ++
      "<div><template><tr><td><a target=pagedisp href=2>").toList
    let base : Url := { scheme := "http".toList, host := some (.ipv6 [0, 0, 0, 0, 0, 0, 0, 1]),
                        path := .segments ["i".toList] }
    let d := Document.parse html
    let one : PageLink := ⟨"1".toList, "http://[::1]/1".toList⟩
    let two : PageLink := ⟨"2".toList, "http://[::1]/2".toList⟩
    Url.parse address = .ok base ∧ links address html = .ok [one, two] ∧
      ∃ a b, LinksAt base d a one ∧ LinksAt base d b two ∧ b < a := by
  intro address html base d one two
  have hbase : Url.parse address = .ok base := parse_eq_ok (by decide +kernel)
  have hsited : d.sited.map (fun x => (x.2.element.serial, linkAt? base x.2)) =
      [(1, none), (2, none), (3, none), (9, none), (10, none), (11, none), (12, none),
        (13, some two), (4, none), (5, none), (6, none), (7, none), (8, some one)] := by
    decide +kernel
  refine ⟨hbase, ?_, [0, 1, 1, 0, 0, 0, 0], [0, 1, 0, 0, 0, 0, 0], by decide +kernel,
    by decide +kernel, by decide⟩
  rw [links, hbase]
  dsimp only
  rw [linksOf_eq_mergeSort, hsited]
  simp [List.mergeSort, List.MergeSort.Internal.splitInTwo]

end RefPages.Index
