import RefPages.Index
import RefPages.Proofs.Markup.Places
import RefPages.Proofs.Url.Scheme

/-!
References that are passed on as pages. They are looked at as they are written, and read only then:
what is dropped while they are read can hide a script or a place on the index.
-/

namespace RefPages.Index

open Markup
open Url (writtenScheme)

def RunsScript (href : Text) : Prop :=
  ∃ w rest, Url.prepare href = w ++ ':' :: rest ∧ w.map Char.toLower = "javascript".toList

def NamesPlace (href : Text) : Prop :=
  Url.prepare href = [] ∨ (Url.prepare href).head? = some '#'

theorem linkOf?_eq_some_iff {base : Url} {e : Element} {l : PageLink} :
    linkOf? base e = some l ↔ e.attribute? "href" = some l.href ∧ isSkipped l.href = false ∧
      ∃ u, Url.join base l.href = .ok u ∧ l.url = u.withoutFragment.text := by
  simp only [linkOf?, Option.bind_eq_bind, Option.bind_eq_some_iff]
  constructor
  · rintro ⟨href, hhref, h⟩
    split at h
    · cases h
    · next hs =>
      obtain ⟨u, hu, h⟩ := Option.bind_eq_some_iff.mp h
      cases h
      refine ⟨hhref, Bool.eq_false_iff.mpr hs, u, ?_, rfl⟩
      cases hj : Url.join base href with
      | error fault =>
        rw [hj] at hu
        cases hu
      | ok v =>
        rw [hj] at hu
        cases hu
        rfl
  · rintro ⟨hhref, hs, u, hu, hurl⟩
    obtain ⟨href, url⟩ := l
    dsimp only at hhref hs hu hurl
    refine ⟨href, hhref, ?_⟩
    rw [if_neg (Bool.eq_false_iff.mp hs), hu, hurl]
    rfl

theorem linkOf?_eq_some {base : Url} {e : Element} {l : PageLink} (h : linkOf? base e = some l) :
    isSkipped l.href = false ∧
      ∃ u, Url.join base l.href = .ok u ∧ l.url = u.withoutFragment.text :=
  (linkOf?_eq_some_iff.mp h).2

theorem isSkipped_eq_false_iff (href : Text) :
    isSkipped href = false ↔
      href ≠ [] ∧ href.head? ≠ some '#' ∧ ¬"javascript:".toList <+: href := by
  rw [isSkipped, Bool.or_eq_false_iff, Bool.or_eq_false_iff, List.isEmpty_eq_false_iff,
    beq_eq_false_iff_ne, ← List.isPrefixOf_iff_prefix, Bool.not_eq_true, and_assoc]

section

variable {base u : Url} {href : Text}

theorem colon_not_mem_scheme (hbase : ':' ∉ base.scheme) (h : Url.join base href = .ok u) :
    ':' ∉ u.scheme := by
  rw [Url.hasScheme_parseFrom (some base) href u h, Url.schemeOf.eq_def]
  cases hs : Url.splitScheme (Url.prepare href) with
  | none => exact hbase
  | some read => exact Url.not_mem_splitScheme rfl hs

theorem scheme_eq_javascript_iff (hbase : base.scheme ≠ "javascript".toList)
    (h : Url.join base href = .ok u) : u.scheme = "javascript".toList ↔ RunsScript href := by
  have hletters : ∀ c ∈ "javascript".toList, c.isAlpha = true := List.all_eq_true.mp (by decide)
  rw [RunsScript, ← Url.splitScheme_eq_some_iff (by decide) hletters,
    Url.hasScheme_parseFrom (some base) href u h, Url.schemeOf.eq_def]
  cases hs : Url.splitScheme (Url.prepare href) with
  | none =>
    constructor
    · intro he
      exact absurd he hbase
    · rintro ⟨rest, ⟨⟩⟩
  | some read =>
    constructor
    · intro he
      exact ⟨read.2, by rw [← he]⟩
    · rintro ⟨rest, he⟩
      rw [Option.some.inj he]

theorem withoutFragment_of_namesPlace (hplace : NamesPlace href) (h : Url.join base href = .ok u) :
    u.withoutFragment = base.withoutFragment := by
  rw [Url.join, Url.parseFrom.eq_def] at h
  rcases hplace with hnil | hhead
  · rw [hnil] at h
    cases hpath : base.path with
    | segments list =>
      simp only [Url.splitScheme, List.takeWhile_nil, hpath] at h
      cases h
      rfl
    | plain t =>
      simp only [Url.splitScheme, List.takeWhile_nil, hpath] at h
      cases h
  · obtain ⟨t, ht⟩ : ∃ t, Url.prepare href = '#' :: t := List.head?_eq_some_iff.mp hhead
    rw [ht] at h
    cases h
    rfl

end

theorem writtenScheme_of_runsScript {href : Text} (hread : Url.prepare href = href)
    (h : RunsScript href) :
    (writtenScheme href).map Char.toLower = "javascript".toList ∧
      ∃ rest, href = writtenScheme href ++ ':' :: rest := by
  obtain ⟨w, rest, hw, hlower⟩ := h
  have hcolon : ':' ∉ w := by
    intro hc
    have : ':' ∈ "javascript".toList := by
      rw [← hlower]
      exact List.mem_map_of_mem hc
    revert this
    decide
  have hwritten : writtenScheme href = w := by
    rw [← hread, hw]
    exact Text.takeWhile_ne hcolon rest
  rw [hwritten]
  exact ⟨hlower, rest, hread.symm.trans hw⟩

theorem writtenScheme_link_iff {base u : Url} {href : Text} (hcolon : ':' ∉ base.scheme)
    (hscript : base.scheme ≠ "javascript".toList) (h : Url.join base href = .ok u) :
    writtenScheme u.withoutFragment.text = "javascript".toList ↔ RunsScript href := by
  have hnot : ':' ∉ u.scheme := colon_not_mem_scheme hcolon h
  rw [Url.writtenScheme_text (u := u.withoutFragment) hnot, Url.scheme_withoutFragment]
  exact scheme_eq_javascript_iff hscript h

theorem not_namesPlace_of_prepared {href : Text} (hread : Url.prepare href = href)
    (h : isSkipped href = false) : ¬NamesPlace href := by
  obtain ⟨hne, hhead, -⟩ := (isSkipped_eq_false_iff href).mp h
  rw [NamesPlace, hread]
  rintro (hnil | hsign)
  · exact hne hnil
  · exact hhead hsign

theorem not_runsScript_of_prepared {href : Text} (hread : Url.prepare href = href)
    (hlower : (writtenScheme href).map Char.toLower = writtenScheme href)
    (h : isSkipped href = false) : ¬RunsScript href := by
  intro hscript
  obtain ⟨hjs, rest, hhref⟩ := writtenScheme_of_runsScript hread hscript
  rw [← hlower, hjs] at hhref
  apply ((isSkipped_eq_false_iff href).mp h).2.2
  exact ⟨rest, by rw [hhref]; simp⟩

/-- What is passed on. A script or the index itself can be among it, but only by a reference that is
not read as it is written or has a capital letter in its scheme. -/
theorem links_passed {address : Text} {base : Url} (hbase : Url.parse address = .ok base)
    (hscheme : base.scheme = "http".toList ∨ base.scheme = "https".toList) (html : Text) :
    ∃ ls, links address html = .ok ls ∧ ∀ l ∈ ls,
      (l.href ≠ [] ∧ l.href.head? ≠ some '#' ∧ ¬"javascript:".toList <+: l.href) ∧
        (writtenScheme l.url = "javascript".toList ↔ RunsScript l.href) ∧
        (NamesPlace l.href → l.url = base.withoutFragment.text) ∧
        (Url.prepare l.href = l.href → ¬NamesPlace l.href ∧
          ((writtenScheme l.href).map Char.toLower = writtenScheme l.href →
            writtenScheme l.url ≠ "javascript".toList)) := by
  obtain ⟨hcolon, hscript⟩ : ':' ∉ base.scheme ∧ base.scheme ≠ "javascript".toList := by
    rcases hscheme with h | h
    · rw [h]
      decide
    · rw [h]
      decide
  refine ⟨linksOf base (Document.parse html), by rw [links, hbase], ?_⟩
  intro l hl
  obtain ⟨p, -, hp⟩ := List.mem_filterMap.mp hl
  obtain ⟨hskipped, u, hu, hurl⟩ := linkOf?_eq_some hp
  have hwritten : writtenScheme l.url = "javascript".toList ↔ RunsScript l.href := by
    rw [hurl]
    exact writtenScheme_link_iff hcolon hscript hu
  refine ⟨(isSkipped_eq_false_iff l.href).mp hskipped, hwritten, ?_, ?_⟩
  · intro hplace
    rw [hurl, withoutFragment_of_namesPlace hplace hu]
  · intro hread
    refine ⟨not_namesPlace_of_prepared hread hskipped, ?_⟩
    intro hlower
    rw [Ne, hwritten]
    exact not_runsScript_of_prepared hread hlower hskipped

theorem parse_eq_ok {t : Text} {u : Url} (h : (Url.parse t).toOption = some u) :
    Url.parse t = .ok u := by
  cases hp : Url.parse t with
  | error fault =>
    rw [hp] at h
    cases h
  | ok v =>
    rw [hp] at h
    rw [Option.some.inj h]

theorem links_passed_index :
    let address := "http://[::1]/i".toList
    let base : Url := { scheme := "http".toList, host := some (.ipv6 [0, 0, 0, 0, 0, 0, 0, 1]),
                        path := .segments ["i".toList] }
    let html := "<table><tr><td><a target=pagedisp href=' #t'>x".toList
    Url.parse address = .ok base ∧ (base.scheme = "http".toList ∨ base.scheme = "https".toList) ∧
      ∃ ls, links address html = .ok ls ∧ ∀ l ∈ ls, NamesPlace l.href → l.url = address := by
  intro address base html
  have hbase : Url.parse address = .ok base := parse_eq_ok (by decide +kernel)
  have hscheme : base.scheme = "http".toList ∨ base.scheme = "https".toList := .inl rfl
  obtain ⟨ls, hls, hpassed⟩ := links_passed hbase hscheme html
  refine ⟨hbase, hscheme, ls, hls, ?_⟩
  intro l hl hplace
  obtain ⟨-, -, hindex, -⟩ := hpassed l hl
  rw [hindex hplace]
  decide

theorem script_and_index_passed :
    let address := "http://[::1]/i".toList
    let html := ("<table><tr><td><a target=pagedisp href=' #t'>x</a>" ++
      "<a target=pagedisp href=JavaScript:y>z").toList
    links address html =
      .ok [⟨" #t".toList, address⟩, ⟨"JavaScript:y".toList, "javascript:y".toList⟩] := by
  intro address html
  have hbase : Url.parse address =
      .ok { scheme := "http".toList, host := some (.ipv6 [0, 0, 0, 0, 0, 0, 0, 1]),
            path := .segments ["i".toList] } := parse_eq_ok (by decide +kernel)
  rw [links, hbase]
  dsimp only
  rw [linksOf, places_of_pairwise (by decide +kernel) (by decide +kernel)]
  congr 1
  decide +kernel

end RefPages.Index
