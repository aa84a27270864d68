import RefPages.Proofs.Harvest.Notes
import RefPages.Proofs.Page.Plain
import RefPages.Report.Format

namespace RefPages.Report

section

variable {α : Type} [DecidableEq α]

def ended? (a : α) (xs : List α) : Option (List (List α)) :=
  let pieces := xs.splitOn a
  if pieces.getLast? = some [] then some pieces.dropLast else none

theorem splitOn_flatMap {a : α} {pieces : List (List α)} (h : ∀ piece ∈ pieces, a ∉ piece) :
    (pieces.flatMap (· ++ [a])).splitOn a = pieces ++ [[]] := by
  induction pieces with
  | nil => rfl
  | cons piece pieces ih =>
    have hp := h piece (List.mem_cons_self ..)
    rw [List.flatMap_cons, List.append_assoc, List.singleton_append,
      List.splitOn_append_cons_self_of_not_mem hp,
      ih fun q hq => h q (List.mem_cons_of_mem _ hq), List.cons_append]

theorem ended?_flatMap {a : α} {pieces : List (List α)} (h : ∀ piece ∈ pieces, a ∉ piece) :
    ended? a (pieces.flatMap (· ++ [a])) = some pieces := by
  rw [ended?, splitOn_flatMap h]
  simp

end

def entry? : List Text → Option Entry
  | [] => none
  | signature :: errors => some ⟨signature, errors⟩

def readPlain (t : Text) : Option (List Entry) :=
  (ended? '\n' t).bind fun lines => (ended? [] lines).bind fun records => records.mapM entry?

def record (e : Entry) : List Text :=
  e.signature :: e.errors

theorem mapM_entry?_record (es : List Entry) : (es.map record).mapM entry? = some es := by
  induction es with
  | nil => rfl
  | cons e es ih =>
    rw [List.map_cons, List.mapM_cons, ih]
    rfl

theorem flatten_entryPieces (e : Entry) :
    (entryPieces e).flatten = (record e ++ [[]]).flatMap (· ++ ['\n']) := by
  have hlines (ts : List Text) :
      (ts.flatMap fun line => [line, ['\n']]).flatten = ts.flatMap (· ++ ['\n']) := by
    induction ts with
    | nil => rfl
    | cons t ts ih => simp [ih]
  rw [entryPieces, List.flatten_append, hlines, record, List.flatMap_append]
  rfl

theorem write_text (r : Report) :
    r.write .text = ((r.entries.map record).flatMap (· ++ [[]])).flatMap (· ++ ['\n']) := by
  rw [write, pieces]
  induction r.entries with
  | nil => rfl
  | cons e es ih =>
    rw [List.flatMap_cons, List.flatten_append, flatten_entryPieces, ih, List.map_cons,
      List.flatMap_cons]
    exact List.flatMap_append.symm

theorem readPlain_write_of_plain {r : Report}
    (h : ∀ e ∈ r.entries, ∀ line ∈ record e, line.Plain) :
    readPlain (r.write .text) = some r.entries := by
  have hrecords : ∀ lines ∈ r.entries.map record, [] ∉ lines := by
    intro lines hl hn
    obtain ⟨e, he, rfl⟩ := List.mem_map.mp hl
    exact (h e he [] hn).1 rfl
  have hlines : ∀ line ∈ (r.entries.map record).flatMap (· ++ [[]]), '\n' ∉ line := by
    intro line hl
    obtain ⟨lines, hr, hl⟩ := List.mem_flatMap.mp hl
    obtain ⟨e, he, rfl⟩ := List.mem_map.mp hr
    rcases List.mem_append.mp hl with hl | hl
    · exact (h e he line hl).2.not_mem_break
    · rw [List.mem_singleton.mp hl]
      exact List.not_mem_nil
  rw [write_text, readPlain, ended?_flatMap hlines, Option.bind_some, ended?_flatMap hrecords,
    Option.bind_some, mapM_entry?_record]

theorem plain_of_mem_entriesOf {x : Extract} (h : x.Each Text.Plain) {e : Entry} (he : e ∈ entriesOf x) :
    ∀ line ∈ record e, line.Plain := by
  obtain ⟨signature, hs, rfl⟩ := List.mem_map.mp he
  intro line hl
  rcases List.mem_cons.mp hl with rfl | hl
  · exact h.signatures line (List.mem_filter.mp hs).1
  · exact h.errors line (List.mem_filter.mp hl).1

def AreRead (pages : List PageResult) : Prop :=
  ∀ p ∈ pages, p.isOk = true → ∃ strategy body, Page.extract strategy body = .ok p.extract

theorem plain_of_mem_ofPages (source generatedAt : Text) {pages : List PageResult}
    (h : AreRead pages) {e : Entry} (he : e ∈ (ofPages source generatedAt pages).entries) :
    ∀ line ∈ record e, line.Plain := by
  obtain ⟨p, hp, he⟩ := List.mem_flatMap.mp he
  obtain ⟨hp, hok⟩ := List.mem_filter.mp hp
  obtain ⟨strategy, body, hx⟩ := h p hp hok
  exact plain_of_mem_entriesOf (Page.plain_of_extract hx) he

theorem readPlain_write_ofPages (source generatedAt : Text) {pages : List PageResult}
    (h : AreRead pages) :
    readPlain ((ofPages source generatedAt pages).write .text) =
      some (ofPages source generatedAt pages).entries :=
  readPlain_write_of_plain fun _ he => plain_of_mem_ofPages source generatedAt h he

theorem write_text_lossless (source generatedAt : Text) {pages : List PageResult}
    (h : AreRead pages) :
    readPlain ((ofPages source generatedAt pages).write .text) =
        some (ofPages source generatedAt pages).entries ∧
      ∀ (source' generatedAt' : Text) (pages' : List PageResult), AreRead pages' →
        (ofPages source generatedAt pages).entries ≠
          (ofPages source' generatedAt' pages').entries →
        (ofPages source generatedAt pages).write .text ≠
          (ofPages source' generatedAt' pages').write .text := by
  have hread := readPlain_write_ofPages source generatedAt h
  refine ⟨hread, ?_⟩
  intro source' generatedAt' pages' h' hne he
  rw [he, readPlain_write_ofPages source' generatedAt' h'] at hread
  exact hne (Option.some.inj hread).symm

theorem write_text_lossless_page :
    let body := "<p class=\"funcsynopsis\">void f(int);</p></div>\n<h2>Errors</h2><p>E if\nx.</p></div>"
    let x : Extract := ⟨["void f(int);".toList], ["E if x.".toList]⟩
    let page : PageResult := ⟨⟨"f.xml".toList, "http://h/f.xml".toList⟩, 200, x, none⟩
    Page.extract .raw body.toList = .ok x ∧ AreRead [page] ∧
      readPlain "void f(int);\nE if x.\n\n".toList =
        some [⟨"void f(int);".toList, ["E if x.".toList]⟩] := by
  intro body x page
  have hx : Page.extract .raw body.toList = .ok x := by
    have h : (Page.extract .raw body.toList).toOption = some x := by decide +kernel
    cases he : Page.extract .raw body.toList with
    | error e =>
      rw [he] at h
      cases h
    | ok y =>
      rw [he] at h
      exact congrArg Except.ok (Option.some.inj h)
  have hread : AreRead [page] := by
    intro p hp _
    rw [List.mem_singleton.mp hp]
    exact ⟨.raw, body.toList, hx⟩
  exact ⟨hx, hread, (write_text_lossless [] [] hread).1⟩

open Harvest

theorem exists_extract_of_readPage {net : Http.Network} {strategy : Strategy} {address : Text}
    {status : Nat} {x : Extract} (h : (readPage net strategy address).value = .ok (status, x)) :
    ∃ body, Page.extract strategy body = .ok x := by
  rw [readPage, Noted.value_bind] at h
  cases hb : (fetchBody net address).value with
  | error failure =>
    rw [hb] at h
    cases h
  | ok y =>
    obtain ⟨status', body⟩ := y
    rw [hb] at h
    cases hx : Page.extract strategy body with
    | error region => simp [hx] at h
    | ok x' =>
      simp only [hx, Noted.value_bind, Noted.value_pure, Except.ok.injEq, Prod.mk.injEq] at h
      exact ⟨body, by rw [hx, h.2]⟩

theorem areRead_fetchPages (net : Http.Network) (strategy : Strategy) (workers : Nat)
    (links : List PageLink) : AreRead (fetchPages net strategy workers links).value := by
  rw [value_fetchPages]
  intro p hp hok
  obtain ⟨link, -, rfl⟩ := List.mem_map.mp hp
  rw [fetchPage, Noted.value_bind] at hok ⊢
  cases hr : (readPage net strategy link.url).value with
  | error failure =>
    rw [hr] at hok
    cases hok
  | ok y =>
    obtain ⟨body, hx⟩ := exists_extract_of_readPage hr
    exact ⟨strategy, body, hx⟩

end RefPages.Report
