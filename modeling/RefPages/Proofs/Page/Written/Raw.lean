import RefPages.Proofs.Page.Parts
import RefPages.Proofs.Page.Written

namespace RefPages

namespace Region

def Passes (tag s : Text) : Prop :=
  ∀ t, split tag 0 (s ++ t) = (split tag 0 t).map fun x => (s ++ x.1, x.2)

variable {tag : Text}

theorem split_cons {c : Char} {t : Text} (hc : closesAt tag (c :: t) = false)
    (ho : opensAt tag (c :: t) = false) :
    split tag 0 (c :: t) = (split tag 0 t).map fun x => (c :: x.1, x.2) := by
  have hw : width tag (c :: t) = 1 := by simp [width, hc, ho]
  rw [split, depthAfter?, hc, ho, hw]
  rfl

theorem split_closing (tag t : Text) : split tag 0 (closing tag ++ t) = some (closing tag, t) := by
  have hc : closesAt tag (closing tag ++ t) = true :=
    List.isPrefixOf_iff_prefix.mpr (List.prefix_append _ _)
  have hw : width tag (closing tag ++ t) = (closing tag).length := by rw [width, if_pos hc]
  obtain ⟨c, u, hu⟩ : ∃ c u, closing tag ++ t = c :: u := ⟨_, _, rfl⟩
  rw [hu, split, ← hu, depthAfter?, if_pos hc, hw]
  simp

theorem Passes.nil : Passes tag [] := by
  intro t
  simp

theorem Passes.append {r s : Text} (hr : Passes tag r) (hs : Passes tag s) :
    Passes tag (r ++ s) := by
  intro t
  rw [List.append_assoc, hr, hs, Option.map_map]
  simp [Function.comp_def]

theorem Passes.flatMap {f : Text → Text} {ss : List Text} (h : ∀ s ∈ ss, Passes tag (f s)) :
    Passes tag (ss.flatMap f) := by
  induction ss with
  | nil => exact .nil
  | cons s ss ih =>
    rw [List.flatMap_cons]
    exact (h s (List.mem_cons_self ..)).append (ih fun r hr => h r (List.mem_cons_of_mem s hr))

theorem passes_of_not_mem {s : Text} (h : '<' ∉ s) : Passes tag s := by
  intro t
  induction s with
  | nil => simp
  | cons c s ih =>
    rw [List.mem_cons, not_or] at h
    have hc : ('<' == c) = false := beq_eq_false_iff_ne.mpr h.1
    rw [List.cons_append, split_cons, ih h.2, Option.map_map]
    · rfl
    · rw [closesAt, closing, List.cons_append, List.isPrefixOf, hc, Bool.false_and]
    · rw [opensAt, opening, List.isPrefixOf, hc, Bool.false_and, Bool.false_and]

theorem Passes.split_append_closing {s : Text} (h : Passes tag s) :
    split tag 0 (s ++ closing tag) = some (s ++ closing tag, []) := by
  have := split_closing tag []
  rw [List.append_nil] at this
  rw [h, this]
  rfl

end Region

namespace Page

open Region (Passes passes_of_not_mem)
open Text (collapse withBreaks)

theorem passes_tagOf (name : String) (h : '<' ∉ name.toList ++ ['>'])
    (hc : ∀ t, Region.closesAt container ('<' :: (name.toList ++ ['>'] ++ t)) = false)
    (ho : ∀ t, Region.opensAt container ('<' :: (name.toList ++ ['>'] ++ t)) = false) :
    Passes container (tagOf name) := by
  intro t
  have hcons := Region.split_cons (hc t) (ho t)
  rw [passes_of_not_mem h, Option.map_map] at hcons
  exact hcons

theorem passes_prototype {s : Text} (h : IsBare s) : Passes container (prototype s) := by
  rw [prototype_eq]
  refine .append (passes_tagOf "table" (by simp) (fun _ => rfl) fun _ => rfl) ?_
  refine .append (passes_tagOf "tr" (by simp) (fun _ => rfl) fun _ => rfl) ?_
  refine .append (passes_tagOf "td" (by simp) (fun _ => rfl) fun _ => rfl) ?_
  refine .append (passes_of_not_mem (h '<' (by simp))) ?_
  refine .append (passes_of_not_mem (by simp)) ?_
  refine .append (passes_tagOf "/td" (by simp) (fun _ => rfl) fun _ => rfl) ?_
  refine .append (passes_tagOf "/tr" (by simp) (fun _ => rfl) fun _ => rfl) ?_
  exact passes_tagOf "/table" (by simp) (fun _ => rfl) fun _ => rfl

theorem passes_paragraph {e : Text} (h : IsBare e) : Passes container (paragraph e) := by
  rw [paragraph_eq]
  refine .append (passes_tagOf "p" (by simp) (fun _ => rfl) fun _ => rfl) ?_
  refine .append (passes_of_not_mem (h '<' (by simp))) ?_
  exact passes_tagOf "/p" (by simp) (fun _ => rfl) fun _ => rfl

open Prose (Draft IsLiteral pass)

theorem isLiteral_of_isBare {t : Text} (h : IsBare t) : IsLiteral t := by
  intro c hc
  refine ⟨?_, ?_, ?_, ?_⟩ <;> rintro rfl <;> exact h _ (by simp) hc

def Drops (s : Text) : Prop :=
  ∀ {d : Draft}, d.inTag = false → ∀ t, pass d (s ++ t) = pass d t

theorem drops_tagOf (name : String) (h : IsLiteral name.toList)
    (hp : ∀ t, Prose.opensParagraph (name.toList ++ '>' :: t) = false) : Drops (tagOf name) := by
  intro d hd t
  rw [tagOf, List.append_assoc]
  exact Prose.pass_tag h hd (hp t)

theorem pass_prototype {d : Draft} {s : Text} (h : IsBare s) (hd : d.inTag = false)
    (hcur : d.current = []) (t : Text) :
    pass d (prototype s ++ t) = pass ⟨false, false, [], collapse (s ++ [';']) :: d.done⟩ t := by
  have hread : (d.pushText s).inTag = false := (Draft.pushText_frame s d).2.trans hd
  have hnew : ((d.pushText s).pushText [';']).newString =
      ⟨false, false, [], collapse (s ++ [';']) :: d.done⟩ := by
    have hne : collapse (s ++ [';']) ≠ [] := Text.collapse_ne_nil (c := ';') (by simp) rfl
    have := Draft.newString_pushText hcur (s ++ [';'])
    rw [if_neg hne, hd, Draft.pushText, List.foldl_append] at this
    exact this
  rw [prototype_eq]
  simp only [List.append_assoc]
  rw [drops_tagOf "table" (by simp [IsLiteral]) (fun _ => rfl) hd]
  rw [drops_tagOf "tr" (by simp [IsLiteral]) (fun _ => rfl) hd]
  rw [drops_tagOf "td" (by simp [IsLiteral]) (fun _ => rfl) hd]
  rw [Prose.pass_literal (isLiteral_of_isBare h) hd, List.singleton_append]
  rw [Prose.pass_semicolon hread, hnew]
  rw [drops_tagOf "/td" (by simp [IsLiteral]) (fun _ => rfl) rfl]
  rw [drops_tagOf "/tr" (by simp [IsLiteral]) (fun _ => rfl) rfl]
  rw [drops_tagOf "/table" (by simp [IsLiteral]) (fun _ => rfl) rfl]

theorem pass_prototypes {ss : List Text} (h : ∀ s ∈ ss, IsBare s) (done : List Text) (t : Text) :
    pass ⟨false, false, [], done⟩ (ss.flatMap prototype ++ t) =
      pass ⟨false, false, [], (ss.map fun s => collapse (s ++ [';'])).reverse ++ done⟩ t := by
  induction ss generalizing done with
  | nil => rfl
  | cons s ss ih =>
    rw [List.flatMap_cons, List.append_assoc, pass_prototype (h s (List.mem_cons_self ..)) rfl rfl,
      ih fun r hr => h r (List.mem_cons_of_mem s hr)]
    simp

theorem drops_end : Drops (tagOf "/div") :=
  drops_tagOf "/div" (by simp [IsLiteral]) fun _ => rfl

theorem strings_prototypes {ss : List Text} (h : ∀ s ∈ ss, IsBare s) :
    Prose.strings (ss.flatMap prototype ++ tagOf "/div") =
      ss.map fun s => collapse (s ++ [';']) := by
  have hend := drops_end (d := ⟨false, false, [], (ss.map fun s => collapse (s ++ [';'])).reverse⟩)
    rfl []
  rw [List.append_nil] at hend
  rw [Prose.strings, Draft.empty, pass_prototypes h, List.append_nil, hend, Prose.pass]
  exact List.reverse_reverse _

theorem done_pass_paragraphs {es : List Text} (h : ∀ e ∈ es, IsBare e) {d : Draft}
    (hd : d.inTag = false) :
    (pass d (es.flatMap paragraph ++ tagOf "/div")).done =
      ((es.map collapse).filter fun t => !t.isEmpty).reverse ++ d.flush.done := by
  induction es generalizing d with
  | nil =>
    have hend := drops_end hd []
    rw [List.append_nil] at hend
    rw [List.flatMap_nil, List.nil_append, hend, Prose.pass]
    rfl
  | cons e es ih =>
    have he := isLiteral_of_isBare (h e (List.mem_cons_self ..))
    have hread : ({ d.newString with inTag := false }.pushText e).inTag = false :=
      (Draft.pushText_frame e _).2
    rw [List.flatMap_cons, paragraph_eq]
    simp only [List.append_assoc]
    rw [show tagOf "p" = ['<', 'p', '>'] from rfl, List.cons_append, List.cons_append,
      List.singleton_append, Prose.pass_paragraph, Prose.pass_literal he rfl]
    rw [drops_tagOf "/p" (by simp [IsLiteral]) (fun _ => rfl) hread]
    rw [ih (fun r hr => h r (List.mem_cons_of_mem e hr)) hread, Draft.done_flush_pushText rfl]
    by_cases hc : collapse e = []
    · simp [hc, Draft.newString]
    · simp [hc, Draft.newString]

theorem strings_paragraphs {es : List Text} (h : ∀ e ∈ es, IsBare e) :
    Prose.strings (es.flatMap paragraph ++ tagOf "/div") =
      (es.map collapse).filter fun t => !t.isEmpty := by
  rw [Prose.strings, done_pass_paragraphs h rfl, List.reverse_append, List.reverse_reverse]
  rfl

theorem single_synopsisPart {ss : List Text} (h : ∀ s ∈ ss, IsBare s) :
    Single .synopsis "<div class=\"".toList ("\">".toList ++ (ss.flatMap prototype ++ tagOf "/div"))
      (ss.flatMap prototype ++ tagOf "/div") where
  line := by
    change '\n' ∉ "<div class=\"".toList ++ "funcsynopsis".toList
    simp
  first := fun _ => rfl
  close := ⟨['s', '"'], rfl, by simp⟩
  split := (Passes.flatMap fun s hs => passes_prototype (h s hs)).split_append_closing

theorem single_errorsPart {es : List Text} (h : ∀ e ∈ es, IsBare e) :
    Single .errors "<div class=\"refsect1\">".toList (es.flatMap paragraph ++ tagOf "/div")
      (es.flatMap paragraph ++ tagOf "/div") where
  line := by
    change '\n' ∉ "<div class=\"refsect1\">".toList ++ "<h2>Errors</h2>".toList
    simp
  first := fun _ => rfl
  close := ⟨[], rfl, List.not_mem_nil⟩
  split := (Passes.flatMap fun e he => passes_paragraph (h e he)).split_append_closing

theorem infix_of_append_cons {c : Char} {p s t : Text} (hc : c ∉ p) (hne : p ≠ [])
    (h : p <:+: s ++ c :: t) : p <:+: s ∨ p <:+: t := by
  have prefix_of {s : Text} (h : p <+: s ++ c :: t) : p <+: s := by
    rcases List.prefix_or_prefix_of_prefix h (List.prefix_append s (c :: t)) with hp | ⟨m, rfl⟩
    · exact hp
    · cases m with
      | nil => simp
      | cons d m =>
        rw [List.prefix_append_right_inj] at h
        obtain ⟨rfl, -⟩ := List.cons_prefix_cons.mp h
        simp at hc
  induction s with
  | nil =>
    rcases List.infix_cons_iff.mp h with hp | hi
    · exact absurd (List.prefix_nil.mp (prefix_of (s := []) hp)) hne
    · exact .inr hi
  | cons d s ih =>
    rcases List.infix_cons_iff.mp h with hp | hi
    · exact .inl (prefix_of (s := d :: s) hp).isInfix
    · exact (ih hi).imp_left fun hs => hs.trans (List.suffix_cons d s).isInfix

theorem not_infix_append_cons {c : Char} (hc : c = '<' ∨ c = '>') {s t : Text}
    (hs : ¬Section.synopsis.marker <:+: s) (ht : ¬Section.synopsis.marker <:+: t) :
    ¬Section.synopsis.marker <:+: s ++ c :: t := by
  have hm : c ∉ "funcsynopsis".toList := by
    rcases hc with rfl | rfl <;> simp
  intro hi
  exact (infix_of_append_cons hm Section.synopsis.marker_ne_nil hi).elim hs ht

theorem not_infix_of_splitAt? {s : Text}
    (h : Text.splitAt? "funcsynopsis".toList [] s = none) : ¬Section.synopsis.marker <:+: s :=
  Text.splitAt?_eq_none_iff.mp h

theorem not_infix_paragraphs {es : List Text} (h : ∀ e ∈ es, ¬Section.synopsis.marker <:+: e) :
    ¬Section.synopsis.marker <:+: es.flatMap paragraph ++ "</div>".toList := by
  induction es with
  | nil => exact not_infix_of_splitAt? rfl
  | cons e es ih =>
    have hrest := ih fun r hr => h r (List.mem_cons_of_mem e hr)
    have hcons : (e :: es).flatMap paragraph ++ "</div>".toList =
        "<p".toList ++ '>' :: (e ++ '<' :: ("/p".toList ++ '>' ::
          (es.flatMap paragraph ++ "</div>".toList))) := by
      rw [List.flatMap_cons, paragraph_eq]
      unfold tagOf
      simp
    rw [hcons]
    refine not_infix_append_cons (.inr rfl) (not_infix_of_splitAt? rfl) ?_
    refine not_infix_append_cons (.inl rfl) (h e (List.mem_cons_self ..)) ?_
    exact not_infix_append_cons (.inr rfl) (not_infix_of_splitAt? rfl) hrest

theorem not_infix_errorsPart {es : List Text} (h : ∀ e ∈ es, ¬Section.synopsis.marker <:+: e) :
    ¬Section.synopsis.marker <:+: errorsPart es := by
  have hfront : errorsPart es = "<div class=\"refsect1\"><h2>Errors</h2".toList ++ '>' ::
      (es.flatMap paragraph ++ "</div>".toList) := by
    unfold errorsPart
    simp
  rw [hfront]
  exact not_infix_append_cons (.inr rfl) (not_infix_of_splitAt? rfl) (not_infix_paragraphs h)

theorem outcome_synopsisPart {ss : List Text} (h : ∀ s ∈ ss, IsBare s) :
    outcome (blocks (Text.lines (synopsisPart ss))) =
      .ok ⟨(writtenExtract (ss.map (withBreaks '\r')) []).signatures, []⟩ := by
  have hreturn : '\r' ∉ ['<', '>', '&', ';', '\x00'] := by decide
  have hbare := isBare_map_withBreaks hreturn h
  have hsingle := single_synopsisPart hbare
  rw [hsingle.outcome_lines (withBreaks_synopsisPart '\r' ss) (by simp [getLast?_synopsisPart])
    (fun h => by cases h), strings_prototypes hbare]
  rfl

theorem outcome_errorsPart {es : List Text} (h : ∀ e ∈ es, IsBare e)
    (hmarker : ∀ e ∈ es, ¬Section.synopsis.marker <:+: e) :
    outcome (blocks (Text.lines (errorsPart es))) =
      .ok ⟨[], (writtenExtract [] (es.map (withBreaks '\r'))).errors⟩ := by
  have hreturn : '\r' ∉ ['<', '>', '&', ';', '\x00'] := by decide
  have hbare := isBare_map_withBreaks hreturn h
  have hsingle := single_errorsPart hbare
  rw [hsingle.outcome_lines (withBreaks_errorsPart '\r' es) (by simp [getLast?_errorsPart])
    (fun _ => not_infix_errorsPart hmarker), strings_paragraphs hbare]
  rfl

theorem scan_written {ss es : List Text} (hs : ∀ s ∈ ss, IsBare s) (he : ∀ e ∈ es, IsBare e)
    (hmarker : ∀ e ∈ es, ¬Section.synopsis.marker <:+: e) :
    scan (written ss es) = .ok (writtenExtract ss es) := by
  have hreturn : isBlank '\r' = true := rfl
  rw [← writtenExtract_withBreaks hreturn, scan_eq_outcome, written,
    outcome_lines_append (outcome_synopsisPart hs), outcome_errorsPart he hmarker]
  exact congrArg (fun found => Except.ok (Extract.mk found _)) (List.append_nil _)

end Page
end RefPages
