import RefPages.Proofs.Markup.Draft
import RefPages.Proofs.Markup.Reads
import RefPages.Proofs.Page.Written

namespace RefPages.Page

open Markup Markup.Builder
open Markup.Draft (grow growAll)
open Markup.Lexer (IsRun)
open Text (withBreaks)

def element (name : String) (attributes : List Attribute) (children : List Node) : Node :=
  .element ⟨0, .html, name, attributes⟩ children

def textNodes (t : Text) : List Node :=
  if t.isEmpty then [] else [.text t]

def prototypeNode (s : Text) : Node :=
  element "table" [] [element "tbody" [] [element "tr" [] [element "td" [] [.text (s ++ [';'])]]]]

def paragraphNode (e : Text) : Node :=
  element "p" [] (textNodes e)

def part (name : String) (children : List Node) : Node :=
  element "div" [⟨"class", name.toList⟩] children

def headingNode : Node :=
  element "h2" [] [.text "Errors".toList]

def bodyNodes (ss es : List Text) : List Node :=
  [part "funcsynopsis" (ss.map prototypeNode), .text ['\n'],
    part "refsect1" (headingNode :: es.map paragraphNode)]

def documentNode (ss es : List Text) : Node :=
  element "html" [] [element "head" [] [], element "body" [] (bodyNodes ss es)]

def opened (id : Nat) (name : String) : Open :=
  ⟨id, .html, name⟩

def bodyStack : List Open :=
  [opened 3 "body", opened 1 "html"]

def stage (mode : Mode) (ok : Bool) (stack : List Open) (formatting : List Formatting) (d : Draft) :
    Builder :=
  { draft := d, mode, stack, formatting, head := some 2, framesetOk := ok, quirks := true }

def betweenParts (ok : Bool) (d : Draft) : Builder :=
  stage .inBody ok bodyStack [] d

def inPart (ok : Bool) (i : Nat) (d : Draft) : Builder :=
  stage .inBody ok (opened i "div" :: bodyStack) [] d

theorem stage_isPlain {mode : Mode} {ok : Bool} {i : Nat} {name : String} {stack : List Open}
    {formatting : List Formatting} {d : Draft} :
    (stage mode ok (opened i name :: stack) formatting d).IsPlain :=
  ⟨rfl, rfl, rfl⟩

section

variable (ok : Bool) (i : Nat) (outer : List Open) (d : Draft)

theorem bodyText_stage {mode : Mode} {name : String} {formatting : List Formatting} {t : Text}
    (hf : formatting = [] ∨ formatting = [.marker]) (ht : t ≠ []) :
    (stage mode ok (opened i name :: outer) formatting d).bodyText t =
      stage mode (ok && t.all isAsciiBlank) (opened i name :: outer) formatting
        (d.addText i t) := by
  have hr : (stage mode ok (opened i name :: outer) formatting d).reconstruct =
      stage mode ok (opened i name :: outer) formatting d := by
    rcases hf with rfl | rfl <;> rfl
  have hok : (if t.all isAsciiBlank then stage mode ok (opened i name :: outer) formatting d
      else (stage mode ok (opened i name :: outer) formatting d).noFrameset) =
      stage mode (ok && t.all isAsciiBlank) (opened i name :: outer) formatting d := by
    split
    · next h => rw [h, Bool.and_true]
    · next h =>
      rw [Bool.eq_false_iff.mpr h, Bool.and_false]
      rfl
  rw [bodyText, hr, hok, addText, if_neg (by simpa using ht)]
  rfl

theorem receive_text {mode : Mode} {name : String} {formatting : List Formatting} {t : Text}
    (hm : mode = .inBody ∧ formatting = [] ∨ mode = .inCell ∧ formatting = [.marker])
    (ht : t ≠ []) :
    (stage mode ok (opened i name :: outer) formatting d).receive (.text t) =
      stage mode (ok && t.all isAsciiBlank) (opened i name :: outer) formatting
        (d.addText i t) := by
  have hne : Token.text t ≠ .text [] := fun he => ht (Token.text.inj he)
  apply stage_isPlain.receive_eq hne
  apply Uses.done
  rcases hm with ⟨rfl, rfl⟩ | ⟨rfl, rfl⟩
  · exact congrArg Step.done (bodyText_stage _ _ _ _ (.inl rfl) ht)
  · exact congrArg Step.done (bodyText_stage _ _ _ _ (.inr rfl) ht)

end

section

variable (ok : Bool) (i : Nat) (outer : List Open) (d : Draft)

theorem reads_table : Reads (inPart ok i d) (tagOf "table")
    (stage .inTable false (opened d.size "table" :: opened i "div" :: bodyStack) []
      (d.add i (.element .html "table" []))) :=
  reads_start "table" (by decide) stage_isPlain (.done rfl)

theorem reads_tr : Reads (stage .inTable ok (opened i "table" :: outer) [] d) (tagOf "tr")
    (stage .inRow ok
      (opened (d.add i (.element .html "tbody" [])).size "tr" :: opened d.size "tbody" ::
        opened i "table" :: outer) []
      ((d.add i (.element .html "tbody" [])).add d.size (.element .html "tr" []))) :=
  reads_start "tr" (by decide) stage_isPlain (.again rfl ⟨rfl, rfl, rfl⟩ (.done rfl))

theorem reads_td : Reads (stage .inRow ok (opened i "tr" :: outer) [] d) (tagOf "td")
    (stage .inCell ok (opened d.size "td" :: opened i "tr" :: outer) [.marker]
      (d.add i (.element .html "td" []))) :=
  reads_start "td" (by decide) stage_isPlain (.done rfl)

theorem reads_td_stop : Reads (stage .inCell ok (opened i "td" :: outer) [.marker] d) (tagOf "/td")
    (stage .inRow ok outer [] d) :=
  reads_stop "td" (by decide) stage_isPlain (.done rfl)

theorem reads_tr_stop (j : Nat) :
    Reads (stage .inRow ok (opened i "tr" :: opened j "tbody" :: outer) [] d) (tagOf "/tr")
      (stage .inTableBody ok (opened j "tbody" :: outer) [] d) :=
  reads_stop "tr" (by decide) stage_isPlain (.done rfl)

theorem reads_table_stop (j k : Nat) :
    Reads (stage .inTableBody ok
        (opened k "tbody" :: opened j "table" :: opened i "div" :: bodyStack) [] d)
      (tagOf "/table") (inPart ok i d) :=
  reads_stop "table" (by decide) stage_isPlain (.again rfl ⟨rfl, rfl, rfl⟩ (.done rfl))

end

theorem IsBare.isRun {t : Text} (h : IsBare t) : IsRun t :=
  ⟨h '<' (by decide), h '&' (by decide), h '\x00' (by decide)⟩

theorem IsBare.isRun_semicolon {s : Text} (h : IsBare s) : IsRun (s ++ [';']) := by
  obtain ⟨h₁, h₂, h₃⟩ := h.isRun
  exact ⟨by simpa using h₁, by simpa using h₂, by simpa using h₃⟩

theorem reads_prototype {s : Text} (hs : IsBare s) (ok : Bool) (i : Nat) (d : Draft) :
    Reads (inPart ok i d) (prototype s) (inPart false i (grow i (prototypeNode s) d)) := by
  -- The drafts in which the table, its body and its row were made last.
  let d₁ := d.add i (.element .html "table" [])
  let d₂ := d₁.add d.size (.element .html "tbody" [])
  let d₃ := d₂.add d₁.size (.element .html "tr" [])
  have hrow := Draft.size_lt_size_add d₁.size (.element .html "tr" []) d₂
  have hcell := Draft.addText_add hrow ⟨0, .html, "td", []⟩ (s ++ [';'])
  have hd : grow i (prototypeNode s) d =
      (d₃.add d₂.size (.element .html "td" [])).addText d₃.size (s ++ [';']) := by
    simp only [grow, growAll] at hcell
    simp only [prototypeNode, element, grow, growAll]
    exact hcell.symm
  rw [prototype_eq, ← List.append_assoc s, hd]
  apply (reads_table ok i d).trans
  apply (reads_tr _ _ _ _).trans
  apply (reads_td _ _ _ _).trans
  refine reads_text hs.isRun_semicolon stage_isPlain rfl ?_
  rw [receive_text _ _ _ _ (.inr ⟨rfl, rfl⟩) (by simp)]
  apply (reads_td_stop _ _ _ _).trans
  apply (reads_tr_stop _ _ _ _ _).trans
  exact reads_table_stop _ _ _ _ _

section

-- An element of a part that holds text only.
variable {name : String} (hname : name = "p" ∨ name = "h2") (ok : Bool)

include hname

theorem reads_block (i : Nat) (d : Draft) : Reads (inPart ok i d) (tagOf name)
    (stage .inBody ok (opened d.size name :: opened i "div" :: bodyStack) []
      (d.add i (.element .html name []))) := by
  rcases hname with rfl | rfl
  · exact reads_start "p" (by decide) stage_isPlain (.done rfl)
  · exact reads_start "h2" (by decide) stage_isPlain (.done rfl)

theorem reads_block_stop (i j : Nat) (d : Draft) :
    Reads (stage .inBody ok (opened j name :: opened i "div" :: bodyStack) [] d)
      (tagOf ("/" ++ name)) (inPart ok i d) := by
  rcases hname with rfl | rfl
  · exact reads_stop "p" (by decide) stage_isPlain (.done rfl)
  · exact reads_stop "h2" (by decide) stage_isPlain (.done rfl)

theorem reads_block_text {t : Text} (ht : IsRun t) {i : Nat} {d : Draft} (hi : i < d.size) :
    ∃ ok', Reads (inPart ok i d) (tagOf name ++ (t ++ tagOf ("/" ++ name)))
      (inPart ok' i (grow i (element name [] (textNodes t)) d)) := by
  by_cases hne : t = []
  · subst hne
    refine ⟨ok, (reads_block hname ok i d).trans ?_⟩
    exact reads_block_stop hname ok i d.size _
  · have htext := Draft.addText_add hi ⟨0, .html, name, []⟩ t
    refine ⟨ok && t.all isAsciiBlank, (reads_block hname ok i d).trans ?_⟩
    refine reads_text ht stage_isPlain rfl ?_
    rw [receive_text _ _ _ _ (.inl ⟨rfl, rfl⟩) hne, textNodes, if_neg (by simpa using hne), element,
      ← htext]
    exact reads_block_stop hname _ i d.size _

end

theorem reads_paragraph {e : Text} (he : IsBare e) (ok : Bool) {i : Nat} {d : Draft}
    (hi : i < d.size) :
    ∃ ok', Reads (inPart ok i d) (paragraph e) (inPart ok' i (grow i (paragraphNode e) d)) := by
  rw [paragraph_eq]
  exact reads_block_text (.inl rfl) ok he.isRun hi

theorem reads_heading (ok : Bool) {i : Nat} {d : Draft} (hi : i < d.size) :
    ∃ ok', Reads (inPart ok i d) "<h2>Errors</h2>".toList (inPart ok' i (grow i headingNode d)) :=
  have hrun : IsRun "Errors".toList := ⟨by decide, by decide, by decide⟩
  reads_block_text (.inr rfl) ok hrun hi

theorem reads_flatMap {f : Text → Text} {g : Text → Node} {ts : List Text} {i : Nat}
    (h : ∀ t ∈ ts, ∀ ok d, i < d.size →
      ∃ ok', Reads (inPart ok i d) (f t) (inPart ok' i (grow i (g t) d)))
    (ok : Bool) {d : Draft} (hi : i < d.size) :
    ∃ ok', Reads (inPart ok i d) (ts.flatMap f) (inPart ok' i (growAll i (ts.map g) d)) := by
  induction ts generalizing ok d with
  | nil => exact ⟨ok, Reads.refl _⟩
  | cons t ts ih =>
    obtain ⟨ok₁, h₁⟩ := h t (List.mem_cons_self ..) ok d hi
    have hi₁ : i < (grow i (g t) d).size := by
      rw [Draft.size_grow]
      omega
    obtain ⟨ok₂, h₂⟩ := ih (fun u hu => h u (List.mem_cons_of_mem t hu)) ok₁ hi₁
    rw [List.flatMap_cons, List.map_cons]
    exact ⟨ok₂, h₁.trans h₂⟩

def emptyBody : Draft :=
  ((({} : Draft).add 0 (.element .html "html" [])).add 1 (.element .html "head" [])).add 1
    (.element .html "body" [])

theorem reads_first_div : Reads {} "<div class=\"funcsynopsis\">".toList
    (inPart true 4 (emptyBody.add 3 (.element .html "div" [⟨"class", "funcsynopsis".toList⟩]))) :=
  reads_class "div" "funcsynopsis".toList (by decide) (by decide)
    ⟨by decide, by decide, by decide⟩ ⟨rfl, rfl, rfl⟩
    (.again rfl ⟨rfl, rfl, rfl⟩ (.again rfl ⟨rfl, rfl, rfl⟩ (.again rfl ⟨rfl, rfl, rfl⟩
      (.again rfl ⟨rfl, rfl, rfl⟩ (.again rfl ⟨rfl, rfl, rfl⟩ (.done rfl))))))

theorem reads_div (ok : Bool) (d : Draft) : Reads (betweenParts ok d) "<div class=\"refsect1\">".toList
    (inPart ok d.size (d.add 3 (.element .html "div" [⟨"class", "refsect1".toList⟩]))) :=
  reads_class "div" "refsect1".toList (by decide) (by decide)
    ⟨by decide, by decide, by decide⟩ stage_isPlain (.done rfl)

theorem reads_div_stop (ok : Bool) (i : Nat) (d : Draft) :
    Reads (inPart ok i d) "</div>".toList (betweenParts ok d) :=
  reads_stop "div" (by decide) stage_isPlain (.done rfl)

theorem reads_synopsisPart {ss : List Text} (h : ∀ s ∈ ss, IsBare s) :
    ∃ ok, Reads {} (synopsisPart ss)
      (betweenParts ok (grow 3 (part "funcsynopsis" (ss.map prototypeNode)) emptyBody)) := by
  obtain ⟨ok, hall⟩ := reads_flatMap
    (fun s hs ok d _ => ⟨false, reads_prototype (h s hs) ok 4 d⟩) true (Draft.size_lt_size_add 3
      (.element .html "div" [⟨"class", "funcsynopsis".toList⟩]) emptyBody)
  unfold synopsisPart
  exact ⟨ok, reads_first_div.trans (hall.trans (reads_div_stop ok 4 _))⟩

theorem reads_errorsPart {es : List Text} (h : ∀ e ∈ es, IsBare e) (ok : Bool) {d : Draft} :
    ∃ ok', Reads (betweenParts ok d) (errorsPart es)
      (betweenParts ok' (grow 3 (part "refsect1" (headingNode :: es.map paragraphNode)) d)) := by
  have hopen := Draft.size_lt_size_add 3 (.element .html "div" [⟨"class", "refsect1".toList⟩]) d
  obtain ⟨ok₁, hheading⟩ := reads_heading ok hopen
  obtain ⟨ok₂, hall⟩ := reads_flatMap (fun e he ok d hi => reads_paragraph (h e he) ok hi) ok₁
    (Nat.lt_of_lt_of_le hopen (Draft.size_grow .. ▸ Nat.le_add_right ..))
  have hsplit : errorsPart es = "<div class=\"refsect1\">".toList ++ ("<h2>Errors</h2>".toList ++
      (es.flatMap paragraph ++ "</div>".toList)) := by
    unfold errorsPart
    simp
  rw [hsplit]
  exact ⟨ok₂, (reads_div ok d).trans (hheading.trans (hall.trans (reads_div_stop ok₂ _ _)))⟩

theorem receive_break (ok : Bool) (d : Draft) :
    (betweenParts ok d).receive (.text ['\n']) = betweenParts ok (d.addText 3 ['\n']) :=
  stage_isPlain.receive_eq (by decide) (.done rfl)

theorem receive_eof (ok : Bool) (d : Draft) : (betweenParts ok d).receive .eof = betweenParts ok d :=
  stage_isPlain.receive_eq (by decide) (.done rfl)

theorem growAll_documentNode (ss es : List Text) :
    growAll 0 [documentNode ss es] {} = growAll 3 (bodyNodes ss es) emptyBody := by
  simp only [documentNode, element, growAll, grow]
  rfl

theorem reads_written {ss es : List Text} (hs : ∀ s ∈ ss, IsBare s) (he : ∀ e ∈ es, IsBare e) :
    ∃ ok, Reads {} (written ss es) (betweenParts ok (growAll 0 [documentNode ss es] {})) := by
  obtain ⟨ok₁, hsynopsis⟩ := reads_synopsisPart hs
  obtain ⟨ok₂, herrors⟩ := reads_errorsPart he ok₁
  refine ⟨ok₂, hsynopsis.trans ?_⟩
  refine reads_text (s := ['\n']) ⟨by decide, by decide, by decide⟩ stage_isPlain rfl ?_
  rw [receive_break, growAll_documentNode, part, element, Draft.addText_grow (by decide)]
  exact herrors

theorem parse_written {ss es : List Text} (hs : ∀ s ∈ ss, IsBare s) (he : ∀ e ∈ es, IsBare e) :
    Document.parse (written ss es) =
      ⟨numberAll 1 [documentNode (ss.map (withBreaks '\n')) (es.map (withBreaks '\n'))], []⟩ := by
  have hhead : (written ss es).head? = some '<' := rfl
  have hbreak : '\n' ∉ ['<', '>', '&', ';', '\x00'] := by decide
  obtain ⟨ok, hreads⟩ := reads_written (isBare_map_withBreaks hbreak hs)
    (isBare_map_withBreaks hbreak he)
  have hread := hreads []
  rw [List.append_nil] at hread
  rw [Document.parse, Lexer.prepare_eq (by rw [hhead]; decide), withBreaks_written, hread, readAll,
    receive_eof, betweenParts, stage, Draft.document_growAll]

end RefPages.Page
