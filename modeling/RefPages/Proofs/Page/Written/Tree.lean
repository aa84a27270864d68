import RefPages.Page.Tree
import RefPages.Proofs.Markup.Places
import RefPages.Proofs.Page.Written.Built

namespace RefPages.Page

open Markup
open Text (collapse collapse_cons_blank collapse_ne_nil)

section

variable {q : Place → Bool} {id : Nat} {ancestors : List Element}

theorem filter_forestPlaces_cons (n : Node) (rest : List Node) :
    (forestPlaces ancestors (numberAll id (n :: rest))).filter q =
      ((n.number id).places ancestors (numberAll (id + n.count) rest)).filter q ++
        (forestPlaces ancestors (numberAll (id + n.count) rest)).filter q := by
  rw [numberAll, forestPlaces, List.filter_append]

theorem filter_forestPlaces_map {f : Text → Node}
    (h : ∀ t id following, (((f t).number id).places ancestors following).filter q = [])
    (ts : List Text) :
    (forestPlaces ancestors (numberAll id (ts.map f))).filter q = [] := by
  induction ts generalizing id with
  | nil => rfl
  | cons t ts ih => rw [List.map_cons, filter_forestPlaces_cons, h, ih, List.nil_append]

variable {name : String} {attributes : List Attribute} {children following : List Node}

theorem filter_places_of_pos
    (h : q ⟨ancestors, ⟨id, .html, name, attributes⟩, numberAll (id + 1) children, following⟩ =
      true) :
    (((element name attributes children).number id).places ancestors following).filter q =
      ⟨ancestors, ⟨id, .html, name, attributes⟩, numberAll (id + 1) children, following⟩ ::
        (forestPlaces (⟨id, .html, name, attributes⟩ :: ancestors)
          (numberAll (id + 1) children)).filter q := by
  rw [element, Node.number, Node.places]
  exact List.filter_cons_of_pos h

theorem filter_places_of_neg
    (h : q ⟨ancestors, ⟨id, .html, name, attributes⟩, numberAll (id + 1) children, following⟩ =
      false) :
    (((element name attributes children).number id).places ancestors following).filter q =
      (forestPlaces (⟨id, .html, name, attributes⟩ :: ancestors)
        (numberAll (id + 1) children)).filter q := by
  rw [element, Node.number, Node.places]
  exact List.filter_cons_of_neg (Bool.eq_false_iff.mp h)

end

theorem nodeText_prototypeNode (s : Text) (id : Nat) :
    nodeText ((prototypeNode s).number id) = collapse (s ++ [';']) := by
  have hraw : rawText ((prototypeNode s).number id) = ' ' :: ' ' :: (s ++ [';']) := by
    simp [prototypeNode, element, Node.number, numberAll, rawText, rawTexts, separators]
  rw [nodeText, hraw, collapse_cons_blank rfl, collapse_cons_blank rfl]

theorem elementsNamed_table (id : Nat) (ss : List Text) :
    elementsNamed "table" (numberAll id (ss.map prototypeNode)) =
      numberAll id (ss.map prototypeNode) := by
  rw [elementsNamed]
  induction ss generalizing id with
  | nil => rfl
  | cons s ss ih =>
    rw [List.map_cons, numberAll, forestPlaces, List.filter_append, List.map_append, ih]
    rfl

theorem textsOf_cons (n : Node) (ns : List Node) :
    textsOf (n :: ns) = textsOf [n] ++ textsOf ns := by
  rw [textsOf, textsOf, textsOf, ← List.filter_append]
  rfl

theorem textsOf_prototypes (id : Nat) (ss : List Text) :
    textsOf (numberAll id (ss.map prototypeNode)) = ss.map fun s => collapse (s ++ [';']) := by
  induction ss generalizing id with
  | nil => rfl
  | cons s ss ih =>
    have hne : collapse (s ++ [';']) ≠ [] := collapse_ne_nil (c := ';') (by simp) rfl
    rw [List.map_cons, numberAll, textsOf_cons, ih, textsOf, List.map_singleton,
      nodeText_prototypeNode]
    simp [hne]

theorem synopsisSignatures_written {p : Place} {id : Nat} {ss : List Text}
    (hname : p.element.name = "div") (h : p.children = numberAll id (ss.map prototypeNode)) :
    synopsisSignatures p = ss.map fun s => collapse (s ++ [';']) := by
  have hempty : textsOf [.element p.element []] = [] := by
    have hblank : collapse [' '] = [] := rfl
    simp [textsOf, nodeText, rawText, rawTexts, hname, separators, hblank]
  rw [synopsisSignatures, h, elementsNamed_table, ← textsOf_prototypes id]
  -- Without a table the whole synopsis would be a signature, but it holds no text.
  cases ss with
  | nil => exact hempty
  | cons s ss => rfl

theorem nodeText_paragraphNode (e : Text) (id : Nat) :
    nodeText ((paragraphNode e).number id) = collapse e := by
  have hraw : rawText ((paragraphNode e).number id) = ' ' :: e := by
    cases e <;>
      simp [paragraphNode, textNodes, element, Node.number, numberAll, rawText, rawTexts, separators]
  rw [nodeText, hraw, collapse_cons_blank rfl]

theorem flatMap_entryErrors (id : Nat) (es : List Text) :
    (numberAll id (es.map paragraphNode)).flatMap entryErrors =
      (es.map collapse).filter fun t => !t.isEmpty := by
  induction es generalizing id with
  | nil => rfl
  | cons e es ih =>
    have hentry : entryErrors ((paragraphNode e).number id) =
        [collapse e].filter fun t => !t.isEmpty := by
      rw [← nodeText_paragraphNode e id]
      rfl
    rw [List.map_cons, numberAll, List.flatMap_cons, ih, hentry, ← List.filter_append]
    rfl

theorem takeWhile_paragraphs (id : Nat) (es : List Text) :
    (numberAll id (es.map paragraphNode)).takeWhile (fun n => !isHeading n) =
      numberAll id (es.map paragraphNode) := by
  induction es generalizing id with
  | nil => rfl
  | cons e es ih =>
    rw [List.map_cons, numberAll, List.takeWhile_cons_of_pos, ih]
    rfl

theorem headingErrors_written {p : Place} {id n : Nat} {es : List Text}
    (helement : p.element = ⟨n, .html, "h2", []⟩) (hchildren : p.children = [.text "Errors".toList])
    (h : p.following = numberAll id (es.map paragraphNode)) :
    headingErrors p = (es.map collapse).filter fun t => !t.isEmpty := by
  have htext : placeText p = "Errors".toList := by
    rw [placeText, helement, hchildren]
    rfl
  rw [headingErrors, if_pos htext, h, takeWhile_paragraphs, flatMap_entryErrors]

section

variable {q : Place → Bool} (hq : ∀ p : Place, p.element.name ∉ ["div", "h2"] → q p = false)

include hq

theorem filter_prototypes (id : Nat) (ancestors : List Element) (ss : List Text) :
    (forestPlaces ancestors (numberAll id (ss.map prototypeNode))).filter q = [] := by
  apply filter_forestPlaces_map
  intro s id following
  rw [prototypeNode, filter_places_of_neg, filter_forestPlaces_cons, filter_places_of_neg,
    filter_forestPlaces_cons, filter_places_of_neg, filter_forestPlaces_cons, filter_places_of_neg]
  · rfl
  all_goals exact hq _ (by simp)

theorem filter_paragraphs (id : Nat) (ancestors : List Element) (es : List Text) :
    (forestPlaces ancestors (numberAll id (es.map paragraphNode))).filter q = [] := by
  apply filter_forestPlaces_map
  intro e id following
  rw [paragraphNode, filter_places_of_neg (hq _ (by simp))]
  cases e <;> rfl

theorem filter_document (ss es : List Text) :
    (forestPlaces [] (numberAll 1 [documentNode ss es])).filter q =
      (forestPlaces [⟨3, .html, "body", []⟩, ⟨1, .html, "html", []⟩]
        (numberAll 4 (bodyNodes ss es))).filter q := by
  rw [documentNode, filter_forestPlaces_cons, filter_places_of_neg, filter_forestPlaces_cons,
    filter_places_of_neg, filter_forestPlaces_cons, filter_places_of_neg]
  · exact (List.append_nil _).trans (List.append_nil _)
  all_goals exact hq _ (by simp)

end

theorem isSynopsis_eq_false {p : Place} (h : p.element.name ∉ ["div", "h2"]) :
    isSynopsis p.element = false := by
  have hname : p.element.name ≠ "div" := fun he => h (he ▸ List.mem_cons_self ..)
  rw [isSynopsis, beq_eq_false_iff_ne.mpr hname]
  rfl

theorem signatures_document (ss es : List Text) :
    ((forestPlaces [] (numberAll 1 [documentNode ss es])).filter (isSynopsis ·.element)).flatMap
      synopsisSignatures = ss.map fun s => collapse (s ++ [';']) := by
  have hq (p : Place) (h : p.element.name ∉ ["div", "h2"]) := isSynopsis_eq_false h
  rw [filter_document hq, bodyNodes, filter_forestPlaces_cons, part, filter_places_of_pos rfl,
    filter_prototypes hq, filter_forestPlaces_cons, filter_forestPlaces_cons, part,
    filter_places_of_neg rfl, filter_forestPlaces_cons, headingNode, filter_places_of_neg rfl,
    filter_paragraphs hq]
  exact (List.append_nil _).trans (synopsisSignatures_written rfl rfl)

theorem errors_document (ss es : List Text) :
    ((forestPlaces [] (numberAll 1 [documentNode ss es])).filter (·.element.name == "h2")).flatMap
      headingErrors = (es.map collapse).filter fun t => !t.isEmpty := by
  have hq (p : Place) (h : p.element.name ∉ ["div", "h2"]) : (p.element.name == "h2") = false := by
    rw [beq_eq_false_iff_ne]
    intro he
    rw [he] at h
    exact h (by simp)
  rw [filter_document hq, bodyNodes, filter_forestPlaces_cons, part, filter_places_of_neg rfl,
    filter_prototypes hq, filter_forestPlaces_cons, filter_forestPlaces_cons, part,
    filter_places_of_neg rfl, filter_forestPlaces_cons, headingNode, filter_places_of_pos rfl,
    filter_paragraphs hq]
  exact (List.append_nil _).trans (headingErrors_written rfl rfl rfl)

theorem ofDocument_written (ss es : List Text) :
    ofDocument ⟨numberAll 1 [documentNode ss es], []⟩ = writtenExtract ss es := by
  rw [ofDocument, Document.named, places_numberAll, signatures_document, errors_document]
  rfl

theorem readTree_written {ss es : List Text} (hs : ∀ s ∈ ss, IsBare s) (he : ∀ e ∈ es, IsBare e) :
    readTree (written ss es) = writtenExtract ss es := by
  rw [readTree, parse_written hs he, ofDocument_written, writtenExtract_withBreaks rfl]

end RefPages.Page
