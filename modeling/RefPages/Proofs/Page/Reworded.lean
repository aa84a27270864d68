import Mathlib.Data.List.Forall2
import Mathlib.Logic.Relation
import RefPages.Proofs.Page.Items

/-!
Changes of a document that leave what is read from it: comments are taken away, texts are cut or
put together, blanks are replaced by blanks. The text of an element also stays when an element in it
that separates no words is replaced by its children.
-/

namespace RefPages

namespace Text

def SameWords (a b : Text) : Prop :=
  ∀ s t, words (s ++ a ++ t) = words (s ++ b ++ t)

namespace SameWords

variable {a b c d : Text}

theorem equivalence : Equivalence SameWords where
  refl _ _ _ := rfl
  symm h s t := (h s t).symm
  trans h k s t := (h s t).trans (k s t)

theorem append (h : SameWords a b) (k : SameWords c d) : SameWords (a ++ c) (b ++ d) := by
  intro s t
  calc words (s ++ (a ++ c) ++ t)
      = words (s ++ a ++ (c ++ t)) := by simp only [List.append_assoc]
    _ = words (s ++ b ++ (c ++ t)) := h s (c ++ t)
    _ = words (s ++ b ++ c ++ t) := by simp only [List.append_assoc]
    _ = words (s ++ b ++ d ++ t) := k (s ++ b) t
    _ = words (s ++ (b ++ d) ++ t) := by simp only [List.append_assoc]

theorem collapse_eq (h : SameWords a b) : collapse a = collapse b := by
  have := h [] []
  simp only [List.nil_append, List.append_nil] at this
  rw [collapse, this, collapse]

end SameWords

end Text

namespace Page

open Markup
open Text (SameWords collapse words)

inductive Rewords : List Node → List Node → Prop
  | comment (t : Text) (ns : List Node) : Rewords (.comment t :: ns) ns
  | cut (s t : Text) (ns : List Node) : Rewords (.text (s ++ t) :: ns) (.text s :: .text t :: ns)
  | blanks (s t : Text) (ns : List Node) {v w : Text} (hv : v ≠ []) (hw : w ≠ [])
      (hvs : ∀ c ∈ v, isBlank c = true) (hws : ∀ c ∈ w, isBlank c = true) :
      Rewords (.text (s ++ v ++ t) :: ns) (.text (s ++ w ++ t) :: ns)

inductive Unwraps : List Node → List Node → Prop
  | children (e : Element) (ms ns : List Node) (h : e.name ∉ separators) :
      Unwraps (.element e ms :: ns) (ms ++ ns)

inductive Anywhere (change : List Node → List Node → Prop) : List Node → List Node → Prop
  | here {ms ns : List Node} (h : change ms ns) : Anywhere change ms ns
  | behind (n : Node) {ms ns : List Node} (h : Anywhere change ms ns) :
      Anywhere change (n :: ms) (n :: ns)
  | inside (e : Element) {ms ns : List Node} (h : Anywhere change ms ns) (rest : List Node) :
      Anywhere change (.element e ms :: rest) (.element e ns :: rest)

def Alike : List Node → List Node → Prop :=
  Relation.EqvGen (Anywhere Rewords)

inductive Document.Rewords : Document → Document → Prop
  | nodes (d : Document) {ns : List Node} (h : Anywhere Page.Rewords d.nodes ns) :
      Document.Rewords d { d with nodes := ns }
  | cutOff (d : Document) {ns : List Node} (h : Anywhere Page.Rewords d.cutOff ns) :
      Document.Rewords d { d with cutOff := ns }

variable {ms ns : List Node}

theorem Rewords.sameWords (h : Rewords ms ns) : SameWords (rawTexts ms) (rawTexts ns) := by
  cases h with
  | comment t ns => exact SameWords.equivalence.refl _
  | cut s t ns =>
    rw [rawTexts, rawTexts, rawTexts, rawText, rawText, rawText, List.append_assoc]
    exact SameWords.equivalence.refl _
  | blanks s t ns hv hw hvs hws =>
    apply SameWords.append _ (SameWords.equivalence.refl _)
    apply SameWords.append _ (SameWords.equivalence.refl _)
    apply SameWords.append (SameWords.equivalence.refl _)
    intro s t
    rw [Text.words_around_blanks hv hvs, Text.words_around_blanks hw hws]

theorem Unwraps.sameWords (h : Unwraps ms ns) : SameWords (rawTexts ms) (rawTexts ns) := by
  obtain ⟨e, ms, ns, hsep⟩ := h
  rw [rawTexts, rawTexts_append, rawText, if_neg (by simpa using hsep), List.nil_append]
  exact SameWords.equivalence.refl _

theorem Anywhere.sameWords {change : List Node → List Node → Prop}
    (hchange : ∀ ms ns, change ms ns → SameWords (rawTexts ms) (rawTexts ns))
    (h : Anywhere change ms ns) : SameWords (rawTexts ms) (rawTexts ns) := by
  induction h with
  | here h => exact hchange _ _ h
  | behind n h ih => exact (SameWords.equivalence.refl _).append ih
  | inside e h rest ih =>
    rw [rawTexts, rawTexts, rawText, rawText]
    exact ((SameWords.equivalence.refl _).append ih).append (SameWords.equivalence.refl _)

theorem sameWords_of_eqvGen {change : List Node → List Node → Prop}
    (hchange : ∀ ms ns, change ms ns → SameWords (rawTexts ms) (rawTexts ns))
    (h : Relation.EqvGen (Anywhere change) ms ns) : SameWords (rawTexts ms) (rawTexts ns) := by
  induction h with
  | rel ms ns h => exact h.sameWords hchange
  | refl ms => exact SameWords.equivalence.refl _
  | symm ms ns _ ih => exact SameWords.equivalence.symm ih
  | trans ls ms ns _ _ ih₁ ih₂ => exact SameWords.equivalence.trans ih₁ ih₂

theorem nodeText_of_sameWords (h : SameWords (rawTexts ms) (rawTexts ns)) (e : Element) :
    nodeText (.element e ms) = nodeText (.element e ns) := by
  rw [nodeText, nodeText, rawText, rawText]
  exact ((SameWords.equivalence.refl _).append h).collapse_eq

theorem Alike.nodeText_eq (h : Alike ms ns) (e : Element) :
    nodeText (.element e ms) = nodeText (.element e ns) :=
  nodeText_of_sameWords (sameWords_of_eqvGen (fun _ _ => Rewords.sameWords) h) e

structure AlikePlaces (p q : Place) : Prop where
  ancestors : p.ancestors = q.ancestors
  element : p.element = q.element
  children : Alike p.children q.children
  following : Alike p.following q.following

theorem alike_equivalence : Equivalence Alike :=
  Relation.EqvGen.is_equivalence _

instance : Std.Refl AlikePlaces where
  refl _ := ⟨rfl, rfl, alike_equivalence.refl _, alike_equivalence.refl _⟩

theorem AlikePlaces.symm {p q : Place} (h : AlikePlaces p q) : AlikePlaces q p :=
  ⟨h.ancestors.symm, h.element.symm, alike_equivalence.symm h.children,
    alike_equivalence.symm h.following⟩

theorem AlikePlaces.trans {p q r : Place} (h : AlikePlaces p q) (k : AlikePlaces q r) :
    AlikePlaces p r :=
  ⟨h.ancestors.trans k.ancestors, h.element.trans k.element,
    alike_equivalence.trans h.children k.children,
    alike_equivalence.trans h.following k.following⟩

theorem Rewords.forestPlaces_eq (h : Rewords ms ns) (ancestors : List Element) :
    forestPlaces ancestors ms = forestPlaces ancestors ns := by
  cases h with
  | comment t ns => rfl
  | cut s t ns => rfl
  | blanks s t ns hv hw hvs hws => rfl

theorem forall₂_places (h : Anywhere Rewords ms ns) (ancestors : List Element) :
    List.Forall₂ AlikePlaces (forestPlaces ancestors ms) (forestPlaces ancestors ns) := by
  induction h generalizing ancestors with
  | here h =>
    rw [h.forestPlaces_eq]
    exact List.forall₂_refl _
  | @behind n ms ns h ih =>
    rw [forestPlaces, forestPlaces]
    apply List.rel_append _ (ih ancestors)
    cases n with
    | element e children =>
      exact .cons ⟨rfl, rfl, alike_equivalence.refl _, .rel _ _ h⟩ (List.forall₂_refl _)
    | text t => exact .nil
    | comment t => exact .nil
  | @inside e ms ns h rest ih =>
    rw [forestPlaces, forestPlaces]
    apply List.rel_append _ (List.forall₂_refl _)
    exact .cons ⟨rfl, rfl, .rel _ _ h, alike_equivalence.refl _⟩ (ih (e :: ancestors))

theorem forall₂_trans {ps qs rs : List Place} (h : List.Forall₂ AlikePlaces ps qs)
    (k : List.Forall₂ AlikePlaces qs rs) : List.Forall₂ AlikePlaces ps rs := by
  induction h generalizing rs with
  | nil => exact k
  | cons hp _ ih =>
    cases k with
    | cons kp k => exact .cons (hp.trans kp) (ih k)

theorem Alike.forall₂_places (h : Alike ms ns) (ancestors : List Element) :
    List.Forall₂ AlikePlaces (forestPlaces ancestors ms) (forestPlaces ancestors ns) := by
  induction h with
  | rel ms ns h => exact Page.forall₂_places h ancestors
  | refl ms => exact List.forall₂_refl _
  | symm ms ns _ ih => exact (ih.imp fun _ _ => AlikePlaces.symm).flip
  | trans ls ms ns _ _ ih₁ ih₂ => exact forall₂_trans ih₁ ih₂

theorem map_filter_eq {α : Type} {ps qs : List Place} (h : List.Forall₂ AlikePlaces ps qs)
    {q : Place → Bool} (hq : ∀ p p', AlikePlaces p p' → q p = q p') {f : Place → α}
    (hf : ∀ p p', AlikePlaces p p' → f p = f p') : (ps.filter q).map f = (qs.filter q).map f := by
  have hfilter : List.Forall₂ AlikePlaces (ps.filter q) (qs.filter q) := by
    apply List.rel_filter _ h
    intro p p' hp
    exact Bool.eq_iff_iff.mp (hq p p' hp)
  rw [← List.forall₂_eq_eq_eq, List.forall₂_map_left_iff, List.forall₂_map_right_iff]
  exact hfilter.imp hf

theorem Alike.texts_eq (h : Alike ms ns) (name : String) :
    (elementsNamed name ms).map nodeText = (elementsNamed name ns).map nodeText := by
  rw [elementsNamed, elementsNamed, List.map_map, List.map_map]
  apply map_filter_eq (h.forall₂_places [])
  · intro p p' hp
    rw [hp.element]
  · intro p p' hp
    rw [Function.comp_apply, Function.comp_apply, hp.element]
    exact hp.children.nodeText_eq p'.element

theorem AlikePlaces.signatures_eq {p q : Place} (h : AlikePlaces p q) :
    synopsisSignatures p = synopsisSignatures q := by
  have htexts := h.children.texts_eq "table"
  have hwhole := h.children.nodeText_eq p.element
  rw [synopsisSignatures, synopsisSignatures]
  cases hp : elementsNamed "table" p.children with
  | nil =>
    rw [hp, List.map_nil, eq_comm, List.map_eq_nil_iff] at htexts
    rw [htexts, textsOf, textsOf, List.map_singleton, List.map_singleton, hwhole, h.element]
  | cons n tables =>
    cases hq : elementsNamed "table" q.children with
    | nil =>
      rw [hp, hq] at htexts
      cases htexts
    | cons m tables' =>
      rw [hp, hq] at htexts
      change textsOf (n :: tables) = textsOf (m :: tables')
      rw [textsOf, textsOf, htexts]

theorem Alike.entryErrors_eq (h : Alike ms ns) (e : Element) :
    entryErrors (.element e ms) = entryErrors (.element e ns) := by
  rw [entryErrors, entryErrors, textsOf, textsOf, textsOf, textsOf, h.texts_eq,
    List.map_singleton, List.map_singleton, h.nodeText_eq]

def errorsBehind (following : List Node) : List Text :=
  (following.takeWhile fun n => !isHeading n).flatMap entryErrors

theorem errorsBehind_cons (n : Node) (rest : List Node) :
    errorsBehind (n :: rest) =
      if isHeading n then [] else entryErrors n ++ errorsBehind rest := by
  rw [errorsBehind, List.takeWhile_cons]
  cases isHeading n <;> simp [errorsBehind]

theorem Rewords.errorsBehind_eq (h : Rewords ms ns) : errorsBehind ms = errorsBehind ns := by
  cases h with
  | comment t ns => exact errorsBehind_cons _ ns
  | cut s t ns =>
    rw [errorsBehind_cons, errorsBehind_cons, errorsBehind_cons]
    rfl
  | blanks s t ns hv hw hvs hws =>
    rw [errorsBehind_cons, errorsBehind_cons]
    rfl

theorem errorsBehind_of_anywhere (h : Anywhere Rewords ms ns) :
    errorsBehind ms = errorsBehind ns := by
  induction h with
  | here h => exact h.errorsBehind_eq
  | behind n h ih => rw [errorsBehind_cons, errorsBehind_cons, ih]
  | inside e h rest =>
    rw [errorsBehind_cons, errorsBehind_cons, Alike.entryErrors_eq (.rel _ _ h)]
    rfl

theorem Alike.errorsBehind_eq (h : Alike ms ns) : errorsBehind ms = errorsBehind ns := by
  induction h with
  | rel ms ns h => exact errorsBehind_of_anywhere h
  | refl ms => rfl
  | symm ms ns _ ih => exact ih.symm
  | trans ls ms ns _ _ ih₁ ih₂ => exact ih₁.trans ih₂

theorem AlikePlaces.errors_eq {p q : Place} (h : AlikePlaces p q) :
    headingErrors p = headingErrors q := by
  have htext : placeText p = placeText q := by
    rw [placeText, placeText, h.element]
    exact h.children.nodeText_eq q.element
  have herrors := h.following.errorsBehind_eq
  rw [errorsBehind, errorsBehind] at herrors
  rw [headingErrors, headingErrors, htext, herrors]

theorem forall₂_mergeSort {ps qs : List Place} (h : List.Forall₂ AlikePlaces ps qs)
    {le : Place → Place → Bool}
    (hle : ∀ p p', AlikePlaces p p' → ∀ q q', AlikePlaces q q' → le p q = le p' q') :
    List.Forall₂ AlikePlaces (ps.mergeSort le) (qs.mergeSort le) := by
  -- both lists come from sorting the pairs of places, which are in one order on either side
  obtain ⟨hlength, hzip⟩ := List.forall₂_iff_zip.mp h
  let less (x y : Place × Place) : Bool := le x.1 y.1
  have hfst : ((ps.zip qs).mergeSort less).map Prod.fst = ps.mergeSort le := by
    rw [List.map_mergeSort (s := le) fun _ _ _ _ => rfl, List.map_fst_zip (Nat.le_of_eq hlength)]
  have hsnd : ((ps.zip qs).mergeSort less).map Prod.snd = qs.mergeSort le := by
    rw [List.map_mergeSort (s := le) fun x hx y hy => hle _ _ (hzip hx) _ _ (hzip hy),
      List.map_snd_zip (Nat.le_of_eq hlength.symm)]
  rw [← hfst, ← hsnd, List.forall₂_map_left_iff, List.forall₂_map_right_iff, List.forall₂_same]
  intro x hx
  exact hzip (List.mem_mergeSort.mp hx)

def cutOffPlaces (roots : List Node) : List Place :=
  roots.flatMap fun
    | .element e children => forestPlaces [e] children
    | _ => []

theorem forall₂_cutOffPlaces (h : Anywhere Rewords ms ns) :
    List.Forall₂ AlikePlaces (cutOffPlaces ms) (cutOffPlaces ns) := by
  induction h with
  | here h =>
    cases h with
    | comment t ns => exact List.forall₂_refl _
    | cut s t ns => exact List.forall₂_refl _
    | blanks s t ns hv hw hvs hws => exact List.forall₂_refl _
  | behind n h ih =>
    rw [cutOffPlaces, cutOffPlaces, List.flatMap_cons, List.flatMap_cons]
    exact List.rel_append (List.forall₂_refl _) ih
  | inside e h rest ih =>
    rw [cutOffPlaces, cutOffPlaces, List.flatMap_cons, List.flatMap_cons]
    exact List.rel_append (forall₂_places h [e]) (List.forall₂_refl _)

theorem Document.Rewords.forall₂_places {d d' : Document} (h : Document.Rewords d d') :
    List.Forall₂ AlikePlaces d.places d'.places := by
  have hle (p p' : Place) (hp : AlikePlaces p p') (q q' : Place) (hq : AlikePlaces q q') :
      decide (p.element.serial ≤ q.element.serial) =
        decide (p'.element.serial ≤ q'.element.serial) := by
    rw [hp.element, hq.element]
  cases h with
  | nodes h =>
    apply forall₂_mergeSort _ hle
    exact List.rel_append (Page.forall₂_places h []) (List.forall₂_refl _)
  | cutOff h =>
    apply forall₂_mergeSort _ hle
    exact List.rel_append (List.forall₂_refl _) (forall₂_cutOffPlaces h)

theorem Document.Rewords.ofDocument_eq {d d' : Document} (h : Document.Rewords d d') :
    ofDocument d = ofDocument d' := by
  have hplaces := h.forall₂_places
  have hsignatures := map_filter_eq hplaces
    (q := fun p => isSynopsis p.element) (fun p p' hp => by rw [hp.element])
    fun p p' hp => hp.signatures_eq
  have herrors := map_filter_eq hplaces
    (q := fun p => p.element.name == "h2") (fun p p' hp => by rw [hp.element])
    fun p p' hp => hp.errors_eq
  rw [ofDocument, ofDocument, Document.named, Document.named, List.flatMap_def, List.flatMap_def,
    List.flatMap_def, List.flatMap_def, hsignatures, herrors]

/-- What is read from a document stays when comments are taken away, texts are cut or put together
and blanks are replaced by blanks, in any number of steps; the text of an element also stays when
elements in it that separate no words are replaced by their children. -/
theorem ofDocument_of_reworded :
    (∀ d d', Relation.EqvGen Document.Rewords d d' → ofDocument d = ofDocument d') ∧
      ∀ e ms ns,
        Relation.EqvGen (Anywhere fun ms ns => Rewords ms ns ∨ Unwraps ms ns) ms ns →
          nodeText (.element e ms) = nodeText (.element e ns) := by
  constructor
  · intro d d' h
    induction h with
    | rel d d' h => exact h.ofDocument_eq
    | refl d => rfl
    | symm d d' _ ih => exact ih.symm
    | trans d d' d'' _ _ ih₁ ih₂ => exact ih₁.trans ih₂
  · intro e ms ns h
    refine nodeText_of_sameWords (sameWords_of_eqvGen ?_ h) e
    rintro ms ns (h | h)
    · exact h.sameWords
    · exact h.sameWords

theorem ofDocument_of_reworded_page :
    let heading : Element := ⟨0, .html, "h2", []⟩
    let paragraph : Element := ⟨1, .html, "p", []⟩
    let page (title : List Node) (gap : Text) : Document :=
      ⟨[.element heading title,
        .element paragraph [.text ("GL_X".toList ++ gap ++ "is".toList)]], []⟩
    let d := page [.text "Err".toList, .comment "or".toList, .text "ors".toList] " ".toList
    let d' := page [.text "Errors".toList] "\n\t".toList
    let setOff : Node := .element ⟨2, .html, "code", []⟩ [.text "GL".toList]
    Relation.EqvGen Document.Rewords d d' ∧ ofDocument d = ofDocument d' ∧
      (ofDocument d').errors = ["GL_X is".toList] ∧
      nodeText (.element paragraph [setOff, .text "_X".toList]) =
        nodeText (.element paragraph [.text "GL".toList, .text "_X".toList]) := by
  intro heading paragraph page d d' setOff
  have hsteps : Relation.EqvGen Document.Rewords d d' := by
    have hcomment : Document.Rewords d (page [.text "Err".toList, .text "ors".toList] " ".toList) :=
      .nodes _ (.inside _ (.behind _ (.here (.comment _ _))) _)
    have hcut : Document.Rewords (page [.text "Errors".toList] " ".toList)
        (page [.text "Err".toList, .text "ors".toList] " ".toList) :=
      .nodes _ (.inside _ (.here (.cut "Err".toList "ors".toList [])) _)
    have hblanks : Document.Rewords (page [.text "Errors".toList] " ".toList) d' := by
      refine .nodes _ (.behind _ (.inside _ (.here (.blanks _ _ _ ?_ ?_ ?_ ?_)) _))
      · decide
      · decide
      · exact List.all_eq_true.mp (by decide)
      · exact List.all_eq_true.mp (by decide)
    exact .trans _ _ _ (.rel _ _ hcomment)
      (.trans _ _ _ (.symm _ _ (.rel _ _ hcut)) (.rel _ _ hblanks))
  obtain ⟨hread, htext⟩ := ofDocument_of_reworded
  refine ⟨hsteps, hread d d' hsteps, ?_, ?_⟩
  · rw [ofDocument, Document.named, places_of_pairwise (by decide) (by decide)]
    decide
  · apply htext
    exact .rel _ _ (.here (.inr (.children _ _ _ (by decide))))

end Page
end RefPages
