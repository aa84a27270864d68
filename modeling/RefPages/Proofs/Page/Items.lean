import RefPages.Proofs.Markup.Places
import RefPages.Proofs.Page.Sides

namespace RefPages.Page

open Markup
open Text (collapse joinWords words)

def nodeAt (p : Place) : Node :=
  .element p.element p.children

def childrenOf : Node → List Node
  | .element _ children => children
  | _ => []

section

variable (name : String)

mutual

theorem filter_places (ancestors : List Element) (following : List Node) (n : Node) :
    ((n.places ancestors following).filter (·.element.name == name)).map nodeAt =
      ((n.places [] []).filter (·.element.name == name)).map nodeAt := by
  cases n with
  | element e children =>
    -- what is around the node is in the places, but not in the elements that stand there
    have h := (filter_forestPlaces (e :: ancestors) children).trans
      (filter_forestPlaces [e] children).symm
    simp only [Node.places, List.filter_cons]
    split
    · exact congrArg (List.cons (Node.element e children)) h
    · exact h
  | text t => rfl
  | comment t => rfl

theorem filter_forestPlaces (ancestors : List Element) (ns : List Node) :
    ((forestPlaces ancestors ns).filter (·.element.name == name)).map nodeAt =
      elementsNamed name ns := by
  cases ns with
  | nil => rfl
  | cons n rest =>
    have hn := (filter_places ancestors rest n).trans (filter_places [] rest n).symm
    have hrest := (filter_forestPlaces ancestors rest).trans (filter_forestPlaces [] rest).symm
    simp only [elementsNamed, forestPlaces, List.filter_append, List.map_append]
    rw [hn, hrest]
    rfl

end

theorem elementsNamed_cons (n : Node) (rest : List Node) :
    elementsNamed name (n :: rest) = elementsNamed name [n] ++ elementsNamed name rest := by
  have hn := filter_places name [] rest n
  simp only [← filter_forestPlaces name [], forestPlaces, List.filter_append, List.map_append]
  rw [hn]
  simp

theorem elementsNamed_element (e : Element) (children : List Node) :
    elementsNamed name [.element e children] =
      (if e.name = name then [.element e children] else []) ++ elementsNamed name children := by
  rw [← filter_forestPlaces name [e] children, ← filter_forestPlaces name [] [.element e children]]
  by_cases h : e.name = name
  · simp [forestPlaces, Node.places, h, nodeAt]
  · simp [forestPlaces, Node.places, h]

end

section

variable (names : List String)

mutual

/-- The elements with one of the names, at a node or below it, that are in no other one. -/
def itemsAt : Node → List Node
  | .element e children =>
    if names.contains e.name then [.element e children] else itemsOf children
  | _ => []

def itemsOf : List Node → List Node
  | [] => []
  | n :: rest => itemsAt n ++ itemsOf rest

end

def IsFlat (nodes : List Node) : Prop :=
  ∀ item ∈ itemsOf names nodes, itemsOf names (childrenOf item) = []

instance (nodes : List Node) : Decidable (IsFlat names nodes) :=
  inferInstanceAs (Decidable (∀ item ∈ itemsOf names nodes, itemsOf names (childrenOf item) = []))

mutual

def InItems : Node → Prop
  | .element e children => names.contains e.name = true ∨ AllInItems children
  | .text t => ∀ c ∈ t, isBlank c = true
  | .comment _ => True

def AllInItems : List Node → Prop
  | [] => True
  | n :: rest => InItems n ∧ AllInItems rest

end
end

section

variable {names : List String} {name : String}

mutual

theorem elementsNamed_itemsAt (n : Node) :
    elementsNamed name [n] =
      (itemsAt [name] n).flatMap fun item => item :: elementsNamed name (childrenOf item) := by
  cases n with
  | element e children =>
    have hchildren := elementsNamed_itemsOf children
    rw [elementsNamed_element, itemsAt]
    by_cases h : e.name = name
    · simp [h, childrenOf]
    · simp [h, hchildren]
  | text t => rfl
  | comment t => rfl

theorem elementsNamed_itemsOf (ns : List Node) :
    elementsNamed name ns =
      (itemsOf [name] ns).flatMap fun item => item :: elementsNamed name (childrenOf item) := by
  cases ns with
  | nil => rfl
  | cons n rest =>
    rw [elementsNamed_cons, itemsOf, List.flatMap_append, elementsNamed_itemsAt n,
      elementsNamed_itemsOf rest]

end

theorem itemsOf_eq_nil_iff (ns : List Node) :
    itemsOf [name] ns = [] ↔ elementsNamed name ns = [] := by
  rw [elementsNamed_itemsOf, List.flatMap_eq_nil_iff]
  constructor
  · intro h
    simp [h]
  · intro h
    apply List.eq_nil_iff_forall_not_mem.mpr
    intro item hitem
    cases h item hitem

theorem elementsNamed_of_isFlat {ns : List Node} (h : IsFlat [name] ns) :
    elementsNamed name ns = itemsOf [name] ns := by
  have hitems : (itemsOf [name] ns).map (fun item => item :: elementsNamed name (childrenOf item)) =
      (itemsOf [name] ns).map fun item => [item] := by
    apply List.map_congr_left
    intro item hitem
    rw [(itemsOf_eq_nil_iff _).mp (h item hitem)]
  rw [elementsNamed_itemsOf, List.flatMap_def, hitems, ← List.flatMap_def, List.flatMap_singleton']

mutual

theorem words_append_rawText (hnames : ∀ name ∈ names, name ∈ separators) {n : Node}
    (h : InItems names n) (s : Text) :
    words (s ++ rawText n) =
      words s ++ (itemsAt names n).flatMap fun item => words (rawText item) := by
  cases n with
  | element e children =>
    rw [itemsAt]
    by_cases hc : names.contains e.name = true
    · have hsep : separators.contains e.name = true := by
        simpa using hnames e.name (by simpa using hc)
      -- an item begins with a blank, so that no word goes on into it
      rw [if_pos hc, List.flatMap_singleton, rawText_separator hsep, Text.words_append_blank rfl,
        Text.words_cons_blank rfl]
    · rw [if_neg hc, rawText, ← List.append_assoc,
        words_append_rawTexts hnames (h.resolve_left hc)]
      congr 1
      apply Text.words_append_of_blank
      intro c hmem
      split at hmem
      · obtain rfl := List.mem_singleton.mp hmem
        rfl
      · cases hmem
  | text t => simp [itemsAt, rawText, Text.words_append_of_blank h]
  | comment t => simp [itemsAt, rawText]

theorem words_append_rawTexts (hnames : ∀ name ∈ names, name ∈ separators) {ns : List Node}
    (h : AllInItems names ns) (s : Text) :
    words (s ++ rawTexts ns) =
      words s ++ (itemsOf names ns).flatMap fun item => words (rawText item) := by
  cases ns with
  | nil => simp [itemsOf, rawTexts]
  | cons n rest =>
    rw [rawTexts, ← List.append_assoc, words_append_rawTexts hnames h.2,
      words_append_rawText hnames h.1, itemsOf, List.flatMap_append, List.append_assoc]

end

theorem nodeText_of_allInItems (hnames : ∀ name ∈ names, name ∈ separators) (e : Element)
    {children : List Node} (h : AllInItems names children) :
    nodeText (.element e children) = joinWords (textsOf (itemsOf names children)) := by
  have hwords : words (rawText (.element e children)) =
      ((itemsOf names children).map fun item => words (rawText item)).flatten := by
    have hblank : words (if separators.contains e.name then [' '] else []) = [] := by
      split
      · rfl
      · rfl
    rw [rawText, words_append_rawTexts hnames h, hblank, List.nil_append, List.flatMap_def]
  have hgroups : ∀ ws ∈ (itemsOf names children).map fun item => words (rawText item),
      ∀ w ∈ ws, Text.IsWord w := by
    intro ws hws w hw
    obtain ⟨item, -, rfl⟩ := List.mem_map.mp hws
    exact Text.isWord_of_mem_words hw
  rw [nodeText, collapse, hwords, ← Text.joinWords_flatten hgroups, List.map_map]
  rfl

end

def sectionOf (p : Place) : List Node :=
  p.following.takeWhile fun n => !isHeading n

theorem sectionOf_ends (p : Place) :
    ∃ after, p.following = sectionOf p ++ after ∧ ∀ n ∈ after.head?, isHeading n = true := by
  refine ⟨_, List.takeWhile_append_dropWhile.symm, ?_⟩
  intro n hn
  have := List.head?_dropWhile_not (fun n => !isHeading n) p.following
  rw [Option.mem_def.mp hn] at this
  simpa using this

theorem isHeading_of_mem_sectionOf {p : Place} {n : Node} (h : n ∈ sectionOf p) :
    isHeading n = false := by
  simpa using List.all_eq_true.mp List.all_takeWhile n h

def isErrorsHeading (p : Place) : Bool :=
  decide (placeText p = "Errors".toList)

theorem flatMap_headingErrors (ps : List Place) :
    ps.flatMap headingErrors =
      (ps.filter isErrorsHeading).flatMap fun p => (sectionOf p).flatMap entryErrors := by
  induction ps with
  | nil => rfl
  | cons p ps ih =>
    rw [List.flatMap_cons, headingErrors, ih]
    by_cases h : placeText p = "Errors".toList
    · have hp : isErrorsHeading p = true := decide_eq_true h
      rw [if_pos h, List.filter_cons_of_pos hp, List.flatMap_cons, sectionOf]
    · have hp : ¬isErrorsHeading p = true := fun hd => h (of_decide_eq_true hd)
      rw [if_neg h, List.filter_cons_of_neg hp, List.nil_append]

structure IsReading (e : Element) (children : List Node) (strings : List Text) : Prop where
  items : e.name = "ul" ∨ e.name = "ol" →
    strings = (itemsOf ["li"] children).flatMap fun item =>
      textsOf (item :: elementsNamed "li" (childrenOf item))
  flatItems : e.name = "ul" ∨ e.name = "ol" → IsFlat ["li"] children →
    strings = textsOf (itemsOf ["li"] children)
  descriptions : e.name = "dl" → AllInItems ["dt", "dd"] children →
    strings = [joinWords (textsOf (itemsOf ["dt", "dd"] children))].filter fun t => !t.isEmpty
  whole : e.name ≠ "ul" → e.name ≠ "ol" → strings = textsOf [.element e children]

theorem textsOf_flatMap (f : Node → List Node) (ns : List Node) :
    textsOf (ns.flatMap f) = ns.flatMap fun n => textsOf (f n) := by
  induction ns with
  | nil => rfl
  | cons n ns ih =>
    rw [List.flatMap_cons, List.flatMap_cons, ← ih, textsOf, List.map_append, List.filter_append]
    rfl

theorem isReading_entryErrors (e : Element) (children : List Node) :
    IsReading e children (entryErrors (.element e children)) := by
  have hlist (h : e.name = "ul" ∨ e.name = "ol") :
      entryErrors (.element e children) = textsOf (elementsNamed "li" children) := if_pos h
  have hwhole (hu : e.name ≠ "ul") (ho : e.name ≠ "ol") :
      entryErrors (.element e children) = textsOf [.element e children] :=
    if_neg fun h => h.elim hu ho
  constructor
  · intro h
    rw [hlist h, elementsNamed_itemsOf, textsOf_flatMap]
  · intro h hflat
    rw [hlist h, elementsNamed_of_isFlat hflat]
  · intro h hin
    have hu : e.name ≠ "ul" := by
      rw [h]
      decide
    have ho : e.name ≠ "ol" := by
      rw [h]
      decide
    rw [hwhole hu ho, textsOf, List.map_singleton,
      nodeText_of_allInItems (by decide) e hin]
  · exact hwhole

/-- The errors of a document are those of the elements behind its errors headings, in order, each up
to the next heading. The items of an ordered or unordered list are read one by one; a list of
descriptions is read as one string. -/
theorem errors_by_element (d : Document) :
    (ofDocument d).errors =
        ((d.named "h2").filter isErrorsHeading).flatMap (fun p =>
          (sectionOf p).flatMap entryErrors) ∧
      (∀ p, isErrorsHeading p = true ↔ placeText p = "Errors".toList) ∧
      (∀ p, (∀ n ∈ sectionOf p, isHeading n = false) ∧
        ∃ after, p.following = sectionOf p ++ after ∧ ∀ n ∈ after.head?, isHeading n = true) ∧
      (∀ t, entryErrors (.text t) = [] ∧ entryErrors (.comment t) = []) ∧
      ∀ e children, IsReading e children (entryErrors (.element e children)) :=
  ⟨flatMap_headingErrors _, fun _ => decide_eq_true_iff,
    fun p => ⟨fun _ => isHeading_of_mem_sectionOf, sectionOf_ends p⟩, fun _ => ⟨rfl, rfl⟩,
    isReading_entryErrors⟩

theorem errors_by_element_lists :
    let list : Element := ⟨1, .html, "ul", []⟩
    let items : List Node := [.element ⟨2, .html, "li", []⟩ [.text "a".toList], .text "\n".toList,
      .element ⟨3, .html, "li", []⟩ [.text "b".toList]]
    let descriptions : Element := ⟨4, .html, "dl", []⟩
    let described : List Node := [.element ⟨5, .html, "dt", []⟩ [.text "c".toList],
      .element ⟨6, .html, "dd", []⟩ [.text "d".toList]]
    let heading : Node := .element ⟨0, .html, "h2", []⟩ [.text "Errors".toList]
    let d : Document := ⟨[heading, .element list items, .element descriptions described], []⟩
    IsFlat ["li"] items ∧ AllInItems ["dt", "dd"] described ∧
      entryErrors (.element list items) = ["a".toList, "b".toList] ∧
      entryErrors (.element descriptions described) = ["c d".toList] ∧
      (ofDocument d).errors = ["a".toList, "b".toList, "c d".toList] := by
  intro list items descriptions described heading d
  have hflat : IsFlat ["li"] items := by decide
  have hin : AllInItems ["dt", "dd"] described := ⟨.inl rfl, .inl rfl, trivial⟩
  have hplaces : d.places = forestPlaces [] d.nodes := places_of_pairwise rfl (by decide)
  obtain ⟨herrors, -, -, -, hread⟩ := errors_by_element d
  have hlist := (hread list items).flatItems (.inl rfl) hflat
  have hdescriptions := (hread descriptions described).descriptions rfl hin
  refine ⟨hflat, hin, hlist, hdescriptions, ?_⟩
  rw [herrors, Document.named, hplaces]
  decide

theorem descriptions_joined :
    let described : List Node := [.element ⟨6, .html, "dt", []⟩ [.text "GL_X".toList],
      .element ⟨7, .html, "dd", []⟩ [.text "if bad.".toList]]
    IsFlat ["dt", "dd"] described ∧
      textsOf (itemsOf ["dt", "dd"] described) = ["GL_X".toList, "if bad.".toList] ∧
      (readTree "<div><h2>Errors</h2><dl><dt>GL_X</dt><dd>if bad.</dd></dl></div>".toList).errors =
        ["GL_X if bad.".toList] := by
  intro described
  refine ⟨by decide, by decide, ?_⟩
  rw [readTree, ofDocument, Document.named,
    places_of_pairwise (by decide +kernel) (by decide +kernel)]
  decide +kernel

end RefPages.Page
