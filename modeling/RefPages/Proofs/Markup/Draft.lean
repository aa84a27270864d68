import RefPages.Markup.Draft

namespace RefPages.Markup

open Draft (Cell)

mutual

def Node.count : Node → Nat
  | .element _ children => forestCount children + 1
  | .text _ => 1
  | .comment _ => 1

def forestCount : List Node → Nat
  | [] => 0
  | n :: rest => n.count + forestCount rest

end

def forestIds (id : Nat) : List Node → List Nat
  | [] => []
  | n :: rest => id :: forestIds (id + n.count) rest

mutual

def Node.number (id : Nat) : Node → Node
  | .element e children => .element { e with serial := id } (numberAll (id + 1) children)
  | .text t => .text t
  | .comment t => .comment t

def numberAll (id : Nat) : List Node → List Node
  | [] => []
  | n :: rest => n.number id :: numberAll (id + n.count) rest

end

mutual

def Node.cells (parent id : Nat) : Node → List Cell
  | .element e children =>
    ⟨.element e.space e.name e.attributes, some parent, (forestIds (id + 1) children).toArray⟩ ::
      forestCells id (id + 1) children
  | .text t => [⟨.text t, some parent, #[]⟩]
  | .comment t => [⟨.comment t, some parent, #[]⟩]

def forestCells (parent id : Nat) : List Node → List Cell
  | [] => []
  | n :: rest => n.cells parent id ++ forestCells parent (id + n.count) rest

end

mutual

theorem Node.length_cells (parent id : Nat) (n : Node) : (n.cells parent id).length = n.count := by
  cases n with
  | element e children =>
    rw [Node.cells, List.length_cons, length_forestCells, Node.count]
  | text t => rfl
  | comment t => rfl

theorem length_forestCells (parent id : Nat) (ns : List Node) :
    (forestCells parent id ns).length = forestCount ns := by
  cases ns with
  | nil => rfl
  | cons n rest =>
    rw [forestCells, List.length_append, n.length_cells, length_forestCells, forestCount]

end

mutual

theorem Node.parent_of_mem_cells {parent id : Nat} {n : Node} {c : Cell}
    (h : c ∈ n.cells parent id) : c.parent.isSome = true := by
  cases n with
  | element e children =>
    rw [Node.cells] at h
    rcases List.mem_cons.mp h with rfl | h
    · rfl
    · exact parent_of_mem_forestCells h
  | text t =>
    rw [List.mem_singleton.mp h]
    rfl
  | comment t =>
    rw [List.mem_singleton.mp h]
    rfl

theorem parent_of_mem_forestCells {parent id : Nat} {ns : List Node} {c : Cell}
    (h : c ∈ forestCells parent id ns) : c.parent.isSome = true := by
  cases ns with
  | nil => cases h
  | cons n rest =>
    rw [forestCells] at h
    rcases List.mem_append.mp h with h | h
    · exact Node.parent_of_mem_cells h
    · exact parent_of_mem_forestCells h

end

namespace Draft

mutual

def grow (parent : Nat) : Node → Draft → Draft
  | .element e children, d =>
    growAll d.size children (d.add parent (.element e.space e.name e.attributes))
  | .text t, d => d.add parent (.text t)
  | .comment t, d => d.add parent (.comment t)

def growAll (parent : Nat) : List Node → Draft → Draft
  | [], d => d
  | n :: rest, d => growAll parent rest (grow parent n d)

end

def Cell.withMore (ids : List Nat) (c : Cell) : Cell :=
  { c with children := c.children ++ ids.toArray }

theorem withMore_comp (ids more : List Nat) :
    Cell.withMore more ∘ Cell.withMore ids = Cell.withMore (ids ++ more) := by
  funext c
  simp [Cell.withMore, List.append_toArray]

theorem withMore_nil : Cell.withMore [] = id := by
  funext c
  simp [Cell.withMore]

theorem modify_append {α : Type} {f : α → α} {i : Nat} {s : List α} (h : i < s.length)
    (t : List α) :
    (s ++ t).modify i f = s.modify i f ++ t := by
  induction s generalizing i with
  | nil => cases h
  | cons a s ih =>
    cases i with
    | zero => rfl
    | succ i => exact congrArg (a :: ·) (ih (Nat.lt_of_succ_lt_succ h))

theorem modify_concat {α : Type} {f : α → α} {i : Nat} {s : List α} (h : s.length = i) (a : α) :
    (s ++ [a]).modify i f = s ++ [f a] := by
  induction s generalizing i with
  | nil =>
    subst h
    rfl
  | cons b s ih =>
    cases i with
    | zero => cases h
    | succ i => exact congrArg (b :: ·) (ih (Nat.succ.inj h))

theorem cells_add {parent : Nat} {d : Draft} (h : parent < d.size) (item : Item) :
    (d.add parent item).cells.toList =
      d.cells.toList.modify parent (Cell.withMore [d.size]) ++ [⟨item, some parent, #[]⟩] := by
  have hlen : parent < d.cells.toList.length := h
  have hpush : (fun c : Cell => { c with children := c.children.push d.size }) =
      Cell.withMore [d.size] := by
    funext c
    simp [Cell.withMore]
  rw [add, append, make, setParent, modify, modify, hpush, Array.toList_modify, Array.toList_modify,
    Array.toList_push, modify_append hlen, modify_concat]
  rw [List.length_modify]
  rfl

theorem size_add (parent : Nat) (item : Item) (d : Draft) :
    (d.add parent item).size = d.size + 1 := by
  simp [add, append, make, modify, setParent, size]

theorem size_lt_size_add (parent : Nat) (item : Item) (d : Draft) :
    d.size < (d.add parent item).size := by
  rw [size_add]
  exact Nat.lt_succ_self _

mutual

theorem size_grow (parent : Nat) (n : Node) (d : Draft) :
    (grow parent n d).size = d.size + n.count := by
  cases n with
  | element e children =>
    rw [grow, size_growAll, size_add, Node.count]
    omega
  | text t => exact size_add ..
  | comment t => exact size_add ..

theorem size_growAll (parent : Nat) (ns : List Node) (d : Draft) :
    (growAll parent ns d).size = d.size + forestCount ns := by
  cases ns with
  | nil => rfl
  | cons n rest =>
    rw [growAll, size_growAll, size_grow, forestCount]
    omega

end

mutual

theorem cells_grow {parent : Nat} {d : Draft} (h : parent < d.size) (n : Node) :
    (grow parent n d).cells.toList =
      d.cells.toList.modify parent (Cell.withMore [d.size]) ++ n.cells parent d.size := by
  cases n with
  | element e children =>
    -- The cell of the element is the last one when its children are added to it.
    have hsize := size_add parent (.element e.space e.name e.attributes) d
    rw [grow, cells_growAll (by omega), cells_add h, modify_concat, hsize]
    · simp [Cell.withMore, Node.cells]
    · rw [List.length_modify]
      rfl
  | text t => exact cells_add h _
  | comment t => exact cells_add h _

theorem cells_growAll {parent : Nat} {d : Draft} (h : parent < d.size) (ns : List Node) :
    (growAll parent ns d).cells.toList =
      d.cells.toList.modify parent (Cell.withMore (forestIds d.size ns)) ++
        forestCells parent d.size ns := by
  cases ns with
  | nil => rw [growAll, forestIds, withMore_nil, List.modify_id, forestCells, List.append_nil]
  | cons n rest =>
    have hsize := size_grow parent n d
    have hlen : parent < (d.cells.toList.modify parent (Cell.withMore [d.size])).length := by
      rw [List.length_modify]
      exact h
    rw [growAll, cells_growAll (by omega), cells_grow h, modify_append hlen, List.modify_modify_eq,
      withMore_comp, hsize, List.append_assoc]
    rfl

end

mutual

theorem node?_of_cells {d : Draft} {parent id depth : Nat} {front back : List Cell} (n : Node)
    (hid : front.length = id) (h : d.cells.toList = front ++ (n.cells parent id ++ back))
    (hn : n.count ≤ depth) : d.node? depth id = some (n.number id) := by
  obtain ⟨depth, rfl⟩ : ∃ k, depth = k + 1 :=
    ⟨depth - 1, by cases n <;> rw [Node.count] at hn <;> omega⟩
  have hcell {c : Cell} {cs : List Cell} (hc : n.cells parent id = c :: cs) :
      d.cells[id]? = some c := by
    rw [← Array.getElem?_toList, h, hc, ← hid]
    simp
  cases n with
  | element e children =>
    rw [Node.count] at hn
    have hc := hcell (Node.cells.eq_1 ..)
    -- The cell of the element belongs to what stands in front of its children.
    rw [Node.cells, ← List.singleton_append, List.append_assoc, ← List.append_assoc] at h
    have hle : forestCount children ≤ depth := by omega
    have hchildren := filterMap_node?_of_cells children (by simp [hid]) h hle
    rw [node?, hc, Node.number]
    exact congrArg (fun l => some (Node.element _ l)) hchildren
  | text t =>
    rw [node?, hcell rfl]
    rfl
  | comment t =>
    rw [node?, hcell rfl]
    rfl

theorem filterMap_node?_of_cells {d : Draft} {parent id depth : Nat} {front back : List Cell}
    (ns : List Node) (hid : front.length = id)
    (h : d.cells.toList = front ++ (forestCells parent id ns ++ back))
    (hn : forestCount ns ≤ depth) :
    (forestIds id ns).filterMap (d.node? depth) = numberAll id ns := by
  cases ns with
  | nil => rfl
  | cons n rest =>
    rw [forestCount] at hn
    rw [forestCells, List.append_assoc] at h
    have hn₁ : n.count ≤ depth := by omega
    have hn₂ : forestCount rest ≤ depth := by omega
    have hfirst := node?_of_cells n hid h hn₁
    have hlen : (front ++ n.cells parent id).length = id + n.count := by
      rw [List.length_append, n.length_cells, hid]
    rw [← List.append_assoc] at h
    have hrest := filterMap_node?_of_cells rest hlen h hn₂
    rw [forestIds, List.filterMap_cons, hfirst, hrest, numberAll]

end

theorem document_growAll (ns : List Node) :
    (growAll 0 ns {}).document = { nodes := numberAll 1 ns } := by
  have hcells : (growAll 0 ns {}).cells.toList =
      [⟨.root, none, (forestIds 1 ns).toArray⟩] ++ (forestCells 0 1 ns ++ []) := by
    rw [cells_growAll Nat.zero_lt_one, List.append_nil]
    simp [Cell.withMore, size]
  have hsize : (growAll 0 ns {}).size = 1 + forestCount ns := size_growAll 0 ns {}
  have hroot : (growAll 0 ns {}).children 0 = (forestIds 1 ns).toArray := by
    rw [children, ← Array.getElem?_toList, hcells]
    rfl
  have hloose : ((List.range (growAll 0 ns {}).size).filter
      fun id => id ≠ 0 && ((growAll 0 ns {}).parent? id).isNone) = [] := by
    rw [List.filter_eq_nil_iff]
    intro id hid
    cases id with
    | zero => simp
    | succ id =>
      rw [List.mem_range, hsize] at hid
      have hlt : id < (forestCells 0 1 ns).length := by
        rw [length_forestCells]
        omega
      have hp := parent_of_mem_forestCells (List.getElem_mem hlt)
      rw [parent?, ← Array.getElem?_toList, hcells]
      simp [List.getElem?_eq_getElem hlt, Option.isSome_iff_ne_none.mp hp]
  rw [document, hroot, hloose, hsize]
  congr 1
  exact filterMap_node?_of_cells ns rfl hcells (by omega)

theorem getElem?_grow_parent {parent : Nat} {d : Draft} (h : parent < d.size) (n : Node) :
    (grow parent n d).cells[parent]? = d.cells[parent]?.map (Cell.withMore [d.size]) := by
  have hlen : parent < (d.cells.toList.modify parent (Cell.withMore [d.size])).length := by
    rw [List.length_modify]
    exact h
  rw [← Array.getElem?_toList, cells_grow h, List.getElem?_append_left hlen,
    List.getElem?_modify_eq, Array.getElem?_toList]
  rfl

theorem getElem?_grow_size {parent : Nat} {d : Draft} (h : parent < d.size) (n : Node) :
    (grow parent n d).cells[d.size]? = (n.cells parent d.size).head? := by
  have hlen : (d.cells.toList.modify parent (Cell.withMore [d.size])).length = d.size := by
    rw [List.length_modify]
    rfl
  rw [← Array.getElem?_toList, cells_grow h, List.getElem?_append_right (by omega), hlen,
    Nat.sub_self, List.head?_eq_getElem?]

theorem addText_add {parent : Nat} {d : Draft} (h : parent < d.size) (e : Element) (t : Text) :
    (grow parent (.element e []) d).addText d.size t = grow parent (.element e [.text t]) d := by
  have hchildren : (grow parent (.element e []) d).children d.size = #[] := by
    rw [children, getElem?_grow_size h]
    rfl
  rw [addText, hchildren]
  rfl

theorem addText_grow {parent : Nat} {d : Draft} (h : parent < d.size) (e : Element)
    (ns : List Node) (t : Text) :
    (grow parent (.element e ns) d).addText parent t =
      growAll parent [.element e ns, .text t] d := by
  obtain ⟨c, hc⟩ : ∃ c, d.cells[parent]? = some c := ⟨_, Array.getElem?_eq_getElem h⟩
  have hlast : ((grow parent (.element e ns) d).children parent).back? = some d.size := by
    rw [children, getElem?_grow_parent h, hc]
    simp [Cell.withMore]
  have hitem : (grow parent (.element e ns) d).item? d.size =
      some (.element e.space e.name e.attributes) := by
    rw [item?, getElem?_grow_size h]
    rfl
  have hextend : (grow parent (.element e ns) d).extend? (some d.size) t = none := by
    simp [extend?, hitem]
  rw [addText, hlast, hextend]
  rfl

end Draft
end RefPages.Markup
