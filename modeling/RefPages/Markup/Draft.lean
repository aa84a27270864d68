import RefPages.Markup.Node

namespace RefPages.Markup

namespace Draft

inductive Item where
  | root
  | element (space : Space) (name : String) (attributes : List Attribute)
  | text (t : Text)
  | comment (t : Text)
  deriving Repr

structure Cell where
  item : Item
  parent : Option Nat := none
  children : Array Nat := #[]
  deriving Repr

end Draft

structure Draft where
  cells : Array Draft.Cell := #[{ item := .root }]
  deriving Repr

namespace Draft

def parent? (id : Nat) (d : Draft) : Option Nat :=
  d.cells[id]?.bind (·.parent)

def children (id : Nat) (d : Draft) : Array Nat :=
  (d.cells[id]?.map (·.children)).getD #[]

def item? (id : Nat) (d : Draft) : Option Item :=
  d.cells[id]?.map (·.item)

def size (d : Draft) : Nat :=
  d.cells.size

def make (item : Item) (d : Draft) : Draft :=
  { d with cells := d.cells.push { item } }

def modify (id : Nat) (f : Cell → Cell) (d : Draft) : Draft :=
  { d with cells := d.cells.modify id f }

def setParent (parent : Option Nat) (id : Nat) (d : Draft) : Draft :=
  d.modify id fun c => { c with parent }

def append (parent id : Nat) (d : Draft) : Draft :=
  (d.modify parent fun c => { c with children := c.children.push id }).setParent (some parent) id

def detach (id : Nat) (d : Draft) : Draft :=
  match d.parent? id with
  | none => d
  | some p => (d.modify p fun c => { c with children := c.children.filter (· ≠ id) }).setParent none id

def insertBefore (sibling id : Nat) (d : Draft) : Draft :=
  match d.parent? sibling with
  | none => d
  | some p =>
    let place (c : Cell) : Cell :=
      { c with children := c.children.flatMap fun k => if k = sibling then #[id, k] else #[k] }
    (d.modify p place).setParent (some p) id

def moveChildren (source target : Nat) (d : Draft) : Draft :=
  let moved := d.children source
  let d := d.modify source fun c => { c with children := #[] }
  let d := d.modify target fun c => { c with children := c.children ++ moved }
  moved.foldl (fun d id => d.setParent (some target) id) d

def add (parent : Nat) (item : Item) (d : Draft) : Draft :=
  let id := d.size
  (d.make item).append parent id

def extend? (id : Option Nat) (t : Text) (d : Draft) : Option Draft :=
  match id, id.bind d.item? with
  | some id, some (.text _) =>
    some (d.modify id fun c =>
      match c.item with
      | .text old => { c with item := .text (old ++ t) }
      | _ => c)
  | _, _ => none

def addText (parent : Nat) (t : Text) (d : Draft) : Draft :=
  (d.extend? (d.children parent).back? t).getD (d.add parent (.text t))

def before? (id : Nat) (d : Draft) : Option Nat := do
  let siblings := d.children (← d.parent? id)
  let i ← siblings.idxOf? id
  if i = 0 then none else siblings[i - 1]?

def addTextBefore (sibling : Nat) (t : Text) (d : Draft) : Draft :=
  (d.extend? (d.before? sibling) t).getD
    (let id := d.size
     (d.make (.text t)).insertBefore sibling id)

def addAttributes (id : Nat) (more : List Attribute) (d : Draft) : Draft :=
  d.modify id fun c =>
    match c.item with
    | .element space name attributes =>
      let new := more.filter fun a => !attributes.any (·.name == a.name)
      { c with item := .element space name (attributes ++ new) }
    | _ => c

/-- The subtree of a node. It is no deeper than the nodes are many, which bounds `depth`. -/
def node? (d : Draft) : (depth : Nat) → (id : Nat) → Option Node
  | 0, _ => none
  | depth + 1, id =>
    match d.cells[id]? with
    | none => none
    | some c =>
      match c.item with
      | .root => none
      | .text t => some (.text t)
      | .comment t => some (.comment t)
      | .element space name attributes =>
        some (.element ⟨id, space, name, attributes⟩ (c.children.toList.filterMap (d.node? depth)))

def document (d : Draft) : Document :=
  let loose := (List.range d.size).filter fun id => id ≠ 0 && (d.parent? id).isNone
  { nodes := (d.children 0).toList.filterMap (d.node? d.size)
    cutOff := loose.filterMap (d.node? d.size) }

end Draft
end RefPages.Markup
