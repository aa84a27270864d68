import RefPages.Markup.Tag

/-!
A document as a tree. Elements carry the number of their making: a document lists its elements by
it, which need not be the order in which they stand in the tree.
-/

namespace RefPages.Markup

inductive Space where
  | html
  | svg
  | math
  deriving DecidableEq, Repr

structure Element where
  serial : Nat
  space : Space
  name : String
  attributes : List Attribute
  deriving DecidableEq, Repr

namespace Element

def attribute? (name : String) (e : Element) : Option Text :=
  (e.attributes.find? (·.name == name)).map (·.value)

end Element

inductive Node where
  | element (e : Element) (children : List Node)
  | text (t : Text)
  | comment (t : Text)
  deriving Repr

/-- An element with what is around it: its ancestors from the inside out, its children and the
nodes that follow it under the same parent. -/
structure Place where
  ancestors : List Element
  element : Element
  children : List Node
  following : List Node
  deriving Repr

mutual

def Node.places (ancestors : List Element) (following : List Node) : Node → List Place
  | .element e children => ⟨ancestors, e, children, following⟩ :: forestPlaces (e :: ancestors) children
  | .text _ => []
  | .comment _ => []

def forestPlaces (ancestors : List Element) : List Node → List Place
  | [] => []
  | n :: rest => n.places ancestors rest ++ forestPlaces ancestors rest

end

/-- A document: what is under its root, and the subtrees that were cut off while it was built. -/
structure Document where
  nodes : List Node
  cutOff : List Node := []
  deriving Repr

namespace Document

def places (d : Document) : List Place :=
  let inside := forestPlaces [] d.nodes
  let outside := d.cutOff.flatMap fun
    | .element e children => forestPlaces [e] children
    | _ => []
  (inside ++ outside).mergeSort fun a b => a.element.serial ≤ b.element.serial

def named (name : String) (d : Document) : List Place :=
  d.places.filter (·.element.name == name)

end Document
end RefPages.Markup
