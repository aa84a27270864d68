import RefPages.Markup.Document
import RefPages.Page.Extract
import RefPages.Text.Words

/-!
Extraction from the parsed document. Every prototype table in a synopsis is a signature; every
element behind an errors heading, up to the next heading, is an error, with lists split into their
items.
-/

namespace RefPages.Page

open Markup

def separators : List String :=
  ["td", "th", "tr", "br", "p", "div", "li", "dt", "dd"]

mutual

def rawText : Node → Text
  | .element e children => (if separators.contains e.name then [' '] else []) ++ rawTexts children
  | .text t => t
  | .comment _ => []

def rawTexts : List Node → Text
  | [] => []
  | n :: rest => rawText n ++ rawTexts rest

end

def nodeText (n : Node) : Text :=
  Text.collapse (rawText n)

def placeText (p : Place) : Text :=
  nodeText (.element p.element p.children)

def textsOf (nodes : List Node) : List Text :=
  (nodes.map nodeText).filter fun t => !t.isEmpty

def elementsNamed (name : String) (nodes : List Node) : List Node :=
  ((forestPlaces [] nodes).filter (·.element.name == name)).map fun p =>
    .element p.element p.children

def hasClass (name : String) (e : Element) : Bool :=
  (e.attribute? "class").any fun v => (Text.words v).contains name.toList

def isSynopsis (e : Element) : Bool :=
  e.name == "div" && hasClass "funcsynopsis" e

def synopsisSignatures (p : Place) : List Text :=
  match elementsNamed "table" p.children with
  | [] => textsOf [.element p.element p.children]
  | tables => textsOf tables

def isHeading : Node → Bool
  | .element e _ => Names.headings.contains e.name
  | _ => false

def entryErrors : Node → List Text
  | .element e children =>
    if e.name = "ul" ∨ e.name = "ol" then textsOf (elementsNamed "li" children)
    else textsOf [.element e children]
  | _ => []

def headingErrors (p : Place) : List Text :=
  if placeText p = "Errors".toList then
    (p.following.takeWhile fun n => !isHeading n).flatMap entryErrors
  else []

def ofDocument (d : Document) : Extract where
  signatures := (d.places.filter fun p => isSynopsis p.element).flatMap synopsisSignatures
  errors := (d.named "h2").flatMap headingErrors

def readTree (body : Text) : Extract :=
  ofDocument (Document.parse body)

def elementTexts (name : String) (body : Text) : List Text :=
  (elementsNamed name (Document.parse body).nodes).map nodeText

end RefPages.Page
