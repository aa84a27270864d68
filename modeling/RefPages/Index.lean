import RefPages.Markup.Document
import RefPages.Url.Parse

namespace RefPages

structure PageLink where
  href : Text
  url : Text
  deriving DecidableEq, Repr

namespace Index

open Markup

def displayFrame : Text :=
  "pagedisp".toList

def isInCell (p : Place) : Bool :=
  match p.ancestors with
  | cell :: row :: _ => cell.name == "td" && row.name == "tr"
  | _ => false

def opensDisplay (e : Element) : Bool :=
  (e.attribute? "target").any fun v =>
    if e.space = .html then v.map Char.toLower == displayFrame else v == displayFrame

def isPageLink (p : Place) : Bool :=
  p.element.name == "a" && isInCell p && opensDisplay p.element

def isSkipped (href : Text) : Bool :=
  href.isEmpty || href.head? == some '#' || "javascript:".toList.isPrefixOf href

def linkOf? (base : Url) (e : Element) : Option PageLink := do
  let href ← e.attribute? "href"
  if isSkipped href then none
  else
    let url ← (Url.join base href).toOption
    return ⟨href, url.withoutFragment.text⟩

def linksOf (base : Url) (d : Document) : List PageLink :=
  (d.places.filter isPageLink).filterMap fun p => linkOf? base p.element

def links (address html : Text) : Except Url.Invalid (List PageLink) :=
  match Url.parse address with
  | .error fault => .error ⟨address, fault⟩
  | .ok base => .ok (linksOf base (Document.parse html))

end Index
end RefPages
