import RefPages.Markup.Draft
import RefPages.Markup.Lexer
import RefPages.Markup.Names

namespace RefPages.Markup

/-- The part of the document that the next token is expected to continue. Raw text and the text of a
table hold the part to go back to. -/
inductive Mode where
  | initial
  | beforeHtml
  | beforeHead
  | inHead
  | afterHead
  | inBody
  | text (back : Mode)
  | inTable
  | inTableText (back : Mode)
  | inCaption
  | inColumnGroup
  | inTableBody
  | inRow
  | inCell
  | inSelect
  | inSelectInTable
  | inTemplate
  | afterBody
  | inFrameset
  | afterFrameset
  | afterAfterBody
  | afterAfterFrameset
  deriving DecidableEq, Repr

structure Open where
  id : Nat
  space : Space
  name : String
  deriving DecidableEq, Repr

namespace Open

def isHtml (name : String) (o : Open) : Bool :=
  o.space == .html && o.name == name

def inHtml (names : List String) (o : Open) : Bool :=
  o.space == .html && names.contains o.name

def isSpecial (o : Open) : Bool :=
  o.inHtml Names.special

def holdsMathText (o : Open) : Bool :=
  o.space == .math && Names.mathTexts.contains o.name

def holdsDocument (o : Open) : Bool :=
  o.space == .svg && Names.svgHolders.contains o.name

end Open

inductive Formatting where
  | marker
  | element (id : Nat) (tag : Tag)
  deriving DecidableEq, Repr

namespace Formatting

def isMarker : Formatting → Bool
  | marker => true
  | element .. => false

def hasId (id : Nat) : Formatting → Bool
  | marker => false
  | element i _ => i == id

def tag? : Formatting → Option Tag
  | marker => none
  | element _ tag => some tag

end Formatting

/-- `stack` and `formatting` have what was opened last at their head. -/
structure Builder where
  draft : Draft := {}
  mode : Mode := .initial
  templateModes : List Mode := []
  stack : List Open := []
  formatting : List Formatting := []
  head : Option Nat := none
  form : Option Nat := none
  framesetOk : Bool := true
  skipNewline : Bool := false
  fostering : Bool := false
  tableText : List Text := []
  quirks : Bool := false
  reading : Reading := .content
  deriving Repr

/-- What becomes of a token: it is used up, or a token is left for the rules of a new mode. -/
inductive Step where
  | done (b : Builder)
  | again (b : Builder) (token : Token)

namespace Builder

def current? (b : Builder) : Option Open :=
  b.stack.head?

def currentIs (name : String) (b : Builder) : Bool :=
  b.current?.any (·.isHtml name)

def currentIn (names : List String) (b : Builder) : Bool :=
  b.current?.any (·.inHtml names)

def push (o : Open) (b : Builder) : Builder :=
  { b with stack := o :: b.stack }

def pop (b : Builder) : Builder :=
  { b with stack := b.stack.tail }

def remove (id : Nat) (b : Builder) : Builder :=
  { b with stack := b.stack.filter (·.id ≠ id) }

def isOpen (id : Nat) (b : Builder) : Bool :=
  b.stack.any (·.id == id)

def hasOpen (name : String) (b : Builder) : Bool :=
  b.stack.any (·.isHtml name)

def inTemplate (b : Builder) : Bool :=
  b.hasOpen "template"

def popThrough (p : Open → Bool) (b : Builder) : Builder :=
  { b with stack := (b.stack.dropWhile fun o => !p o).tail }

def popThroughName (name : String) (b : Builder) : Builder :=
  b.popThrough (·.isHtml name)

def popTo (names : List String) (b : Builder) : Builder :=
  { b with stack := b.stack.dropWhile fun o => !o.inHtml names }

def inScope (bounds p : Open → Bool) (b : Builder) : Bool :=
  (b.stack.find? fun o => p o || bounds o).any p

def boundsAny (o : Open) : Bool :=
  o.inHtml ["applet", "caption", "html", "table", "td", "th", "marquee", "object", "template"] ||
    o.holdsMathText || o.holdsDocument

def boundsItem (o : Open) : Bool :=
  boundsAny o || o.inHtml ["ol", "ul"]

def boundsButton (o : Open) : Bool :=
  boundsAny o || o.isHtml "button"

def boundsTable (o : Open) : Bool :=
  o.inHtml ["html", "table", "template"]

def boundsSelect (o : Open) : Bool :=
  !o.inHtml ["optgroup", "option"]

def hasInScope (name : String) (b : Builder) : Bool :=
  b.inScope boundsAny (·.isHtml name)

def hasInTable (name : String) (b : Builder) : Bool :=
  b.inScope boundsTable (·.isHtml name)

def closeImplied (names : List String) (b : Builder) : Builder :=
  { b with stack := b.stack.dropWhile (·.inHtml names) }

def closeItems (b : Builder) : Builder :=
  b.closeImplied Names.impliedEnds

def closeItemsExcept (name : String) (b : Builder) : Builder :=
  b.closeImplied (Names.impliedEnds.filter (· ≠ name))

def closeParagraph (b : Builder) : Builder :=
  (b.closeItemsExcept "p").popThroughName "p"

def endParagraph (b : Builder) : Builder :=
  if b.inScope boundsButton (·.isHtml "p") then b.closeParagraph else b

inductive Spot where
  | lastIn (id : Nat)
  | before (sibling : Nat) (orIn : Nat)

def fosterSpot : List Open → Spot
  | [] => .lastIn 0
  | [o] => .lastIn o.id
  | o :: outer :: rest =>
    if o.isHtml "template" then .lastIn o.id
    else if o.isHtml "table" then .before o.id outer.id
    else fosterSpot (outer :: rest)

def spotFor (target : Open) (b : Builder) : Spot :=
  if b.fostering && target.inHtml Names.tableFrame then fosterSpot b.stack else .lastIn target.id

def spot (b : Builder) : Spot :=
  match b.current? with
  | none => .lastIn 0
  | some o => b.spotFor o

def putNode (spot : Spot) (id : Nat) (d : Draft) : Draft :=
  match spot with
  | .lastIn parent => d.append parent id
  | .before sibling orIn =>
    if (d.parent? sibling).isSome then d.insertBefore sibling id else d.append orIn id

def putText (spot : Spot) (t : Text) (d : Draft) : Draft :=
  match spot with
  | .lastIn parent => d.addText parent t
  | .before sibling orIn =>
    if (d.parent? sibling).isSome then d.addTextBefore sibling t else d.addText orIn t

def addText (t : Text) (b : Builder) : Builder :=
  if t.isEmpty then b else { b with draft := putText b.spot t b.draft }

def addNode (item : Draft.Item) (b : Builder) : Builder :=
  let spot := b.spot
  let id := b.draft.size
  { b with draft := putNode spot id (b.draft.make item) }

def addComment (t : Text) (b : Builder) : Builder :=
  b.addNode (.comment t)

def addCommentTo (id : Nat) (t : Text) (b : Builder) : Builder :=
  { b with draft := b.draft.add id (.comment t) }

def openIn (space : Space) (tag : Tag) (b : Builder) : Builder :=
  let id := b.draft.size
  (b.addNode (.element space tag.name tag.attributes)).push ⟨id, space, tag.name⟩

def openTag (tag : Tag) (b : Builder) : Builder :=
  b.openIn .html tag

def openNamed (name : String) (b : Builder) : Builder :=
  b.openTag { name }

def addEmpty (tag : Tag) (b : Builder) : Builder :=
  b.addNode (.element .html tag.name tag.attributes)

def openRaw (reading : Reading) (tag : Tag) (b : Builder) : Builder :=
  let b := b.openTag tag
  { b with mode := .text b.mode, reading }

def setMode (mode : Mode) (b : Builder) : Builder :=
  { b with mode }

def noFrameset (b : Builder) : Builder :=
  { b with framesetOk := false }

def modeOf (b : Builder) : List Open → Mode
  | [] => .inBody
  | o :: outer =>
    if o.space ≠ .html then modeOf b outer
    else
      match o.name with
      | "select" =>
        match outer.find? fun a => a.isHtml "template" || a.isHtml "table" with
        | some a => if a.isHtml "table" then .inSelectInTable else .inSelect
        | none => .inSelect
      | "td" | "th" => if outer.isEmpty then .inBody else .inCell
      | "tr" => .inRow
      | "tbody" | "thead" | "tfoot" => .inTableBody
      | "caption" => .inCaption
      | "colgroup" => .inColumnGroup
      | "table" => .inTable
      | "template" => b.templateModes.headD .inBody
      | "head" => if outer.isEmpty then .inBody else .inHead
      | "body" => .inBody
      | "frameset" => .inFrameset
      | "html" => if b.head.isSome then .afterHead else .beforeHead
      | _ => modeOf b outer

def resetMode (b : Builder) : Builder :=
  b.setMode (b.modeOf b.stack)

end Builder
end RefPages.Markup
