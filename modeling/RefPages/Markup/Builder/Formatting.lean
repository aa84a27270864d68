import RefPages.Markup.Builder.State

/-!
Formatting that outlives the block it began in. A formatting element that is closed while blocks
are open inside it is taken apart: its copies are put inside those blocks.
-/

namespace RefPages.Markup.Builder

def recentFormatting (b : Builder) : List Formatting :=
  b.formatting.takeWhile fun f => !f.isMarker

def clearFormatting (b : Builder) : Builder :=
  { b with formatting := (b.formatting.dropWhile fun f => !f.isMarker).tail }

def addMarker (b : Builder) : Builder :=
  { b with formatting := .marker :: b.formatting }

def dropFormatting (id : Nat) (b : Builder) : Builder :=
  { b with formatting := b.formatting.filter fun f => !f.hasId id }

def hasFormatting (id : Nat) (b : Builder) : Bool :=
  b.formatting.any (·.hasId id)

def reopen : List Tag → List Formatting → Builder → List Formatting × Builder
  | [], entries, b => (entries, b)
  | tag :: tags, entries, b => reopen tags (.element b.draft.size tag :: entries) (b.openTag tag)

def reconstruct (b : Builder) : Builder :=
  let isClosed (f : Formatting) : Bool :=
    match f with
    | .marker => false
    | .element id _ => !b.isOpen id
  let closed := b.formatting.takeWhile isClosed
  if closed.isEmpty then b
  else
    let kept := b.formatting.dropWhile isClosed
    let (entries, b) := reopen (closed.reverse.filterMap (·.tag?)) [] b
    { b with formatting := entries ++ kept }

def openFormatting (tag : Tag) (b : Builder) : Builder :=
  let same := b.recentFormatting.filter fun f => f.tag?.any tag.alike
  let b :=
    match same.getLast? with
    -- Of elements that are alike three are kept, the latest.
    | some (.element id _) => if 3 ≤ same.length then b.dropFormatting id else b
    | _ => b
  let entry := Formatting.element b.draft.size tag
  let b := b.openTag tag
  { b with formatting := entry :: b.formatting }

def closeAny (name : String) (b : Builder) : Builder :=
  match b.stack.find? fun o => o.isHtml name || o.isSpecial with
  | none => b
  | some o =>
    if o.isHtml name then { b with stack := (b.stack.dropWhile (·.id ≠ o.id)).tail } else b

structure Split where
  draft : Draft
  formatting : List Formatting
  kept : List Open
  last : Nat
  bookmark : Option Nat

namespace Split

def replaceEntry (id new : Nat) (formatting : List Formatting) : List Formatting :=
  formatting.map fun
    | .element i tag => if i = id then .element new tag else .element i tag
    | .marker => .marker

def step (block : Nat) (s : Split) (entry : Open × Nat) : Split :=
  let (o, count) := entry
  match s.formatting.find? (·.hasId o.id) with
  | some (.element _ tag) =>
    -- The fourth and all behind it are closed for good.
    if 3 < count then { s with formatting := s.formatting.filter fun f => !f.hasId o.id }
    else
      let new := s.draft.size
      let draft := s.draft.make (.element .html tag.name tag.attributes)
      let draft := (draft.detach s.last).append new s.last
      { draft
        formatting := replaceEntry o.id new s.formatting
        kept := s.kept ++ [⟨new, .html, tag.name⟩]
        last := new
        bookmark := if s.last = block then some new else s.bookmark }
  | _ => s

def placeEntry (old : Nat) (copy : Formatting) (s : Split) : List Formatting :=
  match s.bookmark with
  | none => s.formatting.map fun f => if f.hasId old then copy else f
  | some b =>
    (s.formatting.flatMap fun f => if f.hasId b then [copy, f] else [f]).filter fun f =>
      !f.hasId old

end Split

/-- Takes the formatting element `f` apart around `block`, the outermost special element in it.
`inner` is what is open inside the block, `between` what is open between the two, and `outer` what
is open around `f`; each with the innermost first. -/
def splitAround (f : Nat) (tag : Tag) (block : Open) (inner between outer : List Open)
    (b : Builder) : Builder :=
  let start : Split := ⟨b.draft, b.formatting, [], block.id, none⟩
  let s := (between.zip (List.range' 1 between.length)).foldl (Split.step block.id) start
  let draft := s.draft.detach s.last
  let b := { b with draft }
  let spot := match outer.head? with
    | none => .lastIn 0
    | some ancestor => b.spotFor ancestor
  let draft := putNode spot s.last b.draft
  let copy := draft.size
  let draft := draft.make (.element .html tag.name tag.attributes)
  let draft := (draft.moveChildren block.id copy).append block.id copy
  { b with
    draft
    formatting := s.placeEntry f (.element copy tag)
    stack := inner ++ ⟨copy, .html, tag.name⟩ :: block :: s.kept ++ outer }

def adoptOnce (name : String) (b : Builder) : Bool × Builder :=
  match b.recentFormatting.find? fun f => f.tag?.any (·.name == name) with
  | some (.element id tag) =>
    if !b.isOpen id then (false, b.dropFormatting id)
    else if !b.inScope boundsAny (·.id == id) then (false, b)
    else
      let inside := b.stack.takeWhile (·.id ≠ id)
      let outer := (b.stack.dropWhile (·.id ≠ id)).tail
      match inside.reverse.find? (·.isSpecial) with
      | none => (false, { b.dropFormatting id with stack := outer })
      | some block =>
        let inner := inside.takeWhile (·.id ≠ block.id)
        let between := (inside.dropWhile (·.id ≠ block.id)).tail
        (true, b.splitAround id tag block inner between outer)
  | _ => (false, b.closeAny name)

def adopt (name : String) : Nat → Builder → Builder
  | 0, b => b
  | n + 1, b =>
    match b.adoptOnce name with
    | (true, b) => adopt name n b
    | (false, b) => b

def closeFormatting (name : String) (b : Builder) : Builder :=
  let plain := b.current?.any fun o => o.isHtml name && !b.hasFormatting o.id
  if plain then b.pop else adopt name 8 b

def closeLink (b : Builder) : Builder :=
  let isLink (f : Formatting) : Bool := f.tag?.any (·.name == "a")
  match b.recentFormatting.find? isLink with
  | some (.element id _) =>
    let b := b.closeFormatting "a"
    (b.dropFormatting id).remove id
  | _ => b

end RefPages.Markup.Builder
