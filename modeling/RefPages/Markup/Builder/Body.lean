import RefPages.Markup.Builder.Head

namespace RefPages.Markup.Builder

open Step

def itemToClose (name : String) (b : Builder) : Option String :=
  let items := if name = "li" then ["li"] else ["dd", "dt"]
  let stops (o : Open) : Bool := o.isSpecial && !(["address", "div", "p"].contains o.name)
  match b.stack.find? fun o => o.inHtml items || stops o with
  | some o => if o.inHtml items then some o.name else none
  | none => none

def itemTag (tag : Tag) (b : Builder) : Builder :=
  let b := b.noFrameset
  let b :=
    match b.itemToClose tag.name with
    | some name => (b.closeItemsExcept name).popThroughName name
    | none => b
  b.endParagraph.openTag tag

def bodyTag (tag : Tag) (b : Builder) : Builder :=
  match b.stack.reverse with
  | _ :: o :: _ =>
    if o.isHtml "body" && !b.inTemplate then
      { b.noFrameset with draft := b.draft.addAttributes o.id tag.attributes }
    else b
  | _ => b

def framesetTag (tag : Tag) (b : Builder) : Builder :=
  match b.framesetOk, b.stack.reverse with
  | true, root :: o :: _ =>
    if o.isHtml "body" then
      let b := { b with draft := b.draft.detach o.id, stack := [root] }
      (b.openTag tag).setMode .inFrameset
    else b
  | _, _ => b

def formTag (tag : Tag) (b : Builder) : Builder :=
  if b.form.isSome && !b.inTemplate then b
  else
    let b := b.endParagraph
    let id := b.draft.size
    let b := b.openTag tag
    if b.inTemplate then b else { b with form := some id }

def closeForm (b : Builder) : Builder :=
  if b.inTemplate then
    if b.hasInScope "form" then b.closeItems.popThroughName "form" else b
  else
    match b.form with
    | none => b
    | some id =>
      let b := { b with form := none }
      if b.inScope boundsAny (·.id == id) then b.closeItems.remove id else b

def isHidden (tag : Tag) : Bool :=
  (tag.attribute? "type").any fun t => t.map Char.toLower == "hidden".toList

def voidTag (tag : Tag) (b : Builder) : Builder :=
  let b := b.reconstruct.addEmpty tag
  if tag.name = "input" && isHidden tag then b else b.noFrameset

def selectTag (tag : Tag) (b : Builder) : Builder :=
  let mode :=
    match b.mode with
    | .inTable | .inCaption | .inTableBody | .inRow | .inCell => .inSelectInTable
    | _ => .inSelect
  { (b.reconstruct.openTag tag).noFrameset with mode }

def headingTag (tag : Tag) (b : Builder) : Builder :=
  let b := b.endParagraph
  (if b.currentIn Names.headings then b.pop else b).openTag tag

def buttonTag (tag : Tag) (b : Builder) : Builder :=
  let b := if b.hasInScope "button" then b.closeItems.popThroughName "button" else b
  (b.reconstruct.openTag tag).noFrameset

def nobrTag (tag : Tag) (b : Builder) : Builder :=
  let b := b.reconstruct
  let b := if b.hasInScope "nobr" then (b.closeFormatting "nobr").reconstruct else b
  b.openFormatting tag

def foreignTag (space : Space) (tag : Tag) (b : Builder) : Builder :=
  if tag.selfClosing then b.addNode (.element space tag.name tag.attributes) else b.openIn space tag

def bodyStart (tag : Tag) (b : Builder) : Builder :=
  let name := tag.name
  if name = "html" then b.htmlTag tag
  else if Names.metadata.contains name then b.metadataTag tag
  else if name = "body" then b.bodyTag tag
  else if name = "frameset" then b.framesetTag tag
  else if Names.blocks.contains name then b.endParagraph.openTag tag
  else if Names.headings.contains name then b.headingTag tag
  else if name = "pre" || name = "listing" then
    { (b.endParagraph.openTag tag).noFrameset with skipNewline := true }
  else if name = "form" then b.formTag tag
  else if name = "li" || name = "dd" || name = "dt" then b.itemTag tag
  else if name = "plaintext" then { b.endParagraph.openTag tag with reading := .rest }
  else if name = "button" then b.buttonTag tag
  else if name = "a" then b.closeLink.reconstruct.openFormatting tag
  else if Names.formatting.contains name then b.reconstruct.openFormatting tag
  else if name = "nobr" then b.nobrTag tag
  else if Names.embedded.contains name then (b.reconstruct.openTag tag).addMarker.noFrameset
  else if name = "table" then
    (((if b.quirks then b else b.endParagraph).openTag tag).noFrameset).setMode .inTable
  else if Names.voids.contains name then b.voidTag tag
  else if Names.parameters.contains name then b.addEmpty tag
  else if name = "hr" then (b.endParagraph.addEmpty tag).noFrameset
  else if name = "image" then b.voidTag { tag with name := "img" }
  else if name = "textarea" then
    { b.noFrameset.openRaw (.replaceable name) tag with skipNewline := true }
  else if name = "xmp" then b.endParagraph.reconstruct.noFrameset.openRaw (.rawText name) tag
  else if name = "iframe" then b.noFrameset.openRaw (.rawText name) tag
  else if name = "noembed" || name = "noscript" then b.openRaw (.rawText name) tag
  else if name = "select" then b.selectTag tag
  else if name = "optgroup" || name = "option" then
    (if b.currentIs "option" then b.pop else b).reconstruct.openTag tag
  else if name = "rb" || name = "rtc" then
    (if b.hasInScope "ruby" then b.closeItems else b).openTag tag
  else if name = "rp" || name = "rt" then
    (if b.hasInScope "ruby" then b.closeItemsExcept "rtc" else b).openTag tag
  else if name = "math" then b.reconstruct.foreignTag .math tag
  else if name = "svg" then b.reconstruct.foreignTag .svg tag
  else if Names.tableParts.contains name || name = "frame" || name = "head" then b
  else b.reconstruct.openTag tag

def bodyStop (tag : Tag) (b : Builder) : Builder :=
  let name := tag.name
  if name = "template" then b.closeTemplate
  else if name = "body" then if b.hasInScope "body" then b.setMode .afterBody else b
  else if Names.closable.contains name then
    if b.hasInScope name then b.closeItems.popThroughName name else b
  else if name = "form" then b.closeForm
  else if name = "p" then
    (if b.inScope boundsButton (·.isHtml "p") then b else b.openNamed "p").closeParagraph
  else if name = "li" then
    if b.inScope boundsItem (·.isHtml "li") then (b.closeItemsExcept "li").popThroughName "li" else b
  else if name = "dd" || name = "dt" then
    if b.hasInScope name then (b.closeItemsExcept name).popThroughName name else b
  else if Names.headings.contains name then
    if b.inScope boundsAny (·.inHtml Names.headings) then
      b.closeItems.popThrough (·.inHtml Names.headings)
    else b
  else if Names.formatting.contains name || name = "a" || name = "nobr" then b.closeFormatting name
  else if Names.embedded.contains name then
    if b.hasInScope name then (b.closeItems.popThroughName name).clearFormatting else b
  else if name = "br" then b.voidTag { name }
  else b.closeAny name

def endTemplate (b : Builder) : Step :=
  if b.inTemplate then
    let b := (b.popThroughName "template").clearFormatting
    again { b with templateModes := b.templateModes.tail }.resetMode .eof
  else done b

def bodyText (t : Text) (b : Builder) : Builder :=
  let b := b.reconstruct
  (if t.all isAsciiBlank then b else b.noFrameset).addText t

def inBody (b : Builder) (token : Token) : Step :=
  match token with
  | .text t => done (b.bodyText t)
  | .nul | .doctype _ => done b
  | .comment t => done (b.addComment t)
  | .eof => if b.templateModes.isEmpty then done b else b.endTemplate
  | .start tag => done (b.bodyStart tag)
  | .stop tag =>
    if tag.name = "html" then
      if b.hasInScope "body" then again (b.setMode .afterBody) token else done b
    else done (b.bodyStop tag)

def inText (back : Mode) (b : Builder) (token : Token) : Step :=
  match token with
  | .text t => done (b.addText t)
  | .stop _ => done (b.pop.setMode back)
  | .eof => again (b.pop.setMode back) token
  | _ => done b

end RefPages.Markup.Builder
