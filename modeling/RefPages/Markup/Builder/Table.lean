import RefPages.Markup.Builder.Body

namespace RefPages.Markup.Builder

open Step

def fosterInBody (b : Builder) (token : Token) : Step :=
  match inBody { b with fostering := true } token with
  | done b => done { b with fostering := false }
  | again b token => again { b with fostering := false } token

def closeTable (b : Builder) : Builder :=
  (b.popThroughName "table").resetMode

def tableChars (b : Builder) (token : Token) : Step :=
  if b.currentIn Names.tableFrame then again (b.setMode (.inTableText b.mode)) token
  else b.fosterInBody token

def tableStart (tag : Tag) (b : Builder) : Step :=
  let name := tag.name
  let clean := b.popTo ["table", "template", "html"]
  if name = "caption" then done ((clean.addMarker.openTag tag).setMode .inCaption)
  else if name = "colgroup" then done ((clean.openTag tag).setMode .inColumnGroup)
  else if name = "col" then again ((clean.openNamed "colgroup").setMode .inColumnGroup) (.start tag)
  else if Names.rowGroups.contains name then done ((clean.openTag tag).setMode .inTableBody)
  else if Names.cells.contains name || name = "tr" then
    again ((clean.openNamed "tbody").setMode .inTableBody) (.start tag)
  else if name = "table" then
    if b.hasInTable "table" then again b.closeTable (.start tag) else done b
  else if name = "style" || name = "script" || name = "template" then done (b.metadataTag tag)
  else if name = "input" && isHidden tag then done (b.addEmpty tag)
  else if name = "form" then
    if b.form.isSome || b.inTemplate then done b
    else done { b.addEmpty tag with form := some b.draft.size }
  else b.fosterInBody (.start tag)

def inTable (b : Builder) (token : Token) : Step :=
  match token with
  | .text _ | .nul => b.tableChars token
  | .comment t => done (b.addComment t)
  | .doctype _ => done b
  | .start tag => b.tableStart tag
  | .stop tag =>
    if tag.name = "table" then if b.hasInTable "table" then done b.closeTable else done b
    else if tag.name = "body" || tag.name = "html" || Names.tableParts.contains tag.name then done b
    else if tag.name = "template" then done b.closeTemplate
    else b.fosterInBody token
  | .eof => b.inBody token

def flushTableText (b : Builder) : Builder :=
  let pieces := b.tableText.reverse
  let b := { b with tableText := [] }
  if pieces.all (·.all isAsciiBlank) then pieces.foldl (fun b t => b.addText t) b
  else
    let b := pieces.foldl (fun b t => b.bodyText t) { b with fostering := true }
    { b with fostering := false }

def inTableText (back : Mode) (b : Builder) (token : Token) : Step :=
  match token with
  | .text t => done { b with tableText := t :: b.tableText }
  | .nul => done b
  | _ => again (b.flushTableText.setMode back) token

def closeCaption (b : Builder) : Builder :=
  ((b.closeItems.popThroughName "caption").clearFormatting).setMode .inTable

def inCaption (b : Builder) (token : Token) : Step :=
  match token with
  | .start tag =>
    if Names.tableParts.contains tag.name then
      if b.hasInTable "caption" then again b.closeCaption token else done b
    else b.inBody token
  | .stop tag =>
    if tag.name = "caption" then if b.hasInTable "caption" then done b.closeCaption else done b
    else if tag.name = "table" then
      if b.hasInTable "caption" then again b.closeCaption token else done b
    else if tag.name = "body" || tag.name = "html" || Names.tableParts.contains tag.name then done b
    else b.inBody token
  | _ => b.inBody token

def inColumnGroup (b : Builder) (token : Token) : Step :=
  let implied (token : Token) (b : Builder) : Step :=
    if b.currentIs "colgroup" then again (b.pop.setMode .inTable) token else done b
  match token with
  | .text t =>
    if b.currentIs "colgroup" then splitText t addText implied b
    else done (b.addText (t.filter isAsciiBlank))
  | .comment t => done (b.addComment t)
  | .doctype _ => done b
  | .start tag =>
    if tag.name = "html" then done (b.htmlTag tag)
    else if tag.name = "col" then done (b.addEmpty tag)
    else if tag.name = "template" then done (b.metadataTag tag)
    else implied token b
  | .stop tag =>
    if tag.name = "colgroup" then
      if b.currentIs "colgroup" then done (b.pop.setMode .inTable) else done b
    else if tag.name = "col" then done b
    else if tag.name = "template" then done b.closeTemplate
    else implied token b
  | .eof => b.inBody token
  | .nul => implied token b

def toRowGroup (b : Builder) : Builder :=
  b.popTo ["tbody", "tfoot", "thead", "template", "html"]

def toRow (b : Builder) : Builder :=
  b.popTo ["tr", "template", "html"]

def inTableBody (b : Builder) (token : Token) : Step :=
  let close (next : Builder → Step) : Step := next (b.toRowGroup.pop.setMode .inTable)
  let closeGroup : Step :=
    if b.inScope boundsTable (·.inHtml ("table" :: Names.rowGroups)) then close (again · token)
    else done b
  match token with
  | .start tag =>
    if tag.name = "tr" then done ((b.toRowGroup.openTag tag).setMode .inRow)
    else if Names.cells.contains tag.name then
      again ((b.toRowGroup.openNamed "tr").setMode .inRow) token
    else if Names.tableParts.contains tag.name then closeGroup
    else b.inTable token
  | .stop tag =>
    if Names.rowGroups.contains tag.name then
      if b.hasInTable tag.name then close done else done b
    else if tag.name = "table" then closeGroup
    else if tag.name = "body" || tag.name = "html" || Names.tableParts.contains tag.name then done b
    else b.inTable token
  | _ => b.inTable token

def inRow (b : Builder) (token : Token) : Step :=
  let close (next : Builder → Step) : Step :=
    if b.hasInTable "tr" then next (b.toRow.pop.setMode .inTableBody) else done b
  match token with
  | .start tag =>
    if Names.cells.contains tag.name then
      done ((b.toRow.openTag tag).addMarker.setMode .inCell)
    else if Names.tableParts.contains tag.name then close (again · token)
    else b.inTable token
  | .stop tag =>
    if tag.name = "tr" then close done
    else if tag.name = "table" then close (again · token)
    else if Names.rowGroups.contains tag.name then
      if b.hasInTable tag.name then close (again · token) else done b
    else if tag.name = "body" || tag.name = "html" || Names.tableParts.contains tag.name then done b
    else b.inTable token
  | _ => b.inTable token

def closeCell (b : Builder) : Builder :=
  ((b.closeItems.popThrough (·.inHtml Names.cells)).clearFormatting).setMode .inRow

def inCell (b : Builder) (token : Token) : Step :=
  match token with
  | .start tag =>
    if Names.tableParts.contains tag.name then
      if b.inScope boundsTable (·.inHtml Names.cells) then again b.closeCell token else done b
    else b.inBody token
  | .stop tag =>
    if Names.cells.contains tag.name then
      if b.hasInTable tag.name then
        done (((b.closeItems.popThroughName tag.name).clearFormatting).setMode .inRow)
      else done b
    else if ["body", "caption", "col", "colgroup", "html"].contains tag.name then done b
    else if Names.tableFrame.contains tag.name then
      if b.hasInTable tag.name then again b.closeCell token else done b
    else b.inBody token
  | _ => b.inBody token

end RefPages.Markup.Builder
