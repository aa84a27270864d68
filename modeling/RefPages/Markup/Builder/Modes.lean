import RefPages.Markup.Builder.Table

namespace RefPages.Markup.Builder

open Step

def closeSelect (b : Builder) : Builder :=
  (b.popThroughName "select").resetMode

def selectStart (tag : Tag) (b : Builder) : Step :=
  let name := tag.name
  let noOption := if b.currentIs "option" then b.pop else b
  let noGroup := if noOption.currentIs "optgroup" then noOption.pop else noOption
  let inSelect := b.inScope boundsSelect (·.isHtml "select")
  if name = "html" then done (b.htmlTag tag)
  else if name = "option" then done (noOption.openTag tag)
  else if name = "optgroup" then done (noGroup.openTag tag)
  else if name = "hr" then done (noGroup.addEmpty tag)
  else if name = "select" then if inSelect then done b.closeSelect else done b
  else if name = "input" || name = "keygen" || name = "textarea" then
    if inSelect then again b.closeSelect (.start tag) else done b
  else if name = "script" || name = "template" then done (b.metadataTag tag)
  else done b

def selectStop (tag : Tag) (b : Builder) : Builder :=
  if tag.name = "optgroup" then
    let inGroup := b.currentIs "option" && b.stack.tail.head?.any (·.isHtml "optgroup")
    let b := if inGroup then b.pop else b
    if b.currentIs "optgroup" then b.pop else b
  else if tag.name = "option" then if b.currentIs "option" then b.pop else b
  else if tag.name = "select" then
    if b.inScope boundsSelect (·.isHtml "select") then b.closeSelect else b
  else if tag.name = "template" then b.closeTemplate
  else b

def inSelect (b : Builder) (token : Token) : Step :=
  match token with
  | .text t => done (b.addText t)
  | .nul | .doctype _ => done b
  | .comment t => done (b.addComment t)
  | .start tag => b.selectStart tag
  | .stop tag => done (b.selectStop tag)
  | .eof => b.inBody token

def endsTableSelect (name : String) : Bool :=
  ["caption", "table", "tbody", "tfoot", "thead", "tr", "td", "th"].contains name

def inSelectInTable (b : Builder) (token : Token) : Step :=
  match token with
  | .start tag =>
    if endsTableSelect tag.name then again b.closeSelect token else b.inSelect token
  | .stop tag =>
    if endsTableSelect tag.name then
      if b.hasInTable tag.name then again b.closeSelect token else done b
    else b.inSelect token
  | _ => b.inSelect token

def templateAs (mode : Mode) (b : Builder) (token : Token) : Step :=
  again { b with mode, templateModes := mode :: b.templateModes.tail } token

def inTemplateContent (b : Builder) (token : Token) : Step :=
  match token with
  | .text _ | .nul | .comment _ => b.inBody token
  | .doctype _ => done b
  | .start tag =>
    if Names.metadata.contains tag.name then done (b.metadataTag tag)
    else if tag.name = "col" then b.templateAs .inColumnGroup token
    else if tag.name = "tr" then b.templateAs .inTableBody token
    else if Names.cells.contains tag.name then b.templateAs .inRow token
    else if Names.tableParts.contains tag.name then b.templateAs .inTable token
    else b.templateAs .inBody token
  | .stop tag => if tag.name = "template" then done b.closeTemplate else done b
  | .eof => b.endTemplate

def commentInRoot (t : Text) (b : Builder) : Builder :=
  match b.stack.getLast? with
  | some o => b.addCommentTo o.id t
  | none => b.addCommentTo 0 t

def afterBody (b : Builder) (token : Token) : Step :=
  let implied (token : Token) (b : Builder) : Step := again (b.setMode .inBody) token
  match token with
  | .text t => splitText t bodyText implied b
  | .comment t => done (b.commentInRoot t)
  | .doctype _ | .eof => done b
  | .start tag => if tag.name = "html" then done (b.htmlTag tag) else implied token b
  | .stop tag => if tag.name = "html" then done (b.setMode .afterAfterBody) else implied token b
  | .nul => implied token b

def afterAfterBody (b : Builder) (token : Token) : Step :=
  let implied (token : Token) (b : Builder) : Step := again (b.setMode .inBody) token
  match token with
  | .text t => splitText t bodyText implied b
  | .comment t => done (b.addCommentTo 0 t)
  | .doctype _ | .eof => done b
  | .start tag => if tag.name = "html" then done (b.htmlTag tag) else implied token b
  | _ => implied token b

def frameText (t : Text) (b : Builder) : Builder :=
  b.addText (t.filter isAsciiBlank)

def inFrameset (b : Builder) (token : Token) : Step :=
  match token with
  | .text t => done (b.frameText t)
  | .comment t => done (b.addComment t)
  | .start tag =>
    if tag.name = "html" then done (b.htmlTag tag)
    else if tag.name = "frameset" then done (b.openTag tag)
    else if tag.name = "frame" then done (b.addEmpty tag)
    else if tag.name = "noframes" then done (b.metadataTag tag)
    else done b
  | .stop tag =>
    if tag.name = "frameset" && 1 < b.stack.length then
      let b := b.pop
      done (if b.currentIs "frameset" then b else b.setMode .afterFrameset)
    else done b
  | _ => done b

def afterFrameset (b : Builder) (token : Token) : Step :=
  match token with
  | .text t => done (b.frameText t)
  | .comment t => done (b.addComment t)
  | .start tag =>
    if tag.name = "html" then done (b.htmlTag tag)
    else if tag.name = "noframes" then done (b.metadataTag tag)
    else done b
  | .stop tag => done (if tag.name = "html" then b.setMode .afterAfterFrameset else b)
  | _ => done b

def afterAfterFrameset (b : Builder) (token : Token) : Step :=
  match token with
  | .text t =>
    let blank := t.filter isAsciiBlank
    done (if blank.isEmpty then b else b.bodyText blank)
  | .comment t => done (b.addCommentTo 0 t)
  | .start tag =>
    if tag.name = "html" then done (b.htmlTag tag)
    else if tag.name = "noframes" then done (b.metadataTag tag)
    else done b
  | _ => done b

def byMode (b : Builder) (token : Token) : Step :=
  match b.mode with
  | .initial => b.initial token
  | .beforeHtml => b.beforeHtml token
  | .beforeHead => b.beforeHead token
  | .inHead => b.inHead token
  | .afterHead => b.afterHead token
  | .inBody => b.inBody token
  | .text back => b.inText back token
  | .inTable => b.inTable token
  | .inTableText back => b.inTableText back token
  | .inCaption => b.inCaption token
  | .inColumnGroup => b.inColumnGroup token
  | .inTableBody => b.inTableBody token
  | .inRow => b.inRow token
  | .inCell => b.inCell token
  | .inSelect => b.inSelect token
  | .inSelectInTable => b.inSelectInTable token
  | .inTemplate => b.inTemplateContent token
  | .afterBody => b.afterBody token
  | .inFrameset => b.inFrameset token
  | .afterFrameset => b.afterFrameset token
  | .afterAfterBody => b.afterAfterBody token
  | .afterAfterFrameset => b.afterAfterFrameset token

def inForeign (b : Builder) : Bool :=
  b.current?.any (·.space != .html)

def isForeign (b : Builder) (token : Token) : Bool :=
  match b.current?, token with
  | none, _ | _, .eof | _, .doctype _ => false
  | some o, .text _ | some o, .nul => o.space != .html && !o.holdsMathText && !o.holdsDocument
  | some o, .start tag =>
    o.space != .html && !o.holdsDocument &&
      !(o.holdsMathText && tag.name != "mglyph" && tag.name != "malignmark") &&
      !(o.space == .math && o.name == "annotation-xml" && tag.name == "svg")
  | some o, _ => o.space != .html

def breakOut (b : Builder) (token : Token) : Step :=
  let stays (o : Open) : Bool := o.space == .html || o.holdsMathText || o.holdsDocument
  byMode { b with stack := b.stack.dropWhile fun o => !stays o } token

def foreignStart (tag : Tag) (b : Builder) : Step :=
  let fontBreaks := tag.name = "font" &&
    ["color", "face", "size"].any fun a => (tag.attribute? a).isSome
  if Names.breakouts.contains tag.name || fontBreaks then b.breakOut (.start tag)
  else
    match b.current? with
    | none => done b
    | some o =>
      let name := if o.space = .svg then Names.svgName tag.name else tag.name
      done (b.foreignTag o.space { tag with name })

def foreignStop (tag : Tag) (b : Builder) : (outer : List Open) → Step
  | [] => done b
  | [_] => done b
  | o :: outer =>
    if o.space = .html then b.byMode (.stop tag)
    -- Foreign names can have capital letters, those of tags are small.
    else if String.ofList (o.name.toList.map Char.toLower) == tag.name then
      done { b with stack := outer }
    else foreignStop tag b outer

def foreign (b : Builder) (token : Token) : Step :=
  match token with
  | .text t => done ((if t.all isAsciiBlank then b else b.noFrameset).addText t)
  | .nul => done (b.addText [Reference.replacement])
  | .comment t => done (b.addComment t)
  | .start tag => b.foreignStart tag
  | .stop tag =>
    if tag.name = "br" || tag.name = "p" then b.breakOut token else foreignStop tag b b.stack
  | _ => done b

def step (b : Builder) (token : Token) : Step :=
  if b.isForeign token then b.foreign token else b.byMode token

end RefPages.Markup.Builder
