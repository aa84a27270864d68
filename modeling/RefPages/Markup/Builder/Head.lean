import RefPages.Markup.Builder.Formatting

namespace RefPages.Markup.Builder

open Step

def blanks (t : Text) : Text :=
  t.takeWhile isAsciiBlank

def beyondBlanks (t : Text) : Text :=
  t.dropWhile isAsciiBlank

def splitText (t : Text) (onBlanks : Text → Builder → Builder) (onRest : Token → Builder → Step)
    (b : Builder) : Step :=
  let b := if (blanks t).isEmpty then b else onBlanks (blanks t) b
  if (beyondBlanks t).isEmpty then done b else onRest (.text (beyondBlanks t)) b

def oldPublicIds : List String :=
  ["-//advasoft ltd//dtd html 3.0 aswedit + extensions//",
    "-//as//dtd html 3.0 aswedit + extensions//", "-//ietf//dtd html 2.0 level 1//",
    "-//ietf//dtd html 2.0 level 2//", "-//ietf//dtd html 2.0 strict level 1//",
    "-//ietf//dtd html 2.0 strict level 2//", "-//ietf//dtd html 2.0 strict//",
    "-//ietf//dtd html 2.0//", "-//ietf//dtd html 2.1e//", "-//ietf//dtd html 3.0//",
    "-//ietf//dtd html 3.2 final//", "-//ietf//dtd html 3.2//", "-//ietf//dtd html 3//",
    "-//ietf//dtd html level 0//", "-//ietf//dtd html level 1//", "-//ietf//dtd html level 2//",
    "-//ietf//dtd html level 3//", "-//ietf//dtd html strict level 0//",
    "-//ietf//dtd html strict level 1//", "-//ietf//dtd html strict level 2//",
    "-//ietf//dtd html strict level 3//", "-//ietf//dtd html strict//", "-//ietf//dtd html//",
    "-//metrius//dtd metrius presentational//",
    "-//microsoft//dtd internet explorer 2.0 html strict//",
    "-//microsoft//dtd internet explorer 2.0 html//",
    "-//microsoft//dtd internet explorer 2.0 tables//",
    "-//microsoft//dtd internet explorer 3.0 html strict//",
    "-//microsoft//dtd internet explorer 3.0 html//",
    "-//microsoft//dtd internet explorer 3.0 tables//", "-//netscape comm. corp.//dtd html//",
    "-//netscape comm. corp.//dtd strict html//", "-//o'reilly and associates//dtd html 2.0//",
    "-//o'reilly and associates//dtd html extended 1.0//",
    "-//o'reilly and associates//dtd html extended relaxed 1.0//",
    "-//softquad software//dtd hotmetal pro 6.0::19990601::extensions to html 4.0//",
    "-//softquad//dtd hotmetal pro 4.0::19971010::extensions to html 4.0//",
    "-//spyglass//dtd html 2.0 extended//", "-//sq//dtd html 2.0 hotmetal + extensions//",
    "-//sun microsystems corp.//dtd hotjava html//",
    "-//sun microsystems corp.//dtd hotjava strict html//", "-//w3c//dtd html 3 1995-03-24//",
    "-//w3c//dtd html 3.2 draft//", "-//w3c//dtd html 3.2 final//", "-//w3c//dtd html 3.2//",
    "-//w3c//dtd html 3.2s draft//", "-//w3c//dtd html 4.0 frameset//",
    "-//w3c//dtd html 4.0 transitional//", "-//w3c//dtd html experimental 19960712//",
    "-//w3c//dtd html experimental 970421//", "-//w3c//dtd w3 html//",
    "-//w3o//dtd w3 html 3.0//", "-//webtechs//dtd mozilla html 2.0//",
    "-//webtechs//dtd mozilla html//"]

def oldPublicIdsWhole : List String :=
  ["-//w3o//dtd w3 html strict 3.0//en//", "-/w3c/dtd html 4.0 transitional/en", "html"]

def oldPublicIdsAlone : List String :=
  ["-//w3c//dtd html 4.01 frameset//", "-//w3c//dtd html 4.01 transitional//"]

def oldSystemId : String :=
  "http://www.ibm.com/data/dtd/v11/ibmxhtml1-transitional.dtd"

def asksForQuirks (d : Doctype) : Bool :=
  let small (t : Text) : Text := t.map Char.toLower
  let publicId := d.publicId.map small
  let begins (ids : List String) : Bool :=
    publicId.any fun p => ids.any fun id => id.toList.isPrefixOf p
  d.flawed || d.name != "html" ||
    publicId.any (fun p => oldPublicIdsWhole.any (·.toList == p)) ||
    d.systemId.any (fun s => small s == oldSystemId.toList) || begins oldPublicIds ||
    (d.systemId.isNone && begins oldPublicIdsAlone)

def htmlTag (tag : Tag) (b : Builder) : Builder :=
  match b.stack.getLast? with
  | some o => if b.inTemplate then b else { b with draft := b.draft.addAttributes o.id tag.attributes }
  | none => b

def openRoot (attributes : List Attribute) (b : Builder) : Builder :=
  let id := b.draft.size
  { b with
    draft := b.draft.add 0 (.element .html "html" attributes)
    stack := ⟨id, .html, "html"⟩ :: b.stack }

def metadataTag (tag : Tag) (b : Builder) : Builder :=
  if tag.name = "title" then b.openRaw (.replaceable "title") tag
  else if tag.name = "script" then b.openRaw .script tag
  else if tag.name = "style" ∨ tag.name = "noframes" ∨ tag.name = "noscript" then
    b.openRaw (.rawText tag.name) tag
  else if tag.name = "template" then
    let b := { b.addMarker with
      framesetOk := false
      mode := .inTemplate
      templateModes := .inTemplate :: b.templateModes }
    b.openTag tag
  else b.addEmpty tag

def closeTemplate (b : Builder) : Builder :=
  if b.inTemplate then
    let b := ((b.closeImplied Names.allImpliedEnds).popThroughName "template").clearFormatting
    { b with templateModes := b.templateModes.tail }.resetMode
  else b

def opensImplied (name : String) : Bool :=
  ["body", "html", "br"].contains name

def initial (b : Builder) (token : Token) : Step :=
  let implied (token : Token) (b : Builder) : Step :=
    again { b with mode := .beforeHtml, quirks := true } token
  match token with
  | .text t => splitText t (fun _ b => b) implied b
  | .comment t => done (b.addCommentTo 0 t)
  | .doctype d => done { b with mode := .beforeHtml, quirks := asksForQuirks d }
  | _ => implied token b

def beforeHtml (b : Builder) (token : Token) : Step :=
  let implied (token : Token) (b : Builder) : Step :=
    again ((b.openRoot []).setMode .beforeHead) token
  match token with
  | .text t => splitText t (fun _ b => b) implied b
  | .comment t => done (b.addCommentTo 0 t)
  | .doctype _ => done b
  | .start tag =>
    if tag.name = "html" then done ((b.openRoot tag.attributes).setMode .beforeHead)
    else implied token b
  | .stop tag => if tag.name = "head" || opensImplied tag.name then implied token b else done b
  | _ => implied token b

def openHead (tag : Tag) (b : Builder) : Builder :=
  let id := b.draft.size
  { b.openTag tag with head := some id, mode := .inHead }

def beforeHead (b : Builder) (token : Token) : Step :=
  let implied (token : Token) (b : Builder) : Step := again (b.openHead { name := "head" }) token
  match token with
  | .text t => splitText t (fun _ b => b) implied b
  | .comment t => done (b.addComment t)
  | .doctype _ => done b
  | .start tag =>
    if tag.name = "html" then done (b.htmlTag tag)
    else if tag.name = "head" then done (b.openHead tag)
    else implied token b
  | .stop tag => if tag.name = "head" || opensImplied tag.name then implied token b else done b
  | _ => implied token b

def inHead (b : Builder) (token : Token) : Step :=
  let implied (token : Token) (b : Builder) : Step := again (b.pop.setMode .afterHead) token
  match token with
  | .text t => splitText t addText implied b
  | .comment t => done (b.addComment t)
  | .doctype _ => done b
  | .start tag =>
    if tag.name = "html" then done (b.htmlTag tag)
    else if Names.metadata.contains tag.name || tag.name = "noscript" then done (b.metadataTag tag)
    else if tag.name = "head" then done b
    else implied token b
  | .stop tag =>
    if tag.name = "head" then done (b.pop.setMode .afterHead)
    else if tag.name = "template" then done b.closeTemplate
    else if opensImplied tag.name then implied token b
    else done b
  | _ => implied token b

def lateMetadata (tag : Tag) (b : Builder) : Builder :=
  match b.head with
  | none => b
  | some id => ((b.push ⟨id, .html, "head"⟩).metadataTag tag).remove id

def afterHead (b : Builder) (token : Token) : Step :=
  let implied (token : Token) (b : Builder) : Step :=
    again ((b.openNamed "body").setMode .inBody) token
  match token with
  | .text t => splitText t addText implied b
  | .comment t => done (b.addComment t)
  | .doctype _ => done b
  | .start tag =>
    if tag.name = "html" then done (b.htmlTag tag)
    else if tag.name = "body" then done ((b.openTag tag).noFrameset.setMode .inBody)
    else if tag.name = "frameset" then done ((b.openTag tag).setMode .inFrameset)
    else if Names.metadata.contains tag.name then done (b.lateMetadata tag)
    else if tag.name = "head" then done b
    else implied token b
  | .stop tag =>
    if tag.name = "template" then done b.closeTemplate
    else if opensImplied tag.name then implied token b
    else done b
  | _ => implied token b

end RefPages.Markup.Builder
