import RefPages.Text.Blank

namespace RefPages.Markup

structure Attribute where
  name : String
  value : Text
  deriving DecidableEq, Repr

structure Tag where
  name : String
  attributes : List Attribute := []
  selfClosing : Bool := false
  deriving DecidableEq, Repr

namespace Tag

def attribute? (name : String) (tag : Tag) : Option Text :=
  (tag.attributes.find? (·.name == name)).map (·.value)

def alike (a b : Tag) : Bool :=
  a.name == b.name && a.attributes.length == b.attributes.length &&
    a.attributes.all (b.attributes.contains ·)

end Tag

structure Doctype where
  name : String := ""
  publicId : Option Text := none
  systemId : Option Text := none
  flawed : Bool := false
  deriving DecidableEq, Repr

inductive Token where
  | doctype (d : Doctype)
  | start (tag : Tag)
  | stop (tag : Tag)
  | comment (t : Text)
  | text (t : Text)
  | nul
  | eof
  deriving DecidableEq, Repr

end RefPages.Markup
