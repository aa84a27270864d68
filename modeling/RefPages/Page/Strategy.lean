import RefPages.Page.Marked
import RefPages.Page.Tree

namespace RefPages

inductive Strategy where
  | tree
  | raw
  deriving DecidableEq, Repr

namespace Strategy

instance : Inhabited Strategy := ⟨tree⟩

def name : Strategy → String
  | tree => "dom"
  | raw => "legacy"

def ofName? (s : Text) : Option Strategy :=
  -- No character beyond ASCII has one of the letters of a name as its small form.
  let lower := s.map Char.toLower
  [tree, raw].find? fun strategy => strategy.name.toList == lower

end Strategy

namespace Page

def extract : Strategy → (body : Text) → Except Unclosed Extract
  | .tree, body => .ok (readTree body)
  | .raw, body => scan body

end Page
end RefPages
