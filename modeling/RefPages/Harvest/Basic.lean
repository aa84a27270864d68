import RefPages.Harvest.Pages

namespace RefPages.Harvest

def defaultIndex : Text :=
  "http://www.opengl.org/sdk/docs/man/xhtml/index.html".toList

structure Options where
  index : Text := defaultIndex
  workers : Nat := 4
  strategy : Strategy := default
  deriving DecidableEq, Repr

def run (net : Http.Network) (o : Options) : Step (Except Failure (List PageResult)) := do
  Noted.note (.progress (.connecting o.index))
  match ← fetchIndex net o.index with
  | .error failure => return .error failure
  | .ok links =>
    tell (.pagesFound o.index links.length)
    return .ok (← fetchPages net o.strategy o.workers links)

def messages (hasBar : Bool) (notes : List Note) : List Text :=
  ((Note.told notes).filter fun p => !(hasBar && p.isOfPage)).map (·.message)

end RefPages.Harvest
