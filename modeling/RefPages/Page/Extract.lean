import RefPages.Text.Basic

namespace RefPages

structure Extract where
  signatures : List Text := []
  errors : List Text := []
  deriving DecidableEq, Repr

namespace Extract

def append (a b : Extract) : Extract :=
  ⟨a.signatures ++ b.signatures, a.errors ++ b.errors⟩

instance : Append Extract := ⟨append⟩

end Extract
end RefPages
