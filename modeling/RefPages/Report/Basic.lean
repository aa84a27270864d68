import RefPages.Index
import RefPages.Page.Extract

namespace RefPages

/-- What became of a page: its extract, or why there is none. The status is that of the answer that
was received, and 0 if none was. -/
structure PageResult where
  link : PageLink
  status : Nat
  extract : Extract
  failure : Option Text
  deriving DecidableEq, Repr

namespace PageResult

def failed (link : PageLink) (status : Nat) (failure : Text) : PageResult :=
  ⟨link, status, {}, some failure⟩

def isOk (p : PageResult) : Bool :=
  p.failure.isNone

end PageResult

structure Entry where
  signature : Text
  errors : List Text
  deriving DecidableEq, Repr

structure Report where
  source : Text
  generatedAt : Text
  pages : Nat
  failedPages : Nat
  entries : List Entry
  deriving DecidableEq, Repr

namespace Report

def nonEmpty (ts : List Text) : List Text :=
  ts.filter fun t => !t.isEmpty

def entriesOf (e : Extract) : List Entry :=
  (nonEmpty e.signatures).map fun signature => ⟨signature, nonEmpty e.errors⟩

def ofPages (source generatedAt : Text) (pages : List PageResult) : Report where
  source := source
  generatedAt := generatedAt
  pages := pages.length
  failedPages := (pages.filter fun p => !p.isOk).length
  entries := (pages.filter (·.isOk)).flatMap fun p => entriesOf p.extract

end Report
end RefPages
