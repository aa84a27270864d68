import RefPages.Disk
import RefPages.Run.Config

namespace RefPages.Run

inductive Failure where
  | index (address : Text) (failure : Harvest.Failure)
  | output (path : Text) (fault : Disk.Fault)
  | allPages (count : Nat) (path : Text)
  deriving DecidableEq, Repr

def Failure.chain : Failure → List Text
  | index address failure =>
    ("Failed to read index ".toList ++ address) :: failure.message :: failure.causes
  | output path fault => ["Failed to write report to ".toList ++ path, fault.message]
  | allPages count path =>
    ["All ".toList ++ Text.ofNat 10 count ++ " pages failed; report at ".toList ++ path ++
      " is empty".toList]

def Failure.message (f : Failure) : Text :=
  ": ".toList.intercalate f.chain

structure Summary where
  output : Text
  pages : Nat
  failedPages : Nat
  entries : Nat
  deriving DecidableEq, Repr

def Summary.ofReport (output : Text) (r : Report) : Summary :=
  ⟨output, r.pages, r.failedPages, r.entries.length⟩

def save (path : Text) (format : Report.Format) (r : Report) (d : Disk) : Except Disk.Fault Disk :=
  d.create path (r.write format)

def verdict (output : Text) (r : Report) : Except Failure Summary :=
  if 0 < r.pages ∧ r.failedPages = r.pages then .error (.allPages r.pages output)
  else .ok (.ofReport output r)

def run (net : Http.Network) (time : Text) (c : Config) (d : Disk) :
    Harvest.Step (Except Failure Summary × Disk) := do
  match ← Harvest.run net ⟨c.index, c.workers, c.strategy⟩ with
  | .error failure => return (.error (.index c.index failure), d)
  | .ok results =>
    let report := Report.ofPages c.index time results
    match save c.output c.format report d with
    | .error fault => return (.error (.output c.output fault), d)
    | .ok d => return (verdict c.output report, d)

end RefPages.Run
