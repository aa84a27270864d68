import RefPages.Harvest.Basic
import RefPages.Report.Format

namespace RefPages.Run

def defaultOutput : Text :=
  "GLerrors.txt".toList

structure Config where
  index : Text := Harvest.defaultIndex
  output : Text := defaultOutput
  format : Report.Format := default
  strategy : Strategy := default
  workers : Nat := 4
  timeout : Nat := 10
  isQuiet : Bool := false
  verbosity : Nat := 0
  deriving DecidableEq, Repr

def expandHome (home path : Text) : Text :=
  match path with
  | ['~'] => home
  | '~' :: '/' :: rest => home ++ '/' :: rest
  | path => path

end RefPages.Run
