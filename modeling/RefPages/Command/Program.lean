import RefPages.Command.Arguments
import RefPages.Command.Help
import RefPages.Run.Basic

namespace RefPages.Command

inductive Ink where
  | plain
  | good
  | warning
  | number
  | warningNumber
  | path
  deriving DecidableEq, Repr

def Ink.code? : Ink → Option String
  | plain => none
  | good => some "1;32"
  | warning => some "1;33"
  | number => some "36"
  | warningNumber => some "33"
  | path => some "97"

def paint (inColor : Bool) (ink : Ink) (t : Text) : Text :=
  match inColor, ink.code? with
  | true, some code => "\x1b[".toList ++ code.toList ++ ['m'] ++ t ++ "\x1b[0m".toList
  | _, _ => t

def good : Text := ['✓']

def warning : Text := ['⚠']

def bad : Text := ['✗']

def summaryText (inColor : Bool) (s : Run.Summary) : Text :=
  let ink := paint inColor
  let count (i : Ink) (n : Nat) := ink i (Text.ofNat 10 n)
  let written :=
    ink .good good ++ [' '] ++ count .number s.entries ++ " signatures from ".toList ++
      count .number s.pages ++ " pages written to ".toList ++ ink .path s.output ++ ['\n']
  let skipped :=
    ink .warning warning ++ [' '] ++ count .warningNumber s.failedPages ++
      " pages skipped after errors (run with -v for details)\n".toList
  written ++ if 0 < s.failedPages then skipped else []

structure Output where
  exit : Nat
  stdout : Text := []
  stderr : Text := []
  log : List Text := []
  deriving DecidableEq, Repr

def Output.ofStop (s : Stop) : Output :=
  if s.isAnswer then { exit := 0, stdout := s.message }
  else
    let message := if s = .noWorkers then bad ++ ' ' :: s.message else s.message
    { exit := 2, stderr := message ++ ['\n'] }

def Output.ofRun (inColor : Bool) (c : Run.Config) (notes : List Harvest.Note) :
    Except Run.Failure Run.Summary → Output
  | outcome =>
    let shown := Harvest.Level.ofVerbosity c.verbosity
    let log := ((Harvest.Note.events notes).filter fun e => shown.isShown e.level).map (·.line)
    let progress :=
      if c.isQuiet then []
      else (Harvest.messages false notes).flatMap fun message => message ++ ['\n']
    match outcome with
    | .ok summary =>
      { exit := 0, log
        stdout := progress ++ if c.isQuiet then [] else summaryText inColor summary }
    | .error failure =>
      { exit := 1, log, stdout := progress, stderr := bad ++ ' ' :: failure.message ++ ['\n'] }

structure Surroundings where
  net : Http.Network
  time : Text
  home : Text
  inColor : Bool := false

/-- Runs a command line. The notes are those of the harvest. -/
def program (s : Surroundings) (args : List Text) (d : Disk) : Harvest.Step (Output × Disk) :=
  match read s.home args with
  | .error stop => pure (.ofStop stop, d)
  | .ok c =>
    let ⟨(outcome, d), notes⟩ := Run.run s.net s.time c d
    ⟨(.ofRun s.inColor c notes outcome, d), notes⟩

end RefPages.Command
