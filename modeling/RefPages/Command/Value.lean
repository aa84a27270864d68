import RefPages.Command.Key
import RefPages.Url.Parse

namespace RefPages.Command

inductive NumberFault where
  | empty
  | digit
  | tooLarge
  | tooSmall (n least : Nat)
  deriving DecidableEq, Repr

def NumberFault.message : NumberFault → Text
  | empty => "cannot parse integer from empty string".toList
  | digit => "invalid digit found in string".toList
  | tooLarge => "number too large to fit in target type".toList
  | tooSmall n least =>
    Text.ofNat 10 n ++ " is not in ".toList ++ Text.ofNat 10 least ++ "..".toList ++
      Text.ofNat 10 (Text.numberLimit - 1)

def readDigits : (n : Nat) → Text → Except NumberFault Nat
  | n, [] => .ok n
  | n, c :: t =>
    match Text.digitValue? 10 c with
    | none => .error .digit
    | some d =>
      if n * 10 + d < Text.numberLimit then readDigits (n * 10 + d) t else .error .tooLarge

def readNumber : Text → Except NumberFault Nat
  | [] => .error .empty
  | ['+'] => .error .digit
  | '+' :: t => readDigits 0 t
  | t => readDigits 0 t

def readNumberFrom (least : Nat) (t : Text) : Except NumberFault Nat := do
  let n ← readNumber t
  if n < least then throw (.tooSmall n least) else return n

inductive Stop where
  | noValue (o : Opt)
  | notAmong (o : Opt) (value : Text)
  | badValue (o : Opt) (value fault : Text)
  | unknown (argument : Text)
  | repeated (key : Key)
  | needless (f : Flag) (value : Text)
  | noWorkers
  | help
  | version
  deriving DecidableEq, Repr

structure Given where
  url : Option Url := none
  output : Option Text := none
  format : Option Text := none
  strategy : Option Text := none
  workers : Option Nat := none
  timeout : Option Nat := none
  isQuiet : Bool := false
  verbosity : Nat := 0
  deriving Repr

namespace Given

def has (g : Given) : Opt → Bool
  | .url => g.url.isSome
  | .output => g.output.isSome
  | .format => g.format.isSome
  | .strategy => g.strategy.isSome
  | .workers => g.workers.isSome
  | .timeout => g.timeout.isSome

def choose (o : Opt) (value : Text) : Except Stop Text :=
  if o.choices.any fun choice => choice.toList == value then .ok value
  else .error (if value.isEmpty then .noValue o else .notAmong o value)

def check {α ε : Type} (o : Opt) (value : Text) (message : ε → Text) : Except ε α → Except Stop α
  | .ok a => .ok a
  | .error e => .error (.badValue o value (message e))

def set (o : Opt) (value : Text) (g : Given) : Except Stop Given :=
  if g.has o then .error (.repeated (.option o))
  else match o with
    | .url => do
      let u ← check o value Url.Fault.message (Url.parse value)
      return { g with url := some u }
    | .output => return { g with output := some value }
    | .format => do
      let name ← choose o value
      return { g with format := some name }
    | .strategy => do
      let name ← choose o value
      return { g with strategy := some name }
    | .workers => do
      let n ← check o value NumberFault.message (readNumber value)
      return { g with workers := some n }
    | .timeout => do
      let n ← check o value NumberFault.message (readNumberFrom 1 value)
      return { g with timeout := some n }

def verbosityLimit : Nat := 255

def raise (f : Flag) (g : Given) : Except Stop Given :=
  match f with
  | .quiet => if g.isQuiet then .error (.repeated (.flag f)) else .ok { g with isQuiet := true }
  | .verbose => .ok { g with verbosity := min (g.verbosity + 1) verbosityLimit }
  | .help => .error .help
  | .version => .error .version

def setDefault (g : Given) (o : Opt) : Except Stop Given :=
  if g.has o then .ok g else g.set o o.default

def complete (g : Given) : Except Stop Given :=
  Opt.all.foldlM setDefault g

end Given

inductive Misfit where
  | missing (o : Opt)
  | format
  | strategy
  | noWorkers
  deriving DecidableEq, Repr

namespace Misfit

def message : Misfit → Text
  | missing o => "Missing --".toList ++ o.long.toList
  | format => "Report format must be one of: text, json".toList
  | strategy => "Strategy must be one of: dom, legacy".toList
  | noWorkers => "--workers must be at least 1".toList

def stop : Misfit → Stop
  | missing o => .noValue o
  | format => .noValue .format
  | strategy => .noValue .strategy
  | noWorkers => .noWorkers

end Misfit

namespace Given

def demand {α : Type} (misfit : Misfit) : Option α → Except Misfit α
  | some a => .ok a
  | none => .error misfit

def config (home : Text) (g : Given) : Except Misfit Run.Config := do
  let standard : Run.Config := {}
  let url ← demand (.missing .url) g.url
  let output ← demand (.missing .output) g.output
  let format ← demand .format (g.format.bind Report.Format.ofName?)
  let strategy ← demand .strategy (g.strategy.bind Strategy.ofName?)
  let workers := g.workers.getD standard.workers
  if workers = 0 then throw .noWorkers
  return {
    index := url.text
    output := Run.expandHome home output
    format
    strategy
    workers
    timeout := g.timeout.getD standard.timeout
    isQuiet := g.isQuiet
    verbosity := g.verbosity }

end Given
end RefPages.Command
