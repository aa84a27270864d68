import RefPages.Command.Value

namespace RefPages.Command

structure Pending where
  option : Opt
  value : Option Text
  deriving DecidableEq, Repr

structure Draft where
  given : Given := {}
  pending : Option Pending := none
  deriving Repr

namespace Draft

def settle (d : Draft) : Except Stop Draft :=
  match d.pending with
  | none => .ok d
  | some ⟨o, none⟩ => .error (.noValue o)
  | some ⟨o, some value⟩ => do return { given := ← d.given.set o value }

def raise (f : Flag) (d : Draft) : Except Stop Draft := do
  let d ← d.settle
  return { d with given := ← d.given.raise f }

def attach (o : Opt) (value : Text) (d : Draft) : Except Stop Draft := do
  let d ← d.settle
  return { d with given := ← d.given.set o value }

def await (o : Opt) (d : Draft) : Except Stop Draft := do
  let d ← d.settle
  return { d with pending := some ⟨o, none⟩ }

def shorts : Text → Draft → Except Stop Draft
  | [], d => .ok d
  | c :: rest, d =>
    match Key.ofShort? c with
    | none => .error (.unknown ['-', c])
    | some (.flag f) => do shorts rest (← d.raise f)
    | some (.option o) =>
      match rest with
      | [] => d.await o
      | '=' :: value => d.attach o value
      | value => d.attach o value

def long (t : Text) (d : Draft) : Except Stop Draft :=
  let name := t.takeWhile (· ≠ '=')
  match Key.ofLong? name, t.dropWhile (· ≠ '=') with
  | none, _ => .error (.unknown ("--".toList ++ name))
  | some (.flag f), [] => d.raise f
  | some (.flag f), _ :: value => .error (.needless f value)
  | some (.option o), [] => d.await o
  | some (.option o), _ :: value => d.attach o value

def plain (t : Text) (d : Draft) : Except Stop Draft :=
  match d.pending with
  | some ⟨o, none⟩ => .ok { d with pending := some ⟨o, some t⟩ }
  | _ => .error (.unknown t)

def argument (t : Text) (d : Draft) : Except Stop Draft :=
  match t with
  | '-' :: '-' :: name => d.long name
  | '-' :: c :: keys => d.shorts (c :: keys)
  | t => d.plain t

def arguments : List Text → Draft → Except Stop Draft
  | [], d => d.settle
  | t :: rest, d =>
    if t = "--".toList then
      match rest with
      | [] => d.settle
      | other :: _ => .error (.unknown other)
    else do arguments rest (← d.argument t)

end Draft

def accept (args : List Text) : Except Stop Given := do
  let d ← Draft.arguments args {}
  d.given.complete

def read (home : Text) (args : List Text) : Except Stop Run.Config := do
  let g ← accept args
  match g.config home with
  | .ok c => return c
  | .error misfit => throw misfit.stop

end RefPages.Command
