import RefPages.Text.Utf8

namespace RefPages

inductive Sink.Full where
  | refuses
  | takesNothing
  deriving DecidableEq, Repr

def Sink.Full.message : Sink.Full → Text
  | refuses => "disk full".toList
  | takesNothing => "failed to write whole buffer".toList

structure Sink where
  room : Option Nat
  full : Sink.Full
  taken : List UInt8 := []
  deriving DecidableEq, Repr

namespace Sink

def writeBytes (bytes : List UInt8) (s : Sink) : Except Full Unit × Sink :=
  match s.room with
  | none => (.ok (), { s with taken := s.taken ++ bytes })
  | some room =>
    let s' := { s with taken := s.taken ++ bytes.take room, room := some (room - bytes.length) }
    if bytes.length ≤ room then (.ok (), s') else (.error s.full, s')

def writeAll : List Text → Sink → Except Full Unit × Sink
  | [], s => (.ok (), s)
  | piece :: rest, s =>
    match s.writeBytes (Text.Utf8.encode piece) with
    | (.error e, s) => (.error e, s)
    | (.ok (), s) => writeAll rest s

end Sink
end RefPages
