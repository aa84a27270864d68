import RefPages.Domain.Mapping.Table
import RefPages.Domain.Span
import RefPages.Text.Words

namespace RefPages.Domain.Mapping

inductive Rule where
  | disallowed
  | ignored
  | replaced (texts : List Text)
  | moved (every : Nat) (distance : Int)
  deriving Repr

def codes (t : Text) : Text :=
  (t.splitOn '+').map fun code => Char.ofNat (Span.hex code)

def rule : Text → Rule
  | '!' :: _ => .disallowed
  | '~' :: _ => .ignored
  | '+' :: n => .moved 1 (Span.hex n)
  | '-' :: n => .moved 1 (-Span.hex n)
  | '/' :: '+' :: n => .moved 2 (Span.hex n)
  | '/' :: '-' :: n => .moved 2 (-Span.hex n)
  | ':' :: texts => .replaced ((texts.splitOn ',').map codes)
  | _ => .disallowed

def ofRow (row : Text) : Span Rule :=
  let (first, last, rest) := Span.ends row
  match rule rest with
  | .replaced texts => ⟨first, first + texts.length - 1, .replaced texts⟩
  | r => ⟨first, last, r⟩

def table : Array (Span Rule) :=
  ((Text.words rows.toList).map ofRow).toArray

def Rule.apply (c : Char) (i : Nat) : Rule → Option Text
  | .disallowed => none
  | .ignored => some []
  | .replaced texts => texts[i]?
  | .moved every distance =>
    if i % every = 0 then some [Char.ofNat (c.toNat + distance).toNat] else some [c]

def mapBy (c : Char) : Option (Span Rule) → Option Text
  | none => some [c]
  | some s => s.value.apply c (c.toNat - s.first)

def mapChar (c : Char) : Option Text :=
  if c.toNat < 0x80 then some [c.toLower] else mapBy c (Span.find? table c)

def mapText (t : Text) : Option Text :=
  (t.mapM mapChar).map List.flatten

end RefPages.Domain.Mapping
