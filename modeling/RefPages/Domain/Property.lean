import RefPages.Domain.Property.Table
import RefPages.Domain.Span
import RefPages.Text.Words

namespace RefPages.Domain

inductive Direction where
  | left
  | right
  | arabicLetter
  | arabicNumber
  | number
  | separator
  | terminator
  | commonSeparator
  | neutral
  | boundary
  | mark
  deriving DecidableEq, Repr

inductive Joining where
  | left
  | right
  | dual
  | transparent
  deriving DecidableEq, Repr

namespace Property

def spans {α : Type} (value : Text → α) (rows : String) : Array (Span α) :=
  ((Text.words rows.toList).map (Span.ofRow value)).toArray

def combiningTable : Array (Span Nat) :=
  spans (fun t => (Text.number? 10 t).getD 0) combiningClasses

def markTable : Array (Span Unit) :=
  spans (fun _ => ()) marks

def directionOf (t : Text) : Direction :=
  match String.ofList t with
  | "R" => .right
  | "AL" => .arabicLetter
  | "AN" => .arabicNumber
  | "EN" => .number
  | "ES" => .separator
  | "ET" => .terminator
  | "CS" => .commonSeparator
  | "ON" => .neutral
  | "BN" => .boundary
  | "NSM" => .mark
  | _ => .left

def directionTable : Array (Span Direction) :=
  spans directionOf directions

def joiningOf : Text → Joining
  | ['L'] => .left
  | ['R'] => .right
  | ['D'] => .dual
  | _ => .transparent

def joiningTable : Array (Span Joining) :=
  spans joiningOf joinings

def combiningClass (c : Char) : Nat :=
  (Span.value? combiningTable c).getD 0

def isMark (c : Char) : Bool :=
  (Span.value? markTable c).isSome

def direction (c : Char) : Direction :=
  (Span.value? directionTable c).getD .left

def joining? (c : Char) : Option Joining :=
  Span.value? joiningTable c

def virama : Nat := 9

end Property
end RefPages.Domain
