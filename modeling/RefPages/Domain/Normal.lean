import RefPages.Domain.Normal.Table
import RefPages.Domain.Property
import RefPages.Text.Words
import Std.Data.HashMap

namespace RefPages.Domain

namespace Normal

def ofRow (row : Text) : Nat × Nat × Nat :=
  let parts := ((row.dropWhile (· ≠ ':')).drop 1).splitOn '+'
  (Span.hex (row.takeWhile (· ≠ ':')), Span.hex (parts.headD []), Span.hex ((parts.drop 1).headD []))

def table : List (Nat × Nat × Nat) :=
  (Text.words composites.toList).map ofRow

def parts : Std.HashMap Nat (Nat × Nat) :=
  .ofList table

def wholes : Std.HashMap (Nat × Nat) Nat :=
  .ofList (table.map fun (whole, two) => (two, whole))

def syllables : Nat := 0xAC00

def leading : Nat := 0x1100

def vowels : Nat := 0x1161

def trailing : Nat := 0x11A7

def letters (i : Nat) : List Nat :=
  let two := [leading + i / 588, vowels + i % 588 / 28]
  if i % 28 = 0 then two else two ++ [trailing + i % 28]

def unfold (parts? : Nat → Option (Nat × Nat)) : (fuel : Nat) → Nat → List Nat
  | 0, n => [n]
  | fuel + 1, n =>
    if syllables ≤ n ∧ n < syllables + 11172 then letters (n - syllables)
    else match parts? n with
      | none => [n]
      | some (first, second) => unfold parts? fuel first ++ [second]

def units (c : Char) : Text :=
  (unfold (parts[·]?) 8 c.toNat).map Char.ofNat

def compose? (first second : Char) : Option Char :=
  let a := first.toNat
  let b := second.toNat
  if leading ≤ a ∧ a < leading + 19 ∧ vowels ≤ b ∧ b < vowels + 21 then
    some (Char.ofNat (syllables + ((a - leading) * 21 + (b - vowels)) * 28))
  else if syllables ≤ a ∧ a < syllables + 11172 ∧ (a - syllables) % 28 = 0 ∧
      trailing < b ∧ b < trailing + 28 then
    some (Char.ofNat (a + (b - trailing)))
  else wholes[(a, b)]?.map Char.ofNat

end Normal

structure Forms where
  classOf : Char → Nat
  units : Char → Text
  compose? : Char → Char → Option Char

namespace Forms

variable (f : Forms)

def decompose (t : Text) : Text :=
  t.flatMap f.units

def insertMark (c : Char) (read : Text) : Text :=
  let higher := read.takeWhile fun d => f.classOf c ≠ 0 && f.classOf c < f.classOf d
  higher ++ c :: read.drop higher.length

def order (t : Text) : Text :=
  (t.foldl (fun read c => f.insertMark c read) []).reverse

def isFree (c : Char) : (marks : Text) → Bool
  | [] => true
  | m :: _ => f.classOf m < f.classOf c

def composeFrom (starter : Char) (marks : Text) : Text → Text
  | [] => starter :: marks.reverse
  | c :: rest =>
    -- A mark of its class between the two keeps `c` from composing.
    match (if f.isFree c marks then f.compose? starter c else none) with
    | some whole => composeFrom whole marks rest
    | none =>
      if f.classOf c = 0 then starter :: marks.reverse ++ composeFrom c [] rest
      else composeFrom starter (c :: marks) rest

def compose : Text → Text
  | [] => []
  | c :: rest => f.composeFrom c [] rest

def normalize (t : Text) : Text :=
  f.compose (f.order (f.decompose t))

end Forms

namespace Normal

def known : Forms where
  classOf := Property.combiningClass
  units := units
  compose? := compose?

def normalize (t : Text) : Text :=
  known.normalize t

end Normal
end RefPages.Domain
