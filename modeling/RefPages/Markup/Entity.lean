import RefPages.Markup.Entity.Table
import RefPages.Text.Digits
import RefPages.Text.Words
import Std.Data.HashMap

namespace RefPages.Markup.Entity

def entry (t : Text) : String × Text :=
  (String.ofList (t.takeWhile (· ≠ ':')),
    (((t.dropWhile (· ≠ ':')).drop 1).splitOn '+').map fun code => Char.ofNat ((Text.number? 16 code).getD 0))

def table : Std.HashMap String Text :=
  .ofList ((Text.words namesAndCodes.toList).map entry)

def bare : Std.HashMap String Unit :=
  .ofList ((Text.words namesWithoutSemicolon.toList).map fun name => (String.ofList name, ()))

def find? (name : Text) : Option Text :=
  table[String.ofList name]?

def longestBare? (run : Text) : Option (Text × Nat) :=
  -- No bare name is longer than six characters.
  [6, 5, 4, 3, 2].findSome? fun n =>
    let name := run.take n
    if name.length = n ∧ bare.contains (String.ofList name) then (find? name).map (·, n) else none

end RefPages.Markup.Entity
