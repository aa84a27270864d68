import RefPages.Json.Quoted

namespace RefPages.Json

inductive Value where
  | number (n : Nat)
  | string (t : Text)
  | list (items : List Value)
  | record (fields : List (Text × Value))
  deriving Repr

namespace Value

def newLine (depth : Nat) : Text :=
  '\n' :: List.replicate (2 * depth) ' '

mutual

def pieces (depth : Nat) : Value → List Text
  | number n => [Text.ofNat 10 n]
  | string t => [Quoted.write t]
  | list [] => ["[]".toList]
  | list (v :: rest) =>
    ['['] :: newLine (depth + 1) :: pieces (depth + 1) v ++ itemPieces (depth + 1) rest ++
      [newLine depth, [']']]
  | record [] => ["\x7b\x7d".toList]
  | record ((key, v) :: rest) =>
    ['\x7b'] :: newLine (depth + 1) :: Quoted.write key :: ": ".toList :: pieces (depth + 1) v ++
      fieldPieces (depth + 1) rest ++ [newLine depth, ['\x7d']]

def itemPieces (depth : Nat) : List Value → List Text
  | [] => []
  | v :: rest => [','] :: newLine depth :: pieces depth v ++ itemPieces depth rest

def fieldPieces (depth : Nat) : List (Text × Value) → List Text
  | [] => []
  | (key, v) :: rest =>
    [','] :: newLine depth :: Quoted.write key :: ": ".toList :: pieces depth v ++
      fieldPieces depth rest

end

end Value
end RefPages.Json
