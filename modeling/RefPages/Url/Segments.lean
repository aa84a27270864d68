import RefPages.Url.Basic
import RefPages.Url.Percent

namespace RefPages.Url.Segments

def isSlash (c : Char) : Bool :=
  c == '/' || c == '\\'

def split (scheme t : Text) : List Text :=
  if isSpecial scheme then t.splitOnP isSlash else t.splitOn '/'

def dots? (segment : Text) : Option Nat :=
  match (segment.map Char.toLower) with
  | ['.'] | ['%', '2', 'e'] => some 1
  | ['.', '.'] | ['.', '%', '2', 'e'] | ['%', '2', 'e', '.'] | ['%', '2', 'e', '%', '2', 'e'] =>
    some 2
  | _ => none

def isDrive : Text → Bool
  | [c, d] => c.isAlpha && (d == ':' || d == '|')
  | _ => false

def isNormalDrive (segment : Text) : Bool :=
  isDrive segment && segment.getLast? == some ':'

def leave : List Text → List Text
  | [] => []
  | place :: above => if isDrive place then place :: above else above

/-- Goes through the segments from a list of places, in reverse; the last segment is not a place but
is in one. -/
def walk (places : List Text) : List Text → List Text
  | [] => ([] :: places).reverse
  | [last] =>
    match dots? last with
    | none => (last :: places).reverse
    | some 1 => ([] :: places).reverse
    | some _ => ([] :: leave places).reverse
  | segment :: rest =>
    match dots? segment with
    | none => walk (segment :: places) rest
    | some 1 => walk places rest
    | some _ => walk (leave places) rest

def follow (scheme : Text) (places : List Text) (t : Text) : List Text :=
  walk places.reverse ((split scheme t).map (Percent.encode Percent.inPath))

def places (list : List Text) : List Text :=
  list.dropLast

end RefPages.Url.Segments
