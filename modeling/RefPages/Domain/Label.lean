import RefPages.Domain.Mapping
import RefPages.Domain.Normal
import RefPages.Domain.Punycode

namespace RefPages.Domain.Label

def encodedMark : Text :=
  "xn--".toList

def nonJoiner : Char := '\u200C'

def joiner : Char := '\u200D'

def isTransparent (c : Char) : Bool :=
  Property.joining? c == some .transparent

def joinsNext (side : Joining) (t : Text) : Bool :=
  match t.dropWhile isTransparent with
  | [] => false
  | c :: _ => Property.joining? c == some side || Property.joining? c == some .dual

def joinersFit (before : Text) : Text → Bool
  | [] => true
  | c :: rest =>
    let behindVirama := before.head?.any fun d => Property.combiningClass d == Property.virama
    let fits :=
      if c = nonJoiner then behindVirama || joinsNext .left before && joinsNext .right rest
      else if c = joiner then behindVirama
      else true
    fits && joinersFit (c :: before) rest

def isSettled (c : Char) : Bool :=
  Mapping.mapChar c == some [c]

def isAscii (t : Text) : Bool :=
  t.all Punycode.isBasic

def isProper (label : Text) : Bool :=
  !label.head?.any Property.isMark && joinersFit [] label

def decode (label : Text) : Option Text :=
  if encodedMark.isPrefixOf label then
    if isAscii label then
      -- It holds what mapping would have made, and something that had to be encoded.
      (Punycode.decode (label.drop encodedMark.length)).filter fun t =>
        !isAscii t && t.all isSettled && Normal.normalize t == t && isProper t
    else none
  else if isAscii label || isProper label then some label
  else none

def encode (label : Text) : Text :=
  if isAscii label then label else encodedMark ++ Punycode.encode label

def runsLeft (c : Char) : Bool :=
  [Direction.right, .arabicLetter, .arabicNumber].contains (Property.direction c)

def withoutMarks (directions : List Direction) : List Direction :=
  (directions.reverse.dropWhile (· = .mark)).reverse

def commonDirections : List Direction :=
  [.number, .separator, .terminator, .commonSeparator, .neutral, .boundary, .mark]

def runsOneWay (label : Text) : Bool :=
  let directions := label.map Property.direction
  let last := (withoutMarks directions).getLast?
  match directions with
  | [] => true
  | .left :: _ =>
    directions.all (fun d => d = .left || commonDirections.contains d) &&
      (last = some .left || last = some .number)
  | .right :: _ | .arabicLetter :: _ =>
    directions.all (fun d => [.right, .arabicLetter, .arabicNumber].contains d ||
        commonDirections.contains d) &&
      [some .right, some .arabicLetter, some .number, some .arabicNumber].contains last &&
      !(directions.contains .number && directions.contains .arabicNumber)
  | _ => false

end RefPages.Domain.Label
