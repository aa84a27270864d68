import RefPages.Url.Authority
import RefPages.Url.Segments

namespace RefPages.Url.File

open Segments

def segments (places : List Text) (t : Text) : List Text :=
  let parts := (split "file".toList t).dropWhile (·.isEmpty)
  let parts := match places, parts with
    | [], first :: rest =>
      (if isDrive first then first.take 1 ++ [':'] else first) :: rest
    | _, _ => parts
  match (walk places.reverse (parts.map (Percent.encode Percent.inPath))).dropWhile (·.isEmpty) with
  | [] => [[]]
  | list => list

def beginsWithDrive (t : Text) : Bool :=
  isDrive (t.takeWhile fun c => !isSlash c)

def noHost : Option Host :=
  some (.name [])

def hostOf (t : Text) : Except Fault Host :=
  if t.isEmpty then .ok (.name [])
  else (specialHost t).map fun h =>
    if h = .name "localhost".toList then .name [] else h

def withHost (t : Text) : Except Fault Url :=
  let hostText := t.takeWhile fun c => !isSlash c
  let scheme := "file".toList
  if isDrive hostText then
    .ok { scheme, host := noHost, path := .segments (segments [] t) }
  else do
    let host ← hostOf hostText
    let rest := t.dropWhile fun c => !isSlash c
    let list := segments [] rest
    return { scheme, host := if list.head?.any isDrive then noHost else some host,
             path := .segments list }

def driveOf : Path → List Text
  | .segments (first :: _) => if isNormalDrive first then [first] else []
  | _ => []

def placesOf : Path → List Text
  | .segments [only] => if isNormalDrive only then [only] else []
  | .segments list => places list
  | .plain _ => []

def resolve (base : Option Url) : Text → Except Fault Url
  | c :: d :: t =>
    if isSlash c && isSlash d then withHost t
    else .ok (within base (c :: d :: t))
  | t => .ok (within base t)
where
  within (base : Option Url) (t : Text) : Url :=
    let scheme := "file".toList
    match base, t.head?.any isSlash with
    | some b, true =>
      let rest := t.drop 1
      if beginsWithDrive rest then
        { scheme, host := noHost, path := .segments (segments [] rest) }
      else
        let drive := driveOf b.path
        let host := if drive.isEmpty then b.host else noHost
        { scheme, host, path := .segments (segments drive rest) }
    | some b, false =>
      if beginsWithDrive t then
        { scheme, host := noHost, path := .segments (segments [] t) }
      else { scheme, host := b.host, path := .segments (segments (placesOf b.path) t) }
    | none, _ => { scheme, host := noHost, path := .segments (segments [] t) }

end RefPages.Url.File
