import RefPages.Url.File

namespace RefPages.Url

def isIgnored (c : Char) : Bool :=
  c == '\t' || c == '\n' || c == '\r'

def prepare (t : Text) : Text :=
  let isOuter (c : Char) := c.toNat ≤ 0x20
  (((t.dropWhile isOuter).reverse.dropWhile isOuter).reverse).filter fun c => !isIgnored c

def isSchemeChar (c : Char) : Bool :=
  c.isAlphanum || c == '+' || c == '-' || c == '.'

def splitScheme (t : Text) : Option (Text × Text) :=
  match t.takeWhile isSchemeChar, t.dropWhile isSchemeChar with
  | c :: scheme, ':' :: rest =>
    if c.isAlpha then some ((c :: scheme).map Char.toLower, rest) else none
  | _, _ => none

structure Reference where
  front : Text
  query : Option Text
  fragment : Option Text

namespace Reference

def splitAt (sign : Char) (t : Text) : Text × Option Text :=
  match t.dropWhile (· ≠ sign) with
  | [] => (t, none)
  | _ :: rest => (t.takeWhile (· ≠ sign), some rest)

def ofText (t : Text) : Reference :=
  let (t, fragment) := splitAt '#' t
  let (front, query) := splitAt '?' t
  ⟨front, query, fragment⟩

end Reference

def finish (r : Reference) (u : Url) : Url :=
  let inQuery := if isSpecial u.scheme then Percent.inSpecialQuery else Percent.inQuery
  { u with
    query := r.query.map (Percent.encode inQuery)
    fragment := r.fragment.map (Percent.encode Percent.inFragment) }

def withAuthority (scheme : Text) (t : Text) : Except Fault Url := do
  let isEnd c := if isSpecial scheme then Segments.isSlash c else c == '/'
  let authority := t.takeWhile fun c => !isEnd c
  let (u, left) ← readAuthority { scheme, path := .segments [] } authority
  let rest := left ++ t.dropWhile fun c => !isEnd c
  let list :=
    if rest.isEmpty && !isSpecial scheme then []
    else Segments.follow scheme [] (if rest.head?.any isEnd then rest.drop 1 else rest)
  return { u with path := .segments list }

def placesOf : Path → List Text
  | .segments list => Segments.places list
  | .plain _ => []

def relative (base : Url) (t : Text) : Except Fault Url :=
  if isFile base.scheme then File.resolve (some base) t
  else
    let slashes := (t.takeWhile Segments.isSlash).length
    if "//".toList.isPrefixOf t then withAuthority base.scheme (t.drop 2)
    else if 2 ≤ slashes then withAuthority base.scheme (t.drop slashes)
    else
      let list :=
        if slashes = 1 then Segments.follow base.scheme [] (t.drop 1)
        else Segments.follow base.scheme (placesOf base.path) t
      .ok { base with path := .segments list }

def resolve (base : Url) (r : Reference) : Except Fault Url :=
  if r.front.isEmpty then
    match r.query with
    | none => .ok { finish r base with query := base.query }
    | some _ => .ok (finish r base)
  else (relative base r.front).map (finish r)

def withScheme (base : Option Url) (scheme : Text) (r : Reference) : Except Fault Url :=
  let kin := base.filter (·.scheme == scheme)
  let slashes := (r.front.takeWhile Segments.isSlash).length
  if isFile scheme then
    match kin with
    | some b => resolve b r
    | none => (File.resolve none r.front).map (finish r)
  else if isSpecial scheme then
    match kin with
    | some b =>
      if slashes < 2 then resolve b r
      else (withAuthority scheme (r.front.drop slashes)).map (finish r)
    | none => (withAuthority scheme (r.front.drop slashes)).map (finish r)
  else
    match r.front with
    | '/' :: '/' :: t => (withAuthority scheme t).map (finish r)
    | '/' :: t => .ok (finish r { scheme, path := .segments (Segments.follow scheme [] t) })
    | t => .ok (finish r { scheme, path := .plain (Percent.encode Percent.isControl t) })

def parseFrom (base : Option Url) (t : Text) : Except Fault Url :=
  let t := prepare t
  match splitScheme t, base with
  | some (scheme, rest), _ => withScheme base scheme (Reference.ofText rest)
  | none, none => .error .noBase
  | none, some b =>
    match t, b.path with
    | '#' :: _, _ => resolve b (Reference.ofText t)
    | _, .plain _ => .error .baseHasNoPath
    | _, .segments _ => resolve b (Reference.ofText t)

def parse (t : Text) : Except Fault Url :=
  parseFrom none t

def join (base : Url) (t : Text) : Except Fault Url :=
  parseFrom (some base) t

end RefPages.Url
