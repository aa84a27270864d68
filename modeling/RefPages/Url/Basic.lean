import RefPages.Text.Digits

/-!
Addresses. All parts are held as they are written, with what must be encoded encoded.
-/

namespace RefPages

inductive Host where
  | name (t : Text)
  | ipv4 (address : Nat)
  | ipv6 (pieces : List Nat)
  deriving DecidableEq, Repr

/-- A path is a list of segments, each written behind a slash, unless the address is one that
nothing can be relative to. -/
inductive Path where
  | segments (list : List Text)
  | plain (t : Text)
  deriving DecidableEq, Repr

structure Url where
  scheme : Text
  username : Text := []
  password : Text := []
  host : Option Host := none
  port : Option Nat := none
  path : Path
  query : Option Text := none
  fragment : Option Text := none
  deriving DecidableEq, Repr

namespace Url

inductive Fault where
  | noBase
  | baseHasNoPath
  | emptyHost
  | port
  | ipv4
  | ipv6
  | domain
  | hostCharacter
  deriving DecidableEq, Repr

def Fault.message : Fault → Text
  | noBase => "relative URL without a base".toList
  | baseHasNoPath => "relative URL with a cannot-be-a-base base".toList
  | emptyHost => "empty host".toList
  | port => "invalid port number".toList
  | ipv4 => "invalid IPv4 address".toList
  | ipv6 => "invalid IPv6 address".toList
  | domain => "invalid international domain name".toList
  | hostCharacter => "invalid domain character".toList

structure Invalid where
  address : Text
  fault : Fault
  deriving DecidableEq, Repr

def Invalid.message (e : Invalid) : Text :=
  "Invalid URL: ".toList ++ e.address ++ ": ".toList ++ e.fault.message

end Url

namespace Host

def zeroRun (start : Nat) : List Nat → Nat × Nat
  | [] => (start, 0)
  | n :: rest =>
    let here := ((n :: rest).takeWhile (· = 0)).length
    let later := zeroRun (start + 1) rest
    if later.2 ≤ here then (start, here) else later

def joinPieces (pieces : List Nat) : Text :=
  [':'].intercalate (pieces.map (Text.ofNat 16))

def ipv6Text (pieces : List Nat) : Text :=
  let (start, length) := zeroRun 0 pieces
  if length < 2 then joinPieces pieces
  else joinPieces (pieces.take start) ++ "::".toList ++ joinPieces (pieces.drop (start + length))

def ipv4Text (n : Nat) : Text :=
  ['.'].intercalate ([n / 16777216, n / 65536 % 256, n / 256 % 256, n % 256].map (Text.ofNat 10))

def text : Host → Text
  | name t => t
  | ipv4 n => ipv4Text n
  | ipv6 pieces => '[' :: ipv6Text pieces ++ [']']

end Host

namespace Path

def text : Path → Text
  | segments list => list.flatMap ('/' :: ·)
  | plain t => t

end Path

namespace Url

def credentials (u : Url) : Text :=
  if u.username.isEmpty && u.password.isEmpty then []
  else u.username ++ (if u.password.isEmpty then [] else ':' :: u.password) ++ ['@']

def authority (u : Url) : Text :=
  match u.host with
  | some h =>
    "//".toList ++ u.credentials ++ h.text ++ (u.port.map fun p => ':' :: Text.ofNat 10 p).getD []
  | none =>
    match u.path with
    -- Two slashes would be taken for those of a host.
    | .segments ([] :: _ :: _) => "/.".toList
    | _ => []

def behind (sign : Char) (part : Option Text) : Text :=
  (part.map (sign :: ·)).getD []

def front (u : Url) : Text :=
  u.scheme ++ ':' :: u.authority ++ u.path.text

def text (u : Url) : Text :=
  u.front ++ behind '?' u.query ++ behind '#' u.fragment

/-- The address without its fragment. A plain path that has become the end of the address loses
its trailing spaces. -/
def withoutFragment (u : Url) : Url :=
  let path := match u.path, u.query with
    | .plain t, none => .plain (t.reverse.dropWhile (· = ' ')).reverse
    | path, _ => path
  { u with path, fragment := none }

def defaultPort? (scheme : Text) : Option Nat :=
  match String.ofList scheme with
  | "http" | "ws" => some 80
  | "https" | "wss" => some 443
  | "ftp" => some 21
  | _ => none

def isFile (scheme : Text) : Bool :=
  scheme == "file".toList

def isSpecial (scheme : Text) : Bool :=
  isFile scheme || (defaultPort? scheme).isSome

end Url
end RefPages
