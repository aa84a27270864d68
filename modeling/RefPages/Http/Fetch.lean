import RefPages.Http.Network
import RefPages.Noted
import RefPages.Url.Parse

namespace RefPages.Http

inductive Failure where
  | address (fault : Url.Fault)
  | scheme (u : Url)
  | refused (causes : List Text) (u : Url)
  | redirects (u : Url)
  | status (code : Nat) (u : Url)
  | body (causes : List Text)
  deriving DecidableEq, Repr

namespace Failure

def statusText (code : Nat) : Text :=
  let kind := match Status.blame? code with
    | some .client => "client"
    | _ => "server"
  "HTTP status ".toList ++ kind.toList ++ " error (".toList ++ Status.text code ++ [')']

def forUrl (u : Url) (what : Text) : Text :=
  what ++ " for url (".toList ++ (openly u).text ++ [')']

def message : Failure → Text
  | address _ => "builder error".toList
  | scheme u => forUrl u "builder error".toList
  | refused _ u => forUrl u "error sending request".toList
  | redirects u => forUrl u.withoutFragment "error following redirect".toList
  | status code u => forUrl u.withoutFragment (statusText code)
  | body _ => "error decoding response body".toList

def causes : Failure → List Text
  | address fault => [fault.message]
  | scheme _ => ["URL scheme is not allowed".toList]
  | refused causes _ | body causes => causes
  | redirects _ => ["too many redirects".toList]
  | status _ _ => []

def status? : Failure → Option Nat
  | status code _ => some code
  | _ => none

end Failure

def redirectLimit : Nat := 5

def redirectOf? (u : Url) (r : Response) : Option Url :=
  if Status.isRedirect r.status then r.location.bind fun l => (Url.join u l).toOption else none

def isSpoken (u : Url) : Bool :=
  u.scheme == "http".toList || u.scheme == "https".toList

/-- Asks for an address, and then for those that the responses send on to. `left` is the number of
redirects that may still be followed. -/
def follow (net : Network) (first : Url) (left : Nat) (u : Url) :
    Noted Text (Except Failure (Url × Response)) :=
  if !isSpoken u then pure (.error (.scheme u))
  else
    match net.answer u with
    | .unreached causes => pure (.error (.refused causes first))
    | .lost causes => do
      Noted.note (asked u)
      return .error (.refused causes first)
    | .response r => do
      Noted.note (asked u)
      match redirectOf? u r, left with
      | none, _ => return .ok (u, r)
      | some _, 0 => return .error (.redirects u)
      | some next, left + 1 => follow net first left next

def Network.read (net : Network) (final : Url) (r : Response) : Except Failure (Nat × Text) :=
  if Status.isFailure r.status then .error (.status r.status final)
  else
    match net.text r with
    | .error causes => .error (.body causes)
    | .ok text => .ok (r.status, text)

def fetch (net : Network) (u : Url) : Noted Text (Except Failure (Nat × Text)) := do
  return (← follow net u redirectLimit u).bind fun (final, r) => net.read final r

def fetchText (net : Network) (address : Text) : Noted Text (Except Failure (Nat × Text)) :=
  match Url.parse address with
  | .error fault => pure (.error (.address fault))
  | .ok u => fetch net u

end RefPages.Http
