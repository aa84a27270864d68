import RefPages.Domain.Name
import RefPages.Url.Ip
import RefPages.Url.Percent

namespace RefPages.Url

def isForbiddenInHost (c : Char) : Bool :=
  "\x00\t\n\r #/:<>?@[\\]^|".toList.contains c

def bracketed (t : Text) : Except Fault Host :=
  if t.length < 2 ∨ t.getLast? ≠ some ']' then .error .ipv6
  else match Ip.ipv6? (t.drop 1).dropLast with
    | none => .error .ipv6
    | some pieces => .ok (.ipv6 pieces)

def specialHost (t : Text) : Except Fault Host :=
  if t.head? = some '[' then bracketed t
  else match Domain.toAscii? (Percent.decode t) with
    | none => .error .domain
    | some [] => .error .emptyHost
    | some name =>
      if Ip.endsInNumber name then
        match Ip.ipv4? name with
        | none => .error .ipv4
        | some n => .ok (.ipv4 n)
      else .ok (.name name)

def plainHost (t : Text) : Except Fault Host :=
  if t.head? = some '[' then bracketed t
  else if t.any isForbiddenInHost then .error .hostCharacter
  else .ok (.name (Percent.encode Percent.isControl t))

def splitHost (inBrackets : Bool) : Text → Text × Text
  | [] => ([], [])
  | c :: t =>
    if c = ':' ∧ !inBrackets then ([], c :: t)
    else
      let inBrackets := if c = '[' then true else if c = ']' then false else inBrackets
      let (host, rest) := splitHost inBrackets t
      (c :: host, rest)

def readPort (scheme : Text) (t : Text) : Except Fault (Option Nat × Text) :=
  let digits := t.takeWhile Char.isDigit
  let rest := t.dropWhile Char.isDigit
  match Text.number? 10 digits with
  | none => if rest.isEmpty ∨ rest.head? = some '\\' then .ok (none, rest) else .error .port
  | some n =>
    if n > 65535 then .error .port
    else if rest.isEmpty ∨ rest.head? = some '\\' then
      .ok (if defaultPort? scheme = some n then none else some n, rest)
    else .error .port

def credentialsOf (t : Text) : Text × Text :=
  let encode := Percent.encode Percent.inCredentials
  (encode (t.takeWhile (· ≠ ':')), encode ((t.dropWhile (· ≠ ':')).drop 1))

def splitCredentials (t : Text) : Option Text × Text :=
  let host := (t.reverse.takeWhile (· ≠ '@')).reverse
  if host.length = t.length then (none, t)
  else (some (t.take (t.length - host.length - 1)), host)

def readAuthority (u : Url) (t : Text) : Except Fault (Url × Text) := do
  let (before, rest) := splitCredentials t
  let (username, password) := credentialsOf (before.getD [])
  let (hostText, rest) := splitHost false rest
  if hostText.isEmpty && (isSpecial u.scheme || !rest.isEmpty || before.isSome) then
    throw .emptyHost
  let host ← if isSpecial u.scheme then specialHost hostText else plainHost hostText
  let (port, rest) ← match rest with
    | ':' :: rest => readPort u.scheme rest
    | rest => pure (none, rest)
  -- What is left can begin with a backslash, which then begins the path.
  return ({ u with username, password, host := some host, port }, rest)

end RefPages.Url
