import RefPages.Text.Digits
import RefPages.Text.Utf8

namespace RefPages.Url.Percent

def isControl (c : Char) : Bool :=
  c.toNat < 0x20 || 0x7F ≤ c.toNat

def inQuery (c : Char) : Bool :=
  isControl c || " \"#<>".toList.contains c

def inSpecialQuery (c : Char) : Bool :=
  inQuery c || c == '\''

def inFragment (c : Char) : Bool :=
  isControl c || " \"<>\x60".toList.contains c

def inPath (c : Char) : Bool :=
  inFragment c || "#?\x7b\x7d".toList.contains c

def inCredentials (c : Char) : Bool :=
  inPath c || "/:;=@[\\]^|".toList.contains c

def encodeByte (b : UInt8) : Text :=
  let digit d := (Nat.digitChar d).toUpper
  ['%', digit (b.toNat / 16), digit (b.toNat % 16)]

def encode (inSet : Char → Bool) (t : Text) : Text :=
  t.flatMap fun c => if inSet c then (Text.Utf8.encode [c]).flatMap encodeByte else [c]

def bytes : Text → List UInt8
  | [] => []
  | '%' :: a :: b :: rest =>
    match Text.number? 16 [a, b] with
    | some n => n.toUInt8 :: bytes rest
    | none => Text.Utf8.encode ['%'] ++ bytes (a :: b :: rest)
  | c :: rest => Text.Utf8.encode [c] ++ bytes rest

def decode (t : Text) : Text :=
  Text.Utf8.decode (bytes t)

end RefPages.Url.Percent
