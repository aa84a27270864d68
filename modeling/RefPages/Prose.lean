import RefPages.Text.Blank

namespace RefPages.Prose

structure Draft where
  inTag : Bool
  spaced : Bool
  current : Text
  done : List Text

namespace Draft

def empty : Draft :=
  ⟨false, false, [], []⟩

def push (c : Char) (d : Draft) : Draft :=
  { d with current := c :: d.current, spaced := false }

def pushBlank (d : Draft) : Draft :=
  { d with
    current := if d.spaced || d.current.isEmpty then d.current else ' ' :: d.current
    spaced := true }

def pushSign (c : Char) (d : Draft) : Draft :=
  { d with current := ' ' :: c :: d.current, spaced := true }

def flush (d : Draft) : Draft :=
  let text := Text.trim d.current.reverse
  { d with current := [], done := if text.isEmpty then d.done else text :: d.done }

def newString (d : Draft) : Draft :=
  { d.flush with spaced := false }

end Draft

def opensParagraph : Text → Bool
  | 'p' :: c :: _ => c == '>' || isAsciiBlank c
  | _ => false

def pass (d : Draft) : Text → Draft
  | [] => d.flush
  | '<' :: t =>
    pass { (if opensParagraph t then d.newString else d) with inTag := true } t
  | '>' :: t => pass { d with inTag := false } t
  | '&' :: 'g' :: 't' :: ';' :: t =>
    if d.inTag then pass d t else pass (d.pushSign '>') t
  | '&' :: 'l' :: 't' :: ';' :: t =>
    if d.inTag then pass d t else pass (d.pushSign '<') t
  | c :: t =>
    if d.inTag then pass d t
    else if isBlank c then pass d.pushBlank t
    else if c = ';' then pass (d.push c).newString t
    else pass (d.push c) t

def strings (fragment : Text) : List Text :=
  (pass .empty fragment).done.reverse

end RefPages.Prose
