import RefPages.Scan.Feed

/-!
A buffer keeps all that has been loaded, so that places in it can be named by their byte offset.
Both searches answer the offset just past what they look for, and load the lines they need.
-/

namespace RefPages

structure Buffer where
  loaded : Text
  pending : List Text
  deriving DecidableEq, Repr

namespace Buffer

def text (b : Buffer) : Text :=
  b.loaded ++ Feed.unread b.pending

def loadAll (b : Buffer) : Buffer :=
  ⟨b.text, []⟩

def regionEnd (start : Nat) (tag : Text) (b : Buffer) : Except Unclosed Nat × Buffer :=
  let f := Feed.fill (start + Region.lookahead tag) b.loaded b.pending
  let (read, ahead) := Text.cutAfter start [] f.ahead
  match Feed.region tag ⟨ahead, f.pending⟩ with
  | some (region, rest) =>
    (.ok (Text.byteSize read + Text.byteSize region),
      ⟨read.reverse ++ region ++ rest.ahead, rest.pending⟩)
  | none => (.error ⟨tag⟩, b.loadAll)

def closeAfter? (start : Nat) (t : Text) : Option Nat :=
  (Text.from? start t).bind fun rest => (Text.offsetOf? '>' rest).map (start + · + 1)

def seekClose (start : Nat) (loaded : Text) : (pending : List Text) → Option Nat × Buffer
  | [] => (closeAfter? start loaded, ⟨loaded, []⟩)
  | line :: pending =>
    match closeAfter? start loaded with
    | some n => (some n, ⟨loaded, line :: pending⟩)
    | none => seekClose start (loaded ++ '\n' :: line) pending

def contentStart (markerAt : Nat) (marker : Text) (b : Buffer) : Except Unclosed Nat × Buffer :=
  match seekClose (markerAt + (marker.byteSize - 1)) b.loaded b.pending with
  | (some n, b) => (.ok n, b)
  | (none, b) => (.error ⟨marker⟩, b)

inductive Search where
  | regionEnd (start : Option Nat) (tag : Text)
  | contentStart (markerAt : Option Nat) (marker : Text)
  deriving Repr

def Search.run (last : Nat) (b : Buffer) : Search → Except Unclosed Nat × Buffer
  | .regionEnd start tag => b.regionEnd (start.getD last) tag
  | .contentStart at? marker => b.contentStart (at?.getD last) marker

/-- Runs searches one after the other on one buffer. Each answer comes with the buffer after it;
the next search starts where the last one that found something ended. -/
def session (last : Nat) (b : Buffer) : List Search → List (Except Unclosed Nat × Buffer)
  | [] => []
  | s :: rest =>
    let answer := s.run last b
    answer :: session (answer.1.toOption.getD last) answer.2 rest

end Buffer
end RefPages
