import RefPages.Page.Extract
import RefPages.Prose
import RefPages.Scan.Feed
import RefPages.Text.Lines

/-!
Extraction from the raw markup. A line that holds a marker begins regions, one for each time the
marker stands on it; a region ends where its container closes, on that line or a later one. Lines
that a region has taken are not searched again.
-/

namespace RefPages.Page

inductive Section where
  | synopsis
  | errors
  deriving DecidableEq, Repr

namespace Section

def marker : Section → Text
  | synopsis => "funcsynopsis".toList
  | errors => "<h2>Errors</h2>".toList

def onLine? (line : Text) : Option Section :=
  -- On a line with both markers only the synopsis begins.
  if Text.contains synopsis.marker line then some synopsis
  else if Text.contains errors.marker line then some errors
  else none

end Section

def container : Text :=
  "div".toList

def fromMarkerEnd (marker after : Text) : Text :=
  marker.getLast?.toList ++ after

theorem length_rest_lt {marker before after region : Text} {f content rest : Feed}
    (hs : Text.splitAt? marker [] f.ahead = some (before, after))
    (hc : Feed.afterClose (fromMarkerEnd marker after) f.pending = some content)
    (hr : content.region container = some (region, rest)) :
    rest.text.length < f.text.length := by
  have h₁ := congrArg List.length (Text.splitAt?_append hs)
  have h₂ := (Feed.afterClose_suffix hc).length_le
  have h₃ := congrArg List.length (Feed.region_append hr)
  have h₄ : marker.getLast?.toList.length ≤ marker.length := by
    cases marker with
    | nil => simp
    | cons c t => simp [List.getLast?_cons]
  simp only [fromMarkerEnd, Feed.text, List.length_append, List.length_cons, List.reverse_nil,
    List.nil_append] at h₁ h₂ h₃ ⊢
  omega

/-- The strings of all regions that `marker` begins in the loaded part of the feed, and the lines
not loaded for them. The content of a region begins past the first `>` at or after the last
character of its marker. -/
def marked (marker : Text) (f : Feed) : Except Unclosed (List Text × List Text) :=
  match _hs : Text.splitAt? marker [] f.ahead with
  | none => .ok ([], f.pending)
  | some (_, after) =>
    match _hc : Feed.afterClose (fromMarkerEnd marker after) f.pending with
    | none => .error ⟨marker⟩
    | some content =>
      match _hr : content.region container with
      | none => .error ⟨container⟩
      | some (region, rest) =>
        match marked marker rest with
        | .error e => .error e
        | .ok (strings, pending) => .ok (Prose.strings region ++ strings, pending)
termination_by f.text.length
decreasing_by exact length_rest_lt _hs _hc _hr

theorem unread_marked_le {marker : Text} {f : Feed} {strings pending : List Text}
    (h : marked marker f = .ok (strings, pending)) :
    (Feed.unread pending).length ≤ f.text.length := by
  fun_induction marked marker f generalizing strings pending with
  | case1 => cases h; simp [Feed.text]
  | case2 => simp at h
  | case3 => simp at h
  | case4 => simp at h
  | case5 f before after hs content hc region rest hr strings' pending' hm ih =>
    cases h
    exact Nat.le_trans (ih hm) (Nat.le_of_lt (length_rest_lt hs hc hr))

structure Block where
  part : Section
  strings : List Text
  deriving DecidableEq, Repr

namespace Block

def extract (b : Block) : Extract :=
  match b.part with
  | .synopsis => { signatures := b.strings }
  | .errors => { errors := b.strings }

def extractAll (bs : List Block) : Extract :=
  bs.foldr (fun b e => b.extract ++ e) {}

end Block

def blocks : (lines : List Text) → List Block × Option Unclosed
  | [] => ([], none)
  | line :: pending =>
    match Section.onLine? line with
    | none => blocks pending
    | some s =>
      match _hm : marked s.marker ⟨line, pending⟩ with
      | .error e => ([], some e)
      | .ok (found, rest) =>
        let (more, fault) := blocks rest
        (⟨s, found⟩ :: more, fault)
termination_by lines => (Feed.unread lines).length
decreasing_by
  · simp only [Feed.unread_cons, List.length_append, List.length_cons]
    omega
  · have := unread_marked_le _hm
    simp only [Feed.text, Feed.unread_cons, List.length_append, List.length_cons] at this ⊢
    omega

def scan (body : Text) : Except Unclosed Extract :=
  match blocks (Text.lines body) with
  | (bs, none) => .ok (Block.extractAll bs)
  | (_, some e) => .error e

end RefPages.Page
