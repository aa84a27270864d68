import RefPages.Harvest.Event
import RefPages.Http.Fetch
import RefPages.Page.Strategy

namespace RefPages.Harvest

inductive Failure where
  | http (failure : Http.Failure)
  | address (invalid : Url.Invalid)
  | unclosed (region : Unclosed)
  deriving DecidableEq, Repr

namespace Failure

def message : Failure → Text
  | http failure => "HTTP request failed: ".toList ++ failure.message
  | address invalid => invalid.message
  | unclosed region => region.message

def causes : Failure → List Text
  | http failure => failure.message :: failure.causes
  | _ => []

def status : Failure → Nat
  | http failure => failure.status?.getD 0
  | _ => 0

end Failure

abbrev Step := Noted Note

def tell (e : Event) : Step Unit :=
  Noted.note (.event e)

def fetchBody (net : Http.Network) (address : Text) : Step (Except Failure (Nat × Text)) := do
  tell (.fetching address)
  return (← (Http.fetchText net address).mapNotes .request).mapError .http

def fetchIndex (net : Http.Network) (address : Text) : Step (Except Failure (List PageLink)) :=
  match Url.parse address with
  | .error fault => pure (.error (.address ⟨address, fault⟩))
  | .ok _ => do
    match ← fetchBody net address with
    | .error failure => return .error failure
    | .ok (_, body) =>
      match Index.links address body with
      | .error invalid => return .error (.address invalid)
      | .ok links =>
        Noted.noteAll (links.map fun link => .event (.linkFound link))
        tell (.indexRead address links.length)
        return .ok links

def blocksOf : Strategy → (body : Text) → List Page.Block
  | .tree, _ => []
  | .raw, body => (Page.blocks (Text.lines body)).1

def readPage (net : Http.Network) (strategy : Strategy) (address : Text) :
    Step (Except Failure (Nat × Extract)) := do
  match ← fetchBody net address with
  | .error failure => return .error failure
  | .ok (status, body) =>
    Noted.noteAll ((blocksOf strategy body).map fun block => .event (.blockRead block))
    match Page.extract strategy body with
    | .error region => return .error (.unclosed region)
    | .ok extract =>
      tell (.pageRead address extract)
      return .ok (status, extract)

def fetchPage (net : Http.Network) (strategy : Strategy) (link : PageLink) : Step PageResult := do
  match ← readPage net strategy link.url with
  | .ok (status, extract) => return ⟨link, status, extract, none⟩
  | .error failure =>
    tell (.pageSkipped link.url failure.message)
    return .failed link failure.status failure.message

def fetchFrom (net : Http.Network) (strategy : Strategy) (total : Nat) :
    (done : Nat) → List PageLink → Step (List PageResult)
  | _, [] => pure []
  | done, link :: links => do
    let result ← fetchPage net strategy link
    Noted.note (.progress (.parsed (done + 1) total result))
    return result :: (← fetchFrom net strategy total (done + 1) links)

/-- The results of all pages in the order of their links, which does not hang on the number of
workers. The notes are those of a single worker. -/
def fetchPages (net : Http.Network) (strategy : Strategy) (workers : Nat)
    (links : List PageLink) : Step (List PageResult) := do
  tell (.harvesting links.length (max workers 1))
  let results ← fetchFrom net strategy links.length 0 links
  tell (.harvested links.length (results.filter fun r => !r.isOk).length)
  return results

end RefPages.Harvest
