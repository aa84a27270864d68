import Mathlib.Logic.ExistsUnique
import RefPages.Proofs.Harvest.Outcome

namespace RefPages.Harvest

open Http (Comes asked)

variable {net : Http.Network} {strategy : Strategy} {link : PageLink}

theorem requests_bind {α β : Type} {x : Step α} {f : α → Step β}
    (hx : Note.requests x.notes = []) (hf : Note.requests (f x.value).notes = []) :
    Note.requests (x >>= f).notes = [] := by
  rw [Noted.notes_bind, Note.requests_append, hx, hf, List.append_nil]

theorem requests_readPage (net : Http.Network) (strategy : Strategy) (address : Text) :
    Note.requests (readPage net strategy address).notes = (Http.fetchText net address).notes := by
  have hbody : Note.requests (fetchBody net address).notes = (Http.fetchText net address).notes := by
    rw [notes_fetchBody]
    exact Note.requests_requests _
  rw [readPage, Noted.notes_bind, Note.requests_append, hbody]
  cases (fetchBody net address).value with
  | error failure => exact List.append_nil _
  | ok x =>
    obtain ⟨status, body⟩ := x
    have hblocks := Note.requests_events ((blocksOf strategy body).map .blockRead)
    rw [List.map_map] at hblocks
    refine (congrArg (_ ++ ·) (requests_bind hblocks ?_)).trans (List.append_nil _)
    cases Page.extract strategy body <;> rfl

theorem requests_fetchPage (net : Http.Network) (strategy : Strategy) (link : PageLink) :
    Note.requests (fetchPage net strategy link).notes = (Http.fetchText net link.url).notes := by
  rw [fetchPage, Noted.notes_bind, Note.requests_append, requests_readPage]
  cases (readPage net strategy link.url).value <;> exact List.append_nil _

inductive Unread (net : Http.Network) (strategy : Strategy) (address : Text) :
    List Text → Failure → Prop where
  | address {fault : Url.Fault} (h : Url.parse address = .error fault) :
      Unread net strategy address [] (.http (.address fault))
  | noResponse {u : Url} {us : List Url} {failure : Http.Failure} (hu : Url.parse address = .ok u)
      (h : Comes net u us (.error failure)) :
      Unread net strategy address (us.map asked) (.http failure)
  | noBody {u v : Url} {us : List Url} {r : Http.Response} {causes : List Text}
      (hu : Url.parse address = .ok u) (h : Comes net u us (.ok (v, r)))
      (hstatus : ¬(400 ≤ r.status ∧ r.status < 600)) (hbody : net.text r = .error causes) :
      Unread net strategy address (us.map asked) (.http (.body causes))
  | unclosed {u v : Url} {us : List Url} {r : Http.Response} {text : Text} {region : Unclosed}
      (hu : Url.parse address = .ok u) (h : Comes net u us (.ok (v, r)))
      (hstatus : ¬(400 ≤ r.status ∧ r.status < 600)) (hbody : net.text r = .ok text)
      (hregion : Page.extract strategy text = .error region) :
      Unread net strategy address (us.map asked) (.unclosed region)

inductive Ending where
  | read
  | badStatus
  | unread

def Ending.Holds (net : Http.Network) (strategy : Strategy) (link : PageLink) (requests : List Text)
    (result : PageResult) : Ending → Prop
  | read =>
    ∃ u us v r text extract, Url.parse link.url = .ok u ∧ Comes net u us (.ok (v, r)) ∧
      ¬(400 ≤ r.status ∧ r.status < 600) ∧ net.text r = .ok text ∧
      Page.extract strategy text = .ok extract ∧
      requests = us.map asked ∧ result = ⟨link, r.status, extract, none⟩
  | badStatus =>
    ∃ u us v r, Url.parse link.url = .ok u ∧ Comes net u us (.ok (v, r)) ∧
      (400 ≤ r.status ∧ r.status < 600) ∧ requests = us.map asked ∧
      result = ⟨link, r.status, ⟨[], []⟩, some (Failure.http (.status r.status v)).message⟩
  | unread =>
    ∃ failure, Unread net strategy link.url requests failure ∧
      result = ⟨link, 0, ⟨[], []⟩, some failure.message⟩

theorem status?_of_comes {u : Url} {us : List Url} {failure : Http.Failure}
    (h : Comes net u us (.error failure)) : failure.status? = none := by
  cases h <;> rfl

theorem fetchPage_of_fetch {u : Url} {requests : List Text}
    {answer : Except Http.Failure (Nat × Text)} (hu : Url.parse link.url = .ok u)
    (h : Http.fetch net u = ⟨answer, requests⟩) (strategy : Strategy) :
    Note.requests (fetchPage net strategy link).notes = requests ∧
      (fetchPage net strategy link).value = resultOf strategy link answer := by
  rw [requests_fetchPage, value_fetchPage, fetchText_of_parse hu, h]
  exact ⟨rfl, rfl⟩

theorem fetchPage_of_fault {fault : Url.Fault} (hu : Url.parse link.url = .error fault)
    (net : Http.Network) (strategy : Strategy) :
    Note.requests (fetchPage net strategy link).notes = [] ∧
      (fetchPage net strategy link).value =
        ⟨link, 0, {}, some (Failure.http (.address fault)).message⟩ := by
  rw [requests_fetchPage, value_fetchPage, Http.fetchText, hu]
  exact ⟨rfl, rfl⟩

theorem Unread.eq {requests : List Text} {failure : Failure}
    (h : Unread net strategy link.url requests failure) :
    Note.requests (fetchPage net strategy link).notes = requests ∧
      (fetchPage net strategy link).value = ⟨link, 0, ⟨[], []⟩, some failure.message⟩ := by
  cases h with
  | address hu => exact fetchPage_of_fault hu net strategy
  | noResponse hu hcomes =>
    obtain ⟨hrequests, hvalue⟩ := fetchPage_of_fetch hu hcomes.fetch_of_error strategy
    rw [hrequests, hvalue, resultOf, status?_of_comes hcomes]
    exact ⟨rfl, rfl⟩
  | noBody hu hcomes hstatus hbody =>
    exact fetchPage_of_fetch hu (hcomes.fetch_of_fault hstatus hbody) strategy
  | unclosed hu hcomes hstatus hbody hregion =>
    obtain ⟨hrequests, hvalue⟩ :=
      fetchPage_of_fetch hu (hcomes.fetch_of_text hstatus hbody) strategy
    rw [hrequests, hvalue, resultOf, hregion]
    exact ⟨rfl, rfl⟩

theorem Ending.Holds.eq {requests : List Text} {result : PageResult} {e : Ending}
    (h : e.Holds net strategy link requests result) :
    requests = Note.requests (fetchPage net strategy link).notes ∧
      result = (fetchPage net strategy link).value := by
  cases e with
  | read =>
    obtain ⟨u, us, v, r, text, extract, hu, hcomes, hstatus, hbody, hextract, rfl, rfl⟩ := h
    obtain ⟨hrequests, hvalue⟩ :=
      fetchPage_of_fetch hu (hcomes.fetch_of_text hstatus hbody) strategy
    rw [hrequests, hvalue, resultOf, hextract]
    exact ⟨rfl, rfl⟩
  | badStatus =>
    obtain ⟨u, us, v, r, hu, hcomes, hstatus, rfl, rfl⟩ := h
    obtain ⟨hrequests, hvalue⟩ :=
      fetchPage_of_fetch hu (hcomes.fetch_of_isFailure hstatus) strategy
    rw [hrequests, hvalue]
    exact ⟨rfl, rfl⟩
  | unread =>
    obtain ⟨failure, hunread, rfl⟩ := h
    exact ⟨hunread.eq.1.symm, hunread.eq.2.symm⟩

theorem Ending.exists_holds (net : Http.Network) (strategy : Strategy) (link : PageLink) :
    ∃ (e : Ending) (requests : List Text) (result : PageResult),
      e.Holds net strategy link requests result := by
  cases hu : Url.parse link.url with
  | error fault => exact ⟨.unread, _, _, _, .address hu, rfl⟩
  | ok u =>
    obtain ⟨us, outcome, hcomes⟩ := Http.exists_comes net u
    cases outcome with
    | error failure => exact ⟨.unread, _, _, _, .noResponse hu hcomes, rfl⟩
    | ok x =>
      obtain ⟨v, r⟩ := x
      by_cases hstatus : 400 ≤ r.status ∧ r.status < 600
      · exact ⟨.badStatus, _, _, u, us, v, r, hu, hcomes, hstatus, rfl, rfl⟩
      · cases hbody : net.text r with
        | error causes => exact ⟨.unread, _, _, _, .noBody hu hcomes hstatus hbody, rfl⟩
        | ok text =>
          cases hextract : Page.extract strategy text with
          | error region =>
            exact ⟨.unread, _, _, _, .unclosed hu hcomes hstatus hbody hextract, rfl⟩
          | ok extract =>
            exact ⟨.read, _, _, u, us, v, r, text, extract, hu, hcomes, hstatus, hbody, hextract,
              rfl, rfl⟩

def endingOf (result : PageResult) : Ending :=
  if result.failure = none then .read else if result.status = 0 then .unread else .badStatus

theorem Ending.Holds.eq_endingOf {requests : List Text} {result : PageResult} {e : Ending}
    (h : e.Holds net strategy link requests result) : e = endingOf result := by
  cases e with
  | read =>
    obtain ⟨u, us, v, r, text, extract, -, -, -, -, -, -, rfl⟩ := h
    rfl
  | badStatus =>
    obtain ⟨u, us, v, r, -, -, hstatus, -, rfl⟩ := h
    have hne : r.status ≠ 0 := by omega
    simp [endingOf, hne]
  | unread =>
    obtain ⟨failure, -, rfl⟩ := h
    rfl

theorem Ending.Holds.length_le {requests : List Text} {result : PageResult} {e : Ending}
    (h : e.Holds net strategy link requests result) : requests.length ≤ 6 := by
  have hmap {u : Url} {us : List Url} {outcome : Except Http.Failure (Url × Http.Response)}
      (hcomes : Comes net u us outcome) : (us.map asked).length ≤ 6 := by
    rw [List.length_map]
    exact hcomes.length_le
  cases e with
  | read =>
    obtain ⟨u, us, v, r, text, extract, -, hcomes, -, -, -, rfl, -⟩ := h
    exact hmap hcomes
  | badStatus =>
    obtain ⟨u, us, v, r, -, hcomes, -, rfl, -⟩ := h
    exact hmap hcomes
  | unread =>
    obtain ⟨failure, hunread, -⟩ := h
    cases hunread with
    | address hu => exact Nat.zero_le 6
    | noResponse hu hcomes => exact hmap hcomes
    | noBody hu hcomes => exact hmap hcomes
    | unclosed hu hcomes => exact hmap hcomes

/-- Fetching a page comes to an end, after six requests at most, in exactly one way; and what holds of
the network in that way says which result it is. -/
theorem fetchPage_ends (net : Http.Network) (strategy : Strategy) (link : PageLink) :
    let requests := Note.requests (fetchPage net strategy link).notes
    let result := (fetchPage net strategy link).value
    result.link = link ∧ requests.length ≤ 6 ∧
      (∃! e : Ending, e.Holds net strategy link requests result) ∧
      ∀ (e : Ending) (requests' : List Text) (result' : PageResult),
        e.Holds net strategy link requests' result' → requests' = requests ∧ result' = result := by
  intro requests result
  obtain ⟨e, requests', result', h⟩ := Ending.exists_holds net strategy link
  obtain ⟨rfl, rfl⟩ := h.eq
  refine ⟨?_, h.length_le, ⟨e, h, ?_⟩, fun _ _ _ => Ending.Holds.eq⟩
  · rw [show result = _ from value_fetchPage net strategy link]
    exact link_resultOf strategy link _
  · intro e' h'
    exact h'.eq_endingOf.trans h.eq_endingOf.symm

end RefPages.Harvest
