import RefPages.Harvest.Basic
import RefPages.Proofs.Harvest.Notes
import RefPages.Proofs.Http.Redirects

namespace RefPages.Harvest

open Http (Comes)

inductive IndexFails (net : Http.Network) (address : Text) : Failure → Prop where
  | address {fault : Url.Fault} (h : Url.parse address = .error fault) :
      IndexFails net address (.address ⟨address, fault⟩)
  | noResponse {u : Url} {us : List Url} {failure : Http.Failure} (hu : Url.parse address = .ok u)
      (h : Comes net u us (.error failure)) : IndexFails net address (.http failure)
  | badStatus {u v : Url} {us : List Url} {r : Http.Response} (hu : Url.parse address = .ok u)
      (h : Comes net u us (.ok (v, r))) (hstatus : 400 ≤ r.status ∧ r.status < 600) :
      IndexFails net address (.http (.status r.status v))
  | noBody {u v : Url} {us : List Url} {r : Http.Response} {causes : List Text}
      (hu : Url.parse address = .ok u) (h : Comes net u us (.ok (v, r)))
      (hstatus : ¬(400 ≤ r.status ∧ r.status < 600)) (hbody : net.text r = .error causes) :
      IndexFails net address (.http (.body causes))

def IndexRead (net : Http.Network) (address : Text) (links : List PageLink) : Prop :=
  ∃ (u v : Url) (us : List Url) (r : Http.Response) (text : Text),
    Url.parse address = .ok u ∧ Comes net u us (.ok (v, r)) ∧ ¬(400 ≤ r.status ∧ r.status < 600) ∧
      net.text r = .ok text ∧ Index.links address text = .ok links

variable {net : Http.Network} {address : Text} {u : Url}

theorem value_fetchBody_of_error {failure : Http.Failure}
    (h : (Http.fetchText net address).value = .error failure) :
    (fetchBody net address).value = .error (.http failure) := by
  rw [fetchBody, Noted.value_bind, Noted.value_bind, Noted.value_mapNotes, h]
  rfl

theorem value_fetchBody_of_ok {x : Nat × Text} (h : (Http.fetchText net address).value = .ok x) :
    (fetchBody net address).value = .ok x := by
  rw [fetchBody, Noted.value_bind, Noted.value_bind, Noted.value_mapNotes, h]
  rfl

theorem notes_fetchBody (net : Http.Network) (address : Text) :
    (fetchBody net address).notes =
      .event (.fetching address) :: (Http.fetchText net address).notes.map .request := by
  rw [fetchBody, Noted.notes_bind, Noted.notes_bind, Noted.value_mapNotes, Noted.notes_mapNotes]
  cases (Http.fetchText net address).value <;> exact congrArg _ (List.append_nil _)

theorem fetchText_of_parse (hu : Url.parse address = .ok u) :
    Http.fetchText net address = Http.fetch net u := by
  rw [Http.fetchText, hu]

theorem value_fetchIndex (hu : Url.parse address = .ok u) :
    (fetchIndex net address).value =
      match (Http.fetch net u).value with
      | .error failure => .error (.http failure)
      | .ok (_, text) => .ok (Index.linksOf u (Markup.Document.parse text)) := by
  rw [fetchIndex, hu]
  dsimp only
  rw [Noted.value_bind, ← fetchText_of_parse hu]
  cases h : (Http.fetchText net address).value with
  | error failure =>
    rw [value_fetchBody_of_error h]
    rfl
  | ok x =>
    rw [value_fetchBody_of_ok h]
    simp [Index.links, hu]

theorem IndexFails.value_eq {failure : Failure} (h : IndexFails net address failure) :
    (fetchIndex net address).value = .error failure := by
  cases h with
  | address h =>
    rw [fetchIndex, h]
    rfl
  | noResponse hu h => rw [value_fetchIndex hu, h.fetch_of_error]
  | badStatus hu h hstatus => rw [value_fetchIndex hu, h.fetch_of_isFailure hstatus]
  | noBody hu h hstatus hbody => rw [value_fetchIndex hu, h.fetch_of_fault hstatus hbody]

theorem fetchIndex_cases (net : Http.Network) (address : Text) :
    (∃ failure, IndexFails net address failure) ∨
      ∃ links, IndexRead net address links ∧ (fetchIndex net address).value = .ok links := by
  cases hu : Url.parse address with
  | error fault => exact .inl ⟨_, .address hu⟩
  | ok u =>
    obtain ⟨us, outcome, hcomes⟩ := Http.exists_comes net u
    cases outcome with
    | error failure => exact .inl ⟨_, .noResponse hu hcomes⟩
    | ok x =>
      obtain ⟨v, r⟩ := x
      by_cases hstatus : 400 ≤ r.status ∧ r.status < 600
      · exact .inl ⟨_, .badStatus hu hcomes hstatus⟩
      · cases htext : net.text r with
        | error causes => exact .inl ⟨_, .noBody hu hcomes hstatus htext⟩
        | ok text =>
          refine .inr ⟨Index.linksOf u (Markup.Document.parse text),
            ⟨u, v, us, r, text, hu, hcomes, hstatus, htext, ?_⟩, ?_⟩
          · rw [Index.links, hu]
          · rw [value_fetchIndex hu, hcomes.fetch_of_text hstatus htext]

theorem fetchIndex_eq_error_iff {failure : Failure} :
    (fetchIndex net address).value = .error failure ↔ IndexFails net address failure := by
  refine ⟨fun h => ?_, IndexFails.value_eq⟩
  obtain ⟨failure', hfails⟩ | ⟨links, -, hvalue⟩ := fetchIndex_cases net address
  · rw [hfails.value_eq] at h
    cases h
    exact hfails
  · rw [hvalue] at h
    cases h

theorem notes_fetchIndex (net : Http.Network) (address : Text) :
    ∃ before behind : List Event, (fetchIndex net address).notes =
      before.map .event ++ (Http.fetchText net address).notes.map .request ++
        behind.map .event := by
  rw [fetchIndex]
  cases hu : Url.parse address with
  | error fault =>
    refine ⟨[], [], ?_⟩
    rw [Http.fetchText, hu]
    rfl
  | ok u =>
    dsimp only
    rw [Noted.notes_bind, notes_fetchBody]
    cases (fetchBody net address).value with
    | error failure => exact ⟨[.fetching address], [], rfl⟩
    | ok x =>
      refine ⟨[.fetching address], (Index.linksOf u (Markup.Document.parse x.2)).map .linkFound ++
        [.indexRead address (Index.linksOf u (Markup.Document.parse x.2)).length], ?_⟩
      dsimp only
      rw [Index.links, hu, List.map_append, List.map_map]
      rfl

theorem told_fetchIndex (net : Http.Network) (address : Text) :
    Note.told (fetchIndex net address).notes = [] := by
  obtain ⟨before, behind, hnotes⟩ := notes_fetchIndex net address
  rw [hnotes, Note.told_append, Note.told_append, Note.told_events, Note.told_requests,
    Note.told_events]
  rfl

theorem requests_fetchIndex (net : Http.Network) (address : Text) :
    Note.requests (fetchIndex net address).notes = (Http.fetchText net address).notes := by
  obtain ⟨before, behind, hnotes⟩ := notes_fetchIndex net address
  rw [hnotes, Note.requests_append, Note.requests_append, Note.requests_events,
    Note.requests_requests, Note.requests_events, List.append_nil, List.nil_append]

theorem value_run (net : Http.Network) (o : Options) :
    (run net o).value = (fetchIndex net o.index).value.map fun links =>
      links.map fun link => (fetchPage net o.strategy link).value := by
  rw [run, Noted.value_bind, Noted.value_bind]
  cases (fetchIndex net o.index).value with
  | error failure => rfl
  | ok links => exact congrArg Except.ok (value_fetchPages net o.strategy o.workers links)

end RefPages.Harvest
