import RefPages.Proofs.Harvest.Schedule

namespace RefPages.Harvest.Schedule

open Relation (ReflTransGen)

variable {net : Http.Network} {strategy : Strategy} {workers : Nat} {links : List PageLink}

theorem Sound.started_of_ended {s : State} (h : Sound net strategy workers links s)
    (he : s.Ended) : s.started = links := by
  have := h.started_waiting
  rwa [he.1, List.append_nil] at this

theorem Sound.results_of_ended {s : State} (h : Sound net strategy workers links s)
    (he : s.Ended) : s.results = links.map fun link => (fetchPage net strategy link).value := by
  have := h.results_flights
  rwa [he.2, List.map_nil, List.append_nil, h.started_of_ended he] at this

theorem Sound.requests_of_ended {s : State} (h : Sound net strategy workers links s)
    (he : s.Ended) : (Note.requests s.notes).Perm
      (links.flatMap fun link => Note.requests (fetchPage net strategy link).notes) := by
  have hnotes := h.notes
  rw [he.2, List.flatMap_nil, List.append_nil, h.started_of_ended he] at hnotes
  have hrequests := Note.requests_perm hnotes
  rwa [Note.requests_append, Note.requests_progress, List.append_nil, Note.requests_flatMap]
    at hrequests

def Agrees (s : State) (results : List PageResult) (notes : List Note) : Prop :=
  s.results = results ∧ Note.told s.notes = Note.told notes ∧
    (Note.requests s.notes).Perm (Note.requests notes)

theorem Sound.agrees_fetchPages {s : State} (h : Sound net strategy workers links s)
    (he : s.Ended) (workers' : Nat) :
    Agrees s (fetchPages net strategy workers' links).value
      (fetchPages net strategy workers' links).notes := by
  refine ⟨?_, ?_, ?_⟩
  · rw [h.results_of_ended he, value_fetchPages]
  · rw [h.told, h.results_of_ended he, told_fetchPages]
  · rw [requests_fetchPages]
    exact h.requests_of_ended he

/-- There are never more fetches than workers. Once all fetches have ended the harvest is that of
one worker but for the order of its requests, whatever moves it has made. -/
theorem Reaches.agrees {s : State} (h : Reaches net strategy workers links s) :
    s.flights.length ≤ max workers 1 ∧
      (∃ t, ReflTransGen (Move net strategy workers links.length) s t ∧ t.Ended) ∧
      (s.Ended →
        s.started = links ∧
        s.results = (links.map fun link => (fetchPage net strategy link).value) ∧
        Note.told s.notes =
          s.results.mapIdx (fun i result => .parsed (i + 1) links.length result) ∧
        (Note.requests s.notes).Perm
          (links.flatMap fun link => Note.requests (fetchPage net strategy link).notes) ∧
        Agrees s (fetchPages net strategy workers links).value
          (fetchPages net strategy workers links).notes ∧
        ∀ (workers' : Nat) (t : State), Reaches net strategy workers' links t → t.Ended →
          Agrees t s.results s.notes ∧
            ∀ source generatedAt, (Report.ofPages source generatedAt t.results).entries =
              (Report.ofPages source generatedAt s.results).entries) := by
  have hs := h.sound
  refine ⟨hs.inFlight, exists_ended _ s, ?_⟩
  intro he
  have hresults := hs.results_of_ended he
  have hrequests := hs.requests_of_ended he
  refine ⟨hs.started_of_ended he, hresults, ?_, hrequests, hs.agrees_fetchPages he workers, ?_⟩
  · rw [hs.told, tellings]
    simp only [Nat.zero_add]
  · intro workers' t ht hte
    have hs' := ht.sound
    have hresults' : t.results = s.results := (hs'.results_of_ended hte).trans hresults.symm
    refine ⟨⟨hresults', ?_, (hs'.requests_of_ended hte).trans hrequests.symm⟩, ?_⟩
    · rw [hs'.told, hs.told, hresults']
    · intro source generatedAt
      rw [hresults']

theorem reaches_out_of_order (net : Http.Network) (strategy : Strategy) (a b : PageLink) :
    Reaches net strategy 2 [a, b] ⟨[], [a, b], [],
      [(fetchPage net strategy a).value, (fetchPage net strategy b).value],
      (fetchPage net strategy b).notes ++ (fetchPage net strategy a).notes ++
        [.progress (.parsed 1 2 (fetchPage net strategy a).value)] ++
        [.progress (.parsed 2 2 (fetchPage net strategy b).value)]⟩ := by
  apply ReflTransGen.head (.start (Nat.zero_lt_two))
  apply ReflTransGen.head (.start (Nat.one_lt_two))
  apply ReflTransGen.head (.complete [.pending a (fetchPage net strategy a).notes])
  apply ReflTransGen.head (.complete [])
  apply ReflTransGen.head .emit
  exact ReflTransGen.single .emit

theorem agrees_out_of_order :
    let a : PageLink := ⟨"a.xml".toList, "http://h/a.xml".toList⟩
    let b : PageLink := ⟨"b.xml".toList, "http://h/b.xml".toList⟩
    let x := fetchPage {} .raw a
    let y := fetchPage {} .raw b
    ∃ s, Reaches {} .raw 2 [a, b] s ∧ s.Ended ∧
      s.results = [x.value, y.value] ∧
      Note.told s.notes = [.parsed 1 2 x.value, .parsed 2 2 y.value] ∧
      (Note.requests s.notes).Perm (Note.requests x.notes ++ Note.requests y.notes) := by
  intro a b x y
  have h := reaches_out_of_order {} .raw a b
  obtain ⟨-, hresults, htold, hrequests, -⟩ := h.agrees.2.2 ⟨rfl, rfl⟩
  refine ⟨_, h, ⟨rfl, rfl⟩, hresults, htold, ?_⟩
  simpa using hrequests

end RefPages.Harvest.Schedule
