import RefPages.Proofs.Harvest.Index

namespace RefPages.Harvest

def resultOf (strategy : Strategy) (link : PageLink) :
    Except Http.Failure (Nat × Text) → PageResult
  | .error failure => .failed link (failure.status?.getD 0) (Failure.http failure).message
  | .ok (status, text) =>
    match Page.extract strategy text with
    | .error region => .failed link 0 region.message
    | .ok extract => ⟨link, status, extract, none⟩

theorem link_resultOf (strategy : Strategy) (link : PageLink)
    (answer : Except Http.Failure (Nat × Text)) : (resultOf strategy link answer).link = link := by
  cases answer with
  | error failure => rfl
  | ok x =>
    rw [resultOf]
    cases Page.extract strategy x.2 <;> rfl

theorem value_readPage (net : Http.Network) (strategy : Strategy) (address : Text) :
    (readPage net strategy address).value =
      match (Http.fetchText net address).value with
      | .error failure => .error (.http failure)
      | .ok (status, text) =>
        match Page.extract strategy text with
        | .error region => .error (.unclosed region)
        | .ok extract => .ok (status, extract) := by
  rw [readPage, Noted.value_bind]
  cases h : (Http.fetchText net address).value with
  | error failure =>
    rw [value_fetchBody_of_error h]
    rfl
  | ok x =>
    rw [value_fetchBody_of_ok h]
    dsimp only
    rw [Noted.value_bind]
    cases Page.extract strategy x.2 <;> rfl

theorem value_fetchPage (net : Http.Network) (strategy : Strategy) (link : PageLink) :
    (fetchPage net strategy link).value =
      resultOf strategy link (Http.fetchText net link.url).value := by
  rw [fetchPage, Noted.value_bind, value_readPage]
  cases (Http.fetchText net link.url).value with
  | error failure => rfl
  | ok x =>
    dsimp only [resultOf]
    cases Page.extract strategy x.2 <;> rfl

theorem told_run (net : Http.Network) (o : Options) :
    Note.told (run net o).notes =
      .connecting o.index ::
        match (run net o).value with
        | .error _ => []
        | .ok results => tellings results.length 0 results := by
  rw [value_run, run, Noted.notes_bind, Noted.notes_bind, Note.told_append, Note.told_append,
    told_fetchIndex]
  cases (fetchIndex net o.index).value with
  | error failure => rfl
  | ok links =>
    have hpages := told_fetchPages net o.strategy o.workers links
    dsimp only [Except.map]
    rw [List.length_map, ← hpages, Noted.notes_bind, Note.told_append, Noted.notes_bind,
      Note.told_append]
    exact congrArg _ (List.append_nil _)

theorem messages_tellings (total done : Nat) (results : List PageResult) :
    (tellings total done results).map Progress.message =
      (List.range' (done + 1) results.length).map fun i =>
        "Number of pages parsed: ".toList ++ Text.ofNat 10 i ++ '/' :: Text.ofNat 10 total := by
  induction results generalizing done with
  | nil => rfl
  | cons result results ih =>
    rw [tellings_cons, List.map_cons, ih, List.length_cons, List.range'_succ, List.map_cons]
    rfl

theorem messages_of_told {notes : List Note} {p : Progress} {ps : List Progress} {hasBar : Bool}
    (h : Note.told notes = p :: ps) (hp : p.isOfPage = false) (hbar : hasBar = false ∨ ps = []) :
    messages hasBar notes = p.message :: ps.map Progress.message := by
  have hps : ps.filter (fun p => !(hasBar && p.isOfPage)) = ps := by
    rcases hbar with rfl | rfl
    · simp
    · rfl
  rw [messages, h, List.filter_cons_of_pos (by simp [hp]), hps, List.map_cons]

variable {net : Http.Network} {o : Options}

theorem messages_of_error {failure : Failure} (h : (run net o).value = .error failure)
    (hasBar : Bool) :
    messages hasBar (run net o).notes = ["Connecting to: ".toList ++ o.index] := by
  have htold := told_run net o
  rw [h] at htold
  exact messages_of_told htold rfl (.inr rfl)

theorem messages_of_ok {results : List PageResult} (h : (run net o).value = .ok results) :
    messages false (run net o).notes =
      ("Connecting to: ".toList ++ o.index) ::
        (List.range' 1 results.length).map fun i =>
          "Number of pages parsed: ".toList ++ Text.ofNat 10 i ++
            '/' :: Text.ofNat 10 results.length := by
  have htold := told_run net o
  rw [h] at htold
  rw [messages_of_told htold rfl (.inl rfl), messages_tellings]
  rfl

theorem requests_of_error {failure : Failure} (h : (fetchIndex net o.index).value = .error failure) :
    Note.requests (run net o).notes = (Http.fetchText net o.index).notes := by
  rw [run, Noted.notes_bind, Note.requests_append, Noted.notes_bind, Note.requests_append, h,
    requests_fetchIndex]
  exact List.append_nil _

theorem value_run_of_ok {links : List PageLink} (h : (fetchIndex net o.index).value = .ok links) :
    (run net o).value = .ok (links.map fun link =>
      resultOf o.strategy link (Http.fetchText net link.url).value) := by
  rw [value_run, h]
  refine congrArg Except.ok (List.map_congr_left fun link _ => ?_)
  exact value_fetchPage net o.strategy link

theorem map_link_resultOf (strategy : Strategy) (links : List PageLink)
    (answer : PageLink → Except Http.Failure (Nat × Text)) :
    (links.map fun link => resultOf strategy link (answer link)).map (·.link) = links := by
  rw [List.map_map]
  conv => rhs; rw [← List.map_id links]
  refine List.map_congr_left fun link _ => ?_
  exact link_resultOf strategy link (answer link)

/-- If the index cannot be read, nothing is asked for but the index. Otherwise the pages that it lists
have each a result, in its order and read in the way that was asked for, and what it lists does not
hang on that way. -/
theorem run_cases (net : Http.Network) (o : Options) :
    (∀ failure, (run net o).value = .error failure ↔ IndexFails net o.index failure) ∧
      ((∃ failure, (run net o).value = .error failure ∧
          Note.requests (run net o).notes = (Http.fetchText net o.index).notes ∧
          ∀ hasBar, messages hasBar (run net o).notes = ["Connecting to: ".toList ++ o.index]) ∨
        ∃ (links : List PageLink) (results : List PageResult),
          IndexRead net o.index links ∧
          (∀ strategy, (run net { o with strategy }).value = .ok (links.map fun link =>
            resultOf strategy link (Http.fetchText net link.url).value)) ∧
          (run net o).value = .ok results ∧ results.length = links.length ∧
          results.map (·.link) = links ∧
          messages false (run net o).notes =
            ("Connecting to: ".toList ++ o.index) ::
              (List.range' 1 links.length).map fun i =>
                "Number of pages parsed: ".toList ++ Text.ofNat 10 i ++
                  '/' :: Text.ofNat 10 links.length) := by
  constructor
  · intro failure
    rw [← fetchIndex_eq_error_iff, value_run]
    cases (fetchIndex net o.index).value <;> simp [Except.map]
  · obtain ⟨failure, hfails⟩ | ⟨links, hread, hlinks⟩ := fetchIndex_cases net o.index
    · have hrun : (run net o).value = .error failure := by
        rw [value_run, hfails.value_eq]
        rfl
      exact .inl ⟨failure, hrun, requests_of_error hfails.value_eq, messages_of_error hrun⟩
    · have hrun := value_run_of_ok hlinks
      have hmessages := messages_of_ok hrun
      rw [List.length_map] at hmessages
      exact .inr ⟨links, _, hread, fun strategy => value_run_of_ok hlinks, hrun,
        List.length_map _, map_link_resultOf .., hmessages⟩

end RefPages.Harvest
