import RefPages.Harvest.Pages

namespace RefPages.Harvest

theorem Note.told_append (xs ys : List Note) : told (xs ++ ys) = told xs ++ told ys :=
  List.filterMap_append

theorem Note.requests_append (xs ys : List Note) :
    requests (xs ++ ys) = requests xs ++ requests ys :=
  List.filterMap_append

theorem Note.requests_flatMap {α : Type} (xs : List α) (f : α → List Note) :
    requests (xs.flatMap f) = xs.flatMap fun x => requests (f x) :=
  List.filterMap_flatMap

theorem Note.requests_perm {xs ys : List Note} (h : xs.Perm ys) :
    (requests xs).Perm (requests ys) :=
  h.filterMap _

theorem Note.told_events (es : List Event) : told (es.map .event) = [] := by
  rw [told, List.filterMap_map]
  exact List.filterMap_eq_nil_iff.mpr fun _ _ => rfl

theorem Note.told_requests (addresses : List Text) : told (addresses.map .request) = [] := by
  rw [told, List.filterMap_map]
  exact List.filterMap_eq_nil_iff.mpr fun _ _ => rfl

theorem Note.requests_events (es : List Event) : requests (es.map .event) = [] := by
  rw [requests, List.filterMap_map]
  exact List.filterMap_eq_nil_iff.mpr fun _ _ => rfl

theorem Note.requests_requests (addresses : List Text) :
    requests (addresses.map .request) = addresses := by
  rw [requests, List.filterMap_map]
  exact List.filterMap_some

theorem Note.requests_progress (ps : List Progress) : requests (ps.map .progress) = [] := by
  rw [requests, List.filterMap_map]
  exact List.filterMap_eq_nil_iff.mpr fun _ _ => rfl

theorem told_bind {α β : Type} {x : Step α} {f : α → Step β} (hx : Note.told x.notes = [])
    (hf : Note.told (f x.value).notes = []) : Note.told (x >>= f).notes = [] := by
  rw [Noted.notes_bind, Note.told_append, hx, hf, List.append_nil]

variable (net : Http.Network) (strategy : Strategy)

theorem told_fetchBody (address : Text) : Note.told (fetchBody net address).notes = [] := by
  apply told_bind rfl
  apply told_bind (Note.told_requests (Http.fetchText net address).notes)
  rw [Noted.value_mapNotes]
  cases (Http.fetchText net address).value <;> rfl

theorem told_readPage (address : Text) :
    Note.told (readPage net strategy address).notes = [] := by
  apply told_bind (told_fetchBody net address)
  cases (fetchBody net address).value with
  | error failure => rfl
  | ok x =>
    obtain ⟨status, body⟩ := x
    have hblocks := Note.told_events ((blocksOf strategy body).map .blockRead)
    rw [List.map_map] at hblocks
    apply told_bind hblocks
    cases Page.extract strategy body <;> rfl

theorem told_fetchPage (link : PageLink) :
    Note.told (fetchPage net strategy link).notes = [] := by
  apply told_bind (told_readPage net strategy link.url)
  cases (readPage net strategy link.url).value <;> rfl

def tellings (total done : Nat) (results : List PageResult) : List Progress :=
  results.mapIdx fun i result => .parsed (done + i + 1) total result

theorem tellings_cons (total done : Nat) (result : PageResult) (results : List PageResult) :
    tellings total done (result :: results) =
      .parsed (done + 1) total result :: tellings total (done + 1) results := by
  rw [tellings, tellings, List.mapIdx_cons]
  simp only [Nat.add_zero, Nat.add_right_comm done 1, Nat.add_assoc]

theorem tellings_concat (total done : Nat) (results : List PageResult) (result : PageResult) :
    tellings total done (results ++ [result]) =
      tellings total done results ++ [.parsed (done + results.length + 1) total result] :=
  List.mapIdx_concat

theorem value_fetchFrom (total done : Nat) (links : List PageLink) :
    (fetchFrom net strategy total done links).value =
      links.map fun link => (fetchPage net strategy link).value := by
  induction links generalizing done with
  | nil => rfl
  | cons link links ih =>
    rw [fetchFrom, List.map_cons, ← ih (done + 1)]
    rfl

theorem notes_fetchFrom_cons (total done : Nat) (link : PageLink) (links : List PageLink) :
    (fetchFrom net strategy total done (link :: links)).notes =
      (fetchPage net strategy link).notes ++
        .progress (.parsed (done + 1) total (fetchPage net strategy link).value) ::
          (fetchFrom net strategy total (done + 1) links).notes := by
  rw [fetchFrom]
  simp

theorem told_fetchFrom (total done : Nat) (links : List PageLink) :
    Note.told (fetchFrom net strategy total done links).notes =
      tellings total done (links.map fun link => (fetchPage net strategy link).value) := by
  induction links generalizing done with
  | nil => rfl
  | cons link links ih =>
    rw [notes_fetchFrom_cons, Note.told_append, told_fetchPage, List.map_cons, tellings_cons,
      ← ih (done + 1)]
    rfl

theorem requests_fetchFrom (total done : Nat) (links : List PageLink) :
    Note.requests (fetchFrom net strategy total done links).notes =
      links.flatMap fun link => Note.requests (fetchPage net strategy link).notes := by
  induction links generalizing done with
  | nil => rfl
  | cons link links ih =>
    rw [notes_fetchFrom_cons, Note.requests_append, List.flatMap_cons, ← ih (done + 1)]
    rfl

theorem value_fetchPages (workers : Nat) (links : List PageLink) :
    (fetchPages net strategy workers links).value =
      links.map fun link => (fetchPage net strategy link).value :=
  value_fetchFrom net strategy links.length 0 links

theorem told_fetchPages (workers : Nat) (links : List PageLink) :
    Note.told (fetchPages net strategy workers links).notes =
      tellings links.length 0 (links.map fun link => (fetchPage net strategy link).value) := by
  rw [← told_fetchFrom, fetchPages, Noted.notes_bind, Note.told_append, Noted.notes_bind,
    Note.told_append]
  exact List.append_nil _

theorem requests_fetchPages (workers : Nat) (links : List PageLink) :
    Note.requests (fetchPages net strategy workers links).notes =
      links.flatMap fun link => Note.requests (fetchPage net strategy link).notes := by
  rw [← requests_fetchFrom net strategy links.length 0, fetchPages, Noted.notes_bind,
    Note.requests_append, Noted.notes_bind, Note.requests_append]
  exact List.append_nil _

end RefPages.Harvest
