import Mathlib.Algebra.Ring.Nat
import Mathlib.Logic.Relation
import RefPages.Proofs.Harvest.Notes

/-!
Fetching pages side by side. Fetches begin in the order of their links while there is room for them,
make their notes and end in any order, and give up their results in the order in which they began.
-/

namespace RefPages.Harvest.Schedule

inductive Flight where
  | pending (link : PageLink) (left : List Note)
  | done (result : PageResult)

structure State where
  waiting : List PageLink
  started : List PageLink
  flights : List Flight
  results : List PageResult
  notes : List Note

namespace State

def begin (links : List PageLink) : State :=
  ⟨links, [], [], [], []⟩

def Ended (s : State) : Prop :=
  s.waiting = [] ∧ s.flights = []

end State

section

variable (net : Http.Network) (strategy : Strategy)

def Flight.left : Flight → List Note
  | pending _ left => left
  | done _ => []

def Flight.result : Flight → PageResult
  | pending link _ => (fetchPage net strategy link).value
  | done result => result

/-- One move of a harvest of `total` pages. A fetch may begin while there is room for it, one that
goes on may make its next note or end, and the oldest gives up its result if it has ended. -/
inductive Move (workers total : Nat) : State → State → Prop where
  | start {link waiting started flights results notes} (h : flights.length < max workers 1) :
    Move workers total ⟨link :: waiting, started, flights, results, notes⟩
      ⟨waiting, started ++ [link], flights ++ [.pending link (fetchPage net strategy link).notes],
        results, notes⟩
  | note (before : List Flight) {waiting started behind results notes link note left} :
    Move workers total
      ⟨waiting, started, before ++ .pending link (note :: left) :: behind, results, notes⟩
      ⟨waiting, started, before ++ .pending link left :: behind, results, notes ++ [note]⟩
  | complete (before : List Flight) {waiting started behind results notes link left} :
    Move workers total ⟨waiting, started, before ++ .pending link left :: behind, results, notes⟩
      ⟨waiting, started, before ++ .done (fetchPage net strategy link).value :: behind, results,
        notes ++ left⟩
  | emit {waiting started flights results notes result} :
    Move workers total ⟨waiting, started, .done result :: flights, results, notes⟩
      ⟨waiting, started, flights, results ++ [result],
        notes ++ [.progress (.parsed (results.length + 1) total result)]⟩

def Reaches (workers : Nat) (links : List PageLink) (s : State) : Prop :=
  Relation.ReflTransGen (Move net strategy workers links.length) (.begin links) s

structure Sound (workers : Nat) (links : List PageLink) (s : State) : Prop where
  started_waiting : s.started ++ s.waiting = links
  results_flights : s.results ++ s.flights.map (Flight.result net strategy) =
    s.started.map fun link => (fetchPage net strategy link).value
  inFlight : s.flights.length ≤ max workers 1
  quiet : ∀ f ∈ s.flights, Note.told f.left = []
  told : Note.told s.notes = tellings links.length 0 s.results
  notes : (s.notes ++ s.flights.flatMap Flight.left).Perm
    (s.started.flatMap (fun link => (fetchPage net strategy link).notes) ++
      (tellings links.length 0 s.results).map .progress)

variable {net strategy} {workers : Nat} {links : List PageLink}

theorem sound_begin : Sound net strategy workers links (.begin links) where
  started_waiting := rfl
  results_flights := rfl
  inFlight := Nat.zero_le _
  quiet := fun _ h => absurd h List.not_mem_nil
  told := rfl
  notes := .refl _

theorem Sound.start {link : PageLink} {waiting started : List PageLink} {flights : List Flight}
    {results : List PageResult} {notes : List Note} (h : flights.length < max workers 1)
    (hs : Sound net strategy workers links ⟨link :: waiting, started, flights, results, notes⟩) :
    Sound net strategy workers links
      ⟨waiting, started ++ [link], flights ++ [.pending link (fetchPage net strategy link).notes],
        results, notes⟩ where
  started_waiting := by
    rw [← hs.started_waiting]
    simp
  results_flights := by
    have := hs.results_flights
    dsimp only at this ⊢
    rw [List.map_append, List.map_append, ← List.append_assoc, this]
    rfl
  inFlight := by
    rw [List.length_append]
    exact h
  quiet := by
    intro f hf
    rcases List.mem_append.mp hf with hf | hf
    · exact hs.quiet f hf
    · rw [List.mem_singleton.mp hf]
      exact told_fetchPage net strategy link
  told := hs.told
  notes := by
    have := hs.notes
    dsimp only at this ⊢
    rw [List.flatMap_append, List.flatMap_append, ← List.append_assoc, List.flatMap_singleton,
      List.flatMap_singleton, List.append_assoc (List.flatMap _ _)]
    apply List.Perm.trans (this.append_right _)
    rw [List.append_assoc]
    exact List.perm_append_comm.append_left _

theorem Sound.advance {waiting started : List PageLink} {before behind : List Flight}
    (f f' : Flight) {results : List PageResult} {notes : List Note} (said : List Note)
    (hresult : f'.result net strategy = f.result net strategy) (hleft : f.left = said ++ f'.left)
    (hs : Sound net strategy workers links
      ⟨waiting, started, before ++ f :: behind, results, notes⟩) :
    Sound net strategy workers links
      ⟨waiting, started, before ++ f' :: behind, results, notes ++ said⟩ := by
  have hquiet : Note.told said = [] ∧ Note.told f'.left = [] := by
    have := hs.quiet f (by simp)
    rw [hleft, Note.told_append] at this
    exact List.append_eq_nil_iff.mp this
  exact {
    started_waiting := hs.started_waiting
    results_flights := by
      have := hs.results_flights
      simp only [List.map_append, List.map_cons] at this ⊢
      rw [hresult]
      exact this
    inFlight := by
      have := hs.inFlight
      simp only [List.length_append, List.length_cons] at this ⊢
      exact this
    quiet := by
      intro g hg
      rcases List.mem_append.mp hg with hg | hg
      · exact hs.quiet g (List.mem_append_left _ hg)
      · rcases List.mem_cons.mp hg with rfl | hg
        · exact hquiet.2
        · exact hs.quiet g (List.mem_append_right _ (List.mem_cons_of_mem _ hg))
    told := by
      have := hs.told
      dsimp only at this ⊢
      rw [Note.told_append, this, hquiet.1, List.append_nil]
    notes := by
      have := hs.notes
      simp only [List.flatMap_append, List.flatMap_cons, hleft, List.append_assoc] at this ⊢
      exact (List.Perm.append_left notes (List.perm_append_comm_assoc ..)).trans this }

theorem Sound.emit {waiting started : List PageLink} {flights : List Flight}
    {results : List PageResult} {notes : List Note} {result : PageResult}
    (hs : Sound net strategy workers links
      ⟨waiting, started, .done result :: flights, results, notes⟩) :
    Sound net strategy workers links
      ⟨waiting, started, flights, results ++ [result],
        notes ++ [.progress (.parsed (results.length + 1) links.length result)]⟩ where
  started_waiting := hs.started_waiting
  results_flights := by
    rw [← hs.results_flights]
    simp [Flight.result]
  inFlight := Nat.le_of_succ_le hs.inFlight
  quiet := fun f hf => hs.quiet f (List.mem_cons_of_mem _ hf)
  told := by
    have := hs.told
    dsimp only at this ⊢
    rw [Note.told_append, this, tellings_concat, Nat.zero_add]
    rfl
  notes := by
    have := hs.notes
    dsimp only at this ⊢
    rw [tellings_concat, Nat.zero_add, List.map_append, ← List.append_assoc, List.append_assoc notes]
    apply List.Perm.trans (List.perm_append_comm.append_left notes)
    rw [← List.append_assoc]
    exact this.append_right _

theorem Sound.move {s t : State} (hs : Sound net strategy workers links s)
    (h : Move net strategy workers links.length s t) : Sound net strategy workers links t := by
  -- The next note of a fetch and its end are both what `advance` describes.
  cases h with
  | start h => exact hs.start h
  | @note _ _ _ _ _ _ link note left =>
    exact hs.advance (.pending link (note :: left)) (.pending link left) [note] rfl rfl
  | @complete _ _ _ _ _ _ link left =>
    exact hs.advance (.pending link left) (.done _) left rfl (List.append_nil left).symm
  | emit => exact hs.emit

theorem Reaches.sound {s : State} (h : Reaches net strategy workers links s) :
    Sound net strategy workers links s := by
  induction h with
  | refl => exact sound_begin
  | tail _ h ih => exact ih.move h

def Flight.weight : Flight → Nat
  | pending _ left => left.length + 2
  | done _ => 1

variable (net strategy) in
def State.weight (s : State) : Nat :=
  (s.waiting.map fun link => (fetchPage net strategy link).notes.length + 3).sum +
    (s.flights.map Flight.weight).sum

theorem Move.weight_lt {total : Nat} {s t : State} (h : Move net strategy workers total s t) :
    t.weight net strategy < s.weight net strategy := by
  cases h with
  | start =>
    simp only [State.weight, Flight.weight, List.map_append, List.map_cons, List.map_nil,
      List.sum_append, List.sum_cons, List.sum_nil]
    omega
  | note | complete =>
    simp only [State.weight, Flight.weight, List.map_append, List.map_cons, List.length_cons,
      List.sum_append, List.sum_cons]
    omega
  | emit =>
    simp only [State.weight, Flight.weight, List.map_cons, List.sum_cons]
    omega

theorem wellFounded_move (total : Nat) :
    WellFounded fun t s => Move net strategy workers total s t :=
  Subrelation.wf Move.weight_lt (measure (State.weight net strategy)).wf

theorem exists_move_iff {total : Nat} {s : State} :
    (∃ t, Move net strategy workers total s t) ↔ ¬ s.Ended := by
  constructor
  · rintro ⟨t, h⟩ ⟨hw, hf⟩
    cases h <;> simp at hw hf
  · intro h
    obtain ⟨waiting, started, flights, results, notes⟩ := s
    cases flights with
    | cons f flights =>
      cases f with
      | pending link left => exact ⟨_, .complete []⟩
      | done result => exact ⟨_, .emit⟩
    | nil =>
      cases waiting with
      | cons link waiting => exact ⟨_, .start (Nat.lt_of_lt_of_le Nat.one_pos (Nat.le_max_right ..))⟩
      | nil => exact absurd ⟨rfl, rfl⟩ h

theorem exists_ended (total : Nat) (s : State) :
    ∃ t, Relation.ReflTransGen (Move net strategy workers total) s t ∧ t.Ended := by
  have hwf : WellFounded fun t s => Move net strategy workers total s t := wellFounded_move total
  induction s using hwf.induction with
  | h s ih =>
    by_cases he : s.Ended
    · exact ⟨s, .refl, he⟩
    · obtain ⟨t, ht⟩ := exists_move_iff.mpr he
      obtain ⟨u, hu, hend⟩ := ih t ht
      exact ⟨u, .head ht hu, hend⟩

end

end RefPages.Harvest.Schedule
