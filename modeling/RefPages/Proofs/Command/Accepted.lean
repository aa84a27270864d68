import RefPages.Proofs.Command.Settings
import RefPages.Proofs.Run.Endings
import RefPages.Proofs.Url.Reread

namespace RefPages

namespace Harvest

theorem fetchIndex_ne_address {address : Text} {u : Url} (hu : Url.parse address = .ok u)
    (net : Http.Network) (e : Url.Invalid) :
    (fetchIndex net address).value ≠ .error (.address e) := by
  rw [value_fetchIndex hu]
  cases (Http.fetch net u).value with
  | error failure => exact nofun
  | ok x => exact nofun

end Harvest

namespace Run

theorem run_ne_address {c : Config} {u : Url} (hu : Url.parse c.index = .ok u)
    (net : Http.Network) (time : Text) (d : Disk) (address : Text) (e : Url.Invalid) :
    (run net time c d).value.1 ≠ .error (.index address (.address e)) := by
  obtain ⟨failure, hfails, h⟩ | ⟨links, fault, -, -, h⟩ | ⟨links, place, hplace, -, h⟩ :=
    value_run_cases net time c d
  · rw [h]
    rintro ⟨⟩
    exact Harvest.fetchIndex_ne_address hu net e hfails.value_eq
  · rw [h]
    exact nofun
  · rw [h]
    dsimp only [verdict]
    split
    · exact nofun
    · exact nofun

end Run

namespace Command

variable {args : List Text} {g : Given}

theorem fits_of_accept (h : accept args = .ok g) : g.Fits ∧ ∀ o, g.has o = true := by
  obtain ⟨d, hd, hcomplete⟩ := Given.exists_of_bind h
  obtain ⟨items, hitems, htake⟩ := Draft.exists_spells_of_arguments hd
  obtain ⟨hfits, -, -⟩ := Given.complete_spec hcomplete
  exact ⟨hfits (Given.fits_of_takeAll htake Given.fits_empty), Given.has_of_complete hcomplete⟩

theorem workerCount_eq_zero_iff (h : accept args = .ok g) :
    g.workerCount = 0 ↔
      ∃ items v, Spells items args ∧ .value .workers v ∈ items ∧ SpellsZero v := by
  obtain ⟨d, hd, hcomplete⟩ := Given.exists_of_bind h
  have hzero : d.given.workerCount = 0 ↔ d.given.workers = some 0 := by
    rw [Given.workerCount]
    cases d.given.workers <;> simp
  have hspelled {items : List Item} (hitems : Spells items args) :
      d.given.workers = some 0 ↔ ∃ v, .value .workers v ∈ items ∧ SpellsZero v := by
    have htake := Draft.arguments_given hitems
    rw [hd] at htake
    simp only [Given.workers_iff_of_takeAll htake.symm, readNumber_eq_zero_iff, reduceCtorEq,
      false_or]
  rw [(Given.complete_spec hcomplete).2.2, hzero]
  constructor
  · intro hworkers
    obtain ⟨items, hitems, -⟩ := Draft.exists_spells_of_arguments hd
    obtain ⟨v, hv⟩ := (hspelled hitems).mp hworkers
    exact ⟨items, v, hitems, hv⟩
  · rintro ⟨items, v, hitems, hv⟩
    exact (hspelled hitems).mpr ⟨v, hv⟩

theorem read_of_accept (h : accept args = .ok g) (home : Text) :
    read home args = match g.config home with
      | .ok c => .ok c
      | .error misfit => .error misfit.stop := by
  rw [read, h]
  rfl

/-- An accepted command line makes a run with at least one worker and one second, which never fails
for the address of its index, or it has the one fault that is left: a number of workers that is
written as zero. -/
theorem config_of_accept (haccept : accept args = .ok g) (home : Text) :
    ((∃ c, g.config home = .ok c ∧ read home args = .ok c ∧ 1 ≤ c.workers ∧ 1 ≤ c.timeout ∧
        (∃ u, Url.parse c.index = .ok u) ∧ ∀ net time d address e,
          (Run.run net time c d).value.1 ≠ .error (.index address (.address e))) ∨
      g.config home = .error .noWorkers ∧ read home args = .error .noWorkers ∧
        Misfit.message .noWorkers = "--workers must be at least 1".toList) ∧
    (g.config home = .error .noWorkers ↔
      ∃ items v, Spells items args ∧ .value .workers v ∈ items ∧ SpellsZero v) ∧
    (∀ o, g.config home ≠ .error (.missing o)) ∧ g.config home ≠ .error .format ∧
      g.config home ≠ .error .strategy := by
  obtain ⟨hfits, hhas⟩ := fits_of_accept haccept
  obtain ⟨c, hconfig, hworkers, htimeout, u, hu, hindex⟩ := Given.config_eq hfits hhas home
  obtain ⟨v, hv⟩ := hfits.url u hu
  -- What is passed on is the text of the address that was read, and the run reads it again.
  obtain ⟨u', hu'⟩ := Url.exists_parse_text hv
  have hread := read_of_accept haccept home
  rw [← workerCount_eq_zero_iff haccept, ← hworkers]
  rw [← hindex] at hu'
  by_cases hzero : c.workers = 0
  · rw [if_pos hzero] at hconfig
    rw [hconfig] at hread
    rw [hconfig]
    exact ⟨.inr ⟨rfl, hread, rfl⟩, iff_of_true rfl hzero, fun _ => nofun, nofun, nofun⟩
  · rw [if_neg hzero] at hconfig
    rw [hconfig] at hread
    rw [hconfig]
    refine ⟨.inl ⟨c, rfl, hread, Nat.pos_of_ne_zero hzero, htimeout, ⟨u', hu'⟩, ?_⟩,
      iff_of_false nofun hzero, fun _ => nofun, nofun, nofun⟩
    exact Run.run_ne_address hu'

theorem config_of_accept_zeros : ∃ g,
    accept ["--url=http://[::1]/".toList, "-qvt+000".toList] = .ok g ∧
      g.config [] = .error .noWorkers := by
  let u : Url :=
    { scheme := "http".toList, host := some (.ipv6 [0, 0, 0, 0, 0, 0, 0, 1])
      path := .segments [[]] }
  let g : Given :=
    { url := some u, output := some Run.defaultOutput, format := some "text".toList
      strategy := some "dom".toList, workers := some 0, timeout := some 10, isQuiet := true
      verbosity := 1 }
  have haccept : accept ["--url=http://[::1]/".toList, "-qvt+000".toList] = .ok g := rfl
  have hspells : Spells [.value .url "http://[::1]/".toList, .flag .quiet, .flag .verbose,
      .value .workers "+000".toList] ["--url=http://[::1]/".toList, "-qvt+000".toList] :=
    .cons (.longAttached .url _) (.cons (.shortAttached [.quiet, .verbose] "000".toList rfl
      (by decide)) .nil)
  refine ⟨g, haccept, (config_of_accept haccept []).2.1.mpr ?_⟩
  exact ⟨_, "+000".toList, hspells, by decide, ['+'], 2, .inr rfl, rfl⟩

end Command
end RefPages
