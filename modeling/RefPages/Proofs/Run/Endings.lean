import Mathlib.Logic.ExistsUnique
import RefPages.Proofs.Harvest.Index
import RefPages.Proofs.Run.Target
import RefPages.Run.Basic

namespace RefPages.Run

open Harvest (IndexFails IndexRead fetchIndex fetchIndex_cases fetchPage)

variable (net : Http.Network) (time : Text) (c : Config) (d : Disk)

def reportOf (links : List PageLink) : Report :=
  .ofPages c.index time (links.map fun link => (fetchPage net c.strategy link).value)

def AllFail (links : List PageLink) : Prop :=
  links ≠ [] ∧ ∀ link ∈ links, (fetchPage net c.strategy link).value.isOk = false

inductive Ending where
  | noIndex
  | noOutput
  | noPage
  | saved

def Ending.Holds (outcome : Except Failure Summary) (after : Disk) : Ending → Prop
  | noIndex =>
    ∃ failure, IndexFails net c.index failure ∧ outcome = .error (.index c.index failure) ∧ after = d
  | noOutput =>
    (∀ failure, ¬IndexFails net c.index failure) ∧
      (∃ fault, d.Refuses c.output fault ∧ outcome = .error (.output c.output fault)) ∧ after = d
  | noPage =>
    ∃ links place, IndexRead net c.index links ∧ d.target c.output = .ok place ∧
      AllFail net c links ∧ outcome = .error (.allPages links.length c.output) ∧
      let r := reportOf net time c links
      r.entries = [] ∧ r.pages = links.length ∧ r.failedPages = r.pages ∧
        after.look? place = some (some (r.write c.format))
  | saved =>
    ∃ links place, IndexRead net c.index links ∧ d.target c.output = .ok place ∧
      ¬AllFail net c links ∧
      let r := reportOf net time c links
      outcome = .ok ⟨c.output, r.pages, r.failedPages, r.entries.length⟩ ∧
        after.look? place = some (some (r.write c.format))

variable {net time c d} {links : List PageLink}

theorem pages_reportOf : (reportOf net time c links).pages = links.length :=
  List.length_map _

theorem failedPages_reportOf_iff :
    (reportOf net time c links).failedPages = links.length ↔
      ∀ link ∈ links, (fetchPage net c.strategy link).value.isOk = false := by
  dsimp only [reportOf, Report.ofPages]
  rw [List.filter_map, List.length_map, List.length_filter_eq_length_iff]
  simp

theorem allFail_iff :
    AllFail net c links ↔ 0 < (reportOf net time c links).pages ∧
      (reportOf net time c links).failedPages = (reportOf net time c links).pages := by
  rw [pages_reportOf, failedPages_reportOf_iff, AllFail, List.length_pos_iff]

theorem AllFail.entries (h : AllFail net c links) : (reportOf net time c links).entries = [] := by
  have hnone :
      (links.map fun link => (fetchPage net c.strategy link).value).filter (·.isOk) = [] := by
    rw [List.filter_eq_nil_iff]
    intro p hp
    obtain ⟨link, hlink, rfl⟩ := List.mem_map.mp hp
    rw [h.2 link hlink]
    exact Bool.false_ne_true
  rw [reportOf, Report.ofPages, hnone, List.flatMap_nil]

theorem verdict_of_allFail (h : AllFail net c links) :
    verdict c.output (reportOf net time c links) = .error (.allPages links.length c.output) := by
  rw [verdict, if_pos (allFail_iff.mp h), pages_reportOf]

theorem verdict_of_not_allFail (h : ¬AllFail net c links) :
    verdict c.output (reportOf net time c links) =
      .ok (.ofReport c.output (reportOf net time c links)) := by
  rw [verdict, if_neg fun he => h (allFail_iff.mpr he)]

theorem value_run (net : Http.Network) (time : Text) (c : Config) (d : Disk) :
    (run net time c d).value =
      match (fetchIndex net c.index).value with
      | .error failure => (.error (.index c.index failure), d)
      | .ok links =>
        match d.create c.output ((reportOf net time c links).write c.format) with
        | .error fault => (.error (.output c.output fault), d)
        | .ok after => (verdict c.output (reportOf net time c links), after) := by
  rw [run, Noted.value_bind, Harvest.value_run]
  cases (fetchIndex net c.index).value with
  | error failure => rfl
  | ok links =>
    dsimp only [Except.map, save]
    rw [← reportOf]
    cases d.create c.output ((reportOf net time c links).write c.format) <;> rfl

theorem value_run_cases (net : Http.Network) (time : Text) (c : Config) (d : Disk) :
    (∃ failure, IndexFails net c.index failure ∧
      (run net time c d).value = (.error (.index c.index failure), d)) ∨
    (∃ links fault, (fetchIndex net c.index).value = .ok links ∧ d.Refuses c.output fault ∧
      (run net time c d).value = (.error (.output c.output fault), d)) ∨
    ∃ (links : List PageLink) (place : List Text) (h : d.target c.output = .ok place),
      IndexRead net c.index links ∧
      (run net time c d).value = (verdict c.output (reportOf net time c links),
        d.putFile ((reportOf net time c links).write c.format) place (Disk.admits_of_target h)) := by
  rw [value_run]
  obtain ⟨failure, hfails⟩ | ⟨links, hread, hlinks⟩ := fetchIndex_cases net c.index
  · rw [hfails.value_eq]
    exact .inl ⟨failure, hfails, rfl⟩
  · right
    rw [hlinks]
    dsimp only
    obtain ⟨fault, hrefuses⟩ | ⟨_, -, -, -, -, hplace⟩ := Disk.target_cases d c.output
    · rw [Disk.create_of_error (Disk.target_of_refuses hrefuses)]
      exact .inl ⟨links, fault, rfl, hrefuses, rfl⟩
    · rw [Disk.create_of_ok hplace]
      exact .inr ⟨links, _, hplace, hread, rfl⟩

theorem look?_run (net : Http.Network) (time : Text) (c : Config) (d : Disk) {names : List Text}
    (h : d.target c.output ≠ .ok names) :
    (run net time c d).value.2.look? names = d.look? names := by
  obtain ⟨failure, -, hrun⟩ | ⟨links, fault, -, -, hrun⟩ | ⟨links, place, hplace, -, hrun⟩ :=
    value_run_cases net time c d
  · rw [hrun]
  · rw [hrun]
  · rw [hrun]
    refine Disk.look?_putFile_of_ne (Disk.admits_of_target hplace) _ ?_
    rintro rfl
    exact h hplace

theorem exists_ending (net : Http.Network) (time : Text) (c : Config) (d : Disk) :
    ∃ e : Ending, e.Holds net time c d (run net time c d).value.1 (run net time c d).value.2 := by
  obtain ⟨failure, hfails, hrun⟩ | ⟨links, fault, hindex, hrefuses, hrun⟩ |
    ⟨links, place, hplace, hread, hrun⟩ := value_run_cases net time c d
  · rw [hrun]
    exact ⟨.noIndex, failure, hfails, rfl, rfl⟩
  · rw [hrun]
    refine ⟨.noOutput, ?_, ⟨fault, hrefuses, rfl⟩, rfl⟩
    intro failure hfails
    cases hfails.value_eq.symm.trans hindex
  · have hfile := Disk.look?_putFile_self (Disk.admits_of_target hplace)
      ((reportOf net time c links).write c.format)
    rw [hrun]
    by_cases h : AllFail net c links
    · rw [verdict_of_allFail h]
      exact ⟨.noPage, links, place, hread, hplace, h, rfl, h.entries, pages_reportOf,
        (allFail_iff.mp h).2, hfile⟩
    · rw [verdict_of_not_allFail h]
      exact ⟨.saved, links, place, hread, hplace, h, rfl, hfile⟩

def endingOf : Except Failure Summary → Ending
  | .error (.index ..) => .noIndex
  | .error (.output ..) => .noOutput
  | .error (.allPages ..) => .noPage
  | .ok _ => .saved

theorem Ending.Holds.eq_endingOf {outcome : Except Failure Summary} {after : Disk} {e : Ending}
    (h : e.Holds net time c d outcome after) : e = endingOf outcome := by
  cases e with
  | noIndex =>
    obtain ⟨failure, -, rfl, -⟩ := h
    rfl
  | noOutput =>
    obtain ⟨-, ⟨fault, -, rfl⟩, -⟩ := h
    rfl
  | noPage =>
    obtain ⟨links, place, -, -, -, rfl, -⟩ := h
    rfl
  | saved =>
    obtain ⟨links, place, -, -, -, rfl, -⟩ := h
    rfl

/-- A run ends in exactly one way, and nothing on the disk changes but the file of its report. -/
theorem ends_in_one_way (net : Http.Network) (time : Text) (c : Config) (d : Disk) :
    let result := (run net time c d).value
    (∀ names, d.target c.output ≠ .ok names → result.2.look? names = d.look? names) ∧
      ∃! e : Ending, e.Holds net time c d result.1 result.2 := by
  refine ⟨fun names h => look?_run net time c d h, ?_⟩
  obtain ⟨e, he⟩ := exists_ending net time c d
  exact ⟨e, he, fun e' he' => he'.eq_endingOf.trans he.eq_endingOf.symm⟩

end RefPages.Run
