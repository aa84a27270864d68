import Mathlib.Algebra.Ring.Nat
import RefPages.Report.Basic

namespace RefPages.Report

variable {source generatedAt : Text} {ps : List PageResult} {es : List Entry}

inductive Gathers : List PageResult → List Entry → Prop where
  | nil : Gathers [] []
  | failed {p : PageResult} {ps : List PageResult} {es : List Entry} (hp : p.isOk = false)
      (hmore : Gathers ps es) : Gathers (p :: ps) es
  | read {p : PageResult} {ps : List PageResult} {block es : List Entry} (hp : p.isOk = true)
      (hsignatures : block.map (·.signature) = p.extract.signatures.filter (· ≠ []))
      (herrors : ∀ e ∈ block, e.errors = p.extract.errors.filter (· ≠ []))
      (hmore : Gathers ps es) : Gathers (p :: ps) (block ++ es)

theorem nonEmpty_eq (ts : List Text) : nonEmpty ts = ts.filter (· ≠ []) := by
  refine List.filter_congr fun t _ => ?_
  cases t <;> rfl

theorem signature_entriesOf (x : Extract) :
    (entriesOf x).map (·.signature) = x.signatures.filter (· ≠ []) := by
  rw [entriesOf, List.map_map, ← nonEmpty_eq]
  exact List.map_id _

theorem errors_of_mem_entriesOf {x : Extract} {e : Entry} (h : e ∈ entriesOf x) :
    e.errors = x.errors.filter (· ≠ []) := by
  obtain ⟨signature, -, rfl⟩ := List.mem_map.mp h
  exact nonEmpty_eq x.errors

theorem eq_entriesOf {x : Extract} {block : List Entry}
    (hsignatures : block.map (·.signature) = x.signatures.filter (· ≠ []))
    (herrors : ∀ e ∈ block, e.errors = x.errors.filter (· ≠ [])) : block = entriesOf x := by
  rw [entriesOf, nonEmpty_eq, nonEmpty_eq, ← hsignatures, List.map_map]
  conv => lhs; rw [← List.map_id block]
  refine List.map_congr_left fun e he => ?_
  rw [Function.comp_apply, ← herrors e he]
  rfl

theorem entries_cons (p : PageResult) (ps : List PageResult) :
    (ofPages source generatedAt (p :: ps)).entries =
      (if p.isOk then entriesOf p.extract else []) ++ (ofPages source generatedAt ps).entries := by
  dsimp only [ofPages]
  rw [List.filter_cons]
  cases p.isOk with
  | false => rfl
  | true => exact List.flatMap_cons

theorem gathers_iff : Gathers ps es ↔ (ofPages source generatedAt ps).entries = es := by
  constructor
  · intro h
    induction h with
    | nil => rfl
    | failed hp hmore ih => rw [entries_cons, hp, ih]; rfl
    | read hp hsignatures herrors hmore ih =>
      rw [entries_cons, hp, ih, eq_entriesOf hsignatures herrors]
      rfl
  · rintro rfl
    induction ps with
    | nil => exact Gathers.nil
    | cons p ps ih =>
      rw [entries_cons]
      cases hp : p.isOk with
      | false => exact Gathers.failed hp ih
      | true =>
        exact Gathers.read hp (signature_entriesOf _) (fun _ => errors_of_mem_entriesOf) ih

theorem entries_append (a b : List PageResult) :
    (ofPages source generatedAt (a ++ b)).entries =
      (ofPages source generatedAt a).entries ++ (ofPages source generatedAt b).entries := by
  dsimp only [ofPages]
  rw [List.filter_append, List.flatMap_append]

theorem entries_filter (ps : List PageResult) :
    (ofPages source generatedAt (ps.filter (·.isOk))).entries =
      (ofPages source generatedAt ps).entries := by
  dsimp only [ofPages]
  rw [List.filter_filter]
  simp only [Bool.and_self]

theorem count_entriesOf (x : Extract) (e : Entry) :
    (entriesOf x).count e =
      if e.signature ≠ [] ∧ e.errors = x.errors.filter (· ≠ []) then x.signatures.count e.signature
      else 0 := by
  rw [entriesOf, List.count, List.countP_map, nonEmpty_eq, nonEmpty_eq, List.countP_filter]
  split
  · next h =>
    refine List.countP_congr fun signature _ => ?_
    have heq : (Entry.mk signature (x.errors.filter (· ≠ [])) = e) ↔ signature = e.signature := by
      rw [← h.2]
      exact ⟨fun he => congrArg Entry.signature he, fun hs => hs ▸ rfl⟩
    simp only [Function.comp_apply, Bool.and_eq_true, beq_iff_eq, decide_eq_true_eq, heq]
    exact ⟨And.left, fun hs => ⟨hs, hs ▸ h.1⟩⟩
  · next h =>
    rw [List.countP_eq_zero]
    intro signature _ hboth
    simp only [Function.comp_apply, Bool.and_eq_true, beq_iff_eq, decide_eq_true_eq] at hboth
    obtain ⟨rfl, hne⟩ := hboth
    exact h ⟨hne, rfl⟩

theorem count_entries (ps : List PageResult) (e : Entry) :
    (ofPages source generatedAt ps).entries.count e =
      ((ps.filter (·.isOk)).map fun p =>
        if e.signature ≠ [] ∧ e.errors = p.extract.errors.filter (· ≠ []) then
          p.extract.signatures.count e.signature
        else 0).sum := by
  dsimp only [ofPages]
  rw [List.count_flatMap]
  refine congrArg List.sum (List.map_congr_left fun p _ => ?_)
  exact count_entriesOf p.extract e

theorem not_empty_of_mem_entries {e : Entry} (h : e ∈ (ofPages source generatedAt ps).entries) :
    e.signature ≠ [] ∧ ∀ t ∈ e.errors, t ≠ [] := by
  obtain ⟨p, -, he⟩ := List.mem_flatMap.mp h
  constructor
  · have hmem : e.signature ∈ p.extract.signatures.filter (· ≠ []) := by
      rw [← signature_entriesOf]
      exact List.mem_map_of_mem he
    exact of_decide_eq_true (List.mem_filter.mp hmem).2
  · intro t ht
    rw [errors_of_mem_entriesOf he] at ht
    exact of_decide_eq_true (List.mem_filter.mp ht).2

theorem failedPages_add (ps : List PageResult) :
    (ofPages source generatedAt ps).failedPages + (ps.filter (·.isOk)).length = ps.length := by
  have hsum := List.length_eq_countP_add_countP (·.isOk) (l := ps)
  rw [List.countP_eq_length_filter, List.countP_eq_length_filter, Nat.add_comm] at hsum
  rw [hsum]
  simp [ofPages]

/-- What a report tells of pages, and what of pages that stand behind others. -/
theorem ofPages_gathers (source generatedAt : Text) :
    let report := ofPages source generatedAt
    (∀ a b, (report (a ++ b)).entries = (report a).entries ++ (report b).entries ∧
      (report (a ++ b)).pages = (report a).pages + (report b).pages ∧
      (report (a ++ b)).failedPages = (report a).failedPages + (report b).failedPages) ∧
    ∀ ps, (report ps).pages = ps.length ∧
      (report ps).failedPages + (ps.filter (·.isOk)).length = ps.length ∧
      (report (ps.filter (·.isOk))).entries = (report ps).entries ∧
      (∀ es, (report ps).entries = es ↔ Gathers ps es) ∧
      (∀ e, (report ps).entries.count e =
        ((ps.filter (·.isOk)).map fun p =>
          if e.signature ≠ [] ∧ e.errors = p.extract.errors.filter (· ≠ []) then
            p.extract.signatures.count e.signature
          else 0).sum) ∧
      ∀ e ∈ (report ps).entries, e.signature ≠ [] ∧ ∀ t ∈ e.errors, t ≠ [] := by
  intro report
  constructor
  · intro a b
    refine ⟨entries_append a b, List.length_append, ?_⟩
    exact (congrArg List.length (List.filter_append ..)).trans List.length_append
  · intro ps
    exact ⟨rfl, failedPages_add ps, entries_filter ps, fun _ => gathers_iff.symm, count_entries ps,
      fun _ => not_empty_of_mem_entries⟩

end RefPages.Report
