import RefPages.Folder

namespace RefPages.Folder

variable {f inner : Folder} {name : Text}

theorem find?_cons_of_folder (h : f.lookup name = some (.folder inner)) (names : List Text) :
    f.find? (name :: names) = inner.find? names := by
  rw [find?, h]

theorem find?_cons_of_file {content : Text} (h : f.lookup name = some (.file content))
    {names : List Text} (hn : names ≠ []) : f.find? (name :: names) = none := by
  rw [find?, h]
  exact if_neg (by simpa using hn)

theorem find?_cons_of_none (h : f.lookup name = none) (names : List Text) :
    f.find? (name :: names) = none := by
  rw [find?, h]

theorem exists_folder_of_cons {names : List Text} (hn : names ≠ []) {item : FolderItem}
    (h : f.find? (name :: names) = some item) : ∃ inner, f.lookup name = some (.folder inner) := by
  cases hl : f.lookup name with
  | none =>
    rw [find?_cons_of_none hl] at h
    cases h
  | some at? =>
    cases at? with
    | file content =>
      rw [find?_cons_of_file hl hn] at h
      cases h
    | folder inner => exact ⟨inner, rfl⟩

theorem lookup_of_find?_folder {names : List Text}
    (h : f.find? (name :: names) = some (.folder inner)) :
    ∃ g, f.lookup name = some (.folder g) ∧ find? names g = some (.folder inner) := by
  cases hl : f.lookup name with
  | none =>
    rw [find?_cons_of_none hl] at h
    cases h
  | some item =>
    cases item with
    | file content =>
      rw [find?, hl] at h
      dsimp only at h
      split at h <;> cases h
    | folder g =>
      rw [find?_cons_of_folder hl] at h
      exact ⟨g, rfl, h⟩

theorem exists_folder_of_append {front names : List Text} {item : FolderItem}
    (h : f.find? (front ++ names) = some item) (hn : names ≠ []) :
    ∃ inner, f.find? front = some (.folder inner) := by
  induction front generalizing f with
  | nil => exact ⟨f, rfl⟩
  | cons name front ih =>
    obtain ⟨inner, hl⟩ := exists_folder_of_cons (List.append_ne_nil_of_right_ne_nil front hn) h
    rw [List.cons_append, find?_cons_of_folder hl] at h
    obtain ⟨g, hg⟩ := ih h
    exact ⟨g, by rw [find?_cons_of_folder hl, hg]⟩

theorem look?_cons_of_folder (h : f.lookup name = some (.folder inner)) (names : List Text) :
    f.look? (name :: names) = inner.look? names := by
  rw [look?, find?_cons_of_folder h, look?]

theorem look?_set_of_ne {other : Text} (h : other ≠ name) (item : FolderItem) (names : List Text) :
    (f.set name item).look? (other :: names) = f.look? (other :: names) := by
  rw [look?, look?, find?, find?, lookup_set_of_ne h]

theorem find?_put_file (content : Text) {names : List Text} (h : names ≠ []) (f : Folder) :
    (f.put (.file content) names).find? names = some (.file content) := by
  induction names generalizing f with
  | nil => exact absurd rfl h
  | cons name rest ih =>
    cases rest with
    | nil => simp [put]
    | cons second rest => simpa [put] using ih (by simp) (f.inside name)

theorem look?_put_file {front : List Text} {last : Text} (content : Text)
    (hf : f.find? front = some (.folder inner))
    (hl : ∀ g, f.find? (front ++ [last]) ≠ some (.folder g)) {names : List Text}
    (hn : names ≠ front ++ [last]) :
    (f.put (.file content) (front ++ [last])).look? names = f.look? names := by
  induction front generalizing f names with
  | nil =>
    cases names with
    | nil => rfl
    | cons name names =>
      by_cases h : name = last
      · -- Nothing stands behind the name, neither before nor after.
        subst h
        have hne : names ≠ [] := fun he => hn (by rw [he]; rfl)
        have hafter : (f.set name (.file content)).find? (name :: names) = none :=
          find?_cons_of_file (lookup_set_self name _ f) hne
        have hbefore : f.find? (name :: names) = none := by
          cases hi : f.find? (name :: names) with
          | none => rfl
          | some item =>
            obtain ⟨g, hg⟩ := exists_folder_of_cons hne hi
            exact absurd (find?_cons_of_folder hg []) (hl g)
        rw [List.nil_append, put, look?, look?, hafter, hbefore]
      · exact look?_set_of_ne h _ names
  | cons first front ih =>
    obtain ⟨g, hg, hfront⟩ := lookup_of_find?_folder hf
    have hput : f.put (.file content) (first :: front ++ [last]) =
        f.set first (.folder (put (.file content) (front ++ [last]) g)) := by
      rw [List.cons_append, put, inside, hg]
      exact fun h => List.append_ne_nil_of_right_ne_nil front (List.cons_ne_nil last []) h
    rw [hput]
    cases names with
    | nil => rfl
    | cons name names =>
      by_cases h : name = first
      · subst h
        rw [look?_cons_of_folder (lookup_set_self name _ f), look?_cons_of_folder hg]
        apply ih hfront
        · intro k hk
          exact hl k (by rw [List.cons_append, find?_cons_of_folder hg, hk])
        · intro he
          exact hn (by rw [he]; rfl)
      · exact look?_set_of_ne h _ names

theorem look?_put_file_self (content : Text) {names : List Text} (h : names ≠ []) (f : Folder) :
    (f.put (.file content) names).look? names = some (some content) := by
  rw [look?, find?_put_file content h]
  rfl

theorem look?_eq_folder_iff {names : List Text} :
    f.look? names = some none ↔ ∃ g, f.find? names = some (.folder g) := by
  rw [look?, Option.map_eq_some_iff]
  constructor
  · rintro ⟨item, hf, hc⟩
    cases item with
    | file content => cases hc
    | folder g => exact ⟨g, hf⟩
  · rintro ⟨g, hf⟩
    exact ⟨_, hf, rfl⟩

theorem look?_dropLast {names : List Text} (h : f.look? names = some none) :
    f.look? names.dropLast = some none := by
  cases hn : names.dropLast with
  | nil => rfl
  | cons first front =>
    have hne : names ≠ [] := by
      rintro rfl
      cases hn
    obtain ⟨g, hg⟩ := look?_eq_folder_iff.mp h
    rw [← List.dropLast_concat_getLast hne] at hg
    rw [← hn]
    exact look?_eq_folder_iff.mpr (exists_folder_of_append hg (List.cons_ne_nil _ []))

end RefPages.Folder
