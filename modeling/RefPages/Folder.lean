import RefPages.Text.Basic

namespace RefPages

inductive FolderItem where
  | file (content : Text)
  | folder (entries : List (Text × FolderItem))
  deriving Repr

def FolderItem.content? : FolderItem → Option Text
  | file content => some content
  | folder _ => none

abbrev Folder := List (Text × FolderItem)

namespace Folder

@[simp]
def find? : (names : List Text) → Folder → Option FolderItem
  | [], f => some (.folder f)
  | name :: names, f =>
    match f.lookup name with
    | some (.folder inner) => find? names inner
    | some (.file content) => if names.isEmpty then some (.file content) else none
    | none => none

/-- What stands at the end of a row of names: a file with its content, or a folder whatever it
holds. -/
def look? (names : List Text) (f : Folder) : Option (Option Text) :=
  (f.find? names).map FolderItem.content?

def set (name : Text) (item : FolderItem) : Folder → Folder
  | [] => [(name, item)]
  | (other, old) :: rest =>
    if other = name then (name, item) :: rest else (other, old) :: set name item rest

def inside (name : Text) (f : Folder) : Folder :=
  match f.lookup name with
  | some (.folder inner) => inner
  | _ => []

def put (item : FolderItem) : (names : List Text) → Folder → Folder
  | [], f => f
  | [name], f => f.set name item
  | name :: names, f => f.set name (.folder (put item names (f.inside name)))

theorem lookup_entry (name other : Text) (item : FolderItem) (f : Folder) :
    List.lookup other ((name, item) :: f) = if other = name then some item else f.lookup other := by
  by_cases h : other = name
  · simp [h]
  · simp [List.lookup_cons, h, beq_false_of_ne h]

theorem lookup_set (name other : Text) (item : FolderItem) (f : Folder) :
    (f.set name item).lookup other = if other = name then some item else f.lookup other := by
  fun_induction set name item f with
  | case1 => exact lookup_entry name other item []
  | case2 old rest =>
    rw [lookup_entry, lookup_entry]
    split <;> rfl
  | case3 first old rest hne ih =>
    rw [lookup_entry, lookup_entry, ih]
    by_cases h : other = first
    · simp [h, hne]
    · simp [h]

@[simp]
theorem lookup_set_self (name : Text) (item : FolderItem) (f : Folder) :
    (f.set name item).lookup name = some item := by
  simp [lookup_set]

theorem lookup_set_of_ne {name other : Text} (h : other ≠ name) (item : FolderItem) (f : Folder) :
    (f.set name item).lookup other = f.lookup other := by
  simp [lookup_set, h]

mutual

def listItem (path : Text) : FolderItem → List (Text × Option Text)
  | .file content => [(path, some content)]
  | .folder entries => (path ++ ['/'], none) :: listEntries (path ++ ['/']) entries

def listEntries (front : Text) : List (Text × FolderItem) → List (Text × Option Text)
  | [] => []
  | (name, item) :: rest => listItem (front ++ name) item ++ listEntries front rest

end

def list (f : Folder) : List (Text × Option Text) :=
  listEntries [] f

end Folder
end RefPages
