import RefPages.Folder.Lemmas

namespace RefPages

/-- All folders and files, the folder where paths begin that are not absolute, and what else the
system has against a path: a right that is missing, a disk that cannot be written. -/
structure Disk where
  root : Folder
  start : List Text
  start_isFolder : root.look? start = some none
  denial? : (path : Text) → Option Text := fun _ => none

namespace Disk

inductive Fault where
  | missing
  | isFolder
  | notFolder
  | nameTooLong
  | badName
  | denied (why : Text)
  deriving DecidableEq, Repr

def Fault.message : Fault → Text
  | missing => "No such file or directory (os error 2)".toList
  | isFolder => "Is a directory (os error 21)".toList
  | notFolder => "Not a directory (os error 20)".toList
  | nameTooLong => "File name too long (os error 36)".toList
  | badName => "file name contained an unexpected NUL byte".toList
  | denied why => why

def look? (names : List Text) (d : Disk) : Option (Option Text) :=
  d.root.look? names

def nameLimit : Nat := 255

def pathLimit : Nat := 4096

def isIdle (step : Text) : Bool :=
  step.isEmpty || step == ['.']

def outward : Text :=
  "..".toList

def enter (root : Folder) (place : List Text) (step : Text) : Except Fault (List Text) :=
  if isIdle step then .ok place
  else if step = outward then .ok place.dropLast
  else if nameLimit < step.byteSize then .error .nameTooLong
  else
    match root.look? (place ++ [step]) with
    | none => .error .missing
    | some (some _) => .error .notFolder
    | some none => .ok (place ++ [step])

def steps (path : Text) : List Text × Text :=
  let isDeep := path.getLast? = some '/'
  let parts := path.splitOn '/'
  -- Slashes at the end are one empty step, which names no file.
  if isDeep then ((parts.reverse.dropWhile (·.isEmpty)).drop 1 |>.reverse, [])
  else (parts.dropLast, parts.getLast?.getD [])

def origin (path : Text) (d : Disk) : List Text :=
  if path.head? = some '/' then [] else d.start

def arrive (root : Folder) (last : Text) (place : List Text) : Except Fault (List Text) :=
  if isIdle last || last = outward then .error .isFolder
  else if nameLimit < last.byteSize then .error .nameTooLong
  else if root.look? (place ++ [last]) = some none then .error .isFolder
  else .ok (place ++ [last])

def target (path : Text) (d : Disk) : Except Fault (List Text) :=
  if '\x00' ∈ path then .error .badName
  else
    match d.denial? path with
    | some why => .error (.denied why)
    | none =>
      if path.isEmpty then .error .missing
      else if pathLimit ≤ path.byteSize then .error .nameTooLong
      else (steps path).1.foldlM (enter d.root) (d.origin path) >>= arrive d.root (steps path).2

variable {d : Disk} {path : Text} {place place' names : List Text}

theorem look?_origin (path : Text) (d : Disk) : d.look? (d.origin path) = some none := by
  rw [origin]
  split
  · rfl
  · exact d.start_isFolder

def Admits (names : List Text) (d : Disk) : Prop :=
  ∃ front last, names = front ++ [last] ∧ d.look? front = some none ∧ d.look? names ≠ some none

theorem look?_of_enter {root : Folder} {step : Text} (hp : root.look? place = some none)
    (h : enter root place step = .ok place') : root.look? place' = some none := by
  unfold enter at h
  split at h
  · cases h
    exact hp
  split at h
  · cases h
    exact Folder.look?_dropLast hp
  split at h
  · cases h
  split at h
  · cases h
  · cases h
  · next hf =>
    cases h
    exact hf

theorem look?_of_foldlM_enter {root : Folder} {way : List Text}
    (hp : root.look? place = some none) (h : way.foldlM (enter root) place = .ok place') :
    root.look? place' = some none := by
  induction way generalizing place with
  | nil =>
    cases h
    exact hp
  | cons step way ih =>
    rw [List.foldlM_cons] at h
    cases hs : enter root place step with
    | error fault =>
      rw [hs] at h
      cases h
    | ok next =>
      rw [hs] at h
      exact ih (look?_of_enter hp hs) h

theorem admits_of_target (h : d.target path = .ok names) : d.Admits names := by
  unfold target at h
  split at h
  · cases h
  split at h
  · cases h
  split at h
  · cases h
  split at h
  · cases h
  cases hp : (steps path).1.foldlM (enter d.root) (d.origin path) with
  | error fault =>
    rw [hp] at h
    cases h
  | ok place =>
    rw [hp] at h
    change arrive d.root (steps path).2 place = .ok names at h
    unfold arrive at h
    split at h
    · cases h
    split at h
    · cases h
    split at h
    · cases h
    next hfree =>
      cases h
      exact ⟨place, _, rfl, look?_of_foldlM_enter (look?_origin path d) hp, hfree⟩

theorem Admits.ne_nil (h : d.Admits names) : names ≠ [] := by
  obtain ⟨front, last, rfl, -, -⟩ := h
  exact List.append_ne_nil_of_right_ne_nil front (List.cons_ne_nil last [])

theorem Admits.look?_put (h : d.Admits names) (content : Text) {others : List Text}
    (ho : others ≠ names) : (d.root.put (.file content) names).look? others = d.look? others := by
  obtain ⟨front, last, rfl, hfront, hfree⟩ := h
  obtain ⟨inner, hinner⟩ := Folder.look?_eq_folder_iff.mp hfront
  exact Folder.look?_put_file content hinner
    (fun g hg => hfree (Folder.look?_eq_folder_iff.mpr ⟨g, hg⟩)) ho

theorem Admits.start_ne (h : d.Admits names) : d.start ≠ names := by
  obtain ⟨_, _, _, _, hfree⟩ := h
  rintro rfl
  exact hfree d.start_isFolder

def putFile (content : Text) (names : List Text) (d : Disk) (h : d.Admits names) : Disk where
  root := d.root.put (.file content) names
  start := d.start
  start_isFolder := (h.look?_put content h.start_ne).trans d.start_isFolder
  denial? := d.denial?

def create (path content : Text) (d : Disk) : Except Fault Disk :=
  match h : d.target path with
  | .error fault => .error fault
  | .ok names => .ok (d.putFile content names (admits_of_target h))

theorem create_of_error {fault : Fault} (h : d.target path = .error fault) (content : Text) :
    d.create path content = .error fault := by
  unfold create
  split
  · next h' => exact congrArg Except.error (Except.error.inj (h'.symm.trans h))
  · next h' => cases h'.symm.trans h

theorem create_of_ok (h : d.target path = .ok names) (content : Text) :
    d.create path content = .ok (d.putFile content names (admits_of_target h)) := by
  unfold create
  split
  · next h' => cases h'.symm.trans h
  · next h' =>
    cases h'.symm.trans h
    rfl

theorem look?_putFile_self (h : d.Admits names) (content : Text) :
    (d.putFile content names h).look? names = some (some content) :=
  Folder.look?_put_file_self content h.ne_nil d.root

theorem look?_putFile_of_ne (h : d.Admits names) (content : Text) {others : List Text}
    (ho : others ≠ names) : (d.putFile content names h).look? others = d.look? others :=
  h.look?_put content ho

end Disk
end RefPages
