namespace RefPages

structure Noted (ν α : Type) where
  value : α
  notes : List ν
  deriving Repr

namespace Noted

variable {ν μ α β : Type}

instance : Monad (Noted ν) where
  pure a := ⟨a, []⟩
  bind x f :=
    let y := f x.value
    ⟨y.value, x.notes ++ y.notes⟩

def note (n : ν) : Noted ν Unit :=
  ⟨(), [n]⟩

def noteAll (ns : List ν) : Noted ν Unit :=
  ⟨(), ns⟩

def mapNotes (f : ν → μ) (x : Noted ν α) : Noted μ α :=
  ⟨x.value, x.notes.map f⟩

@[simp]
theorem value_pure (a : α) : (pure a : Noted ν α).value = a := rfl

@[simp]
theorem notes_pure (a : α) : (pure a : Noted ν α).notes = [] := rfl

@[simp]
theorem value_bind (x : Noted ν α) (f : α → Noted ν β) : (x >>= f).value = (f x.value).value := rfl

@[simp]
theorem notes_bind (x : Noted ν α) (f : α → Noted ν β) :
    (x >>= f).notes = x.notes ++ (f x.value).notes := rfl

@[simp]
theorem value_note (n : ν) : (note n).value = () := rfl

@[simp]
theorem notes_note (n : ν) : (note n).notes = [n] := rfl

@[simp]
theorem value_mapNotes (f : ν → μ) (x : Noted ν α) : (x.mapNotes f).value = x.value := rfl

@[simp]
theorem notes_mapNotes (f : ν → μ) (x : Noted ν α) : (x.mapNotes f).notes = x.notes.map f := rfl

end Noted
end RefPages
