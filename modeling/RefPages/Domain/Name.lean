import RefPages.Domain.Label

namespace RefPages.Domain

def isForbidden (c : Char) : Bool :=
  c.toNat ≤ 0x20 || c == '\x7F' || "%#/:<>?@[\\]^|".toList.contains c

def labels? (t : Text) : Option (List Text) := do
  let name := Normal.normalize (← Mapping.mapText t)
  if name.any isForbidden then none
  else (name.splitOn '.').mapM Label.decode

def toAscii? (t : Text) : Option Text := do
  let labels ← labels? t
  let isMixed := labels.any (·.any Label.runsLeft)
  if isMixed && !labels.all Label.runsOneWay then none
  else
    let name := ['.'].intercalate (labels.map Label.encode)
    if name.any isForbidden then none else some name

theorem not_isForbidden_of_toAscii? {t name : Text} (h : toAscii? t = some name) :
    ∀ c ∈ name, isForbidden c = false := by
  simp only [toAscii?, Option.bind_eq_bind, Option.bind_eq_some_iff] at h
  obtain ⟨labels, -, h⟩ := h
  split at h
  · simp at h
  · split at h
    · simp at h
    · rename_i hn
      cases h
      simpa using hn

end RefPages.Domain
