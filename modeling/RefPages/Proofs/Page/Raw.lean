import RefPages.Proofs.Page.Buffered
import RefPages.Proofs.Page.ByOffset.Scan

namespace RefPages.Page

open Text (joinLines lines)

/-- No place where the text is cut is inside a character or behind the end. -/
theorem scan_agrees_by_offset (body : Text) :
    Buffered.scan body = ByOffset.scan (joinLines (lines body)) ∧
      ByOffset.scan (joinLines (lines body)) = (scan body).mapError Fault.unclosed ∧
      ∀ start stop, Buffered.scan body ≠ .error (.bounds start stop) := by
  have hbuffered := Buffered.scan_eq body
  have hoffset := ByOffset.scan_eq body
  refine ⟨hbuffered.trans hoffset.symm, hoffset, ?_⟩
  intro start stop h
  rw [hbuffered] at h
  cases hs : scan body with
  | error e =>
    rw [hs] at h
    cases h
  | ok extract =>
    rw [hs] at h
    cases h

example : (ByOffset.scan "é <p funcsynopsis>é\nb</div> <i funcsynopsis>c</div>".toList).toOption =
    some ⟨["é b".toList, "c".toList], []⟩ := by decide +kernel

end RefPages.Page
