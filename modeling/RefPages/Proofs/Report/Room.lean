import RefPages.Report.Format
import RefPages.Report.Sink

/-!
Writing to a sink that gets full. What it has taken then, and how the writing ends, hangs on its room
and on the bytes alone: neither on the pieces that they come in nor on how many of them the sink takes
at a time.
-/

namespace RefPages

namespace Sink

variable {bytes : List UInt8} {s s' : Sink} {outcome : Except Full Unit}

def after (bytes : List UInt8) (s : Sink) : Sink :=
  { s with taken := s.taken ++ bytes, room := s.room.map (· - bytes.length) }

def Fits (bytes : List UInt8) (s : Sink) : Prop :=
  ∀ room, s.room = some room → bytes.length ≤ room

theorem fits_nil (s : Sink) : s.Fits [] :=
  fun _ _ => Nat.zero_le _

theorem after_nil (s : Sink) : s.after [] = s := by
  obtain ⟨room, full, taken⟩ := s
  simp [after]

theorem writeBytes_of_fits (h : s.Fits bytes) : s.writeBytes bytes = (.ok (), s.after bytes) := by
  obtain ⟨room, full, taken⟩ := s
  cases room with
  | none => rfl
  | some room =>
    have hle : bytes.length ≤ room := h room rfl
    simp [writeBytes, after, hle, List.take_of_length_le hle]

theorem writeBytes_nil (s : Sink) : s.writeBytes [] = (.ok (), s) := by
  rw [writeBytes_of_fits s.fits_nil, after_nil]

theorem writeBytes_of_full (hne : bytes ≠ []) (h : s.room = some 0) :
    s.writeBytes bytes = (.error s.full, s) := by
  obtain ⟨room, full, taken⟩ := s
  cases h
  simp [writeBytes, hne]

theorem writeBytes_append (h : s.Fits bytes) (more : List UInt8) :
    s.writeBytes (bytes ++ more) = (s.after bytes).writeBytes more := by
  obtain ⟨room, full, taken⟩ := s
  cases room with
  | none => simp [writeBytes, after]
  | some room =>
    have hle : bytes.length ≤ room := h room rfl
    have hiff : bytes.length + more.length ≤ room ↔ more.length ≤ room - bytes.length := by omega
    simp [writeBytes, after, List.take_append, List.take_of_length_le hle, hiff, Nat.sub_sub]

theorem writeBytes_append_of_not_fits (h : ¬s.Fits bytes) (more : List UInt8) :
    s.writeBytes (bytes ++ more) = (.error s.full, (s.writeBytes bytes).2) ∧
      s.writeBytes bytes = (.error s.full, (s.writeBytes bytes).2) := by
  obtain ⟨room, full, taken⟩ := s
  cases room with
  | none => exact absurd (fun _ => nofun) h
  | some room =>
    have hlt : room < bytes.length := by
      rcases Nat.lt_or_ge room bytes.length with hlt | hle
      · exact hlt
      · exact absurd (fun _ he => Option.some.inj he ▸ hle) h
    have hmore : ¬bytes.length + more.length ≤ room := by omega
    have htake : (bytes ++ more).take room = bytes.take room :=
      List.take_append_of_le_length (Nat.le_of_lt hlt)
    have hroom : room - (bytes.length + more.length) = room - bytes.length := by omega
    simp [writeBytes, hmore, Nat.not_le.mpr hlt, htake, hroom]

theorem writeAll_eq_writeBytes (pieces : List Text) (s : Sink) :
    writeAll pieces s = s.writeBytes (Text.Utf8.encode pieces.flatten) := by
  induction pieces generalizing s with
  | nil => exact s.writeBytes_nil.symm
  | cons piece rest ih =>
    have hencode : Text.Utf8.encode (piece :: rest).flatten =
        Text.Utf8.encode piece ++ Text.Utf8.encode rest.flatten := List.flatMap_append
    rw [writeAll, hencode]
    by_cases h : s.Fits (Text.Utf8.encode piece)
    · rw [writeBytes_of_fits h, writeBytes_append h]
      exact ih _
    · obtain ⟨hboth, hpiece⟩ := writeBytes_append_of_not_fits h (Text.Utf8.encode rest.flatten)
      rw [hboth, hpiece]

/-- A write by calls. Each call takes some of the bytes, at least one and no more than there is room
for. A call to a full sink takes none, and with that the write has failed. -/
inductive Writes : List UInt8 → Sink → Except Full Unit → Sink → Prop where
  | done (s : Sink) : Writes [] s (.ok ()) s
  | take {first rest : List UInt8} {s s' : Sink} {outcome : Except Full Unit} (hne : first ≠ [])
      (hfits : s.Fits first) (hrest : Writes rest (s.after first) outcome s') :
      Writes (first ++ rest) s outcome s'
  | full {bytes : List UInt8} {s : Sink} (hne : bytes ≠ []) (hroom : s.room = some 0) :
      Writes bytes s (.error s.full) s

theorem Writes.eq_writeBytes (h : Writes bytes s outcome s') : s.writeBytes bytes = (outcome, s') := by
  induction h with
  | done s => exact s.writeBytes_nil
  | take hne hfits hrest ih => rw [writeBytes_append hfits, ih]
  | full hne hroom => exact writeBytes_of_full hne hroom

theorem exists_writes (bytes : List UInt8) (s : Sink) :
    ∃ outcome s', Writes bytes s outcome s' := by
  induction bytes generalizing s with
  | nil => exact ⟨_, s, Writes.done s⟩
  | cons b rest ih =>
    by_cases hfull : s.room = some 0
    · exact ⟨_, s, Writes.full (List.cons_ne_nil b rest) hfull⟩
    · have hfits : s.Fits [b] := by
        intro room hroom
        rw [hroom, Option.some_inj] at hfull
        exact Nat.one_le_iff_ne_zero.mpr hfull
      obtain ⟨outcome, s', hrest⟩ := ih (s.after [b])
      exact ⟨outcome, s', Writes.take (List.cons_ne_nil b []) hfits hrest⟩

theorem writes_iff : Writes bytes s outcome s' ↔ s.writeBytes bytes = (outcome, s') := by
  constructor
  · exact Writes.eq_writeBytes
  · intro h
    obtain ⟨outcome₁, s₁, hw⟩ := exists_writes bytes s
    cases hw.eq_writeBytes.symm.trans h
    exact hw

inductive WritesAll : List (List UInt8) → Sink → Except Full Unit → Sink → Prop where
  | done (s : Sink) : WritesAll [] s (.ok ()) s
  | next {piece : List UInt8} {rest : List (List UInt8)} {s s₁ s' : Sink}
      {outcome : Except Full Unit} (hpiece : Writes piece s (.ok ()) s₁)
      (hrest : WritesAll rest s₁ outcome s') : WritesAll (piece :: rest) s outcome s'
  | stop {piece : List UInt8} {rest : List (List UInt8)} {s s' : Sink} {kind : Full}
      (hpiece : Writes piece s (.error kind) s') : WritesAll (piece :: rest) s (.error kind) s'

theorem writesAll_iff {pieces : List Text} :
    WritesAll (pieces.map Text.Utf8.encode) s outcome s' ↔ writeAll pieces s = (outcome, s') := by
  induction pieces generalizing s with
  | nil =>
    constructor
    · rintro ⟨⟩
      rfl
    · intro h
      cases h
      exact WritesAll.done _
  | cons piece rest ih =>
    rw [List.map_cons, writeAll]
    constructor
    · intro h
      cases h with
      | next hpiece hrest =>
        rw [hpiece.eq_writeBytes]
        exact ih.mp hrest
      | stop hpiece => rw [hpiece.eq_writeBytes]
    · intro h
      rcases hfirst : s.writeBytes (Text.Utf8.encode piece) with ⟨first, s₁⟩
      rw [hfirst] at h
      cases first with
      | error kind =>
        cases h
        exact WritesAll.stop (writes_iff.mpr hfirst)
      | ok u => exact WritesAll.next (writes_iff.mpr hfirst) (ih.mpr h)

theorem writeBytes_room (bytes : List UInt8) (room : Nat) (full : Full) :
    writeBytes bytes ⟨some room, full, []⟩ =
      (if bytes.length ≤ room then .ok () else .error full,
        ⟨some (room - bytes.length), full, bytes.take (min room bytes.length)⟩) := by
  have htake : bytes.take (min room bytes.length) = bytes.take room := by
    rw [← List.take_take, List.take_length]
  rw [htake, writeBytes]
  dsimp only [List.nil_append]
  split
  · rfl
  · rfl

end Sink

namespace Report

open Sink (Full WritesAll writeAll)

/-- A report is written up to the byte that there is no more room for. Both forms are, whatever the
calls are that hand them over, and the failure is that of the sink. -/
theorem writes_what_fits (r : Report) (format : Format) (full : Full) (room : Nat) :
    let output := Text.Utf8.encode (r.write format)
    writeAll (r.pieces format) ⟨none, full, []⟩ = (.ok (), ⟨none, full, output⟩) ∧
      ∃ outcome s, writeAll (r.pieces format) ⟨some room, full, []⟩ = (outcome, s) ∧
        s.taken = output.take (min room output.length) ∧
        (outcome = .ok () ↔ output.length ≤ room) ∧
        (room < output.length → outcome = .error full) ∧
        ∀ outcome' s', WritesAll ((r.pieces format).map Text.Utf8.encode) ⟨some room, full, []⟩
          outcome' s' ↔ outcome' = outcome ∧ s' = s := by
  intro output
  have hroom := Sink.writeAll_eq_writeBytes (r.pieces format) ⟨some room, full, []⟩
  rw [Sink.writeBytes_room] at hroom
  refine ⟨Sink.writeAll_eq_writeBytes _ _, _, _, hroom, rfl, ?_, ?_, ?_⟩
  · split
    · next h => exact iff_of_true rfl h
    · next h => exact iff_of_false nofun h
  · intro hlt
    exact if_neg (Nat.not_le.mpr hlt)
  · intro outcome' s'
    rw [Sink.writesAll_iff, hroom, Prod.mk.injEq]
    exact and_congr eq_comm eq_comm

end Report
end RefPages
