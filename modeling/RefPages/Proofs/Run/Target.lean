import RefPages.Disk

/-!
A path leads to a file exactly when each folder on its way is there and its last step is a name that
no folder has. The first thing that is not so is what it fails by.
-/

namespace RefPages.Disk

structure IsName (step : Text) : Prop where
  idle : isIdle step = false
  outward : step ≠ outward
  short : step.byteSize ≤ nameLimit

inductive Leads (root : Folder) : (place way place' : List Text) → Prop
  | done (place : List Text) : Leads root place [] place
  | stay {place way place' : List Text} {step : Text} (hs : isIdle step = true)
    (hw : Leads root place way place') : Leads root place (step :: way) place'
  | out {place way place' : List Text} (hw : Leads root place.dropLast way place') :
    Leads root place (outward :: way) place'
  | into {place way place' : List Text} {step : Text} (hs : IsName step)
    (hf : root.look? (place ++ [step]) = some none) (hw : Leads root (place ++ [step]) way place') :
    Leads root place (step :: way) place'

inductive Blocks (root : Folder) (place : List Text) (step : Text) : Fault → Prop
  | long (hs : nameLimit < step.byteSize) : Blocks root place step .nameTooLong
  | missing (hs : IsName step) (hn : root.look? (place ++ [step]) = none) :
    Blocks root place step .missing
  | file {content : Text} (hs : IsName step)
    (hf : root.look? (place ++ [step]) = some (some content)) : Blocks root place step .notFolder

def Halts (root : Folder) (place way : List Text) (fault : Fault) : Prop :=
  ∃ front step rest place', way = front ++ step :: rest ∧ Leads root place front place' ∧
    Blocks root place' step fault

variable {d : Disk} {root : Folder} {path step : Text} {place place' way names : List Text}
  {fault : Fault}

theorem not_idle_of_long (h : nameLimit < step.byteSize) :
    isIdle step = false ∧ step ≠ outward := by
  constructor
  · rw [isIdle, Bool.or_eq_false_iff]
    constructor
    · rw [List.isEmpty_eq_false_iff]
      rintro rfl
      exact absurd h (by decide)
    · rw [beq_eq_false_iff_ne]
      rintro rfl
      exact absurd h (by decide)
  · rintro rfl
    exact absurd h (by decide)

theorem enter_of_isName (h : IsName step) : enter root place step =
    match root.look? (place ++ [step]) with
    | none => .error .missing
    | some (some _) => .error .notFolder
    | some none => .ok (place ++ [step]) := by
  rw [enter, h.idle, if_neg Bool.false_ne_true, if_neg h.outward]
  exact if_neg (Nat.not_lt.mpr h.short)

theorem enter_of_blocks (h : Blocks root place step fault) :
    enter root place step = .error fault := by
  cases h with
  | long hs =>
    obtain ⟨hidle, hout⟩ := not_idle_of_long hs
    rw [enter, hidle, if_neg Bool.false_ne_true, if_neg hout, if_pos hs]
  | missing hs hn => rw [enter_of_isName hs, hn]
  | file hs hf => rw [enter_of_isName hs, hf]

theorem enter_cases (root : Folder) (place : List Text) (step : Text) :
    isIdle step = true ∨ step = outward ∨
      (IsName step ∧ root.look? (place ++ [step]) = some none) ∨
      ∃ fault, Blocks root place step fault := by
  by_cases hidle : isIdle step = true
  · exact .inl hidle
  by_cases hout : step = outward
  · exact .inr (.inl hout)
  by_cases hlong : nameLimit < step.byteSize
  · exact .inr (.inr (.inr ⟨_, .long hlong⟩))
  have hname : IsName step := ⟨Bool.eq_false_iff.mpr hidle, hout, Nat.le_of_not_lt hlong⟩
  cases hl : root.look? (place ++ [step]) with
  | none => exact .inr (.inr (.inr ⟨_, .missing hname hl⟩))
  | some item =>
    cases item with
    | some content => exact .inr (.inr (.inr ⟨_, .file hname hl⟩))
    | none => exact .inr (.inr (.inl ⟨hname, rfl⟩))

theorem foldlM_enter_of_leads (h : Leads root place way place') :
    way.foldlM (enter root) place = .ok place' := by
  induction h with
  | done => rfl
  | stay hs _ ih =>
    rw [List.foldlM_cons, enter, if_pos hs]
    exact ih
  | out _ ih =>
    rw [List.foldlM_cons]
    exact ih
  | into hs hf _ ih =>
    rw [List.foldlM_cons, enter_of_isName hs, hf]
    exact ih

theorem leads_or_halts (root : Folder) (place way : List Text) :
    (∃ place', Leads root place way place') ∨ ∃ fault, Halts root place way fault := by
  induction way generalizing place with
  | nil => exact .inl ⟨place, .done place⟩
  | cons step way ih =>
    -- What is found further on is found behind this step too.
    have go {next : List Text} (h : ∀ {way place'}, Leads root next way place' →
        Leads root place (step :: way) place') :
        (∃ place', Leads root place (step :: way) place') ∨
          ∃ fault, Halts root place (step :: way) fault := by
      obtain ⟨place', hw⟩ | ⟨fault, front, stuck, rest, place', rfl, hw, hb⟩ := ih next
      · exact .inl ⟨place', h hw⟩
      · exact .inr ⟨fault, step :: front, stuck, rest, place', rfl, h hw, hb⟩
    rcases enter_cases root place step with hs | rfl | ⟨hs, hf⟩ | ⟨fault, hb⟩
    · exact go (.stay hs)
    · exact go .out
    · exact go (.into hs hf)
    · exact .inr ⟨fault, [], step, way, place, rfl, .done place, hb⟩

theorem foldlM_enter_of_halts (h : Halts root place way fault) :
    way.foldlM (enter root) place = .error fault := by
  obtain ⟨front, step, rest, place', rfl, hl, hb⟩ := h
  rw [List.foldlM_append, foldlM_enter_of_leads hl]
  change (step :: rest).foldlM (enter root) place' = .error fault
  rw [List.foldlM_cons, enter_of_blocks hb]
  rfl

structure Takes (d : Disk) (path : Text) : Prop where
  nul : '\x00' ∉ path
  denial? : d.denial? path = none
  ne_nil : path ≠ []
  short : path.byteSize < pathLimit

def Arrives (d : Disk) (path : Text) (place : List Text) : Prop :=
  Leads d.root (d.origin path) (steps path).1 place

/-- Why a path creates no file: it is no path, the system is against it, a folder on its way is
missing or a file, a name on it is too long, it ends in no name, or a folder has the name that it
ends in. -/
inductive Refuses (d : Disk) (path : Text) : Fault → Prop
  | nul (h : '\x00' ∈ path) : Refuses d path .badName
  | denied {why : Text} (h : '\x00' ∉ path) (hd : d.denial? path = some why) :
    Refuses d path (.denied why)
  | empty (h : path = []) (hd : d.denial? path = none) : Refuses d path .missing
  | longPath (h : '\x00' ∉ path) (hd : d.denial? path = none) (hl : pathLimit ≤ path.byteSize) :
    Refuses d path .nameTooLong
  | onTheWay {fault : Fault} (h : d.Takes path)
    (hw : Halts d.root (d.origin path) (steps path).1 fault) : Refuses d path fault
  | noName {place : List Text} (h : d.Takes path) (ha : d.Arrives path place)
    (hl : isIdle (steps path).2 = true ∨ (steps path).2 = outward) : Refuses d path .isFolder
  | longName {place : List Text} (h : d.Takes path) (ha : d.Arrives path place)
    (hl : nameLimit < (steps path).2.byteSize) : Refuses d path .nameTooLong
  | folder {place : List Text} (h : d.Takes path) (ha : d.Arrives path place)
    (hl : IsName (steps path).2) (hf : d.look? (place ++ [(steps path).2]) = some none) :
    Refuses d path .isFolder

theorem Takes.target (h : d.Takes path) : d.target path =
    (steps path).1.foldlM (enter d.root) (d.origin path) >>= arrive d.root (steps path).2 := by
  rw [Disk.target, if_neg h.nul, h.denial?]
  dsimp only
  rw [if_neg (by simpa using h.ne_nil), if_neg (Nat.not_le.mpr h.short)]

theorem Takes.target_of_arrives (h : d.Takes path) (ha : d.Arrives path place) :
    d.target path = arrive d.root (steps path).2 place := by
  rw [h.target, foldlM_enter_of_leads ha]
  rfl

theorem arrive_of_isName (hn : IsName step) : arrive root step place =
    if root.look? (place ++ [step]) = some none then .error .isFolder else .ok (place ++ [step]) := by
  rw [arrive, if_neg (by simp [hn.idle, hn.outward]), if_neg (Nat.not_lt.mpr hn.short)]

theorem target_of_refuses (h : d.Refuses path fault) : d.target path = .error fault := by
  cases h with
  | nul h => exact if_pos h
  | denied h hd => rw [target, if_neg h, hd]
  | empty h hd =>
    subst h
    rw [target, if_neg List.not_mem_nil, hd]
    rfl
  | longPath h hd hl =>
    have hne : ¬path.isEmpty = true := by
      intro he
      rw [List.isEmpty_iff.mp he] at hl
      exact absurd hl (by decide)
    rw [target, if_neg h, hd]
    dsimp only
    rw [if_neg hne, if_pos hl]
  | onTheWay h hw =>
    rw [h.target, foldlM_enter_of_halts hw]
    rfl
  | noName h ha hl =>
    rw [h.target_of_arrives ha]
    exact if_pos (by simpa using hl)
  | longName h ha hl =>
    obtain ⟨hidle, hout⟩ := not_idle_of_long hl
    rw [h.target_of_arrives ha, arrive, if_neg (by simp [hidle, hout]), if_pos hl]
  | folder h ha hl hf =>
    rw [h.target_of_arrives ha, arrive_of_isName hl]
    exact if_pos hf

theorem target_cases (d : Disk) (path : Text) :
    (∃ fault, d.Refuses path fault) ∨
    ∃ place, d.Takes path ∧ d.Arrives path place ∧ IsName (steps path).2 ∧
      d.look? (place ++ [(steps path).2]) ≠ some none ∧
      d.target path = .ok (place ++ [(steps path).2]) := by
  by_cases hnul : '\x00' ∈ path
  · exact .inl ⟨_, .nul hnul⟩
  by_cases hdenied : ∃ why, d.denial? path = some why
  · obtain ⟨why, hwhy⟩ := hdenied
    exact .inl ⟨_, .denied hnul hwhy⟩
  have hdenial : d.denial? path = none :=
    Option.eq_none_iff_forall_ne_some.mpr fun why hwhy => hdenied ⟨why, hwhy⟩
  by_cases hempty : path = []
  · exact .inl ⟨_, .empty hempty hdenial⟩
  by_cases hlong : pathLimit ≤ path.byteSize
  · exact .inl ⟨_, .longPath hnul hdenial hlong⟩
  have h : d.Takes path := ⟨hnul, hdenial, hempty, Nat.lt_of_not_le hlong⟩
  obtain ⟨place, ha⟩ | ⟨fault, hw⟩ := leads_or_halts d.root (d.origin path) (steps path).1
  · by_cases hidle : isIdle (steps path).2 = true
    · exact .inl ⟨_, .noName h ha (.inl hidle)⟩
    by_cases hout : (steps path).2 = outward
    · exact .inl ⟨_, .noName h ha (.inr hout)⟩
    by_cases hlast : nameLimit < (steps path).2.byteSize
    · exact .inl ⟨_, .longName h ha hlast⟩
    have hname : IsName (steps path).2 :=
      ⟨Bool.eq_false_iff.mpr hidle, hout, Nat.le_of_not_lt hlast⟩
    by_cases hf : d.look? (place ++ [(steps path).2]) = some none
    · exact .inl ⟨_, .folder h ha hname hf⟩
    refine .inr ⟨place, h, ha, hname, hf, ?_⟩
    rw [h.target_of_arrives ha, arrive_of_isName hname]
    exact if_neg hf
  · exact .inl ⟨fault, .onTheWay h hw⟩

theorem target_eq_error_iff : d.target path = .error fault ↔ d.Refuses path fault := by
  refine ⟨fun h => ?_, target_of_refuses⟩
  obtain ⟨fault', hr⟩ | ⟨place, -, -, -, -, ht⟩ := target_cases d path
  · rw [target_of_refuses hr] at h
    cases h
    exact hr
  · rw [ht] at h
    cases h

theorem target_eq_ok_iff : d.target path = .ok names ↔
    d.Takes path ∧ IsName (steps path).2 ∧ ∃ place, d.Arrives path place ∧
      d.look? names ≠ some none ∧ names = place ++ [(steps path).2] := by
  constructor
  · intro h
    obtain ⟨fault, hr⟩ | ⟨place, hp, ha, hname, hf, ht⟩ := target_cases d path
    · rw [target_of_refuses hr] at h
      cases h
    · rw [ht] at h
      cases h
      exact ⟨hp, hname, place, ha, hf, rfl⟩
  · rintro ⟨hp, hname, place, ha, hf, rfl⟩
    rw [hp.target_of_arrives ha, arrive_of_isName hname]
    exact if_neg hf

example :
    let d : Disk :=
      { root := [("tmp".toList, .folder [("work".toList, .folder [])])]
        start := ["tmp".toList, "work".toList], start_isFolder := rfl }
    d.target "/tmp/r.txt".toList = .ok ["tmp".toList, "r.txt".toList] ∧
      d.target ".././r.txt".toList = .ok ["tmp".toList, "r.txt".toList] ∧
      d.target "/home/r.txt".toList = .error .missing := by
  cbv

end RefPages.Disk
