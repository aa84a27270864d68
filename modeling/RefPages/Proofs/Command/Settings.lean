import RefPages.Proofs.Command.Spelling

namespace RefPages.Command

def SpellsZero (v : Text) : Prop :=
  ∃ sign n, (sign = [] ∨ sign = ['+']) ∧ v = sign ++ List.replicate (n + 1) '0'

theorem digitValue?_eq_some_zero_iff {c : Char} : Text.digitValue? 10 c = some 0 ↔ c = '0' := by
  constructor
  · intro h
    obtain ⟨h, -⟩ := Option.filter_eq_some_iff.mp h
    split at h
    · next hc =>
      have hle : '0'.toNat ≤ c.toNat := hc.1
      have hsub : c.toNat - '0'.toNat = 0 := Option.some.inj h
      have heq : c.toNat = '0'.toNat := by omega
      exact Char.toNat_inj.mp heq
    · split at h
      · cases h
      · split at h <;> cases h
  · rintro rfl
    decide

theorem le_of_readDigits {n m : Nat} {t : Text} (h : readDigits n t = .ok m) : n ≤ m := by
  induction t generalizing n with
  | nil =>
    cases h
    exact Nat.le_refl _
  | cons c t ih =>
    rw [readDigits] at h
    split at h
    · cases h
    · next d _ =>
      split at h
      · have := ih h
        omega
      · cases h

theorem readDigits_eq_zero_iff {t : Text} :
    readDigits 0 t = .ok 0 ↔ t = List.replicate t.length '0' := by
  induction t with
  | nil => exact iff_of_true rfl rfl
  | cons c t ih =>
    rw [List.length_cons, List.replicate_succ, List.cons.injEq, ← ih, ← digitValue?_eq_some_zero_iff,
      readDigits]
    cases hd : Text.digitValue? 10 c with
    | none => simp
    | some d =>
      have hlimit : 0 < Text.numberLimit := by decide
      by_cases hzero : d = 0
      · subst hzero
        simp [hlimit]
      · refine iff_of_false (fun h => ?_) (fun h => hzero (Option.some.inj h.1))
        dsimp only at h
        split at h
        · have := le_of_readDigits h
          omega
        · cases h

theorem readDigits_eq_zero_iff_exists {t : Text} (hne : t ≠ []) :
    readDigits 0 t = .ok 0 ↔ ∃ n, t = List.replicate (n + 1) '0' := by
  rw [readDigits_eq_zero_iff]
  constructor
  · intro h
    have hpos : 0 < t.length := List.length_pos_iff.mpr hne
    refine ⟨t.length - 1, ?_⟩
    rwa [Nat.sub_add_cancel hpos]
  · rintro ⟨n, rfl⟩
    rw [List.length_replicate]

theorem readNumber_eq_zero_iff {v : Text} : readNumber v = .ok 0 ↔ SpellsZero v := by
  rw [readNumber.eq_def]
  split
  · refine iff_of_false nofun ?_
    rintro ⟨sign, n, -, h⟩
    simp at h
  · refine iff_of_false nofun ?_
    rintro ⟨sign, n, rfl | rfl, h⟩ <;> simp [List.replicate_succ] at h
  · next t hne =>
    rw [readDigits_eq_zero_iff_exists fun h => hne (by rw [h])]
    constructor
    · rintro ⟨n, rfl⟩
      exact ⟨['+'], n, .inr rfl, rfl⟩
    · rintro ⟨sign, n, rfl | rfl, h⟩
      · cases h
      · exact ⟨n, List.tail_eq_of_cons_eq h⟩
  · next hnil hone hplus =>
    rw [readDigits_eq_zero_iff_exists hnil]
    constructor
    · rintro ⟨n, rfl⟩
      exact ⟨[], n, .inl rfl, rfl⟩
    · rintro ⟨sign, n, rfl | rfl, h⟩
      · exact ⟨n, h⟩
      · exact absurd h (hplus _)

def Opt.Offers (o : Opt) (name : Text) : Prop :=
  name ∈ o.choices.map String.toList

namespace Given

structure Fits (g : Given) : Prop where
  url : ∀ u ∈ g.url, ∃ v, Url.parse v = .ok u
  format : ∀ name ∈ g.format, Opt.format.Offers name
  strategy : ∀ name ∈ g.strategy, Opt.strategy.Offers name
  timeout : ∀ n ∈ g.timeout, 1 ≤ n

theorem fits_empty : Fits {} :=
  ⟨nofun, nofun, nofun, nofun⟩

inductive Sets (g : Given) : Opt → Text → Given → Prop
  | url {v : Text} {u : Url} (hg : g.url = none) (hu : Url.parse v = .ok u) :
      Sets g .url v { g with url := some u }
  | output {v : Text} (hg : g.output = none) : Sets g .output v { g with output := some v }
  | format {v : Text} (hg : g.format = none) (hv : Opt.format.Offers v) :
      Sets g .format v { g with format := some v }
  | strategy {v : Text} (hg : g.strategy = none) (hv : Opt.strategy.Offers v) :
      Sets g .strategy v { g with strategy := some v }
  | workers {v : Text} {n : Nat} (hg : g.workers = none) (hn : readNumber v = .ok n) :
      Sets g .workers v { g with workers := some n }
  | timeout {v : Text} {n : Nat} (hg : g.timeout = none) (hn : readNumber v = .ok n)
      (hpos : 1 ≤ n) : Sets g .timeout v { g with timeout := some n }

theorem choose_eq_ok {o : Opt} {v name : Text} (h : choose o v = .ok name) :
    name = v ∧ o.Offers v := by
  rw [choose] at h
  split at h
  · next hany =>
    cases h
    obtain ⟨choice, hmem, heq⟩ := List.any_eq_true.mp hany
    exact ⟨rfl, List.mem_map.mpr ⟨choice, hmem, eq_of_beq heq⟩⟩
  · cases h

theorem check_eq_ok {α ε : Type} {o : Opt} {v : Text} {message : ε → Text} {r : Except ε α} {a : α}
    (h : check o v message r = .ok a) : r = .ok a := by
  cases r with
  | error e => cases h
  | ok b =>
    cases h
    rfl

theorem exists_of_bind {α β ε : Type} {r : Except ε α} {k : α → Except ε β} {b : β}
    (h : (r >>= k) = .ok b) : ∃ a, r = .ok a ∧ k a = .ok b := by
  cases r with
  | error e => cases h
  | ok a => exact ⟨a, rfl, h⟩

theorem readNumberFrom_eq_ok {least n : Nat} {v : Text} (h : readNumberFrom least v = .ok n) :
    readNumber v = .ok n ∧ least ≤ n := by
  obtain ⟨m, hm, h⟩ := exists_of_bind h
  split at h
  · cases h
  · next hle =>
    cases h
    exact ⟨hm, Nat.not_lt.mp hle⟩

theorem sets_of_set {g g' : Given} {o : Opt} {v : Text} (h : g.set o v = .ok g') :
    g.Sets o v g' := by
  rw [set.eq_def] at h
  split at h
  · cases h
  · next hg =>
    cases o with
    | url =>
      obtain ⟨u, hu, h⟩ := exists_of_bind h
      cases h
      exact .url (Option.not_isSome_iff_eq_none.mp hg) (check_eq_ok hu)
    | output =>
      cases h
      exact .output (Option.not_isSome_iff_eq_none.mp hg)
    | format =>
      obtain ⟨name, hname, hset⟩ := exists_of_bind h
      obtain ⟨rfl, hv⟩ := choose_eq_ok hname
      cases hset
      exact .format (Option.not_isSome_iff_eq_none.mp hg) hv
    | strategy =>
      obtain ⟨name, hname, hset⟩ := exists_of_bind h
      obtain ⟨rfl, hv⟩ := choose_eq_ok hname
      cases hset
      exact .strategy (Option.not_isSome_iff_eq_none.mp hg) hv
    | workers =>
      obtain ⟨n, hn, h⟩ := exists_of_bind h
      cases h
      exact .workers (Option.not_isSome_iff_eq_none.mp hg) (check_eq_ok hn)
    | timeout =>
      obtain ⟨n, hn, h⟩ := exists_of_bind h
      obtain ⟨hn, hpos⟩ := readNumberFrom_eq_ok (check_eq_ok hn)
      cases h
      exact .timeout (Option.not_isSome_iff_eq_none.mp hg) hn hpos

namespace Sets

variable {g g' : Given} {o : Opt} {v : Text}

theorem fits (h : g.Sets o v g') (hg : g.Fits) : g'.Fits := by
  cases h with
  | url _ hu => exact { hg with url := fun _ hmem => ⟨v, hu.trans (congrArg _ (Option.some.inj hmem))⟩ }
  | output _ => exact { hg with }
  | format _ hv => exact { hg with format := fun _ hmem => Option.some.inj hmem ▸ hv }
  | strategy _ hv => exact { hg with strategy := fun _ hmem => Option.some.inj hmem ▸ hv }
  | workers _ _ => exact { hg with }
  | timeout _ _ hpos => exact { hg with timeout := fun _ hmem => Option.some.inj hmem ▸ hpos }

theorem has_iff (h : g.Sets o v g') (p : Opt) : g'.has p = true ↔ g.has p = true ∨ p = o := by
  cases h <;> cases p <;> simp [has]

theorem workers_iff (h : g.Sets o v g') (n : Nat) :
    g'.workers = some n ↔ g.workers = some n ∨ o = .workers ∧ readNumber v = .ok n := by
  cases h with
  | workers hg hn => simp [hg, hn]
  | _ => simp

end Sets
theorem raise_eq_ok {g g' : Given} {f : Flag} (h : g.raise f = .ok g') :
    ∃ isQuiet verbosity, g' = { g with isQuiet, verbosity } := by
  rw [raise.eq_def] at h
  split at h
  · split at h
    · cases h
    · cases h
      exact ⟨_, _, rfl⟩
  · cases h
    exact ⟨_, _, rfl⟩
  · cases h
  · cases h

section Take

variable {g g' : Given}

theorem fits_of_take {i : Item} (h : g.take i = .ok g') (hg : g.Fits) : g'.Fits := by
  cases i with
  | value o v => exact (sets_of_set h).fits hg
  | flag f =>
    obtain ⟨isQuiet, verbosity, rfl⟩ := raise_eq_ok h
    exact { hg with }

theorem workers_iff_of_take {i : Item} (h : g.take i = .ok g') (n : Nat) :
    g'.workers = some n ↔ g.workers = some n ∨ ∃ v, i = .value .workers v ∧ readNumber v = .ok n := by
  cases i with
  | value o v =>
    rw [(sets_of_set h).workers_iff]
    simp [and_assoc]
  | flag f =>
    obtain ⟨isQuiet, verbosity, rfl⟩ := raise_eq_ok h
    simp

theorem fits_of_takeAll {items : List Item} (h : items.foldlM take g = .ok g') (hg : g.Fits) :
    g'.Fits := by
  induction items generalizing g with
  | nil =>
    cases h
    exact hg
  | cons i items ih =>
    obtain ⟨g₁, htake, h⟩ := exists_of_bind h
    exact ih h (fits_of_take htake hg)

theorem workers_iff_of_takeAll {items : List Item} (h : items.foldlM take g = .ok g') (n : Nat) :
    g'.workers = some n ↔
      g.workers = some n ∨ ∃ v, .value .workers v ∈ items ∧ readNumber v = .ok n := by
  induction items generalizing g with
  | nil =>
    cases h
    simp
  | cons i items ih =>
    obtain ⟨g₁, htake, h⟩ := exists_of_bind h
    rw [ih h, workers_iff_of_take htake, or_assoc]
    simp only [List.mem_cons, or_and_right, exists_or, eq_comm]

end Take

def workerCount (g : Given) : Nat :=
  g.workers.getD ({} : Run.Config).workers

section Complete

variable {g g' : Given}

theorem fits_of_setDefault {o : Opt} (h : g.setDefault o = .ok g') (hg : g.Fits) : g'.Fits := by
  rw [setDefault] at h
  split at h
  · cases h
    exact hg
  · exact (sets_of_set h).fits hg

theorem has_iff_of_setDefault {o : Opt} (h : g.setDefault o = .ok g') (p : Opt) :
    g'.has p = true ↔ g.has p = true ∨ p = o := by
  rw [setDefault] at h
  split at h
  · next hhas =>
    cases h
    refine (or_iff_left_of_imp ?_).symm
    rintro rfl
    exact hhas
  · exact (sets_of_set h).has_iff p

theorem workerCount_of_setDefault {o : Opt} (h : g.setDefault o = .ok g') :
    g'.workerCount = g.workerCount := by
  rw [setDefault] at h
  split at h
  · cases h
    rfl
  · cases sets_of_set h with
    | workers hg hn =>
      cases hn
      rw [workerCount, workerCount, hg]
      rfl
    | _ => rfl

theorem complete_spec {os : List Opt} (h : os.foldlM setDefault g = .ok g') :
    (g.Fits → g'.Fits) ∧ (∀ p, g'.has p = true ↔ g.has p = true ∨ p ∈ os) ∧
      g'.workerCount = g.workerCount := by
  induction os generalizing g with
  | nil =>
    cases h
    exact ⟨id, fun p => by simp, rfl⟩
  | cons o os ih =>
    obtain ⟨g₁, hset, h⟩ := exists_of_bind h
    obtain ⟨hfits, hhas, hcount⟩ := ih h
    refine ⟨fun hg => hfits (fits_of_setDefault hset hg), fun p => ?_,
      hcount.trans (workerCount_of_setDefault hset)⟩
    rw [hhas, has_iff_of_setDefault hset, or_assoc, List.mem_cons]

theorem has_of_complete (h : g.complete = .ok g') (o : Opt) : g'.has o = true := by
  refine ((complete_spec h).2.1 o).mpr (.inr ?_)
  cases o <;> decide

end Complete

theorem exists_of_offers_format {name : Text} (h : Opt.format.Offers name) :
    ∃ format, Report.Format.ofName? name = some format := by
  obtain ⟨choice, hmem, rfl⟩ := List.mem_map.mp h
  have hall : ∀ choice ∈ Opt.format.choices, (Report.Format.ofName? choice.toList).isSome := by
    decide
  exact Option.isSome_iff_exists.mp (hall choice hmem)

theorem exists_of_offers_strategy {name : Text} (h : Opt.strategy.Offers name) :
    ∃ strategy, Strategy.ofName? name = some strategy := by
  obtain ⟨choice, hmem, rfl⟩ := List.mem_map.mp h
  have hall : ∀ choice ∈ Opt.strategy.choices, (Strategy.ofName? choice.toList).isSome := by
    decide
  exact Option.isSome_iff_exists.mp (hall choice hmem)

theorem config_eq {g : Given} (hfits : g.Fits) (hhas : ∀ o, g.has o = true) (home : Text) :
    ∃ c : Run.Config, g.config home = (if c.workers = 0 then .error .noWorkers else .ok c) ∧
      c.workers = g.workerCount ∧ 1 ≤ c.timeout ∧ ∃ u ∈ g.url, c.index = u.text := by
  obtain ⟨u, hu⟩ := Option.isSome_iff_exists.mp (hhas .url)
  obtain ⟨output, houtput⟩ := Option.isSome_iff_exists.mp (hhas .output)
  obtain ⟨formatName, hformatName⟩ := Option.isSome_iff_exists.mp (hhas .format)
  obtain ⟨strategyName, hstrategyName⟩ := Option.isSome_iff_exists.mp (hhas .strategy)
  obtain ⟨timeout, htimeout⟩ := Option.isSome_iff_exists.mp (hhas .timeout)
  obtain ⟨format, hformat⟩ := exists_of_offers_format (hfits.format _ hformatName)
  obtain ⟨strategy, hstrategy⟩ := exists_of_offers_strategy (hfits.strategy _ hstrategyName)
  refine ⟨{ index := u.text, output := Run.expandHome home output, format, strategy,
            workers := g.workerCount, timeout, isQuiet := g.isQuiet, verbosity := g.verbosity },
    ?_, rfl, hfits.timeout _ htimeout, u, hu, rfl⟩
  simp only [config, hu, houtput, hformatName, hstrategyName, htimeout, Option.bind_some, hformat,
    hstrategy, demand, workerCount, Option.getD_some]
  rfl

end Given
end RefPages.Command
