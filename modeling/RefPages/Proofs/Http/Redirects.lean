import RefPages.Http.Fetch

/-!
How a request ends that is sent on from address to address. The addresses that were asked for are told
with the end, and however the redirects lead, in circles too, there are at most six of them.
-/

namespace RefPages.Http

variable {net : Network} {first u v w : Url} {us : List Url} {r : Response} {left : Nat}
  {causes : List Text}

def IsHttp (u : Url) : Prop :=
  u.scheme = "http".toList ∨ u.scheme = "https".toList

def SendsOn (net : Network) (u v : Url) : Prop :=
  IsHttp u ∧ ∃ r l, net.answer u = .response r ∧ Status.isRedirect r.status = true ∧
    r.location = some l ∧ Url.join u l = .ok v

def Settles (net : Network) (u : Url) (r : Response) : Prop :=
  IsHttp u ∧ net.answer u = .response r ∧ ∀ v, ¬SendsOn net u v

def Loses (net : Network) (u : Url) (causes : List Text) : Prop :=
  IsHttp u ∧ net.answer u = .lost causes

def Misses (net : Network) (u : Url) (causes : List Text) : Prop :=
  IsHttp u ∧ net.answer u = .unreached causes

theorem isSpoken_iff : isSpoken u = true ↔ IsHttp u := by
  simp [isSpoken, IsHttp]

theorem redirectOf?_eq_some_iff :
    redirectOf? u r = some v ↔
      Status.isRedirect r.status = true ∧ ∃ l, r.location = some l ∧ Url.join u l = .ok v := by
  rw [redirectOf?]
  split
  · next h =>
    rw [Option.bind_eq_some_iff]
    refine ⟨fun ⟨l, hl, hv⟩ => ⟨h, l, hl, ?_⟩, fun ⟨_, l, hl, hv⟩ => ⟨l, hl, by rw [hv]; rfl⟩⟩
    cases hj : Url.join u l <;> simp_all [Except.toOption]
  · next h => exact iff_of_false nofun fun hv => h hv.1

theorem sendsOn_iff (hu : IsHttp u) (hr : net.answer u = .response r) :
    SendsOn net u v ↔ redirectOf? u r = some v := by
  rw [redirectOf?_eq_some_iff, SendsOn, hr]
  constructor
  · rintro ⟨-, _, l, ⟨⟩, hstatus, hl, hv⟩
    exact ⟨hstatus, l, hl, hv⟩
  · rintro ⟨hstatus, l, hl, hv⟩
    exact ⟨hu, r, l, rfl, hstatus, hl, hv⟩

theorem address_cases (net : Network) (u : Url) :
    (∃ v, SendsOn net u v) ∨ (∃ r, Settles net u r) ∨ (∃ causes, Loses net u causes) ∨
      (∃ causes, Misses net u causes) ∨ ¬IsHttp u := by
  by_cases hu : IsHttp u
  · cases hr : net.answer u with
    | response r =>
      by_cases hsend : ∃ v, SendsOn net u v
      · exact .inl hsend
      · exact .inr (.inl ⟨r, hu, hr, fun v hv => hsend ⟨v, hv⟩⟩)
    | lost causes => exact .inr (.inr (.inl ⟨causes, hu, hr⟩))
    | unreached causes => exact .inr (.inr (.inr (.inl ⟨causes, hu, hr⟩)))
  · exact .inr (.inr (.inr (.inr hu)))

theorem follow_of_response (hu : IsHttp u) (hr : net.answer u = .response r) (first : Url)
    (left : Nat) : follow net first left u = (do
      Noted.note (asked u)
      match redirectOf? u r, left with
      | none, _ => return .ok (u, r)
      | some _, 0 => return .error (.redirects u)
      | some next, left + 1 => follow net first left next) := by
  rw [follow.eq_def, isSpoken_iff.mpr hu, hr]
  rfl

theorem follow_of_sendsOn (h : SendsOn net u v) (first : Url) (left : Nat) :
    follow net first (left + 1) u =
      ⟨(follow net first left v).value, asked u :: (follow net first left v).notes⟩ := by
  obtain ⟨hu, r, -, hr, -⟩ := id h
  have hnext := (sendsOn_iff hu hr).mp h
  rw [follow_of_response hu hr, hnext]
  rfl

theorem follow_of_sendsOn_zero (h : SendsOn net u v) (first : Url) :
    follow net first 0 u = ⟨.error (.redirects u), [asked u]⟩ := by
  obtain ⟨hu, r, -, hr, -⟩ := id h
  have hnext := (sendsOn_iff hu hr).mp h
  rw [follow_of_response hu hr, hnext]
  rfl

theorem follow_of_settles (h : Settles net u r) (first : Url) (left : Nat) :
    follow net first left u = ⟨.ok (u, r), [asked u]⟩ := by
  obtain ⟨hu, hr, hnone⟩ := h
  have hnext : redirectOf? u r = none :=
    Option.eq_none_iff_forall_ne_some.mpr fun v hv => hnone v ((sendsOn_iff hu hr).mpr hv)
  rw [follow_of_response hu hr, hnext]
  rfl

theorem follow_of_loses (h : Loses net u causes) (first : Url) (left : Nat) :
    follow net first left u = ⟨.error (.refused causes first), [asked u]⟩ := by
  rw [follow.eq_def, isSpoken_iff.mpr h.1, h.2]
  rfl

theorem follow_of_misses (h : Misses net u causes) (first : Url) (left : Nat) :
    follow net first left u = ⟨.error (.refused causes first), []⟩ := by
  rw [follow.eq_def, isSpoken_iff.mpr h.1, h.2]
  rfl

theorem follow_of_not_isHttp (h : ¬IsHttp u) (first : Url) (left : Nat) :
    follow net first left u = ⟨.error (.scheme u), []⟩ := by
  rw [follow.eq_def, Bool.eq_false_iff.mpr (mt isSpoken_iff.mp h)]
  rfl

inductive Trail (net : Network) : Url → List Url → Url → Prop where
  | here (u : Url) : Trail net u [] u
  | on {u v w : Url} {us : List Url} (hsend : SendsOn net u v) (hmore : Trail net v us w) :
      Trail net u (u :: us) w

/-- How a request to `u` ends when `left` redirects may be followed: the addresses that are asked for,
and what comes of it. -/
inductive Ends (net : Network) (first u : Url) (left : Nat) :
    List Url → Except Failure (Url × Response) → Prop where
  | settled {us : List Url} {v : Url} {r : Response} (trail : Trail net u us v)
      (hlength : us.length ≤ left) (h : Settles net v r) : Ends net first u left (us ++ [v]) (.ok (v, r))
  | lost {us : List Url} {v : Url} {causes : List Text} (trail : Trail net u us v)
      (hlength : us.length ≤ left) (h : Loses net v causes) :
      Ends net first u left (us ++ [v]) (.error (.refused causes first))
  | unreached {us : List Url} {v : Url} {causes : List Text} (trail : Trail net u us v)
      (hlength : us.length ≤ left) (h : Misses net v causes) :
      Ends net first u left us (.error (.refused causes first))
  | foreign {us : List Url} {v : Url} (trail : Trail net u us v) (hlength : us.length ≤ left)
      (h : ¬IsHttp v) : Ends net first u left us (.error (.scheme v))
  | tooMany {us : List Url} {v w : Url} (trail : Trail net u us v) (hlength : us.length = left)
      (h : SendsOn net v w) : Ends net first u left (us ++ [v]) (.error (.redirects v))

theorem Ends.length_le {outcome : Except Failure (Url × Response)}
    (h : Ends net first u left us outcome) : us.length ≤ left + 1 := by
  cases h with
  | settled trail hlength h => simpa using hlength
  | lost trail hlength h => simpa using hlength
  | unreached trail hlength h => exact Nat.le_succ_of_le hlength
  | foreign trail hlength h => exact Nat.le_succ_of_le hlength
  | tooMany trail hlength h => simp [hlength]

theorem Ends.on {outcome : Except Failure (Url × Response)} (hsend : SendsOn net u v)
    (h : Ends net first v left us outcome) : Ends net first u (left + 1) (u :: us) outcome := by
  cases h with
  | settled trail hlength h => exact Ends.settled (.on hsend trail) (Nat.succ_le_succ hlength) h
  | lost trail hlength h => exact Ends.lost (.on hsend trail) (Nat.succ_le_succ hlength) h
  | unreached trail hlength h => exact Ends.unreached (.on hsend trail) (Nat.succ_le_succ hlength) h
  | foreign trail hlength h => exact Ends.foreign (.on hsend trail) (Nat.succ_le_succ hlength) h
  | tooMany trail hlength h => exact Ends.tooMany (.on hsend trail) (congrArg Nat.succ hlength) h

theorem sendsOn_or_ends (net : Network) (first : Url) (left : Nat) (u : Url) :
    (∃ v, SendsOn net u v) ∨ ∃ us outcome, Ends net first u left us outcome := by
  obtain h | ⟨r, h⟩ | ⟨causes, h⟩ | ⟨causes, h⟩ | h := address_cases net u
  · exact .inl h
  · exact .inr ⟨_, _, Ends.settled (.here u) (Nat.zero_le left) h⟩
  · exact .inr ⟨_, _, Ends.lost (.here u) (Nat.zero_le left) h⟩
  · exact .inr ⟨_, _, Ends.unreached (.here u) (Nat.zero_le left) h⟩
  · exact .inr ⟨_, _, Ends.foreign (.here u) (Nat.zero_le left) h⟩

theorem exists_ends (net : Network) (first : Url) (left : Nat) (u : Url) :
    ∃ us outcome, Ends net first u left us outcome := by
  -- Each redirect uses up one of those that are left, also where they lead in a circle.
  induction left generalizing u with
  | zero =>
    obtain ⟨v, h⟩ | hends := sendsOn_or_ends net first 0 u
    · exact ⟨_, _, Ends.tooMany (.here u) rfl h⟩
    · exact hends
  | succ left ih =>
    obtain ⟨v, h⟩ | hends := sendsOn_or_ends net first (left + 1) u
    · obtain ⟨us, outcome, hmore⟩ := ih v
      exact ⟨u :: us, outcome, hmore.on h⟩
    · exact hends

theorem Trail.follow_eq (h : Trail net u us v) (first : Url) (left : Nat) :
    follow net first (left + us.length) u =
      ⟨(follow net first left v).value, us.map asked ++ (follow net first left v).notes⟩ := by
  induction h with
  | here u => rfl
  | on hsend hmore ih =>
    rw [List.length_cons, ← Nat.add_assoc, follow_of_sendsOn hsend, ih]
    rfl

theorem Ends.follow_eq {outcome : Except Failure (Url × Response)}
    (h : Ends net first u left us outcome) : follow net first left u = ⟨outcome, us.map asked⟩ := by
  cases h with
  | settled trail hlength h =>
    obtain ⟨more, rfl⟩ := Nat.exists_eq_add_of_le' hlength
    rw [trail.follow_eq, follow_of_settles h, List.map_append]
    rfl
  | lost trail hlength h =>
    obtain ⟨more, rfl⟩ := Nat.exists_eq_add_of_le' hlength
    rw [trail.follow_eq, follow_of_loses h, List.map_append]
    rfl
  | unreached trail hlength h =>
    obtain ⟨more, rfl⟩ := Nat.exists_eq_add_of_le' hlength
    rw [trail.follow_eq, follow_of_misses h, List.append_nil]
  | foreign trail hlength h =>
    obtain ⟨more, rfl⟩ := Nat.exists_eq_add_of_le' hlength
    rw [trail.follow_eq, follow_of_not_isHttp h, List.append_nil]
  | tooMany trail hlength h =>
    rw [← hlength, ← Nat.zero_add (List.length _), trail.follow_eq, follow_of_sendsOn_zero h,
      List.map_append]
    rfl

theorem Status.isFailure_iff (status : Nat) :
    isFailure status = true ↔ 400 ≤ status ∧ status < 600 := by
  rw [isFailure, blame?]
  split
  · next h => simp; omega
  · split
    · next h => simp; omega
    · next h => simp; omega

def Comes (net : Network) (u : Url) (us : List Url)
    (outcome : Except Failure (Url × Response)) : Prop :=
  Ends net u u redirectLimit us outcome

theorem exists_comes (net : Network) (u : Url) : ∃ us outcome, Comes net u us outcome :=
  exists_ends net u redirectLimit u

theorem Comes.fetch_eq {outcome : Except Failure (Url × Response)} (h : Comes net u us outcome) :
    fetch net u = ⟨outcome.bind fun x => net.read x.1 x.2, us.map asked⟩ := by
  rw [fetch, Ends.follow_eq h]
  exact congrArg _ (List.append_nil _)

theorem Comes.fetch_of_error {failure : Failure} (h : Comes net u us (.error failure)) :
    fetch net u = ⟨.error failure, us.map asked⟩ :=
  h.fetch_eq

theorem Comes.fetch_of_isFailure (h : Comes net u us (.ok (v, r)))
    (hstatus : 400 ≤ r.status ∧ r.status < 600) :
    fetch net u = ⟨.error (.status r.status v), us.map asked⟩ := by
  rw [h.fetch_eq, Except.bind, Network.read, if_pos ((Status.isFailure_iff _).mpr hstatus)]

theorem Comes.fetch_of_fault (h : Comes net u us (.ok (v, r)))
    (hstatus : ¬(400 ≤ r.status ∧ r.status < 600)) (hbody : net.text r = .error causes) :
    fetch net u = ⟨.error (.body causes), us.map asked⟩ := by
  rw [h.fetch_eq, Except.bind, Network.read, if_neg (mt (Status.isFailure_iff _).mp hstatus), hbody]

theorem Comes.fetch_of_text {text : Text} (h : Comes net u us (.ok (v, r)))
    (hstatus : ¬(400 ≤ r.status ∧ r.status < 600)) (hbody : net.text r = .ok text) :
    fetch net u = ⟨.ok (r.status, text), us.map asked⟩ := by
  rw [h.fetch_eq, Except.bind, Network.read, if_neg (mt (Status.isFailure_iff _).mp hstatus), hbody]

end RefPages.Http
