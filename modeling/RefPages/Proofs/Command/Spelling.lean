import RefPages.Command.Arguments
import RefPages.Proofs.Text.Stops

/-!
The spellings of a command line. What is read of it is what is spelled there, item by item and in
order, whatever keys, clusters and equals signs spell it.
-/

namespace RefPages.Command

inductive Item where
  | value (o : Opt) (v : Text)
  | flag (f : Flag)
  deriving DecidableEq, Repr

def Given.take (g : Given) : Item → Except Stop Given
  | .value o v => g.set o v
  | .flag f => g.raise f

def IsPlain (t : Text) : Prop :=
  ∀ c keys, t ≠ '-' :: c :: keys

def longKey (key : Key) : Text :=
  '-' :: '-' :: key.long.toList

def shortKeys (fs : List Flag) : Text :=
  '-' :: fs.map Flag.short

inductive SpellsKey : List Item → List Text → Prop
  | long (f : Flag) : SpellsKey [.flag f] [longKey (.flag f)]
  | longApart (o : Opt) {v : Text} (hv : IsPlain v) :
      SpellsKey [.value o v] [longKey (.option o), v]
  | longAttached (o : Opt) (v : Text) :
      SpellsKey [.value o v] [longKey (.option o) ++ '=' :: v]
  | shorts {fs : List Flag} (hfs : fs ≠ []) : SpellsKey (fs.map .flag) [shortKeys fs]
  | shortApart (fs : List Flag) {o : Opt} {c : Char} {v : Text} (hc : o.short? = some c)
      (hv : IsPlain v) : SpellsKey (fs.map .flag ++ [.value o v]) [shortKeys fs ++ [c], v]
  | shortEquals (fs : List Flag) {o : Opt} {c : Char} (v : Text) (hc : o.short? = some c) :
      SpellsKey (fs.map .flag ++ [.value o v]) [shortKeys fs ++ c :: '=' :: v]
  | shortAttached (fs : List Flag) {o : Opt} {c d : Char} (v : Text) (hc : o.short? = some c)
      (hd : d ≠ '=') :
      SpellsKey (fs.map .flag ++ [.value o (d :: v)]) [shortKeys fs ++ c :: d :: v]

inductive Spells : List Item → List Text → Prop
  | nil : Spells [] []
  | dashes : Spells [] ["--".toList]
  | cons {is items : List Item} {keys args : List Text} (hk : SpellsKey is keys)
      (h : Spells items args) : Spells (is ++ items) (keys ++ args)

theorem Key.ofLong?_eq_some_iff {name : Text} {key : Key} :
    ofLong? name = some key ↔ name = key.long.toList := by
  constructor
  · intro h
    have := List.find?_some h
    exact (eq_of_beq this).symm
  · rintro rfl
    rcases key with o | f
    · cases o <;> decide
    · cases f <;> decide

theorem Key.ofShort?_eq_some_iff {c : Char} {key : Key} :
    ofShort? c = some key ↔ key.short? = some c := by
  constructor
  · intro h
    have := List.find?_some h
    exact eq_of_beq this
  · intro h
    rcases key with o | f
    · cases o <;> cases h <;> decide
    · cases f <;> cases h <;> decide

theorem Key.equals_not_mem_long (key : Key) : '=' ∉ key.long.toList := by
  rcases key with o | f
  · cases o <;> decide
  · cases f <;> decide

theorem Key.takeWhile_long (key : Key) {rest : Text} (h : ∀ c ∈ rest.head?, c = '=') :
    (key.long.toList ++ rest).takeWhile (· ≠ '=') = key.long.toList ∧
      (key.long.toList ++ rest).dropWhile (· ≠ '=') = rest := by
  have hlong := Text.decide_ne_of_not_mem key.equals_not_mem_long
  have hrest : ∀ c ∈ rest.head?, decide (c ≠ '=') = false :=
    fun c hc => decide_eq_false (not_not_intro (h c hc))
  exact ⟨Text.takeWhile_append hlong hrest, Text.dropWhile_append hlong hrest⟩

theorem Key.long_ne_nil (key : Key) : key.long.toList ≠ [] := by
  rcases key with o | f
  · cases o <;> decide
  · cases f <;> decide

namespace Draft

def settled (d : Draft) : Except Stop Given :=
  d.settle.map (·.given)

@[simp]
theorem settled_none (g : Given) : settled ⟨g, none⟩ = .ok g := rfl

theorem settled_some (g : Given) (o : Opt) (v : Text) :
    settled ⟨g, some ⟨o, some v⟩⟩ = g.set o v := by
  simp only [settled, settle]
  cases g.set o v <;> rfl

theorem settle_eq (d : Draft) : d.settle = d.settled.map (⟨·, none⟩) := by
  obtain ⟨g, pending⟩ := d
  rcases pending with - | ⟨o, - | v⟩
  · rfl
  · rfl
  · simp only [settled, settle]
    cases g.set o v <;> rfl

theorem raise_eq (f : Flag) (d : Draft) :
    d.raise f = (d.settled >>= fun g => g.raise f).map (⟨·, none⟩) := by
  rw [raise, settle_eq]
  cases d.settled with
  | error e => rfl
  | ok g => cases h : g.raise f <;> simp [bind, Except.bind, Except.map, h, pure, Except.pure]

theorem attach_eq (o : Opt) (v : Text) (d : Draft) :
    d.attach o v = (d.settled >>= fun g => g.set o v).map (⟨·, none⟩) := by
  rw [attach, settle_eq]
  cases d.settled with
  | error e => rfl
  | ok g => cases h : g.set o v <;> simp [bind, Except.bind, Except.map, h, pure, Except.pure]

theorem await_eq (o : Opt) (d : Draft) :
    d.await o = d.settled.map fun g => ⟨g, some ⟨o, none⟩⟩ := by
  rw [await, settle_eq]
  cases d.settled <;> rfl

def raiseAll : List Flag → Draft → Except Stop Draft
  | [], d => .ok d
  | f :: fs, d => d.raise f >>= raiseAll fs

theorem shorts_flags (fs : List Flag) (rest : Text) (d : Draft) :
    shorts (fs.map Flag.short ++ rest) d = d.raiseAll fs >>= shorts rest := by
  induction fs generalizing d with
  | nil => rfl
  | cons f fs ih =>
    have hkey : Key.ofShort? f.short = some (.flag f) := Key.ofShort?_eq_some_iff.mpr rfl
    rw [List.map_cons, List.cons_append, shorts, hkey, raiseAll, bind_assoc]
    exact congrArg _ (funext ih)

theorem raiseAll_settled (fs : List Flag) (d : Draft) :
    d.raiseAll fs >>= settled = d.settled >>= (fs.map Item.flag).foldlM Given.take := by
  induction fs generalizing d with
  | nil => exact (bind_pure _).symm
  | cons f fs ih =>
    rw [raiseAll, raise_eq]
    cases d.settled with
    | error e => rfl
    | ok g =>
      change (((g.raise f).map (⟨·, none⟩) >>= raiseAll fs) >>= settled) =
        g.raise f >>= (fs.map Item.flag).foldlM Given.take
      cases g.raise f with
      | error e => rfl
      | ok g' => exact ih ⟨g', none⟩

theorem arguments_cons {t : Text} (h : t ≠ "--".toList) (rest : List Text) (d : Draft) :
    arguments (t :: rest) d = d.argument t >>= arguments rest := by
  rw [arguments.eq_def]
  exact if_neg h

theorem argument_longKey (key : Key) (rest : Text) (d : Draft) :
    d.argument (longKey key ++ rest) = d.long (key.long.toList ++ rest) := rfl

theorem argument_cluster {keys : Text} (hne : keys ≠ []) (hd : ∀ c ∈ keys.head?, c ≠ '-')
    (d : Draft) : d.argument ('-' :: keys) = shorts keys d := by
  obtain ⟨c, keys, rfl⟩ := List.exists_cons_of_ne_nil hne
  rw [argument.eq_2]
  exact hd c rfl

theorem argument_plain {t : Text} (h : IsPlain t) (d : Draft) : d.argument t = d.plain t := by
  apply argument.eq_3
  · intro name ht
    exact h _ _ ht
  · intro c keys ht
    exact h _ _ ht

theorem ne_dash_of_short {key : Key} {c : Char} (h : key.short? = some c) : c ≠ '-' := by
  rcases key with o | f
  · cases o <;> cases h <;> decide
  · cases f <;> cases h <;> decide

theorem head?_shorts (fs : List Flag) {rest : Text} (hrest : ∀ c ∈ rest.head?, c ≠ '-') :
    ∀ c ∈ (fs.map Flag.short ++ rest).head?, c ≠ '-' := by
  cases fs with
  | nil => exact hrest
  | cons f fs =>
    rintro c ⟨⟩
    exact @ne_dash_of_short (.flag f) _ rfl

theorem head?_option {o : Opt} {c : Char} (hc : o.short? = some c) (rest : Text) :
    ∀ e ∈ (c :: rest).head?, e ≠ '-' := by
  rintro e ⟨⟩
  exact @ne_dash_of_short (.option o) _ hc

theorem argument_shortKeys (fs : List Flag) (rest : Text) (hne : fs.map Flag.short ++ rest ≠ [])
    (hrest : ∀ c ∈ rest.head?, c ≠ '-') (d : Draft) :
    d.argument (shortKeys fs ++ rest) = d.raiseAll fs >>= shorts rest := by
  rw [← shorts_flags, shortKeys, List.cons_append]
  exact argument_cluster hne (head?_shorts fs hrest) d

theorem long_self (key : Key) (d : Draft) :
    d.long key.long.toList = match key with
      | .flag f => d.raise f
      | .option o => d.await o := by
  have hnil : ∀ c ∈ ([] : Text).head?, c = '=' := nofun
  obtain ⟨ht, hd⟩ := key.takeWhile_long hnil
  rw [List.append_nil] at ht hd
  have hkey : Key.ofLong? key.long.toList = some key := Key.ofLong?_eq_some_iff.mpr rfl
  rw [long, ht, hd, hkey]
  cases key <;> rfl

theorem long_attached (o : Opt) (v : Text) (d : Draft) :
    d.long ((Key.option o).long.toList ++ '=' :: v) = d.attach o v := by
  have hequals : ∀ c ∈ ('=' :: v).head?, c = '=' := by
    rintro _ ⟨⟩
    rfl
  obtain ⟨ht, hd⟩ := (Key.option o).takeWhile_long hequals
  have hkey : Key.ofLong? (Key.option o).long.toList = some (.option o) :=
    Key.ofLong?_eq_some_iff.mpr rfl
  rw [long, ht, hd, hkey]

theorem shorts_option {o : Opt} {c : Char} (hc : o.short? = some c) (d : Draft) :
    shorts [c] d = d.await o ∧ (∀ v, shorts (c :: '=' :: v) d = d.attach o v) ∧
      ∀ e v, e ≠ '=' → shorts (c :: e :: v) d = d.attach o (e :: v) := by
  have hkey : Key.ofShort? c = some (.option o) := Key.ofShort?_eq_some_iff.mpr hc
  refine ⟨?_, ?_, ?_⟩
  · rw [shorts, hkey]
  · intro v
    rw [shorts, hkey]
    rfl
  · intro e v he
    rw [shorts, hkey]
    simp only
    split
    · next h => cases h
    · next h =>
      cases h
      exact absurd rfl he
    · rfl

theorem raise_settled (f : Flag) (d : Draft) :
    d.raise f >>= settled = d.settled >>= [Item.flag f].foldlM Given.take := by
  have := raiseAll_settled [f] d
  rwa [raiseAll, bind_assoc] at this

theorem attach_settled (o : Opt) (v : Text) (d : Draft) :
    d.attach o v >>= settled = d.settled >>= [Item.value o v].foldlM Given.take := by
  rw [attach_eq]
  cases d.settled with
  | error e => rfl
  | ok g =>
    change ((g.set o v).map (⟨·, none⟩) >>= settled) = g.set o v >>= pure
    cases g.set o v <;> rfl

theorem await_settled (o : Opt) {v : Text} (hv : IsPlain v) (d : Draft) :
    (d.await o >>= fun d => d.argument v) >>= settled =
      d.settled >>= [Item.value o v].foldlM Given.take := by
  rw [await_eq]
  cases d.settled with
  | error e => rfl
  | ok g =>
    change argument v ⟨g, some ⟨o, none⟩⟩ >>= settled = g.set o v >>= pure
    rw [argument_plain hv, plain, bind_pure]
    exact settled_some g o v

theorem shortKeys_settled (fs : List Flag) {rest : Text} {is : List Item}
    {k : Draft → Except Stop Draft} (hne : fs.map Flag.short ++ rest ≠ [])
    (hrest : ∀ c ∈ rest.head?, c ≠ '-')
    (h : ∀ d, (shorts rest d >>= k) >>= settled = d.settled >>= is.foldlM Given.take) (d : Draft) :
    (d.argument (shortKeys fs ++ rest) >>= k) >>= settled =
      d.settled >>= (fs.map Item.flag ++ is).foldlM Given.take := by
  rw [argument_shortKeys fs rest hne hrest, bind_assoc, bind_assoc]
  simp only [← bind_assoc (shorts rest _), h]
  rw [← bind_assoc, raiseAll_settled, bind_assoc]
  simp only [List.foldlM_append]

def takeAll (keys : List Text) (d : Draft) : Except Stop Draft :=
  keys.foldlM (fun d t => d.argument t) d

theorem takeAll_one (t : Text) (d : Draft) : d.takeAll [t] = d.argument t :=
  bind_pure _

theorem takeAll_two (t v : Text) (d : Draft) :
    d.takeAll [t, v] = d.argument t >>= fun d => d.argument v := by
  rw [takeAll, List.foldlM_cons]
  exact congrArg _ (funext fun d => takeAll_one v d)

theorem takeAll_eq {is : List Item} {keys : List Text} (h : SpellsKey is keys) (d : Draft) :
    d.takeAll keys >>= settled = d.settled >>= is.foldlM Given.take := by
  have longKey_eq (key : Key) (d : Draft) : d.argument (longKey key) = d.long key.long.toList := rfl
  cases h with
  | long f =>
    rw [takeAll_one, longKey_eq, long_self]
    exact raise_settled f d
  | longApart o hv =>
    rw [takeAll_two, longKey_eq, long_self]
    exact await_settled o hv d
  | longAttached o v =>
    rw [takeAll_one, argument_longKey, long_attached]
    exact attach_settled o v d
  | @shorts fs hfs =>
    have hone : d.argument (shortKeys fs) = d.raiseAll fs := by
      have := argument_shortKeys fs [] (by simpa using hfs) (by simp) d
      rw [List.append_nil] at this
      rw [this]
      exact bind_pure _
    rw [takeAll_one, hone]
    exact raiseAll_settled fs d
  | @shortApart fs o c v hc hv =>
    rw [takeAll_two]
    apply shortKeys_settled fs (by simp) (head?_option hc [])
    intro d
    rw [(shorts_option hc d).1]
    exact await_settled o hv d
  | @shortEquals fs o c v hc =>
    rw [takeAll_one, ← bind_pure (argument _ d)]
    apply shortKeys_settled fs (by simp) (head?_option hc _)
    intro d
    rw [(shorts_option hc d).2.1, bind_pure]
    exact attach_settled o v d
  | @shortAttached fs o c e v hc he =>
    rw [takeAll_one, ← bind_pure (argument _ d)]
    apply shortKeys_settled fs (by simp) (head?_option hc _)
    intro d
    rw [(shorts_option hc d).2.2 e v he, bind_pure]
    exact attach_settled o (e :: v) d

theorem dashes_not_mem {is : List Item} {keys : List Text} (h : SpellsKey is keys) :
    "--".toList ∉ keys := by
  have plain {v : Text} (hv : IsPlain v) : "--".toList ≠ v := by
    rintro rfl
    exact hv _ _ rfl
  have long (key : Key) (rest : Text) : "--".toList ≠ longKey key ++ rest := by
    intro h
    have hnil : [] = key.long.toList ++ rest := List.tail_eq_of_cons_eq (List.tail_eq_of_cons_eq h)
    exact key.long_ne_nil (List.append_eq_nil_iff.mp hnil.symm).1
  have self (key : Key) : "--".toList ≠ longKey key := by
    have := long key []
    rwa [List.append_nil] at this
  have short (fs : List Flag) {rest : Text} (hrest : ∀ c ∈ rest.head?, c ≠ '-') :
      "--".toList ≠ shortKeys fs ++ rest := by
    intro h
    have hdash : ['-'] = fs.map Flag.short ++ rest := List.tail_eq_of_cons_eq h
    have hhead : '-' ∈ (fs.map Flag.short ++ rest).head? := by
      rw [← hdash]
      rfl
    exact head?_shorts fs hrest '-' hhead rfl
  cases h with
  | long f => exact List.not_mem_cons_of_ne_of_not_mem (self _) List.not_mem_nil
  | longApart o hv =>
    exact List.not_mem_cons_of_ne_of_not_mem (self _)
      (List.not_mem_cons_of_ne_of_not_mem (plain hv) List.not_mem_nil)
  | longAttached o v => exact List.not_mem_cons_of_ne_of_not_mem (long _ _) List.not_mem_nil
  | @shorts fs hfs =>
    have : "--".toList ≠ shortKeys fs ++ [] := short fs (by simp)
    rw [List.append_nil] at this
    exact List.not_mem_cons_of_ne_of_not_mem this List.not_mem_nil
  | shortApart fs hc hv =>
    exact List.not_mem_cons_of_ne_of_not_mem (short fs (head?_option hc _))
      (List.not_mem_cons_of_ne_of_not_mem (plain hv) List.not_mem_nil)
  | shortEquals fs v hc =>
    exact List.not_mem_cons_of_ne_of_not_mem (short fs (head?_option hc _)) List.not_mem_nil
  | shortAttached fs v hc hd =>
    exact List.not_mem_cons_of_ne_of_not_mem (short fs (head?_option hc _)) List.not_mem_nil

theorem arguments_append {keys : List Text} (h : "--".toList ∉ keys) (args : List Text) (d : Draft) :
    arguments (keys ++ args) d = d.takeAll keys >>= arguments args := by
  induction keys generalizing d with
  | nil => rfl
  | cons t keys ih =>
    rw [List.mem_cons, not_or] at h
    rw [List.cons_append, arguments_cons (Ne.symm h.1), takeAll, List.foldlM_cons, bind_assoc]
    exact congrArg _ (funext fun d => ih h.2 d)

theorem arguments_eq {items : List Item} {args : List Text} (h : Spells items args) (d : Draft) :
    (arguments args d).map (·.given) = d.settled >>= items.foldlM Given.take := by
  induction h generalizing d with
  | nil => exact (bind_pure _).symm
  | dashes => exact (bind_pure _).symm
  | @cons is items keys args hk h ih =>
    have hmap {r : Except Stop Draft} :
        (r >>= arguments args).map (·.given) = r >>= fun d => (arguments args d).map (·.given) := by
      cases r <;> rfl
    rw [arguments_append (dashes_not_mem hk), hmap]
    simp only [ih]
    rw [← bind_assoc, takeAll_eq hk, bind_assoc]
    simp only [List.foldlM_append]

theorem arguments_given {items : List Item} {args : List Text} (h : Spells items args) :
    (arguments args {}).map (·.given) = items.foldlM Given.take {} :=
  arguments_eq h {}

def Awaits (d : Draft) (o : Opt) : Prop :=
  d.pending = some ⟨o, none⟩

theorem not_awaits_of_settled {d : Draft} {g : Given} (h : d.settled = .ok g) (o : Opt) :
    ¬d.Awaits o := by
  obtain ⟨given, pending⟩ := d
  rintro ⟨⟩
  cases h

theorem exists_of_settled_bind {k : Given → Except Stop Given} {d d' : Draft}
    (h : (d.settled >>= k).map (⟨·, none⟩) = .ok d') :
    (∃ g, d.settled = .ok g) ∧ d'.pending = none := by
  cases hs : d.settled with
  | error e =>
    rw [hs] at h
    cases h
  | ok g =>
    rw [hs] at h
    change (k g).map (⟨·, none⟩) = .ok d' at h
    cases hk : k g with
    | error e =>
      rw [hk] at h
      cases h
    | ok g' =>
      rw [hk] at h
      cases h
      exact ⟨⟨g, rfl⟩, rfl⟩

theorem exists_of_raise {f : Flag} {d d' : Draft} (h : d.raise f = .ok d') :
    (∃ g, d.settled = .ok g) ∧ d'.pending = none := by
  rw [raise_eq] at h
  exact exists_of_settled_bind h

theorem exists_of_attach {o : Opt} {v : Text} {d d' : Draft} (h : d.attach o v = .ok d') :
    (∃ g, d.settled = .ok g) ∧ d'.pending = none := by
  rw [attach_eq] at h
  exact exists_of_settled_bind h

theorem exists_of_await {o : Opt} {d d' : Draft} (h : d.await o = .ok d') :
    (∃ g, d.settled = .ok g) ∧ d'.Awaits o := by
  rw [await_eq] at h
  cases hs : d.settled with
  | error e =>
    rw [hs] at h
    cases h
  | ok g =>
    rw [hs] at h
    cases h
    exact ⟨⟨g, rfl⟩, rfl⟩

inductive Reading (key : Text) (d : Draft) : Prop
  | complete {is : List Item} (h : SpellsKey is [key]) (hd : d.pending = none)
  | unfinished {o : Opt} (h : ∀ v, IsPlain v → ∃ is, SpellsKey is [key, v]) (hd : d.Awaits o)

theorem reading_of_long {name : Text} {d d' : Draft} (h : d.long name = .ok d') :
    (∃ g, d.settled = .ok g) ∧ Reading ('-' :: '-' :: name) d' := by
  have happ : name.takeWhile (· ≠ '=') ++ name.dropWhile (· ≠ '=') = name :=
    List.takeWhile_append_dropWhile
  have hhead := List.head?_dropWhile_not (· ≠ '=') name
  rw [long] at h
  generalize name.takeWhile (· ≠ '=') = front at h happ
  generalize name.dropWhile (· ≠ '=') = back at h happ hhead
  subst happ
  split at h
  · cases h
  · next f hkey =>
    obtain rfl := Key.ofLong?_eq_some_iff.mp hkey
    obtain ⟨hs, hd⟩ := exists_of_raise h
    rw [List.append_nil]
    exact ⟨hs, .complete (.long f) hd⟩
  · cases h
  · next o hkey =>
    obtain rfl := Key.ofLong?_eq_some_iff.mp hkey
    obtain ⟨hs, hd⟩ := exists_of_await h
    rw [List.append_nil]
    exact ⟨hs, .unfinished (fun v hv => ⟨_, .longApart o hv⟩) hd⟩
  · next o c v hkey =>
    obtain rfl := Key.ofLong?_eq_some_iff.mp hkey
    obtain ⟨hs, hd⟩ := exists_of_attach h
    obtain rfl : c = '=' := by simpa using hhead
    exact ⟨hs, .complete (.longAttached o v) hd⟩

inductive Cluster : (keys : Text) → Draft → Prop
  | flags {fs : List Flag} {d : Draft} (hfs : fs ≠ []) (hd : d.pending = none) :
      Cluster (fs.map Flag.short) d
  | apart (fs : List Flag) {o : Opt} {c : Char} {d : Draft} (hc : o.short? = some c)
      (hd : d.Awaits o) : Cluster (fs.map Flag.short ++ [c]) d
  | equals (fs : List Flag) {o : Opt} {c : Char} {d : Draft} (v : Text) (hc : o.short? = some c)
      (hd : d.pending = none) : Cluster (fs.map Flag.short ++ c :: '=' :: v) d
  | attached (fs : List Flag) {o : Opt} {c e : Char} {d : Draft} (v : Text)
      (hc : o.short? = some c) (he : e ≠ '=') (hd : d.pending = none) :
      Cluster (fs.map Flag.short ++ c :: e :: v) d

theorem Cluster.cons {keys : Text} {d : Draft} (h : Cluster keys d) (f : Flag) :
    Cluster (f.short :: keys) d := by
  cases h with
  | @flags fs _ hfs hd => exact .flags (List.cons_ne_nil f fs) hd
  | apart fs hc hd => exact .apart (f :: fs) hc hd
  | equals fs v hc hd => exact .equals (f :: fs) v hc hd
  | attached fs v hc he hd => exact .attached (f :: fs) v hc he hd

theorem Cluster.reading {keys : Text} {d : Draft} (h : Cluster keys d) :
    Reading ('-' :: keys) d := by
  cases h with
  | flags hfs hd => exact .complete (.shorts hfs) hd
  | apart fs hc hd => exact .unfinished (fun v hv => ⟨_, .shortApart fs hc hv⟩) hd
  | equals fs v hc hd => exact .complete (.shortEquals fs v hc) hd
  | attached fs v hc he hd => exact .complete (.shortAttached fs v hc he) hd

theorem cluster_of_shorts {keys : Text} {d d' : Draft} (h : shorts keys d = .ok d')
    (hne : keys ≠ []) : (∃ g, d.settled = .ok g) ∧ Cluster keys d' := by
  induction keys generalizing d with
  | nil => exact absurd rfl hne
  | cons c keys ih =>
    rw [shorts] at h
    split at h
    · cases h
    · next f hkey =>
      obtain rfl : f.short = c := Option.some.inj (Key.ofShort?_eq_some_iff.mp hkey)
      cases hr : d.raise f with
      | error e =>
        rw [hr] at h
        cases h
      | ok d₁ =>
        rw [hr] at h
        obtain ⟨hs, hd⟩ := exists_of_raise hr
        refine ⟨hs, ?_⟩
        by_cases hkeys : keys = []
        · subst hkeys
          cases h
          exact .flags (List.cons_ne_nil f []) hd
        · exact (ih h hkeys).2.cons f
    · next o hkey =>
      have hc : o.short? = some c := Key.ofShort?_eq_some_iff.mp hkey
      split at h
      · obtain ⟨hs, hd⟩ := exists_of_await h
        exact ⟨hs, .apart [] hc hd⟩
      · next v =>
        obtain ⟨hs, hd⟩ := exists_of_attach h
        exact ⟨hs, .equals [] v hc hd⟩
      · next hnil hequals =>
        obtain ⟨hs, hd⟩ := exists_of_attach h
        obtain ⟨e, v, rfl⟩ := List.exists_cons_of_ne_nil hnil
        refine ⟨hs, .attached [] v hc ?_ hd⟩
        rintro rfl
        exact hequals v rfl

theorem not_awaits_of_pending_none {d : Draft} (h : d.pending = none) (o : Opt) :
    ¬d.Awaits o := by
  rw [Awaits, h]
  exact nofun

theorem exists_of_settle {d d' : Draft} (h : d.settle = .ok d') : ∃ g, d.settled = .ok g :=
  ⟨d'.given, congrArg (Except.map Draft.given) h⟩

theorem awaits_of_plain {t : Text} {d d' : Draft} (h : d.plain t = .ok d') :
    (∃ o, d.Awaits o) ∧ ∀ o, ¬d'.Awaits o := by
  rw [plain] at h
  split at h
  · next o ho =>
    cases h
    exact ⟨⟨o, ho⟩, fun _ => nofun⟩
  · cases h

theorem isPlain_or_exists (t : Text) : IsPlain t ∨ ∃ c keys, t = '-' :: c :: keys := by
  match t with
  | [] => exact .inl nofun
  | [_] => exact .inl nofun
  | d :: c :: keys =>
    by_cases hd : d = '-'
    · exact .inr ⟨c, keys, by rw [hd]⟩
    · exact .inl fun _ _ h => hd (List.cons.inj h).1

theorem reading_of_argument {c : Char} {keys : Text} {d d' : Draft}
    (h : d.argument ('-' :: c :: keys) = .ok d') :
    (∃ g, d.settled = .ok g) ∧ Reading ('-' :: c :: keys) d' := by
  by_cases hc : c = '-'
  · subst hc
    exact reading_of_long h
  · rw [argument_cluster (List.cons_ne_nil c keys) (by simpa using hc)] at h
    obtain ⟨hs, hd⟩ := cluster_of_shorts h (List.cons_ne_nil c keys)
    exact ⟨hs, hd.reading⟩

theorem exists_spells {args : List Text} {d d' : Draft} (h : arguments args d = .ok d') :
    ((∀ o, ¬d.Awaits o) → ∃ items, Spells items args) ∧
      ∀ o, d.Awaits o → ∃ v rest items, args = v :: rest ∧ IsPlain v ∧ Spells items rest := by
  induction args generalizing d with
  | nil =>
    obtain ⟨g, hs⟩ := exists_of_settle h
    exact ⟨fun _ => ⟨[], .nil⟩, fun o ho => absurd ho (not_awaits_of_settled hs o)⟩
  | cons t rest ih =>
    by_cases hdashes : t = "--".toList
    · subst hdashes
      cases rest with
      | nil =>
        obtain ⟨g, hs⟩ := exists_of_settle h
        exact ⟨fun _ => ⟨[], .dashes⟩, fun o ho => absurd ho (not_awaits_of_settled hs o)⟩
      | cons other rest => cases h
    · rw [arguments_cons hdashes] at h
      cases ht : d.argument t with
      | error e =>
        rw [ht] at h
        cases h
      | ok d₁ =>
        rw [ht] at h
        obtain ⟨ihfree, ihawaits⟩ := ih h
        obtain hplain | ⟨c, keys, rfl⟩ := isPlain_or_exists t
        · rw [argument_plain hplain] at ht
          obtain ⟨⟨o, ho⟩, hfree⟩ := awaits_of_plain ht
          obtain ⟨items, hitems⟩ := ihfree hfree
          exact ⟨fun hnone => absurd ho (hnone o), fun _ _ => ⟨t, rest, items, rfl, hplain, hitems⟩⟩
        · obtain ⟨⟨g, hs⟩, hr⟩ := reading_of_argument ht
          refine ⟨fun _ => ?_, fun o ho => absurd ho (not_awaits_of_settled hs o)⟩
          cases hr with
          | complete hk hd =>
            obtain ⟨items, hitems⟩ := ihfree (not_awaits_of_pending_none hd)
            exact ⟨_, .cons hk hitems⟩
          | unfinished hk hd =>
            obtain ⟨v, args, items, rfl, hv, hitems⟩ := ihawaits _ hd
            obtain ⟨is, hk⟩ := hk v hv
            exact ⟨_, .cons hk hitems⟩

theorem exists_spells_of_arguments {args : List Text} {d : Draft} (h : arguments args {} = .ok d) :
    ∃ items, Spells items args ∧ items.foldlM Given.take {} = .ok d.given := by
  obtain ⟨items, hitems⟩ := (exists_spells h).1 (not_awaits_of_pending_none rfl)
  refine ⟨items, hitems, ?_⟩
  rw [← arguments_given hitems, h]
  rfl

end Draft
end RefPages.Command
