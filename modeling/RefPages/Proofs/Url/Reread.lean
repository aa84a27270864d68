import RefPages.Proofs.Url.Authority
import RefPages.Proofs.Url.Fragment
import RefPages.Proofs.Url.Prepared

/-!
An address that was read can be read from its text. The scheme comes first, and what is behind it is
told by its slashes: two in front of a host, and never two where there is no host.
-/

namespace RefPages.Url

def IsApart : Path → Prop
  | .segments list => ∀ segment ∈ list, ∀ c ∈ segment, 0x20 < c.toNat ∧ c ≠ '/'
  | .plain t => ∀ c ∈ t.head?, isIgnored c = false ∧ c ≠ '/'

inductive Rereads (u : Url) : Prop where
  | located (h : Host) (list : List Text) : isFile u.scheme = false → Located u h →
      u.path = .segments list → Rereads u
  | file (h : Host) (list : List Text) : isFile u.scheme = true → u.host = some h →
      u.username = [] → u.password = [] → u.port = none → (h.text ≠ [] → Legible specialHost h) →
      u.path = .segments list → Rereads u
  | apart : isSpecial u.scheme = false → u.host = none → IsApart u.path → Rereads u

theorem Located.keep {u : Url} {h : Host} (hu : Located u h) (path : Path)
    (query fragment : Option Text) : Located { u with path, query, fragment } h := by
  refine ⟨hu.host, hu.username, hu.password, hu.port, hu.read.imp_right fun hbare => ?_⟩
  exact ⟨hbare.text, hbare.special, hbare.username, hbare.password, hbare.port⟩

theorem rereads_withAuthority {scheme : Text} (hfile : isFile scheme = false) (t : Text) :
    Ensures Rereads (withAuthority scheme t) := by
  rw [withAuthority]
  apply Ensures.bind
  intro read hread
  obtain ⟨hscheme, -, h, hlocated⟩ := located_readAuthority _ _ read hread
  apply Ensures.ok
  refine .located h _ ?_ (hlocated.keep _ _ _) rfl
  rw [← hfile]
  exact congrArg isFile hscheme

theorem isFile_of_special {scheme : Text} (h : isSpecial scheme = false) : isFile scheme = false :=
  (Bool.or_eq_false_iff.mp h).1

namespace File

theorem legible_hostOf (t : Text) :
    Ensures (fun h => h.text ≠ [] → Legible specialHost h) (hostOf t) := by
  rw [hostOf]
  split
  · exact Ensures.ok fun hne => absurd rfl hne
  · have hspecial : Ensures (fun h => h.text ≠ [] → Legible specialHost h) (specialHost t) :=
      fun h hread _ => legible_specialHost hread
    refine hspecial.map fun h hh => ?_
    split
    · exact fun hne => absurd rfl hne
    · exact hh

theorem rereads_of_noHost (list : List Text) :
    Rereads { scheme := "file".toList, host := noHost, path := .segments list } :=
  .file (.name []) list rfl rfl rfl rfl rfl (fun hne => absurd rfl hne) rfl

theorem rereads_withHost (t : Text) : Ensures Rereads (withHost t) := by
  rw [withHost]
  dsimp only
  split
  · exact Ensures.ok (rereads_of_noHost _)
  · apply Ensures.bind
    intro h hh
    apply Ensures.ok
    split
    · exact rereads_of_noHost _
    · exact .file h _ rfl rfl rfl rfl rfl (legible_hostOf _ h hh) rfl

theorem rereads_resolve (t : Text) : Ensures Rereads (resolve none t) := by
  rw [resolve.eq_def]
  split
  · split
    · exact rereads_withHost _
    · exact Ensures.ok (rereads_of_noHost _)
  · exact Ensures.ok (rereads_of_noHost _)

end File

theorem isApart_follow {scheme : Text} (h : isSpecial scheme = false) (t : Text) :
    IsApart (.segments (Segments.follow scheme [] t)) := by
  intro segment hsegment c hc
  rcases Segments.mem_walk hsegment with rfl | hs | hs
  · cases hc
  · cases hs
  · obtain ⟨part, hpart, rfl⟩ := List.mem_map.mp hs
    rw [Segments.split, h, if_neg Bool.false_ne_true] at hpart
    obtain ⟨hc, hset⟩ | hc := Percent.mem_encode hc
    · constructor
      · apply Nat.lt_of_not_le
        intro hle
        rw [Percent.inPath_of_low hle] at hset
        cases hset
      · simpa using Text.eq_false_of_mem_splitOnP hpart hc
    · exact hc.forall (p := fun c => 0x20 < c.toNat ∧ c ≠ '/') (by decide) (by decide)

theorem isApart_plain {t : Text} (h : ∀ c ∈ t.head?, c ≠ '/') :
    IsApart (.plain (Percent.encode Percent.isControl t)) := by
  cases t with
  | nil => exact nofun
  | cons c t =>
    obtain ⟨d, rest, hencode, hd⟩ := Percent.exists_encode_cons Percent.isControl c t
    rw [hencode]
    rintro _ ⟨⟩
    obtain ⟨rfl, hcontrol⟩ | rfl := hd
    · refine ⟨?_, h d rfl⟩
      rw [Bool.eq_false_iff]
      intro hignored
      simp only [isIgnored, Bool.or_eq_true, beq_iff_eq] at hignored
      obtain (rfl | rfl) | rfl := hignored <;> cases hcontrol
    · decide

theorem Rereads.finish {u : Url} (h : Rereads u) (r : Reference) : Rereads (Url.finish r u) := by
  cases h with
  | located h list hfile hu hpath =>
    exact .located h list hfile (hu.keep _ _ _) hpath
  | file h list hfile hhost husername hpassword hport hread hpath =>
    exact .file h list hfile hhost husername hpassword hport hread hpath
  | apart hspecial hhost hpath => exact .apart hspecial hhost hpath

theorem rereads_withScheme (scheme : Text) (r : Reference) :
    Ensures Rereads (withScheme none scheme r) := by
  rw [withScheme]
  dsimp only [Option.filter_none]
  split
  · exact (File.rereads_resolve r.front).map fun u hu => hu.finish r
  · next hfile =>
    have hauthority (t : Text) : Ensures Rereads ((withAuthority scheme t).map (finish r)) :=
      (rereads_withAuthority (Bool.eq_false_iff.mpr hfile) t).map fun u hu => hu.finish r
    split
    · exact hauthority _
    · next hspecial =>
      have hspecial' : isSpecial scheme = false := Bool.eq_false_iff.mpr hspecial
      split
      · exact hauthority _
      · exact Ensures.ok (.finish (.apart hspecial' rfl (isApart_follow hspecial' _)) r)
      · next hslash =>
        apply Ensures.ok
        refine .finish (.apart hspecial' rfl (isApart_plain ?_)) r
        intro c hc
        rintro rfl
        obtain ⟨t, ht⟩ := List.head?_eq_some_iff.mp hc
        exact hslash t ht

theorem front_cases {t : Text} (h : ∀ c ∈ t.head?, c = '/' ∨ c = '?' ∨ c = '#') :
    ∀ c ∈ ((trim t).takeWhile isFront).head?, c = '/' := by
  cases t with
  | nil => exact nofun
  | cons c t =>
    obtain rfl | rfl | rfl := h c rfl
    · rw [trim_cons (by decide), List.takeWhile_cons_of_pos (by decide)]
      rintro _ ⟨⟩
      rfl
    all_goals
      rw [trim_cons (by decide), List.takeWhile_cons_of_neg (by decide)]
      exact nofun

def rear (u : Url) : Text :=
  behind '?' u.query ++ behind '#' u.fragment

theorem text_eq (u : Url) :
    u.text = u.scheme ++ ':' :: (u.authority ++ (u.path.text ++ u.rear)) := by
  rw [text, front, rear]
  simp only [List.append_assoc, List.cons_append]

theorem head?_rear (u : Url) : ∀ c ∈ u.rear.head?, c = '?' ∨ c = '#' := by
  rw [rear]
  cases u.query with
  | some q =>
    rintro _ ⟨⟩
    exact .inl rfl
  | none =>
    cases u.fragment with
    | some f =>
      rintro _ ⟨⟩
      exact .inr rfl
    | none => exact nofun

theorem head?_segments (list : List Text) (u : Url) :
    ∀ c ∈ ((Path.segments list).text ++ u.rear).head?, c = '/' ∨ c = '?' ∨ c = '#' := by
  cases list with
  | nil => exact fun c hc => .inr (head?_rear u c hc)
  | cons segment list =>
    rintro _ ⟨⟩
    exact .inl rfl

theorem front_ne_slash {t : Text} (h : ∀ c ∈ t.head?, isIgnored c = false ∧ c ≠ '/') (u : Url)
    (rest : Text) : (trim (t ++ u.rear)).takeWhile isFront ≠ '/' :: rest := by
  have hhead : ∀ c ∈ (t ++ u.rear).head?, isIgnored c = false ∧ c ≠ '/' := by
    cases t with
    | nil =>
      intro c hc
      obtain rfl | rfl := head?_rear u c hc
      · decide
      · decide
    | cons c t => exact h
  cases ht : t ++ u.rear with
  | nil => exact nofun
  | cons c t =>
    obtain ⟨hignored, hslash⟩ := hhead c (by rw [ht]; rfl)
    obtain ⟨hnil, -⟩ | hcons := trim_cons_cases hignored t
    · rw [hnil]
      exact nofun
    · rw [hcons, List.takeWhile_cons]
      split
      · rintro ⟨⟩
        exact hslash rfl
      · exact nofun

theorem exists_front {u : Url} {list : List Text} (hscheme : IsScheme u.scheme)
    (hpath : u.path = .segments list) {s : Text} (hauthority : u.authority = '/' :: '/' :: s)
    (hs : ∀ c ∈ s, 0x20 < c.toNat ∧ isFront c = true) :
    ∃ r rest, parse u.text = withScheme none u.scheme r ∧ r.front = '/' :: '/' :: (s ++ rest) ∧
      ∀ c ∈ rest.head?, c = '/' := by
  have hslashes : ∀ c ∈ '/' :: '/' :: s, 0x20 < c.toNat ∧ isFront c = true :=
    List.forall_mem_cons.mpr ⟨by decide, List.forall_mem_cons.mpr ⟨by decide, hs⟩⟩
  obtain ⟨r, hparse, hfront⟩ :=
    exists_reference hscheme hslashes ((Path.segments list).text ++ u.rear)
  refine ⟨r, _, ?_, hfront, front_cases (head?_segments list u)⟩
  rw [text_eq, hauthority, hpath, hparse]

theorem exists_map {α β : Type} {r : Except Fault α} {a : α} (h : r = .ok a) (f : α → β) :
    ∃ b, r.map f = .ok b :=
  ⟨f a, by rw [h]; rfl⟩

theorem spec_of_isInner {c : Char} (h : isInner c = true) :
    0x20 < c.toNat ∧ isFront c = true ∧ Segments.isSlash c = false := by
  have hne {d : Char} (hd : isInner d = false) : c ≠ d := by
    rintro rfl
    rw [hd] at h
    cases h
  have hquery : c ≠ '?' := hne rfl
  have hfragment : c ≠ '#' := hne rfl
  have hslash : c ≠ '/' := hne rfl
  have hbackslash : c ≠ '\\' := hne rfl
  refine ⟨of_decide_eq_true (Bool.and_eq_true_iff.mp h).1, ?_, ?_⟩
  · simp [isFront, hquery, hfragment]
  · simp [Segments.isSlash, hslash, hbackslash]

section Located

variable {u : Url} {h : Host} (hu : Located u h)

include hu

theorem Located.spec_of_mem {c : Char} (hc : c ∈ location u h) :
    0x20 < c.toNat ∧ isFront c = true ∧ Segments.isSlash c = false := by
  obtain hc | rfl := hu.mem_location hc
  · exact spec_of_isInner hc
  · decide

theorem Located.authority_eq : u.authority = '/' :: '/' :: location u h := by
  rw [Url.authority, hu.host, location, ← List.append_assoc]
  rfl

theorem Located.exists_withAuthority {rest : Text} (hrest : ∀ c ∈ rest.head?, c = '/') :
    ∃ u', withAuthority u.scheme (location u h ++ rest) = .ok u' := by
  let isEnd (c : Char) : Bool := if isSpecial u.scheme then Segments.isSlash c else c == '/'
  have hslash (c : Char) (hc : Segments.isSlash c = false) : isEnd c = false := by
    dsimp only [isEnd]
    split
    · exact hc
    · exact (Bool.or_eq_false_iff.mp hc).1
  have hend : isEnd '/' = true := ite_self true
  have hlocation : ∀ c ∈ location u h, (!isEnd c) = true := by
    intro c hc
    rw [hslash c (hu.spec_of_mem hc).2.2]
    rfl
  have htake : (location u h ++ rest).takeWhile (fun c => !isEnd c) = location u h := by
    apply Text.takeWhile_append hlocation
    intro c hc
    rw [hrest c hc, hend]
    rfl
  obtain ⟨read, hread⟩ :=
    hu.exists_readAuthority (v := { scheme := u.scheme, path := .segments [] }) rfl
  rw [withAuthority]
  dsimp only
  rw [htake, hread]
  exact ⟨_, rfl⟩

theorem Located.takeWhile_isSlash (hspecial : isSpecial u.scheme = true) (rest : Text) :
    ('/' :: '/' :: (location u h ++ rest)).takeWhile Segments.isSlash = ['/', '/'] := by
  have hne : h.text ≠ [] := by
    obtain hread | hbare := hu.read
    · exact hread.nonempty
    · rw [hbare.special] at hspecial
      cases hspecial
  obtain ⟨c, t, ht⟩ : ∃ c t, location u h = c :: t := by
    apply List.exists_cons_of_ne_nil
    simp [location, hne]
  have hc : Segments.isSlash c = false := (hu.spec_of_mem (ht ▸ List.mem_cons_self ..)).2.2
  rw [ht, List.cons_append, List.takeWhile_cons_of_pos rfl, List.takeWhile_cons_of_pos rfl,
    List.takeWhile_cons_of_neg (Bool.eq_false_iff.mp hc)]

end Located

theorem exists_resolve_file {h : Host} {rest : Text} (hread : h.text ≠ [] → Legible specialHost h)
    (hrest : ∀ c ∈ rest.head?, c = '/') :
    ∃ u, File.resolve none ('/' :: '/' :: (h.text ++ rest)) = .ok u := by
  have htext : ∀ c ∈ h.text, (!Segments.isSlash c) = true := by
    intro c hc
    rw [(spec_of_isInner ((hread (List.ne_nil_of_mem hc)).inner c hc)).2.2]
    rfl
  have htake : (h.text ++ rest).takeWhile (fun c => !Segments.isSlash c) = h.text := by
    apply Text.takeWhile_append htext
    intro c hc
    rw [hrest c hc]
    rfl
  have hhost : ∃ h', File.hostOf h.text = .ok h' := by
    rw [File.hostOf]
    split
    · exact ⟨_, rfl⟩
    · next hne => exact exists_map (hread (mt List.isEmpty_iff.mpr hne)).read _
  obtain ⟨h', hh'⟩ := hhost
  have hslashes : (Segments.isSlash '/' && Segments.isSlash '/') = true := rfl
  rw [File.resolve, if_pos hslashes, File.withHost]
  dsimp only
  rw [htake]
  split
  · exact ⟨_, rfl⟩
  · rw [hh']
    exact ⟨_, rfl⟩

theorem exists_withScheme_of_apart {scheme : Text} {r : Reference}
    (hspecial : isSpecial scheme = false) (h : ∀ t, r.front ≠ '/' :: '/' :: t) :
    ∃ u, withScheme none scheme r = .ok u := by
  rw [withScheme, isFile_of_special hspecial, hspecial, if_neg Bool.false_ne_true,
    if_neg Bool.false_ne_true]
  split
  · next t ht => exact absurd ht (h t)
  · exact ⟨_, rfl⟩
  · exact ⟨_, rfl⟩

theorem exists_front_of_apart {u : Url} (hscheme : IsScheme u.scheme) (hhost : u.host = none)
    (hpath : IsApart u.path) :
    ∃ r, parse u.text = withScheme none u.scheme r ∧ ∀ t, r.front ≠ '/' :: '/' :: t := by
  have hread {s t : Text} (htext : u.authority ++ u.path.text = s ++ t)
      (hs : ∀ c ∈ s, 0x20 < c.toNat ∧ isFront c = true) :
      ∃ r, parse u.text = withScheme none u.scheme r ∧
        r.front = s ++ (trim (t ++ u.rear)).takeWhile isFront := by
    rw [text_eq, ← List.append_assoc u.authority, htext, List.append_assoc]
    exact exists_reference hscheme hs (t ++ u.rear)
  have hbare {t : Text} (ht : ∀ c ∈ t.head?, isIgnored c = false ∧ c ≠ '/')
      (htext : u.authority ++ u.path.text = t) :
      ∃ r, parse u.text = withScheme none u.scheme r ∧ ∀ t, r.front ≠ '/' :: '/' :: t := by
    obtain ⟨r, hparse, hfront⟩ := hread (s := []) htext (List.forall_mem_nil _)
    refine ⟨r, hparse, fun rest hrest => front_ne_slash ht u ('/' :: rest) ?_⟩
    rw [← hrest, hfront]
    rfl
  have hslashed {t : Text} (ht : ∀ c ∈ t.head?, isIgnored c = false ∧ c ≠ '/')
      (htext : u.authority ++ u.path.text = '/' :: t) :
      ∃ r, parse u.text = withScheme none u.scheme r ∧ ∀ t, r.front ≠ '/' :: '/' :: t := by
    obtain ⟨r, hparse, hfront⟩ := hread (s := ['/']) htext (by simp [isFront])
    refine ⟨r, hparse, fun rest hrest => front_ne_slash ht u rest ?_⟩
    rw [hfront] at hrest
    exact List.tail_eq_of_cons_eq hrest
  have hnone : ∀ c ∈ List.head? ([] : Text), isIgnored c = false ∧ c ≠ '/' :=
    fun c hc => absurd hc (Option.not_mem_none c)
  cases hp : u.path with
  | plain t =>
    rw [hp] at hpath
    exact hbare hpath (by rw [authority, hhost, hp]; rfl)
  | segments list =>
    rw [hp] at hpath
    obtain _ | ⟨_ | ⟨c, segment⟩, list⟩ := list
    · exact hbare (t := []) hnone (by rw [authority, hhost, hp]; rfl)
    · obtain _ | ⟨second, list⟩ := list
      · exact hslashed (t := []) hnone (by rw [authority, hhost, hp]; rfl)
      · have htext : u.authority ++ u.path.text =
            ['/', '.'] ++ (Path.segments ([] :: second :: list)).text := by
          rw [authority, hhost, hp]
          rfl
        obtain ⟨r, hparse, hfront⟩ := hread htext (by simp [isFront])
        refine ⟨r, hparse, fun rest hrest => ?_⟩
        rw [hfront] at hrest
        cases hrest
    · obtain ⟨hvisible, hslash⟩ := hpath _ (List.mem_cons_self ..) c (List.mem_cons_self ..)
      refine hslashed (t := c :: segment ++ (Path.segments list).text) ?_
        (by rw [authority, hhost, hp]; rfl)
      rintro _ ⟨⟩
      exact ⟨isIgnored_of_visible hvisible, hslash⟩

theorem Rereads.exists_parse {u : Url} (hscheme : IsScheme u.scheme) (h : Rereads u) :
    ∃ u', parse u.text = .ok u' := by
  cases h with
  | located h list hfile hu hpath =>
    obtain ⟨r, rest, hparse, hfront, hrest⟩ := exists_front hscheme hpath hu.authority_eq
      fun _ hc => ⟨(hu.spec_of_mem hc).1, (hu.spec_of_mem hc).2.1⟩
    obtain ⟨u', hu'⟩ := hu.exists_withAuthority hrest
    rw [hparse, withScheme, hfile, if_neg Bool.false_ne_true, hfront]
    dsimp only [Option.filter_none]
    split
    · next hspecial =>
      rw [hu.takeWhile_isSlash hspecial]
      exact exists_map hu' _
    · exact exists_map hu' _
  | file h list hfile hhost husername hpassword hport hread hpath =>
    have hauthority : u.authority = '/' :: '/' :: h.text := by
      rw [authority, hhost, credentials, husername, hpassword, hport]
      exact List.append_nil _
    have hvisible : ∀ c ∈ h.text, 0x20 < c.toNat ∧ isFront c = true := by
      intro c hc
      have hinner := spec_of_isInner ((hread (List.ne_nil_of_mem hc)).inner c hc)
      exact ⟨hinner.1, hinner.2.1⟩
    obtain ⟨r, rest, hparse, hfront, hrest⟩ := exists_front hscheme hpath hauthority hvisible
    obtain ⟨u', hu'⟩ := exists_resolve_file hread hrest
    rw [hparse, withScheme, hfile, if_pos rfl, hfront]
    exact exists_map hu' _
  | apart hspecial hhost hpath =>
    obtain ⟨r, hparse, hfront⟩ := exists_front_of_apart hscheme hhost hpath
    rw [hparse]
    exact exists_withScheme_of_apart hspecial hfront

theorem exists_parse_text {t : Text} {u : Url} (h : parse t = .ok u) :
    ∃ u', parse u.text = .ok u' := by
  have hscheme : u.scheme = schemeOf none t := hasScheme_parseFrom none t u h
  rw [parse, parseFrom.eq_def] at h
  dsimp only at h
  split at h
  · next scheme rest hs =>
    simp only [schemeOf, hs] at hscheme
    refine Rereads.exists_parse ?_ (rereads_withScheme scheme _ u h)
    rw [hscheme]
    exact isScheme_of_splitScheme hs
  · cases h
  · next hbase => cases hbase

end RefPages.Url
