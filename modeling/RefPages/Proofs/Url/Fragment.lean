import Mathlib.Data.List.TakeWhile
import RefPages.Proofs.Text.Digits
import RefPages.Proofs.Text.Lines
import RefPages.Proofs.Url.Percent
import RefPages.Proofs.Url.Scheme

/-!
The sign of a fragment in an address that is read. Whatever stands in front of the fragment has the
sign encoded or cannot hold it, so that an address without its fragment is without the sign.
-/

namespace RefPages

namespace Text

theorem sign_not_mem_ofNat {base : Nat} (hbase : 1 < base) (hle : base ≤ 16) (n : Nat) :
    '#' ∉ ofNat base n := by
  have hall : ∀ d < 16, '#' ≠ Nat.digitChar d := by decide
  intro h
  obtain ⟨d, hd, heq⟩ := exists_digitChar_of_mem_ofNat hbase h
  exact hall d (Nat.lt_of_lt_of_le hd hle) heq

theorem sign_not_mem_intercalate {d : Char} (hd : '#' ≠ d) {parts : List Text}
    (h : ∀ part ∈ parts, '#' ∉ part) : '#' ∉ [d].intercalate parts := by
  intro hm
  obtain heq | ⟨part, hpart, hm⟩ := mem_intercalate hm
  · exact hd heq
  · exact h part hpart hm

end Text

namespace Host

theorem sign_not_mem_ipv4Text (n : Nat) : '#' ∉ ipv4Text n := by
  apply Text.sign_not_mem_intercalate (by decide)
  intro part hpart
  obtain ⟨d, -, rfl⟩ := List.mem_map.mp hpart
  exact Text.sign_not_mem_ofNat (by decide) (by decide) d

theorem sign_not_mem_joinPieces (pieces : List Nat) : '#' ∉ joinPieces pieces := by
  apply Text.sign_not_mem_intercalate (by decide)
  intro part hpart
  obtain ⟨d, -, rfl⟩ := List.mem_map.mp hpart
  exact Text.sign_not_mem_ofNat (by decide) (by decide) d

theorem sign_not_mem_ipv6Text (pieces : List Nat) : '#' ∉ ipv6Text pieces := by
  rw [ipv6Text]
  dsimp only
  split
  · exact sign_not_mem_joinPieces pieces
  · simp [sign_not_mem_joinPieces]

end Host

namespace Url

namespace Percent

theorem sign_not_mem_encode {inSet : Char → Bool} {t : Text} (h : inSet '#' = true ∨ '#' ∉ t) :
    '#' ∉ encode inSet t := by
  have hencoding (c : Char) : IsEncoding c → '#' ≠ c := IsEncoding.forall (by decide) (by decide)
  intro hm
  obtain ⟨hmem, hfree⟩ | hm := mem_encode hm
  · rcases h with h | h
    · rw [hfree] at h
      cases h
    · exact h hmem
  · exact hencoding '#' hm rfl

end Percent

def CleanPath : Path → Prop
  | .segments list => ∀ segment ∈ list, '#' ∉ segment
  | .plain t => '#' ∉ t

theorem clean_nil : ∀ segment ∈ ([] : List Text), '#' ∉ segment :=
  List.forall_mem_nil _

structure Clean (u : Url) : Prop where
  scheme : '#' ∉ u.scheme
  username : '#' ∉ u.username
  password : '#' ∉ u.password
  host : ∀ h, u.host = some h → '#' ∉ h.text
  path : CleanPath u.path
  query : ∀ q, u.query = some q → '#' ∉ q

theorem CleanPath.text {p : Path} (h : CleanPath p) : '#' ∉ p.text := by
  cases p with
  | plain t => exact h
  | segments list =>
    intro hm
    obtain ⟨segment, hs, hm⟩ := List.mem_flatMap.mp hm
    rcases List.mem_cons.mp hm with hslash | hm
    · cases hslash
    · exact h segment hs hm

theorem Clean.credentials {u : Url} (h : u.Clean) : '#' ∉ u.credentials := by
  rw [Url.credentials]
  split
  · exact List.not_mem_nil
  · split
    · simp [h.username]
    · simp [h.username, h.password]

theorem Clean.authority {u : Url} (h : u.Clean) : '#' ∉ u.authority := by
  rw [Url.authority]
  split
  · next host hhost =>
    have hport : '#' ∉ (u.port.map fun p => ':' :: Text.ofNat 10 p).getD [] := by
      cases u.port with
      | none => exact List.not_mem_nil
      | some p =>
        have : '#' ∉ Text.ofNat 10 p := Text.sign_not_mem_ofNat (by decide) (by decide) p
        simpa using this
    have hslashes : '#' ∉ "//".toList := by decide
    rw [List.mem_append, List.mem_append, List.mem_append]
    rintro (((hm | hm) | hm) | hm)
    · exact hslashes hm
    · exact h.credentials hm
    · exact h.host host hhost hm
    · exact hport hm
  · split
    · decide
    · exact List.not_mem_nil

theorem Clean.text {u : Url} (h : u.Clean) (hfragment : u.fragment = none) : '#' ∉ u.text := by
  have hquery : '#' ∉ behind '?' u.query := by
    cases hq : u.query with
    | none => exact List.not_mem_nil
    | some q => simpa [behind] using h.query q hq
  have hnone : behind '#' none = [] := rfl
  rw [Url.text, front, hfragment, hnone]
  simp [h.scheme, h.authority, h.path.text, hquery]

theorem Clean.withoutFragment {u : Url} (h : u.Clean) : u.withoutFragment.Clean := by
  refine ⟨h.scheme, h.username, h.password, h.host, ?_, h.query⟩
  have hpath := h.path
  dsimp only [Url.withoutFragment]
  cases hp : u.path with
  | segments list =>
    rw [hp] at hpath
    exact hpath
  | plain t =>
    rw [hp] at hpath
    cases u.query with
    | some q => exact hpath
    | none =>
      intro hm
      apply hpath
      have := List.dropWhile_subset _ (List.mem_reverse.mp hm)
      exact List.mem_reverse.mp this

namespace Segments

theorem leave_subset (places : List Text) : leave places ⊆ places := by
  cases places with
  | nil => exact List.Subset.refl _
  | cons place above =>
    rw [leave]
    split
    · exact List.Subset.refl _
    · exact List.subset_cons_self place above

theorem mem_walk {places segments : List Text} {s : Text} (h : s ∈ walk places segments) :
    s = [] ∨ s ∈ places ∨ s ∈ segments := by
  fun_induction walk places segments with
  | case1 places =>
    rcases List.mem_cons.mp (List.mem_reverse.mp h) with h | h
    · exact .inl h
    · exact .inr (.inl h)
  | case2 places last =>
    rcases List.mem_cons.mp (List.mem_reverse.mp h) with rfl | h
    · exact .inr (.inr (List.mem_singleton_self _))
    · exact .inr (.inl h)
  | case3 places last =>
    rcases List.mem_cons.mp (List.mem_reverse.mp h) with h | h
    · exact .inl h
    · exact .inr (.inl h)
  | case4 places last =>
    rcases List.mem_cons.mp (List.mem_reverse.mp h) with h | h
    · exact .inl h
    · exact .inr (.inl (leave_subset _ h))
  | case5 places segment rest _ _ ih =>
    rcases ih h with h | h | h
    · exact .inl h
    · rcases List.mem_cons.mp h with rfl | h
      · exact .inr (.inr (List.mem_cons_self ..))
      · exact .inr (.inl h)
    · exact .inr (.inr (List.mem_cons_of_mem segment h))
  | case6 places segment rest _ _ ih =>
    rcases ih h with h | h | h
    · exact .inl h
    · exact .inr (.inl h)
    · exact .inr (.inr (List.mem_cons_of_mem segment h))
  | case7 places segment rest _ _ _ _ ih =>
    rcases ih h with h | h | h
    · exact .inl h
    · exact .inr (.inl (leave_subset _ h))
    · exact .inr (.inr (List.mem_cons_of_mem segment h))

theorem clean_walk {places parts : List Text} (h : ∀ s ∈ places, '#' ∉ s) :
    ∀ s ∈ walk places.reverse (parts.map (Percent.encode Percent.inPath)), '#' ∉ s := by
  intro s hs
  rcases mem_walk hs with rfl | hs | hs
  · exact List.not_mem_nil
  · exact h s (List.mem_reverse.mp hs)
  · obtain ⟨part, -, rfl⟩ := List.mem_map.mp hs
    exact Percent.sign_not_mem_encode (.inl rfl)

theorem clean_follow (scheme : Text) {places : List Text} (h : ∀ s ∈ places, '#' ∉ s) (t : Text) :
    CleanPath (.segments (follow scheme places t)) :=
  clean_walk h

end Segments

theorem clean_placesOf {p : Path} (h : CleanPath p) : ∀ s ∈ placesOf p, '#' ∉ s := by
  cases p with
  | segments list =>
    intro s hs
    exact h s (List.dropLast_subset list hs)
  | plain t => exact fun s hs => absurd hs List.not_mem_nil

namespace File

theorem clean_segments {places : List Text} (h : ∀ s ∈ places, '#' ∉ s) (t : Text) :
    CleanPath (.segments (segments places t)) := by
  rw [segments.eq_def]
  extract_lets parts parts'
  split
  · intro s hs
    rw [List.mem_singleton.mp hs]
    exact List.not_mem_nil
  · next list hlist =>
    intro s hs
    apply Segments.clean_walk h s
    exact List.dropWhile_subset _ hs

theorem clean_driveOf {p : Path} (h : CleanPath p) : ∀ s ∈ driveOf p, '#' ∉ s := by
  intro s hs
  rw [driveOf.eq_def] at hs
  split at hs
  · next first rest =>
    split at hs
    · rw [List.mem_singleton.mp hs]
      exact h first (List.mem_cons_self ..)
    · cases hs
  · cases hs

theorem clean_placesOf {p : Path} (h : CleanPath p) : ∀ s ∈ placesOf p, '#' ∉ s := by
  intro s hs
  rw [placesOf.eq_def] at hs
  split at hs
  · next only =>
    split at hs
    · rw [List.mem_singleton.mp hs]
      exact h only (List.mem_cons_self ..)
    · cases hs
  · next list _ => exact h s (List.dropLast_subset list hs)
  · cases hs

end File

def CleanHost (h : Host) : Prop :=
  '#' ∉ h.text

theorem clean_bracketed (t : Text) : Ensures CleanHost (bracketed t) := by
  rw [bracketed]
  split
  · rintro _ ⟨⟩
  · split
    · rintro _ ⟨⟩
    · next pieces _ =>
      apply Ensures.ok
      simp [CleanHost, Host.text, Host.sign_not_mem_ipv6Text]

theorem clean_specialHost (t : Text) : Ensures CleanHost (specialHost t) := by
  rw [specialHost]
  split
  · exact clean_bracketed t
  · split
    · rintro _ ⟨⟩
    · rintro _ ⟨⟩
    · next name hname =>
      split
      · split
        · rintro _ ⟨⟩
        · next n _ => exact Ensures.ok (Host.sign_not_mem_ipv4Text n)
      · apply Ensures.ok
        intro hm
        have := Domain.not_isForbidden_of_toAscii? hname '#' hm
        cases this

theorem clean_plainHost (t : Text) : Ensures CleanHost (plainHost t) := by
  rw [plainHost]
  split
  · exact clean_bracketed t
  · split
    · rintro _ ⟨⟩
    · next hforbidden =>
      apply Ensures.ok
      apply Percent.sign_not_mem_encode
      right
      intro hm
      exact hforbidden (List.any_eq_true.mpr ⟨'#', hm, rfl⟩)

theorem clean_readHost (scheme t : Text) : Ensures CleanHost (readHost scheme t) := by
  rw [readHost]
  split
  · exact clean_specialHost t
  · exact clean_plainHost t

theorem clean_none : ∀ h, (none : Option Host) = some h → CleanHost h := by
  rintro _ ⟨⟩

theorem clean_noHost : ∀ h, File.noHost = some h → CleanHost h := by
  rintro _ ⟨⟩
  exact List.not_mem_nil

theorem File.clean_hostOf (t : Text) : Ensures CleanHost (File.hostOf t) := by
  rw [File.hostOf]
  split
  · exact Ensures.ok List.not_mem_nil
  · refine (clean_specialHost t).map fun h hh => ?_
    split
    · exact List.not_mem_nil
    · exact hh

theorem clean_of_scheme {scheme : Text} (h : '#' ∉ scheme) {p : Path} (hp : CleanPath p)
    {host : Option Host} (hhost : ∀ h, host = some h → CleanHost h) :
    Clean { scheme, host, path := p } :=
  ⟨h, List.not_mem_nil, List.not_mem_nil, hhost, hp, fun _ => nofun⟩

theorem clean_readAuthority {u : Url} (h : u.Clean) (t : Text) :
    Ensures (fun read => read.1.Clean) (readAuthority u t) := by
  apply ensures_readAuthority
  intro before part host port hread
  have hhost : CleanHost host := clean_readHost u.scheme part host hread
  exact ⟨h.scheme, Percent.sign_not_mem_encode (.inl rfl), Percent.sign_not_mem_encode (.inl rfl),
    fun _ he => Option.some.inj he ▸ hhost, h.path, h.query⟩

theorem clean_withAuthority {scheme : Text} (h : '#' ∉ scheme) (t : Text) :
    Ensures Clean (withAuthority scheme t) := by
  rw [withAuthority]
  apply Ensures.bind
  intro read hread
  have hclean : read.1.Clean :=
    clean_readAuthority (clean_of_scheme h (p := .segments []) clean_nil clean_none) _ read hread
  apply Ensures.ok
  have hlist (c : Prop) [Decidable c] (t : Text) :
      CleanPath (.segments (if c then [] else Segments.follow scheme [] t)) := by
    split
    · exact clean_nil
    · exact Segments.clean_follow scheme clean_nil t
  exact ⟨hclean.scheme, hclean.username, hclean.password, hclean.host, hlist _ _, hclean.query⟩

namespace File

theorem clean_withHost (t : Text) : Ensures Clean (withHost t) := by
  have hfile : '#' ∉ "file".toList := by decide
  rw [withHost]
  dsimp only
  split
  · exact Ensures.ok (clean_of_scheme hfile (clean_segments clean_nil t) clean_noHost)
  · apply Ensures.bind
    intro host hhost
    apply Ensures.ok
    apply clean_of_scheme hfile (clean_segments clean_nil _)
    split
    · exact clean_noHost
    · rintro _ ⟨⟩
      exact clean_hostOf _ host hhost

theorem clean_within {base : Option Url} (h : ∀ b, base = some b → b.Clean) (t : Text) :
    Clean (resolve.within base t) := by
  have hfile : '#' ∉ "file".toList := by decide
  rw [resolve.within.eq_def]
  dsimp only
  split
  · next b _ =>
    have hb := h b rfl
    split
    · exact clean_of_scheme hfile (clean_segments clean_nil _) clean_noHost
    · apply clean_of_scheme hfile (clean_segments (clean_driveOf hb.path) _)
      split
      · exact hb.host
      · exact clean_noHost
  · next b _ =>
    have hb := h b rfl
    split
    · exact clean_of_scheme hfile (clean_segments clean_nil _) clean_noHost
    · exact clean_of_scheme hfile (clean_segments (clean_placesOf hb.path) _) hb.host
  · exact clean_of_scheme hfile (clean_segments clean_nil _) clean_noHost

theorem clean_resolve {base : Option Url} (h : ∀ b, base = some b → b.Clean) (t : Text) :
    Ensures Clean (resolve base t) := by
  rw [resolve.eq_def]
  split
  · split
    · exact clean_withHost _
    · exact Ensures.ok (clean_within h _)
  · exact Ensures.ok (clean_within h _)

end File

theorem Clean.finish {u : Url} (h : u.Clean) (r : Reference) : (Url.finish r u).Clean := by
  refine ⟨h.scheme, h.username, h.password, h.host, h.path, ?_⟩
  intro q hq
  obtain ⟨t, -, rfl⟩ := Option.map_eq_some_iff.mp hq
  apply Percent.sign_not_mem_encode
  left
  split <;> rfl

theorem clean_relative {base : Url} (h : base.Clean) (t : Text) :
    Ensures Clean (relative base t) := by
  rw [relative]
  split
  · exact File.clean_resolve (fun _ he => Option.some.inj he ▸ h) t
  · dsimp only
    split
    · exact clean_withAuthority h.scheme _
    · split
      · exact clean_withAuthority h.scheme _
      · apply Ensures.ok
        refine ⟨h.scheme, h.username, h.password, h.host, ?_, h.query⟩
        split
        · exact Segments.clean_follow _ clean_nil _
        · exact Segments.clean_follow _ (clean_placesOf h.path) _

theorem clean_resolve {base : Url} (h : base.Clean) (r : Reference) :
    Ensures Clean (resolve base r) := by
  rw [resolve]
  split
  · split
    · apply Ensures.ok
      have hfinish := h.finish r
      exact ⟨hfinish.scheme, hfinish.username, hfinish.password, hfinish.host, hfinish.path,
        h.query⟩
    · exact Ensures.ok (h.finish r)
  · exact (clean_relative h r.front).map fun u hu => hu.finish r

theorem Reference.sign_not_mem_splitAt (t : Text) : '#' ∉ (splitAt '#' t).1 := by
  rw [splitAt]
  split
  · next h =>
    intro hm
    have := List.dropWhile_eq_nil_iff.mp h '#' hm
    simp at this
  · intro hm
    have := List.all_eq_true.mp List.all_takeWhile '#' hm
    simp at this

theorem Reference.splitAt_subset (sign : Char) (t : Text) : (splitAt sign t).1 ⊆ t := by
  rw [splitAt]
  split
  · exact List.Subset.refl _
  · exact List.takeWhile_subset _

theorem Reference.sign_not_mem_front (t : Text) : '#' ∉ (ofText t).front := by
  intro hm
  exact sign_not_mem_splitAt t (splitAt_subset '?' _ hm)

theorem clean_withScheme {base : Option Url} (h : ∀ b, base = some b → b.Clean) {scheme : Text}
    (hscheme : '#' ∉ scheme) {r : Reference} (hr : '#' ∉ r.front) :
    Ensures Clean (withScheme base scheme r) := by
  have hauthority (t : Text) : Ensures Clean ((withAuthority scheme t).map (finish r)) :=
    (clean_withAuthority hscheme t).map fun u hu => hu.finish r
  have hkin {b : Url} (hb : base.filter (·.scheme == scheme) = some b) : b.Clean :=
    h b (Option.filter_eq_some_iff.mp hb).1
  rw [withScheme]
  split
  · split
    · next hb => exact clean_resolve (hkin hb) r
    · exact (File.clean_resolve (by rintro _ ⟨⟩) r.front).map fun u hu => hu.finish r
  · split
    · split
      · next hb =>
        split
        · exact clean_resolve (hkin hb) r
        · exact hauthority _
      · exact hauthority _
    · split
      · exact hauthority _
      · apply Ensures.ok
        apply Clean.finish
        exact clean_of_scheme hscheme (Segments.clean_follow scheme clean_nil _) clean_none
      · apply Ensures.ok
        apply Clean.finish
        exact clean_of_scheme hscheme (p := .plain _) (Percent.sign_not_mem_encode (.inr hr)) clean_none

theorem clean_parseFrom {base : Option Url} (h : ∀ b, base = some b → b.Clean) (t : Text) :
    Ensures Clean (parseFrom base t) := by
  rw [parseFrom.eq_def]
  dsimp only
  split
  · next hs => exact clean_withScheme h (not_mem_splitScheme rfl hs) (Reference.sign_not_mem_front _)
  · rintro _ ⟨⟩
  · next b _ =>
    have hb := h b rfl
    split
    · exact clean_resolve hb _
    · rintro _ ⟨⟩
    · exact clean_resolve hb _

theorem sign_not_mem_link {address href : Text} {base u : Url} (hbase : parse address = .ok base)
    (h : join base href = .ok u) : '#' ∉ u.withoutFragment.text := by
  have hclean : base.Clean := clean_parseFrom (by rintro _ ⟨⟩) address base hbase
  have hlink : u.Clean := clean_parseFrom (fun _ he => Option.some.inj he ▸ hclean) href u h
  exact hlink.withoutFragment.text rfl

end Url
end RefPages
