import Mathlib.Data.List.TakeWhile
import RefPages.Proofs.Url.Host
import RefPages.Proofs.Url.Scheme

namespace RefPages.Url

theorem readPort_le (scheme t : Text) :
    Ensures (fun port => ∀ p ∈ port.1, p ≤ 65535) (readPort scheme t) := by
  rw [readPort]
  split
  · split
    · apply Ensures.ok
      rintro _ ⟨⟩
    · rintro _ ⟨⟩
  · next n _ =>
    split
    · rintro _ ⟨⟩
    · next hle =>
      split
      · apply Ensures.ok
        intro p hp
        split at hp
        · cases hp
        · cases hp
          exact Nat.le_of_not_lt hle
      · rintro _ ⟨⟩

theorem readRest_le (scheme t : Text) :
    Ensures (fun port => ∀ p ∈ port.1, p ≤ 65535) (readRest scheme t) := by
  rw [readRest.eq_def]
  split
  · exact readPort_le scheme _
  · exact Ensures.ok nofun

structure IsBare (u : Url) (h : Host) : Prop where
  text : h.text = []
  special : isSpecial u.scheme = false
  username : u.username = []
  password : u.password = []
  port : u.port = none

structure Located (u : Url) (h : Host) : Prop where
  host : u.host = some h
  username : ∀ c ∈ u.username, isInner c = true
  password : ∀ c ∈ u.password, isInner c = true
  port : ∀ p ∈ u.port, p ≤ 65535
  read : Legible (readHost u.scheme) h ∨ IsBare u h

theorem isInner_credentialsOf (t : Text) :
    (∀ c ∈ (credentialsOf t).1, isInner c = true) ∧
      ∀ c ∈ (credentialsOf t).2, isInner c = true := by
  have hencode (t : Text) : ∀ c ∈ Percent.encode Percent.inCredentials t, isInner c = true := by
    intro c hc
    obtain ⟨-, hset⟩ | hc := Percent.mem_encode hc
    · exact isInner_of_eq_false (fun _ => Percent.inCredentials_of_low) (by decide) hset
    · exact isInner_of_isEncoding hc
  exact ⟨hencode _, hencode _⟩

theorem legible_readHost {scheme t : Text} {h : Host} (hread : readHost scheme t = .ok h)
    (hne : isSpecial scheme = false → t ≠ []) : Legible (readHost scheme) h := by
  have heq : readHost scheme = if isSpecial scheme then specialHost else plainHost := by
    funext t
    rw [readHost]
    split
    · rfl
    · rfl
  rw [heq] at hread ⊢
  split at hread
  · next hspecial =>
    rw [if_pos hspecial]
    exact legible_specialHost hread
  · next hspecial =>
    rw [if_neg hspecial]
    exact legible_plainHost (hne (Bool.eq_false_iff.mpr hspecial)) hread

theorem located_readAuthority (u : Url) (t : Text) :
    Ensures (fun read => read.1.scheme = u.scheme ∧ read.1.path = u.path ∧ ∃ h, Located read.1 h)
      (readAuthority u t) := by
  rw [readAuthority_eq]
  dsimp only
  generalize splitCredentials t = parts
  generalize splitHost false parts.2 = host
  split
  · rintro _ ⟨⟩
  · next hempty =>
    apply Ensures.bind
    intro h hh
    apply Ensures.bind
    intro port hport
    obtain ⟨husername, hpassword⟩ := isInner_credentialsOf (parts.1.getD [])
    refine Ensures.ok ⟨rfl, rfl, h, rfl, husername, hpassword, readRest_le _ _ _ hport, ?_⟩
    by_cases hne : isSpecial u.scheme = false → host.1 ≠ []
    · exact .inl (legible_readHost hh hne)
    · right
      rw [Classical.not_imp, not_not] at hne
      obtain ⟨hspecial, hnil⟩ := hne
      rw [hnil, hspecial, Bool.false_or, List.isEmpty_nil, Bool.true_and, Bool.or_eq_true,
        not_or, Bool.not_eq_true', Bool.not_eq_false, Option.isSome_iff_ne_none, ne_eq, not_not,
        List.isEmpty_iff] at hempty
      rw [hempty.1] at hport
      rw [readHost, hspecial, if_neg Bool.false_ne_true, hnil] at hh
      cases hh
      cases hport
      refine ⟨rfl, hspecial, ?_, ?_, rfl⟩
      · rw [hempty.2]
        rfl
      · rw [hempty.2]
        rfl

def portText (port : Option Nat) : Text :=
  (port.map fun p => ':' :: Text.ofNat 10 p).getD []

def location (u : Url) (h : Host) : Text :=
  u.credentials ++ (h.text ++ portText u.port)

theorem splitCredentials_of_not_mem {t : Text} (h : '@' ∉ t) : splitCredentials t = (none, t) := by
  have htake : (t.reverse.takeWhile (· ≠ '@')).reverse = t := by
    rw [List.takeWhile_eq_self_iff.mpr (Text.decide_ne_of_not_mem (mt List.mem_reverse.mp h)),
      List.reverse_reverse]
  rw [splitCredentials, htake, if_pos rfl]

theorem splitCredentials_append (s : Text) {t : Text} (h : '@' ∉ t) :
    splitCredentials (s ++ '@' :: t) = (some s, t) := by
  have hreverse : (s ++ '@' :: t).reverse = t.reverse ++ '@' :: s.reverse := by simp
  have htake : ((s ++ '@' :: t).reverse.takeWhile (· ≠ '@')).reverse = t := by
    rw [hreverse, Text.takeWhile_ne (mt List.mem_reverse.mp h), List.reverse_reverse]
  have hlength : (s ++ '@' :: t).length = s.length + t.length + 1 := by
    rw [List.length_append, List.length_cons, Nat.add_assoc]
  have hfront : s.length + t.length + 1 - t.length - 1 = s.length := by omega
  rw [splitCredentials, htake, hlength, if_neg (by omega), hfront, List.take_left]

theorem readPort_ofNat (scheme : Text) {p : Nat} (h : p ≤ 65535) :
    ∃ read, readPort scheme (Text.ofNat 10 p) = .ok read := by
  have hdigits : ∀ c ∈ Text.ofNat 10 p, c.isDigit = true := fun _ => Text.isDigit_of_mem_ofNat
  have hnumber := Text.number?_ofNat (by decide : 1 < 10) (by decide) p
  rw [readPort, List.takeWhile_eq_self_iff.mpr hdigits, List.dropWhile_eq_nil_iff.mpr hdigits,
    hnumber]
  exact ⟨_, (if_neg (Nat.not_lt.mpr h)).trans (if_pos (.inl rfl))⟩

theorem readRest_portText (scheme : Text) {port : Option Nat} (h : ∀ p ∈ port, p ≤ 65535) :
    ∃ read, readRest scheme (portText port) = .ok read := by
  cases port with
  | none => exact ⟨_, rfl⟩
  | some p => exact readPort_ofNat scheme (h p rfl)

theorem isInner_of_mem_portText {port : Option Nat} {c : Char} (h : c ∈ portText port) :
    isInner c = true := by
  have hall : ∀ d < 10, isInner (Nat.digitChar d) = true := by decide
  cases port with
  | none => cases h
  | some p =>
    rcases List.mem_cons.mp h with rfl | h
    · decide
    · obtain ⟨d, hd, rfl⟩ := Text.exists_digitChar_of_mem_ofNat (by decide) h
      exact hall d hd

theorem credentials_cases (u : Url) :
    (u.username = [] ∧ u.password = [] ∧ u.credentials = []) ∨
      ∃ t, u.credentials = t ++ ['@'] ∧ ∀ c ∈ t, c ∈ u.username ∨ c = ':' ∨ c ∈ u.password := by
  rw [credentials]
  split
  · next hempty =>
    rw [Bool.and_eq_true, List.isEmpty_iff, List.isEmpty_iff] at hempty
    exact .inl ⟨hempty.1, hempty.2, rfl⟩
  · right
    split
    · exact ⟨u.username ++ [], rfl, fun c hc => .inl (by simpa using hc)⟩
    · refine ⟨u.username ++ ':' :: u.password, rfl, fun c hc => ?_⟩
      simpa using hc

section Located

variable {u v : Url} {h : Host}

theorem Located.mem_location (hu : Located u h) {c : Char} (hc : c ∈ location u h) :
    isInner c = true ∨ c = '@' := by
  have hhost : ∀ c ∈ h.text, isInner c = true := by
    obtain hread | hbare := hu.read
    · exact hread.inner
    · rw [hbare.text]
      exact List.forall_mem_nil _
  rw [location, List.mem_append, List.mem_append] at hc
  obtain hc | hc | hc := hc
  · obtain ⟨-, -, hnone⟩ | ⟨t, ht, hmem⟩ := credentials_cases u
    · rw [hnone] at hc
      cases hc
    · rw [ht, List.mem_append, List.mem_singleton] at hc
      obtain hc | hc := hc
      · obtain hc | rfl | hc := hmem c hc
        · exact .inl (hu.username c hc)
        · exact .inl (by decide)
        · exact .inl (hu.password c hc)
      · exact .inr hc
  · exact .inl (hhost c hc)
  · exact .inl (isInner_of_mem_portText hc)

theorem exists_readAuthority_of_split {before : Option Text} {t : Text}
    (hsplit : splitCredentials t = (before, h.text ++ portText u.port))
    (hread : Legible (readHost v.scheme) h) (hport : ∀ p ∈ u.port, p ≤ 65535) :
    ∃ read, readAuthority v t = .ok read := by
  have hcolon : ∀ c ∈ (portText u.port).head?, c = ':' := by
    cases u.port with
    | none => exact nofun
    | some p =>
      rintro _ ⟨⟩
      rfl
  have hne : h.text.isEmpty = false := Bool.eq_false_iff.mpr (mt List.isEmpty_iff.mp hread.nonempty)
  obtain ⟨port, hrest⟩ := readRest_portText v.scheme hport
  rw [readAuthority_eq, hsplit]
  dsimp only
  rw [hread.split hcolon, hne, Bool.false_and, if_neg Bool.false_ne_true, hread.read, hrest]
  exact ⟨_, rfl⟩

theorem Located.exists_readAuthority (hu : Located u h) (hscheme : v.scheme = u.scheme) :
    ∃ read, readAuthority v (location u h) = .ok read := by
  obtain hread | hbare := hu.read
  · have hsign : '@' ∉ h.text ++ portText u.port := by
      rw [List.mem_append]
      rintro (hm | hm)
      · cases hread.inner '@' hm
      · cases isInner_of_mem_portText hm
    rw [← hscheme] at hread
    obtain ⟨-, -, hnone⟩ | ⟨t, ht, -⟩ := credentials_cases u
    · apply exists_readAuthority_of_split _ hread hu.port
      · exact none
      · rw [location, hnone, List.nil_append, splitCredentials_of_not_mem hsign]
    · apply exists_readAuthority_of_split _ hread hu.port
      · exact some t
      · rw [location, ht, List.append_assoc, List.singleton_append,
          splitCredentials_append t hsign]
  · have hnone : u.credentials = [] := by
      rw [credentials, hbare.username, hbare.password]
      rfl
    have hlocation : location u h = [] := by
      rw [location, hnone, hbare.text, hbare.port]
      rfl
    have hspecial : isSpecial v.scheme = false := by rw [hscheme, hbare.special]
    have hread : readHost v.scheme [] = .ok (.name []) := by
      rw [readHost, hspecial]
      rfl
    rw [hlocation, readAuthority_eq, splitCredentials_of_not_mem List.not_mem_nil]
    dsimp only [splitHost, List.isEmpty_nil]
    rw [hspecial, hread]
    exact ⟨_, rfl⟩

end Located

end RefPages.Url
