import RefPages.Proofs.Text.Letters
import RefPages.Proofs.Text.Stops
import RefPages.Url.Parse

namespace RefPages

namespace Url

def Ensures {α : Type} (P : α → Prop) (r : Except Fault α) : Prop :=
  ∀ a, r = .ok a → P a

namespace Ensures

variable {α β : Type} {P : α → Prop} {Q : β → Prop} {r : Except Fault α}

theorem ok {a : α} (h : P a) : Ensures P (.ok a) := by
  rintro _ ⟨⟩
  exact h

theorem bind {f : α → Except Fault β} (h : ∀ a, r = .ok a → Ensures Q (f a)) :
    Ensures Q (r >>= f) := by
  intro b hb
  cases r with
  | error fault => cases hb
  | ok a => exact h a rfl b hb

theorem map {f : α → β} (h : Ensures P r) (hf : ∀ a, P a → Q (f a)) : Ensures Q (r.map f) := by
  intro b hb
  cases r with
  | error fault => cases hb
  | ok a =>
    cases hb
    exact hf a (h a rfl)

end Ensures

def readHost (scheme t : Text) : Except Fault Host :=
  if isSpecial scheme then specialHost t else plainHost t

def readRest (scheme : Text) : Text → Except Fault (Option Nat × Text)
  | ':' :: rest => readPort scheme rest
  | rest => .ok (none, rest)

theorem readAuthority_eq (u : Url) (t : Text) : readAuthority u t =
    let parts := splitCredentials t
    let host := splitHost false parts.2
    let credentials := credentialsOf (parts.1.getD [])
    if host.1.isEmpty && (isSpecial u.scheme || !host.2.isEmpty || parts.1.isSome) then
      .error .emptyHost
    else readHost u.scheme host.1 >>= fun h => readRest u.scheme host.2 >>= fun port =>
      .ok ({ u with
              username := credentials.1, password := credentials.2, host := some h, port := port.1 },
            port.2) := by
  rw [readAuthority]
  dsimp only
  split
  · rfl
  · rw [readHost]
    split
    all_goals
      split
      · next hcolon =>
        rw [hcolon]
        rfl
      · next hcolon =>
        rw [readRest]
        · rfl
        · exact hcolon

theorem ensures_readAuthority {P : Url → Prop} (u : Url) (t : Text)
    (h : ∀ before part host port, readHost u.scheme part = .ok host →
      P { u with
          username := (credentialsOf before).1, password := (credentialsOf before).2,
          host := some host, port }) :
    Ensures (fun read => P read.1) (readAuthority u t) := by
  rw [readAuthority_eq]
  dsimp only
  split
  · rintro _ ⟨⟩
  · apply Ensures.bind
    intro host hhost
    apply Ensures.bind
    intro port _
    exact Ensures.ok (h _ _ host port.1 hhost)

def HasScheme (scheme : Text) (u : Url) : Prop :=
  u.scheme = scheme

theorem hasScheme_readAuthority (u : Url) (t : Text) :
    Ensures (fun read => HasScheme u.scheme read.1) (readAuthority u t) :=
  ensures_readAuthority u t fun _ _ _ _ _ => rfl

theorem hasScheme_withAuthority (scheme t : Text) :
    Ensures (HasScheme scheme) (withAuthority scheme t) := by
  rw [withAuthority]
  apply Ensures.bind
  intro read h
  have := hasScheme_readAuthority _ _ read h
  exact Ensures.ok this

namespace File

theorem hasScheme_withHost (t : Text) : Ensures (HasScheme "file".toList) (withHost t) := by
  rw [withHost]
  dsimp only
  split
  · exact Ensures.ok rfl
  · apply Ensures.bind
    intro host _
    exact Ensures.ok rfl

theorem hasScheme_within (base : Option Url) (t : Text) :
    HasScheme "file".toList (resolve.within base t) := by
  rw [resolve.within.eq_def]
  dsimp only
  split
  · split
    · rfl
    · rfl
  · split
    · rfl
    · rfl
  · rfl

theorem hasScheme_resolve (base : Option Url) (t : Text) :
    Ensures (HasScheme "file".toList) (resolve base t) := by
  rw [resolve.eq_def]
  split
  · split
    · exact hasScheme_withHost _
    · exact Ensures.ok (hasScheme_within base _)
  · exact Ensures.ok (hasScheme_within base _)

end File

theorem Ensures.finish {scheme : Text} {r : Except Fault Url} (h : Ensures (HasScheme scheme) r)
    (ref : Reference) : Ensures (HasScheme scheme) (r.map (finish ref)) :=
  h.map fun _ hu => hu

theorem eq_file {scheme : Text} (h : isFile scheme = true) : scheme = "file".toList :=
  eq_of_beq h

theorem hasScheme_relative (base : Url) (t : Text) :
    Ensures (HasScheme base.scheme) (relative base t) := by
  rw [relative]
  split
  · next h =>
    rw [eq_file h]
    exact File.hasScheme_resolve _ t
  · dsimp only
    split
    · exact hasScheme_withAuthority _ _
    · split
      · exact hasScheme_withAuthority _ _
      · exact Ensures.ok rfl

theorem hasScheme_resolve (base : Url) (r : Reference) :
    Ensures (HasScheme base.scheme) (resolve base r) := by
  rw [resolve]
  split
  · split
    · exact Ensures.ok rfl
    · exact Ensures.ok rfl
  · exact (hasScheme_relative base r.front).finish r

theorem hasScheme_withScheme (base : Option Url) (scheme : Text) (r : Reference) :
    Ensures (HasScheme scheme) (withScheme base scheme r) := by
  have hkin {b : Url} (h : base.filter (·.scheme == scheme) = some b) : b.scheme = scheme :=
    eq_of_beq (Option.filter_eq_some_iff.mp h).2
  have hauthority (t : Text) :
      Ensures (HasScheme scheme) ((withAuthority scheme t).map (finish r)) :=
    (hasScheme_withAuthority scheme t).finish r
  have hresolve {b : Url} (h : base.filter (·.scheme == scheme) = some b) :
      Ensures (HasScheme scheme) (resolve b r) := by
    rw [← hkin h]
    exact hasScheme_resolve b r
  rw [withScheme]
  split
  · next hfile =>
    split
    · next h => exact hresolve h
    · rw [eq_file hfile]
      exact (File.hasScheme_resolve none r.front).finish r
  · split
    · split
      · next h =>
        split
        · exact hresolve h
        · exact hauthority _
      · exact hauthority _
    · split
      · exact hauthority _
      · exact Ensures.ok rfl
      · exact Ensures.ok rfl

def schemeOf (base : Option Url) (t : Text) : Text :=
  match splitScheme (prepare t), base with
  | some (scheme, _), _ => scheme
  | none, some b => b.scheme
  | none, none => []

theorem hasScheme_parseFrom (base : Option Url) (t : Text) :
    Ensures (HasScheme (schemeOf base t)) (parseFrom base t) := by
  cases hs : splitScheme (prepare t) with
  | some read =>
    simp only [parseFrom, schemeOf, hs]
    exact hasScheme_withScheme base read.1 _
  | none =>
    cases base with
    | none =>
      simp only [parseFrom, hs]
      rintro _ ⟨⟩
    | some b =>
      simp only [parseFrom, schemeOf, hs]
      split
      · exact hasScheme_resolve b _
      · rintro _ ⟨⟩
      · exact hasScheme_resolve b _

theorem not_mem_splitScheme {t scheme rest : Text} {c : Char} (hc : isSchemeChar c = false)
    (h : splitScheme t = some (scheme, rest)) : c ∉ scheme := by
  rw [splitScheme] at h
  split at h
  · next first w rest' hw ht =>
    split at h
    · cases h
      intro hm
      obtain ⟨d, hd, rfl⟩ := List.mem_map.mp hm
      have hscheme : isSchemeChar d = true := by
        rw [← hw] at hd
        exact List.all_eq_true.mp List.all_takeWhile d hd
      have halpha : d.isAlpha = false := by
        rw [← Text.isAlpha_toLower]
        simp only [isSchemeChar, Char.isAlphanum, Bool.or_eq_false_iff] at hc
        exact hc.1.1.1.1
      rw [Text.toLower_of_not_isAlpha halpha, hscheme] at hc
      cases hc
    · cases h
  · cases h

theorem splitScheme_append {c : Char} {w : Text} (hchars : ∀ d ∈ c :: w, isSchemeChar d = true)
    (halpha : c.isAlpha = true) (rest : Text) :
    splitScheme (c :: w ++ ':' :: rest) = some ((c :: w).map Char.toLower, rest) := by
  have hcolon : isSchemeChar ':' = false := by decide
  rw [splitScheme, Text.takeWhile_append_cons hchars hcolon,
    Text.dropWhile_append_cons hchars hcolon]
  exact if_pos halpha

theorem splitScheme_eq_some_iff {t scheme : Text} (hne : scheme ≠ [])
    (hscheme : ∀ c ∈ scheme, c.isAlpha = true) :
    (∃ rest, splitScheme t = some (scheme, rest)) ↔
      ∃ w rest, t = w ++ ':' :: rest ∧ w.map Char.toLower = scheme := by
  constructor
  · rintro ⟨rest, h⟩
    rw [splitScheme] at h
    split at h
    · next c w rest' hw ht =>
      split at h
      · cases h
        refine ⟨c :: w, rest, ?_, rfl⟩
        rw [← hw, ← ht, List.takeWhile_append_dropWhile]
      · cases h
    · cases h
  · rintro ⟨w, rest, rfl, hw⟩
    have halpha : ∀ c ∈ w, c.isAlpha = true := by
      intro c hc
      rw [← Text.isAlpha_toLower]
      apply hscheme
      rw [← hw]
      exact List.mem_map_of_mem hc
    have hchars : ∀ c ∈ w, isSchemeChar c = true := by
      intro c hc
      simp [isSchemeChar, Char.isAlphanum, halpha c hc]
    obtain ⟨c, w, rfl⟩ : ∃ c v, w = c :: v := by
      apply List.exists_cons_of_ne_nil
      rintro rfl
      exact hne hw.symm
    exact ⟨rest, by rw [splitScheme_append hchars (halpha c (List.mem_cons_self ..)), hw]⟩

@[simp]
theorem scheme_withoutFragment (u : Url) : u.withoutFragment.scheme = u.scheme := rfl

def writtenScheme (address : Text) : Text :=
  address.takeWhile (· ≠ ':')

theorem writtenScheme_text {u : Url} (h : ':' ∉ u.scheme) : writtenScheme u.text = u.scheme := by
  rw [writtenScheme, text, front]
  simp only [List.append_assoc, List.cons_append]
  exact Text.takeWhile_ne h _

end Url
end RefPages
