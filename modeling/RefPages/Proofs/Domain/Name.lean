import RefPages.Domain.Name
import RefPages.Proofs.Domain.Punycode
import RefPages.Proofs.Domain.Settled
import RefPages.Proofs.Text.Lines

namespace RefPages.Domain

namespace Label

structure IsShown (label : Text) : Prop where
  dot : '.' ∉ label
  settled : ∀ c ∈ label, isSettled c = true
  normal : Normal.normalize label = label
  shown : (isAscii label = true ∧ encodedMark.isPrefixOf label = false) ∨
    (isAscii label = false ∧ isProper label = true)

section Encode

variable {label : Text} {c : Char}

theorem mem_encode (h : c ∈ encode label) :
    (c ∈ label ∧ Punycode.isBasic c = true) ∨ c ∈ encodedMark ∨ Punycode.IsDigit c := by
  rw [encode] at h
  split at h
  · next hascii => exact .inl ⟨h, List.all_eq_true.mp hascii c h⟩
  · rcases List.mem_append.mp h with h | h
    · exact .inr (.inl h)
    · rcases Punycode.mem_encode h with h | rfl | h
      · exact .inl h
      · exact .inr (.inl (by decide))
      · exact .inr (.inr h)

theorem encodedMark_spec (h : c ∈ encodedMark) :
    Punycode.isBasic c = true ∧ c ≠ '.' ∧ c.toLower = c := by
  have hall : encodedMark.all (fun d => Punycode.isBasic d ∧ d ≠ '.' ∧ d.toLower = d) = true := rfl
  exact of_decide_eq_true (List.all_eq_true.mp hall c h)

theorem isBasic_of_mem_encode (h : c ∈ encode label) : Punycode.isBasic c = true := by
  rcases mem_encode h with h | h | h
  · exact h.2
  · exact (encodedMark_spec h).1
  · exact h.spec.1

theorem isAscii_encode (label : Text) : isAscii (encode label) = true :=
  List.all_eq_true.mpr fun _ => isBasic_of_mem_encode

theorem isSettled_of_small (hbasic : Punycode.isBasic c = true) (h : c.toLower = c) :
    isSettled c = true := by
  rw [← h]
  exact Mapping.isSettled_toLower (of_decide_eq_true hbasic)

variable (hlabel : IsShown label)

include hlabel

theorem IsShown.dot_not_mem_encode : '.' ∉ encode label := by
  intro h
  rcases mem_encode h with h | h | h
  · exact hlabel.dot h.1
  · exact (encodedMark_spec h).2.1 rfl
  · exact h.spec.2.2.1 rfl

theorem IsShown.isSettled_of_mem_encode (h : c ∈ encode label) : isSettled c = true := by
  rcases mem_encode h with h | h | h
  · exact hlabel.settled c h.1
  · exact isSettled_of_small (encodedMark_spec h).1 (encodedMark_spec h).2.2
  · exact isSettled_of_small h.spec.1 h.spec.2.2.2

theorem IsShown.decode_encode : decode (encode label) = some label := by
  obtain ⟨hascii, hmark⟩ | ⟨hascii, hproper⟩ := hlabel.shown
  · rw [encode, if_pos hascii, decode, hmark, if_neg Bool.false_ne_true, hascii]
    rfl
  · have hencode : encode label = encodedMark ++ Punycode.encode label := by
      rw [encode, hascii, if_neg Bool.false_ne_true]
    have hmark : encodedMark.isPrefixOf (encode label) = true := by
      rw [hencode]
      exact List.isPrefixOf_iff_prefix.mpr (List.prefix_append ..)
    have hsettled : label.all isSettled = true := List.all_eq_true.mpr hlabel.settled
    have hdrop : (encode label).drop encodedMark.length = Punycode.encode label := by
      rw [hencode, List.drop_left]
    rw [decode, if_pos hmark, if_pos (isAscii_encode label), hdrop, Punycode.decode_encode,
      Option.filter_some, hascii, hsettled, hlabel.normal, hproper, beq_self_eq_true]
    rfl

end Encode

theorem isShown_of_decode {part label : Text} (hdot : '.' ∉ part)
    (hsettled : ∀ c ∈ part, isSettled c = true) (hnormal : Normal.normalize part = part)
    (h : decode part = some label) : IsShown label := by
  rw [decode] at h
  split at h
  · split at h
    · obtain ⟨hdecode, h⟩ := Option.filter_eq_some_iff.mp h
      simp only [Bool.and_eq_true, Bool.not_eq_true', beq_iff_eq, List.all_eq_true] at h
      obtain ⟨⟨⟨hascii, hsettled'⟩, hnormal'⟩, hproper⟩ := h
      refine ⟨fun hd => ?_, hsettled', hnormal', .inr ⟨hascii, hproper⟩⟩
      rcases Punycode.mem_decode hdecode hd with hd | hd
      · exact hdot (List.mem_of_mem_drop hd)
      · exact Bool.noConfusion hd
    · cases h
  · next hmark =>
    split at h
    · next hascii =>
      cases h
      refine ⟨hdot, hsettled, hnormal, ?_⟩
      cases hbasic : isAscii part with
      | true => exact .inl ⟨rfl, Bool.eq_false_iff.mpr hmark⟩
      | false =>
        rw [hbasic, Bool.false_or] at hascii
        exact .inr ⟨rfl, hascii⟩
    · cases h

end Label

open Label (IsShown)

theorem normalize_intercalate (parts : List Text) :
    Normal.normalize (['.'].intercalate parts) = ['.'].intercalate (parts.map Normal.normalize) := by
  induction parts with
  | nil => rfl
  | cons part parts ih =>
    cases parts with
    | nil => simp [List.intercalate]
    | cons next parts =>
      rw [List.map_cons, List.map_cons, List.intercalate_cons_cons, List.intercalate_cons_cons,
        List.append_assoc, List.append_assoc, List.singleton_append, List.singleton_append,
        Normal.normalize_append_dot, ih, List.map_cons]

theorem normalize_of_mem_splitOn {t part : Text} (h : part ∈ (Normal.normalize t).splitOn '.') :
    Normal.normalize part = part := by
  let parts := (Normal.normalize t).splitOn '.'
  have hne : parts ≠ [] := List.splitOn_ne_nil '.' _
  have hdot : ∀ p ∈ parts, '.' ∉ p := by
    intro p hp hd
    simpa using Text.eq_false_of_mem_splitOnP hp hd
  have hdot' : ∀ p ∈ parts.map Normal.normalize, '.' ∉ p := by
    rw [List.forall_mem_map]
    exact fun p hp => Normal.dot_not_mem_normalize (hdot p hp)
  have hwhole : ['.'].intercalate parts = Normal.normalize t := List.intercalate_splitOn '.'
  have hmap : parts.map Normal.normalize = parts := by
    calc parts.map Normal.normalize
        = (['.'].intercalate (parts.map Normal.normalize)).splitOn '.' :=
          (List.splitOn_intercalate '.' hdot' (mt List.map_eq_nil_iff.mp hne)).symm
      _ = (Normal.normalize (['.'].intercalate parts)).splitOn '.' := by
          rw [normalize_intercalate]
      _ = parts := by rw [hwhole, Normal.normalize_normalize]
  exact List.map_inj_left.mp (hmap.trans (List.map_id parts).symm) part h

variable {t : Text} {labels : List Text}

theorem labels?_spec (h : labels? t = some labels) :
    labels ≠ [] ∧ ∀ label ∈ labels, IsShown label := by
  simp only [labels?, Option.bind_eq_bind, Option.bind_eq_some_iff] at h
  obtain ⟨mapped, hmapped, h⟩ := h
  split at h
  · cases h
  · constructor
    · rintro rfl
      exact List.splitOn_ne_nil _ _ (List.length_eq_zero_iff.mp (Text.length_of_mapM h).symm)
    · intro label hlabel
      obtain ⟨part, hpart, hdecode⟩ := Text.mem_of_mapM h hlabel
      have hdot : '.' ∉ part := by
        intro hd
        simpa using Text.eq_false_of_mem_splitOnP hpart hd
      have hsettled : ∀ c ∈ part, Label.isSettled c = true := by
        intro c hc
        apply Normal.isSettled_normalize (Mapping.isSettled_of_mapText hmapped)
        exact Text.subset_of_mem_splitOnP hpart hc
      exact Label.isShown_of_decode hdot hsettled (normalize_of_mem_splitOn hpart) hdecode

def nameOf (labels : List Text) : Text :=
  ['.'].intercalate (labels.map Label.encode)

theorem mem_nameOf {c : Char} (h : c ∈ nameOf labels) :
    c = '.' ∨ ∃ label ∈ labels, c ∈ Label.encode label := by
  refine (Text.mem_intercalate h).imp_right ?_
  rintro ⟨part, hpart, hc⟩
  obtain ⟨label, hlabel, rfl⟩ := List.mem_map.mp hpart
  exact ⟨label, hlabel, hc⟩

theorem ascii_of_mem_nameOf {c : Char} (h : c ∈ nameOf labels) : c.toNat < 0x80 := by
  obtain rfl | ⟨label, -, h⟩ := mem_nameOf h
  · decide
  · exact of_decide_eq_true (Label.isBasic_of_mem_encode h)

theorem labels?_nameOf (hne : labels ≠ []) (hlabels : ∀ label ∈ labels, IsShown label)
    (hfree : (nameOf labels).any isForbidden = false) : labels? (nameOf labels) = some labels := by
  have hsettled : ∀ c ∈ nameOf labels, Label.isSettled c = true := by
    intro c hc
    obtain rfl | ⟨label, hlabel, hc⟩ := mem_nameOf hc
    · rfl
    · exact (hlabels label hlabel).isSettled_of_mem_encode hc
  have hnormal : Normal.normalize (nameOf labels) = nameOf labels :=
    Normal.normalize_ascii fun _ => ascii_of_mem_nameOf
  have hdot : ∀ part ∈ labels.map Label.encode, '.' ∉ part := by
    rw [List.forall_mem_map]
    exact fun label hlabel => (hlabels label hlabel).dot_not_mem_encode
  have hsplit : (nameOf labels).splitOn '.' = labels.map Label.encode :=
    List.splitOn_intercalate '.' hdot (mt List.map_eq_nil_iff.mp hne)
  have hdecode : (labels.map Label.encode).mapM Label.decode = some labels := by
    rw [List.mapM_map]
    exact (Text.mapM_eq_some fun label hlabel => (hlabels label hlabel).decode_encode).trans
      (congrArg some (List.map_id labels))
  rw [labels?, Mapping.mapText_of_settled hsettled]
  dsimp only [Option.bind_eq_bind, Option.bind_some]
  rw [hnormal, hfree, if_neg Bool.false_ne_true, hsplit, hdecode]

theorem exists_of_toAscii? {name : Text} (h : toAscii? t = some name) :
    ∃ labels, labels? t = some labels ∧ name = nameOf labels ∧
      (labels.any (·.any Label.runsLeft) && !labels.all Label.runsOneWay) = false ∧
      name.any isForbidden = false := by
  simp only [toAscii?, Option.bind_eq_bind, Option.bind_eq_some_iff] at h
  obtain ⟨labels, hlabels, h⟩ := h
  split at h
  · cases h
  · next hway =>
    split at h
    · cases h
    · next hfree =>
      cases h
      exact ⟨labels, hlabels, rfl, Bool.eq_false_iff.mpr hway, Bool.eq_false_iff.mpr hfree⟩

theorem ascii_of_toAscii? {name : Text} (h : toAscii? t = some name) :
    ∀ c ∈ name, c.toNat < 0x80 := by
  obtain ⟨labels, -, rfl, -⟩ := exists_of_toAscii? h
  exact fun _ => ascii_of_mem_nameOf

theorem toAscii?_of_toAscii? {name : Text} (h : toAscii? t = some name) :
    toAscii? name = some name := by
  obtain ⟨labels, hlabels, rfl, hway, hfree⟩ := exists_of_toAscii? h
  obtain ⟨hne, hshown⟩ := labels?_spec hlabels
  rw [toAscii?, labels?_nameOf hne hshown hfree]
  dsimp only [Option.bind_eq_bind, Option.bind_some]
  rw [hway, if_neg Bool.false_ne_true, ← nameOf, hfree, if_neg Bool.false_ne_true]

theorem Label.runsLeft_of_ascii {c : Char} (h : c.toNat < 0x80) : runsLeft c = false := by
  rw [Bool.eq_false_iff]
  intro hleft
  rw [runsLeft, Property.direction, Span.value?] at hleft
  cases hs : Span.find? Property.directionTable c with
  | none =>
    rw [hs] at hleft
    cases hleft
  | some s =>
    rw [hs] at hleft
    obtain ⟨hmem, hfirst, -⟩ := Span.mem_of_search hs
    have := Property.leftBeyondAscii_table s (Array.mem_toList_iff.mpr hmem) hleft
    omega

theorem toAscii?_of_small {t : Text}
    (h : ∀ c ∈ t, c.toNat < 0x80 ∧ c.toLower = c ∧ isForbidden c = false ∧ c ≠ 'x') :
    toAscii? t = some t := by
  have hpart {part : Text} (hpart : part ∈ t.splitOn '.') : part ⊆ t :=
    Text.subset_of_mem_splitOnP hpart
  have hascii {part : Text} (hp : part ∈ t.splitOn '.') : Label.isAscii part = true :=
    List.all_eq_true.mpr fun c hc => decide_eq_true (h c (hpart hp hc)).1
  have hencode : (t.splitOn '.').map Label.encode = t.splitOn '.' :=
    (List.map_congr_left fun part hp => if_pos (hascii hp)).trans (List.map_id _)
  have hname : nameOf (t.splitOn '.') = t := by
    rw [nameOf, hencode, List.intercalate_splitOn]
  have hshown : ∀ part ∈ t.splitOn '.', IsShown part := by
    intro part hp
    refine ⟨fun hd => ?_, fun c hc => ?_, ?_, .inl ⟨hascii hp, ?_⟩⟩
    · simpa using Text.eq_false_of_mem_splitOnP hp hd
    · have := h c (hpart hp hc)
      exact Label.isSettled_of_small (decide_eq_true this.1) this.2.1
    · exact Normal.normalize_ascii fun c hc => (h c (hpart hp hc)).1
    · rw [Bool.eq_false_iff]
      intro hmark
      obtain ⟨rest, rfl⟩ := List.isPrefixOf_iff_prefix.mp hmark
      exact (h 'x' (hpart hp (List.mem_append_left rest (by decide)))).2.2.2 rfl
  have hfree : (nameOf (t.splitOn '.')).any isForbidden = false := by
    rw [hname, List.any_eq_false]
    exact fun c hc => Bool.eq_false_iff.mp (h c hc).2.2.1
  have hright : (t.splitOn '.').any (·.any Label.runsLeft) = false := by
    rw [List.any_eq_false]
    intro part hp
    rw [Bool.not_eq_true, List.any_eq_false]
    exact fun c hc => Bool.eq_false_iff.mp (Label.runsLeft_of_ascii (h c (hpart hp hc)).1)
  have hlabels := labels?_nameOf (List.splitOn_ne_nil '.' t) hshown hfree
  rw [hname] at hlabels hfree
  rw [toAscii?, hlabels]
  dsimp only [Option.bind_eq_bind, Option.bind_some]
  rw [hright, Bool.false_and, if_neg Bool.false_ne_true, ← nameOf, hname, hfree,
    if_neg Bool.false_ne_true]

end RefPages.Domain
