import RefPages.Proofs.Scan.Loaded

/-!
What a reading finds does not hang on what stands behind the end of it: more lines may follow, and a
carriage return at the end of the last line may be left out.
-/

namespace RefPages

namespace Feed

def before (more : List Text) (f : Feed) : Feed :=
  ⟨f.ahead, f.pending ++ more⟩

def returnBehind : (pending : List Text) → Text
  | [] => ['\r']
  | _ :: _ => []

def addReturn : List Text → List Text
  | [] => []
  | line :: pending => (line ++ returnBehind pending) :: addReturn pending

def withReturn (f : Feed) : Feed :=
  ⟨f.ahead ++ returnBehind f.pending, addReturn f.pending⟩

theorem addReturn_append (ls : List Text) (line : Text) :
    addReturn (ls ++ [line]) = ls ++ [line ++ ['\r']] := by
  induction ls with
  | nil => rfl
  | cons first ls ih =>
    rw [List.cons_append, addReturn, ih]
    cases ls <;> simp [returnBehind]

theorem text_withReturn (f : Feed) : f.withReturn.text = f.text ++ ['\r'] := by
  obtain ⟨ahead, pending⟩ := f
  rw [withReturn, text, text]
  induction pending generalizing ahead with
  | nil => simp [returnBehind, addReturn]
  | cons line pending ih => simpa [returnBehind, addReturn] using ih line

theorem fill_before {n : Nat} {ahead : Text} {pending : List Text}
    (h : n ≤ (fill n ahead pending).ahead.byteSize) (more : List Text) :
    fill n ahead (pending ++ more) = (fill n ahead pending).before more := by
  fun_induction fill n ahead pending with
  | case1 ahead =>
    cases more with
    | nil => rfl
    | cons line more => rw [List.nil_append, fill, if_pos ((Text.hasBytes_iff ..).mpr h)]; rfl
  | case2 ahead line pending hn => rw [List.cons_append, fill, if_pos hn]; rfl
  | case3 ahead line pending hn ih => rw [List.cons_append, fill, if_neg hn, ih h]

theorem fill_withReturn (n : Nat) (ahead : Text) (pending : List Text) :
    fill n (ahead ++ returnBehind pending) (addReturn pending) =
      (fill n ahead pending).withReturn := by
  fun_induction fill n ahead pending with
  | case1 ahead => rfl
  | case2 ahead line pending hn =>
    rw [returnBehind, List.append_nil, addReturn, fill, if_pos hn, withReturn, returnBehind,
      List.append_nil, addReturn]
  | case3 ahead line pending hn ih =>
    rw [returnBehind, List.append_nil, addReturn, fill, if_neg hn, ← ih]
    simp

theorem afterClose_before {ahead : Text} {pending : List Text} {f : Feed}
    (h : afterClose ahead pending = some f) (more : List Text) :
    afterClose ahead (pending ++ more) = some (f.before more) := by
  fun_induction afterClose ahead pending with
  | case1 => cases h
  | case2 ahead c rest hd =>
    cases h
    cases more with
    | nil => rw [List.append_nil, afterClose, hd]; rfl
    | cons line more => rw [List.nil_append, afterClose, hd]; rfl
  | case3 ahead line pending hd ih => rw [List.cons_append, afterClose, hd, ih h]
  | case4 ahead line pending c rest hd =>
    cases h
    rw [List.cons_append, afterClose, hd]
    rfl

theorem dropWhile_return {ahead : Text} :
    (ahead ++ ['\r']).dropWhile (· ≠ '>') =
      if ahead.dropWhile (· ≠ '>') = [] then [] else ahead.dropWhile (· ≠ '>') ++ ['\r'] := by
  rw [List.dropWhile_append]
  simp

theorem afterClose_withReturn (ahead : Text) (pending : List Text) :
    afterClose (ahead ++ returnBehind pending) (addReturn pending) =
      (afterClose ahead pending).map withReturn := by
  fun_induction afterClose ahead pending with
  | case1 ahead hd => rw [returnBehind, addReturn, afterClose, dropWhile_return, if_pos hd]; rfl
  | case2 ahead c rest hd =>
    rw [returnBehind, addReturn, afterClose, dropWhile_return, hd, if_neg (List.cons_ne_nil c rest)]
    rfl
  | case3 ahead line pending hd ih =>
    rw [returnBehind, List.append_nil, addReturn, afterClose, hd]
    exact ih
  | case4 ahead line pending c rest hd =>
    rw [returnBehind, List.append_nil, addReturn, afterClose, hd, Option.map_some, withReturn,
      returnBehind, List.append_nil, addReturn]

end Feed

namespace Region

variable {tag taken ahead region : Text} {depth : Nat} {pending : List Text} {rest : Feed}

theorem read_of_fill {c : Char} {t : Text} {pending' : List Text}
    (h : Feed.fill (lookahead tag) ahead pending = ⟨c :: t, pending'⟩) (depth : Nat) (taken : Text) :
    read tag depth taken ahead pending =
      match depthAfter? tag (c :: t) depth with
      | none => some (taken.reverse ++ (c :: t).take (width tag (c :: t)),
          ⟨(c :: t).drop (width tag (c :: t)), pending'⟩)
      | some depth => read tag depth (((c :: t).take (width tag (c :: t))).reverse ++ taken)
          ((c :: t).drop (width tag (c :: t))) pending' := by
  rw [read.eq_def, h]
  dsimp only
  rw [depthAfter?]
  split
  · cases depth with
    | zero => simp
    | succ depth => simp
  · rfl

theorem closing_infix_of_read (h : read tag depth taken ahead pending = some (region, rest)) :
    closing tag <:+: ahead ++ Feed.unread pending := by
  have hs := read_eq_split tag depth taken ahead pending
  rw [h, Option.map_some] at hs
  obtain ⟨x, hx, -⟩ := Option.map_eq_some_iff.mp hs.symm
  rw [← split_append hx]
  exact (closing_suffix_of_split hx).isInfix.trans (List.prefix_append ..).isInfix

theorem lookahead_le_fill (h : closing tag <:+: ahead ++ Feed.unread pending) :
    lookahead tag ≤ (Feed.fill (lookahead tag) ahead pending).ahead.byteSize := by
  rcases Feed.byteSize_fill (lookahead tag) ahead pending with hn | hn
  · exact hn
  · obtain ⟨u, v, huv⟩ := h
    rw [← Feed.fill_text (lookahead tag), Feed.text, hn, Feed.unread_nil, List.append_nil] at huv
    rw [← huv, Text.byteSize_append, Text.byteSize_append, byteSize_closing]
    omega

theorem read_before (h : read tag depth taken ahead pending = some (region, rest))
    (more : List Text) :
    read tag depth taken ahead (pending ++ more) = some (region, rest.before more) := by
  have filled := Feed.fill_before (lookahead_le_fill (closing_infix_of_read h)) more
  fun_induction read tag depth taken ahead pending with
  | case1 => cases h
  | case2 taken ahead pending c t pending' hf w taken' hc =>
    rw [hf] at filled
    cases h
    rw [read_of_fill filled, depthAfter?, if_pos hc]
    simp [taken', Feed.before, w]
  | case3 taken ahead pending c t pending' hf w taken' hc depth ih =>
    rw [hf] at filled
    rw [read_of_fill filled, depthAfter?, if_pos hc]
    exact ih h (Feed.fill_before (lookahead_le_fill (closing_infix_of_read h)) more)
  | case4 depth taken ahead pending c t pending' hf w taken' hc ih =>
    rw [hf] at filled
    rw [read_of_fill filled, depthAfter?, if_neg hc]
    rw [dite_eq_ite] at ih
    exact ih h (Feed.fill_before (lookahead_le_fill (closing_infix_of_read h)) more)

theorem closing_infix_of_return {t : Text} (h : closing tag <:+: t ++ ['\r']) :
    closing tag <:+: t := by
  rcases List.infix_concat_iff.mp h with hs | hi
  · obtain ⟨u, hu⟩ := hs
    rw [closing, ← List.append_assoc] at hu
    have := (List.append_inj' hu rfl).2
    simp at this
  · exact hi

theorem lookahead_le_fill_of_return
    (h : read tag depth taken (ahead ++ Feed.returnBehind pending) (Feed.addReturn pending) =
      some (region, rest)) :
    lookahead tag ≤ (Feed.fill (lookahead tag) ahead pending).ahead.byteSize := by
  apply lookahead_le_fill
  apply closing_infix_of_return
  have := closing_infix_of_read h
  rwa [show ahead ++ Feed.returnBehind pending ++ Feed.unread (Feed.addReturn pending) =
    ahead ++ Feed.unread pending ++ ['\r'] from Feed.text_withReturn ⟨ahead, pending⟩] at this

theorem read_of_fill_withReturn {c : Char} {t : Text} {pending' : List Text}
    (h : Feed.fill (lookahead tag) ahead pending = ⟨c :: t, pending'⟩)
    (hn : lookahead tag ≤ Text.byteSize (c :: t)) (depth : Nat) (taken : Text) :
    read tag depth taken (ahead ++ Feed.returnBehind pending) (Feed.addReturn pending) =
      match depthAfter? tag (c :: t) depth with
      | none => some (taken.reverse ++ (c :: t).take (width tag (c :: t)),
          Feed.withReturn ⟨(c :: t).drop (width tag (c :: t)), pending'⟩)
      | some depth => read tag depth (((c :: t).take (width tag (c :: t))).reverse ++ taken)
          ((c :: t).drop (width tag (c :: t)) ++ Feed.returnBehind pending')
          (Feed.addReturn pending') := by
  have hfill : Feed.fill (lookahead tag) (ahead ++ Feed.returnBehind pending)
      (Feed.addReturn pending) =
        ⟨c :: (t ++ Feed.returnBehind pending'), Feed.addReturn pending'⟩ := by
    rw [Feed.fill_withReturn, h]
    rfl
  have hd : Decides tag (c :: t) (Feed.returnBehind pending') := .inl hn
  have hw : width tag (c :: t) ≤ (c :: t).length := width_le (List.cons_ne_nil c t)
  rw [read_of_fill hfill, ← List.cons_append, depthAfter?_append hd, width_append hd,
    List.take_append_of_le_length hw, List.drop_append_of_le_length hw]
  rfl

theorem read_of_withReturn
    (h : read tag depth taken (ahead ++ Feed.returnBehind pending) (Feed.addReturn pending) =
      some (region, rest)) :
    ∃ rest', read tag depth taken ahead pending = some (region, rest') ∧
      rest = rest'.withReturn := by
  have hn := lookahead_le_fill_of_return h
  fun_induction read tag depth taken ahead pending with
  | case1 depth taken ahead pending pending' hf =>
    rw [hf] at hn
    exact absurd hn (Nat.not_le.mpr (lookahead_pos tag))
  | case2 taken ahead pending c t pending' hf w taken' hc =>
    rw [hf] at hn
    rw [read_of_fill_withReturn hf hn, depthAfter?, if_pos hc] at h
    cases h
    exact ⟨_, by simp [taken', w], rfl⟩
  | case3 taken ahead pending c t pending' hf w taken' hc depth ih =>
    rw [hf] at hn
    rw [read_of_fill_withReturn hf hn, depthAfter?, if_pos hc] at h
    exact ih h (lookahead_le_fill_of_return h)
  | case4 depth taken ahead pending c t pending' hf w taken' hc ih =>
    rw [hf] at hn
    rw [read_of_fill_withReturn hf hn, depthAfter?, if_neg hc] at h
    rw [dite_eq_ite] at ih
    exact ih h (lookahead_le_fill_of_return h)

end Region

theorem Feed.region_before {tag region : Text} {f rest : Feed}
    (h : f.region tag = some (region, rest)) (more : List Text) :
    (f.before more).region tag = some (region, rest.before more) :=
  Region.read_before h more

theorem Feed.region_of_withReturn {tag region : Text} {f rest : Feed}
    (h : f.withReturn.region tag = some (region, rest)) :
    ∃ rest', f.region tag = some (region, rest') ∧ rest = rest'.withReturn :=
  Region.read_of_withReturn h

end RefPages
