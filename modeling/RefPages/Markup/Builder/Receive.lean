import RefPages.Markup.Builder.Distance

namespace RefPages.Markup.Builder

open Step

variable {b : Builder} {token : Token} {tag : Tag}

def Passes (go : Builder → Builder) (token : Token) (b : Builder) : Prop :=
  ∀ u b₁, b₁.tableText = b.tableText → u.isHtmlStop = token.isHtmlStop →
    (u = .eof → token = .eof ∧ b₁ = b) → b.Closer token u (go b₁)

section

variable {go : Builder → Builder} {t : Text} {onBlanks : Text → Builder → Builder}

theorem Passes.intro {next : Mode}
    (hgo : ∀ b₁, (go b₁).tableText = b₁.tableText ∧ (go b₁).mode = next ∧
      (token = .eof → (go b₁).templates ≤ b₁.templates))
    (hs : ∀ u, next.isSettled u = true)
    (hr : ∀ u, u.isHtmlStop = token.isHtmlStop → next.rank u < b.mode.rank token) :
    Passes go token b := by
  intro u b₁ ht hu he
  obtain ⟨htext, hmode, hcount⟩ := hgo b₁
  refine .of_settled (htext.trans ht) (hmode ▸ hs u) ?_ (hmode ▸ hr u hu)
  intro h
  obtain ⟨htoken, rfl⟩ := he h
  exact ⟨htoken, hcount htoken⟩

theorem Passes.closer (h : Passes go token b) : b.Closer token token (go b) :=
  h token b rfl rfl fun he => ⟨he, rfl⟩

theorem Passes.text (h : Passes go (.text t) b)
    (hb : (onBlanks (blanks t) b).tableText = b.tableText) :
    (splitText t onBlanks (fun u b => again (go b) u) b).Nears (.text t) b :=
  splitText_nears (fun u => h (.text u) b rfl rfl (by rintro ⟨⟩))
    fun u => h (.text u) _ hb rfl (by rintro ⟨⟩)

end

theorem initial_nears (hm : b.mode = .initial) : (b.initial token).Nears token b := by
  have hp : Passes (fun b => { b with mode := .beforeHtml, quirks := true }) token b :=
    .intro (fun _ => ⟨rfl, rfl, fun _ => Nat.le_refl _⟩) (fun _ => rfl)
      fun _ _ => by simp [hm]
  unfold initial
  cases token with
  | text => exact hp.text rfl
  | comment | doctype => trivial
  | start | stop | nul | eof => exact hp.closer

theorem templates_openRoot (b : Builder) : (b.openRoot []).templates = b.templates := by
  simp [templates, openRoot, Open.isHtml]

theorem templates_openNamed {name : String} (h : name ≠ "template") (b : Builder) :
    (b.openNamed name).templates = b.templates := by
  simp [templates, openNamed, openTag, openIn, push, addNode, Open.isHtml, h]

theorem beforeHtml_nears (hm : b.mode = .beforeHtml) : (b.beforeHtml token).Nears token b := by
  have hp : Passes (fun b => (b.openRoot []).setMode .beforeHead) token b :=
    .intro (fun b => ⟨rfl, rfl, fun _ => Nat.le_of_eq (templates_openRoot b)⟩) (fun _ => rfl)
      fun _ _ => by simp [hm]
  unfold beforeHtml
  cases token with
  | text => exact hp.text rfl
  | comment | doctype => trivial
  | start | stop => simp [hp.closer]
  | nul | eof => exact hp.closer

theorem beforeHead_nears (hm : b.mode = .beforeHead) : (b.beforeHead token).Nears token b := by
  have hp : Passes (openHead { name := "head" }) token b :=
    .intro (fun b => ⟨rfl, rfl, fun _ => Nat.le_of_eq (templates_openNamed (by decide) b)⟩)
      (fun _ => rfl) fun _ _ => by simp [hm]
  unfold beforeHead
  cases token with
  | text => exact hp.text rfl
  | comment | doctype => trivial
  | start | stop => simp [hp.closer]
  | nul | eof => exact hp.closer

theorem templates_pop_le (b : Builder) : b.pop.templates ≤ b.templates :=
  (List.tail_sublist b.stack).countP_le

theorem inHead_nears (hm : b.mode = .inHead) : (b.inHead token).Nears token b := by
  have hp : Passes (fun b => b.pop.setMode .afterHead) token b :=
    .intro (fun b => ⟨rfl, rfl, fun _ => templates_pop_le b⟩) (fun _ => rfl)
      fun _ _ => by simp [hm]
  unfold inHead
  cases token with
  | text => exact hp.text (tableText_addText ..)
  | comment | doctype => trivial
  | start | stop => simp [hp.closer]
  | nul | eof => exact hp.closer

theorem afterHead_nears (hm : b.mode = .afterHead) : (b.afterHead token).Nears token b := by
  have hp : Passes (fun b => (b.openNamed "body").setMode .inBody) token b := by
    refine .intro (fun b => ⟨rfl, rfl, fun _ => ?_⟩) (fun _ => rfl) fun _ _ => ?_
    · exact Nat.le_of_eq (templates_openNamed (by decide) b)
    · rw [hm, Mode.rank, Mode.rank]
      split <;> decide
  unfold afterHead
  cases token with
  | text => exact hp.text (tableText_addText ..)
  | comment | doctype => trivial
  | start | stop => simp [hp.closer]
  | nul | eof => exact hp.closer

theorem afterBody_nears (hm : b.mode = .afterBody) : (b.afterBody token).Nears token b := by
  have hp (he : token ≠ .eof) (hs : token.isHtmlStop = false) :
      Passes (setMode .inBody) token b :=
    .intro (fun b => ⟨rfl, rfl, fun h => absurd h he⟩) (fun _ => rfl)
      fun _ hu => by simp [hm, hu, hs]
  unfold afterBody
  cases token with
  | text => exact (hp (by rintro ⟨⟩) rfl).text (tableText_bodyText ..)
  | comment | doctype | eof => trivial
  | start => simp [(hp (by rintro ⟨⟩) rfl).closer]
  | stop tag =>
    by_cases h : tag.name = "html"
    · simp [h]
    · simp [h, (hp (by rintro ⟨⟩) (Token.isHtmlStop_stop h)).closer]
  | nul => exact (hp (by rintro ⟨⟩) rfl).closer

theorem afterAfterBody_nears (hm : b.mode = .afterAfterBody) :
    (b.afterAfterBody token).Nears token b := by
  have hp (he : token ≠ .eof) : Passes (setMode .inBody) token b := by
    refine .intro (fun b => ⟨rfl, rfl, fun h => absurd h he⟩) (fun _ => rfl) fun _ _ => ?_
    rw [hm, Mode.rank, Mode.rank]
    split <;> decide
  unfold afterAfterBody
  cases token with
  | text => exact (hp (by rintro ⟨⟩)).text (tableText_bodyText ..)
  | comment | doctype | eof => trivial
  | start => simp [(hp (by rintro ⟨⟩)).closer]
  | stop | nul => exact (hp (by rintro ⟨⟩)).closer

theorem endTemplate_nears : b.endTemplate.Nears .eof b := by
  unfold endTemplate
  split
  · next h => exact Closer.of_template rfl (countP_tail_dropWhile_lt h)
  · trivial

theorem inBody_nears (hm : token.isHtmlStop = true → b.mode = .inBody) :
    (b.inBody token).Nears token b := by
  unfold inBody
  cases token with
  | text | nul | doctype | comment | start => trivial
  | eof => simp [endTemplate_nears]
  | stop tag =>
    by_cases h : tag.name = "html"
    · have hs : (Token.stop tag).isHtmlStop = true := by simp [Token.isHtmlStop, h]
      have hc : b.Closer (.stop tag) (.stop tag) (b.setMode .afterBody) := by
        refine .of_settled rfl rfl (by rintro ⟨⟩) ?_
        rw [hm hs, setMode, Mode.rank, Mode.rank, hs]
        decide
      simp [h, hc]
    · simp [h]

theorem inBody_nears_of_not_htmlStop (hs : token.isHtmlStop = false) :
    (b.inBody token).Nears token b :=
  inBody_nears fun h => absurd h (by rw [hs]; exact Bool.false_ne_true)

theorem exists_inBody_eq_done (he : token ≠ .eof) (hs : token.isHtmlStop = false) :
    ∃ b', b.inBody token = done b' := by
  cases token with
  | eof => exact absurd rfl he
  | stop tag => exact ⟨_, if_neg (by simpa [Token.isHtmlStop] using hs)⟩
  | text | nul | doctype | comment | start => exact ⟨_, rfl⟩

theorem fosterInBody_nears (he : token ≠ .eof) (hs : token.isHtmlStop = false) :
    (b.fosterInBody token).Nears token b := by
  obtain ⟨b', h⟩ := exists_inBody_eq_done (b := { b with fostering := true }) he hs
  rw [fosterInBody, h]
  trivial

theorem inText_nears {back : Mode} (hm : b.mode = .text back) :
    (b.inText back token).Nears token b := by
  unfold inText
  cases token with
  | text | stop | start | nul | comment | doctype => trivial
  | eof =>
    refine .of_rank rfl (templates_pop_le b) ?_
    rw [hm, Mode.rank]
    exact Nat.lt_succ_self _

def IsTableMode (mode : Mode) : Prop :=
  mode = .inTable ∨ mode = .inTableBody ∨ mode = .inRow

theorem IsTableMode.rank_pos {mode : Mode} (h : IsTableMode mode) (token : Token) :
    0 < mode.rank token := by
  rcases h with rfl | rfl | rfl <;> exact Nat.succ_pos _

theorem IsTableMode.isSettled {mode : Mode} (h : IsTableMode mode)
    (ht : token.isStart ("col" :: "tr" :: Names.cells) = false) :
    mode.isSettled token = false := by
  have hrow : token.isStart ("tr" :: Names.cells) = false ∧ token.isStart Names.cells = false := by
    cases token with
    | start tag =>
      simp only [Token.isStart, List.contains_cons, Bool.or_eq_false_iff] at ht ⊢
      exact ⟨ht.2, ht.2.2⟩
    | _ => exact ⟨rfl, rfl⟩
  rcases h with rfl | rfl | rfl
  · exact ht
  · exact hrow.1
  · exact hrow.2

theorem tableChars_nears (ht : token.isTableText = true) (hm : IsTableMode b.mode) :
    (b.tableChars token).Nears token b := by
  have he : token ≠ .eof := by
    rintro rfl
    cases ht
  have hs : token.isHtmlStop = false ∧ token.isStart ("col" :: "tr" :: Names.cells) = false := by
    cases token with
    | text | nul => exact ⟨rfl, rfl⟩
    | _ => cases ht
  have hc : b.Closer token token (b.setMode (.inTableText b.mode)) := by
    refine .of_mode rfl he (hm.isSettled hs.2) (Nat.le_refl _) ?_
    rw [setMode, Mode.rank, if_pos ht]
    exact hm.rank_pos token
  unfold tableChars
  simp [hc, fosterInBody_nears he hs.1]

theorem tableStart_nears (hm : IsTableMode b.mode)
    (hp : Names.tableParts.contains tag.name = true → b.mode = .inTable) :
    (b.tableStart tag).Nears (.start tag) b := by
  have he : Token.start tag ≠ .eof := by rintro ⟨⟩
  have hcol (h : tag.name = "col") : b.Closer (.start tag) (.start tag)
      (((b.popTo ["table", "template", "html"]).openNamed "colgroup").setMode .inColumnGroup) := by
    refine .of_settled rfl (by simp [setMode, Token.isStart, h]) (by rintro ⟨⟩) ?_
    rw [hp (by rw [h]; decide)]
    exact Nat.succ_pos _
  have hrow (h : Names.cells.contains tag.name = true ∨ tag.name = "tr") :
      b.Closer (.start tag) (.start tag)
        (((b.popTo ["table", "template", "html"]).openNamed "tbody").setMode .inTableBody) := by
    refine .of_settled rfl ?_ (by rintro ⟨⟩) ?_
    · simpa [setMode, Token.isStart] using h.symm
    · have hpart : Names.tableParts.contains tag.name = true := by
        obtain h | h := h
        · obtain h | h : tag.name = "td" ∨ tag.name = "th" := by simpa [Names.cells] using h
          · rw [h]
            decide
          · rw [h]
            decide
        · rw [h]
          decide
      rw [hp hpart]
      exact Nat.lt_succ_self 2
  have htable (h : tag.name = "table") (hb : b.hasInTable "table" = true) :
      b.Closer (.start tag) (.start tag) b.closeTable := by
    refine .of_closed rfl he he (hm.isSettled (by simp [Token.isStart, Names.cells, h])) ?_
    exact length_tail_lt_of_suffix (List.dropWhile_suffix _) (stack_ne_nil_of_inScope hb)
  unfold tableStart
  dsimp only
  simp only [nears_ite, nears_done, nears_again]
  simp +contextual [hcol, hrow, htable, fosterInBody_nears he rfl]

theorem inTable_nears (hm : IsTableMode b.mode)
    (hp : ∀ tag, token = .start tag → Names.tableParts.contains tag.name = true →
      b.mode = .inTable) : (b.inTable token).Nears token b := by
  unfold inTable
  cases token with
  | text | nul => exact tableChars_nears rfl hm
  | comment | doctype => trivial
  | start tag => exact tableStart_nears hm (hp tag rfl)
  | stop tag =>
    by_cases h : tag.name = "html"
    · simp [h]
    · have hfoster := fosterInBody_nears (b := b) (by rintro ⟨⟩) (Token.isHtmlStop_stop h)
      simp [hfoster]
  | eof => exact inBody_nears_of_not_htmlStop rfl

theorem inTableText_nears {back : Mode} (hm : b.mode = .inTableText back) :
    (b.inTableText back token).Nears token b := by
  have hc (ht : token.isTableText = false) :
      b.Closer token token (b.flushTableText.setMode back) := by
    by_cases htext : b.tableText = []
    · rw [flushTableText_of_nil htext]
      have hr : (b.setMode back).mode.rank token < b.mode.rank token := by
        rw [hm, Mode.rank, ht, if_neg Bool.false_ne_true]
        exact Nat.lt_succ_self _
      by_cases he : token = .eof
      · subst he
        exact .of_rank rfl (Nat.le_refl _) hr
      · exact .of_mode rfl he (by rw [hm]; rfl) (Nat.le_refl _) hr
    · rw [closer_iff]
      left
      rw [setMode, tableText_flushTableText]
      exact List.length_pos_iff.mpr htext
  unfold inTableText
  cases token with
  | text | nul => trivial
  | comment | doctype | start | stop | eof => exact hc rfl

theorem inCaption_nears (hm : b.mode = .inCaption) : (b.inCaption token).Nears token b := by
  have hc (he : token ≠ .eof) (hb : b.hasInTable "caption" = true) :
      b.Closer token token b.closeCaption :=
    .of_closed rfl he he (by rw [hm]; rfl) (length_tail_lt_of_suffix
      ((List.dropWhile_suffix _).trans (List.dropWhile_suffix _)) (stack_ne_nil_of_inScope hb))
  unfold inCaption
  cases token with
  | start tag =>
    have hbody := inBody_nears_of_not_htmlStop (b := b) (rfl : (Token.start tag).isHtmlStop = false)
    simp +contextual [hc, hbody]
  | stop tag =>
    by_cases h : tag.name = "html"
    · simp [h]
    · have hbody := inBody_nears_of_not_htmlStop (b := b) (Token.isHtmlStop_stop h)
      simp +contextual [hc, hbody]
  | text | nul | comment | doctype | eof => exact inBody_nears_of_not_htmlStop rfl

theorem inColumnGroup_nears (hm : b.mode = .inColumnGroup) :
    (b.inColumnGroup token).Nears token b := by
  -- Blanks in front of the rest of a text leave what is open as it is.
  have hc (u : Token) {b₁ : Builder} (he : token ≠ .eof) (hu : u ≠ .eof)
      (hs : token.isStart ["col"] = false) (hb : b.currentIs "colgroup" = true)
      (ht : b₁.tableText = b.tableText) (hstack : b₁.stack = b.stack) :
      b.Closer token u (b₁.pop.setMode .inTable) := by
    refine .of_closed ht he hu (by rw [hm]; exact hs) ?_
    rw [setMode, pop, hstack]
    exact length_tail_lt_of_suffix (List.suffix_refl _) (stack_ne_nil_of_currentIs hb)
  unfold inColumnGroup
  cases token with
  | text t =>
    by_cases hb : b.currentIs "colgroup" = true
    · dsimp only
      rw [if_pos hb]
      refine splitText_nears (fun u => ?_) fun u => ?_
      · rw [if_pos hb]
        exact hc (.text u) (by rintro ⟨⟩) (by rintro ⟨⟩) rfl hb rfl rfl
      · rw [nears_ite]
        exact ⟨fun _ => hc (.text u) (by rintro ⟨⟩) (by rintro ⟨⟩) rfl hb (tableText_addText ..)
          (stack_addText ..), fun _ => trivial⟩
    · simp [hb]
  | comment | doctype => trivial
  | start tag =>
    by_cases h : tag.name = "col"
    · simp [h]
    · have hs : (Token.start tag).isStart ["col"] = false := by simp [Token.isStart, h]
      have hc hb := hc (.start tag) (by rintro ⟨⟩) (by rintro ⟨⟩) hs hb rfl rfl
      simp +contextual [h, hc]
  | stop tag =>
    have hc hb := hc (.stop tag) (by rintro ⟨⟩) (by rintro ⟨⟩) rfl hb rfl rfl
    simp +contextual [hc]
  | nul =>
    have hc hb := hc .nul (by rintro ⟨⟩) (by rintro ⟨⟩) rfl hb rfl rfl
    simp +contextual [hc]
  | eof => exact inBody_nears_of_not_htmlStop rfl

theorem inTableBody_nears (hm : b.mode = .inTableBody) : (b.inTableBody token).Nears token b := by
  have hc (he : token ≠ .eof) (hs : token.isStart ("tr" :: Names.cells) = false)
      {p : Open → Bool} (hb : b.inScope boundsTable p = true) :
      b.Closer token token (b.toRowGroup.pop.setMode .inTable) :=
    .of_closed rfl he he (by rw [hm]; exact hs)
      (length_tail_lt_of_suffix (List.dropWhile_suffix _) (stack_ne_nil_of_inScope hb))
  have htable (hp : ∀ tag, token = .start tag → Names.tableParts.contains tag.name ≠ true) :
      (b.inTable token).Nears token b :=
    inTable_nears (.inr (.inl hm)) fun tag ht h => absurd h (hp tag ht)
  unfold inTableBody
  cases token with
  | start tag =>
    dsimp only
    split
    · trivial
    next htr =>
    split
    · next hcell =>
      refine .of_settled rfl hcell (by rintro ⟨⟩) ?_
      rw [hm]
      exact Nat.lt_succ_self 1
    next hcell =>
    split
    · split
      · next hb => exact hc (by rintro ⟨⟩) (by simpa [Token.isStart, htr] using hcell) hb
      · trivial
    · next hpart => exact htable (by rintro _ ⟨⟩; exact hpart)
  | stop tag =>
    have htable := htable (by rintro _ ⟨⟩)
    dsimp only
    repeat' split
    all_goals first | trivial | exact htable | skip
    next hb => exact hc (by rintro ⟨⟩) rfl hb
  | text | nul | comment | doctype | eof => exact htable (by rintro _ ⟨⟩)

theorem inRow_nears (hm : b.mode = .inRow) : (b.inRow token).Nears token b := by
  have hc (he : token ≠ .eof) (hs : token.isStart Names.cells = false)
      (hb : b.hasInTable "tr" = true) : b.Closer token token (b.toRow.pop.setMode .inTableBody) :=
    .of_closed rfl he he (by rw [hm]; exact hs)
      (length_tail_lt_of_suffix (List.dropWhile_suffix _) (stack_ne_nil_of_inScope hb))
  have htable (hp : ∀ tag, token = .start tag → Names.tableParts.contains tag.name ≠ true) :
      (b.inTable token).Nears token b :=
    inTable_nears (.inr (.inr hm)) fun tag ht h => absurd h (hp tag ht)
  unfold inRow
  cases token with
  | start tag =>
    dsimp only
    split
    · trivial
    next hcell =>
    split
    · split
      · next hb => exact hc (by rintro ⟨⟩) (by simpa [Token.isStart] using hcell) hb
      · trivial
    · next hpart => exact htable (by rintro _ ⟨⟩; exact hpart)
  | stop tag =>
    have htable := htable (by rintro _ ⟨⟩)
    have hc := hc (by rintro ⟨⟩) rfl
    dsimp only
    repeat' split
    all_goals first | trivial | exact htable | exact hc ‹_›
  | text | nul | comment | doctype | eof => exact htable (by rintro _ ⟨⟩)

theorem inCell_nears (hm : b.mode = .inCell) : (b.inCell token).Nears token b := by
  have hc (he : token ≠ .eof) {p : Open → Bool} (hb : b.inScope boundsTable p = true) :
      b.Closer token token b.closeCell :=
    .of_closed rfl he he (by rw [hm]; rfl) (length_tail_lt_of_suffix
      ((List.dropWhile_suffix _).trans (List.dropWhile_suffix _)) (stack_ne_nil_of_inScope hb))
  unfold inCell
  cases token with
  | start tag =>
    have hbody := inBody_nears_of_not_htmlStop (b := b) (rfl : (Token.start tag).isHtmlStop = false)
    dsimp only
    split
    · split
      · next hb => exact hc (by rintro ⟨⟩) hb
      · trivial
    · exact hbody
  | stop tag =>
    by_cases h : tag.name = "html"
    · simp [h, Names.cells]
    · have hbody := inBody_nears_of_not_htmlStop (b := b) (Token.isHtmlStop_stop h)
      dsimp only
      repeat' split
      all_goals first | trivial | exact hbody | skip
      next hb => exact hc (by rintro ⟨⟩) hb
  | text | nul | comment | doctype | eof => exact inBody_nears_of_not_htmlStop rfl

theorem closeSelect_closer (he : token ≠ .eof) (hm : b.mode.isSettled token = false) :
    b.Closer token token b.closeSelect := by
  by_cases hb : b.stack = []
  · have hmode : b.closeSelect.mode = .inBody := by
      rw [closeSelect, resetMode, popThroughName, popThrough, hb]
      rfl
    have hh : b.closeSelect.height token = 0 := by
      rw [height, if_neg he, hmode]
      rfl
    rw [closer_iff, height_eq he hm, hh]
    exact .inr ⟨rfl, .inl (Nat.succ_pos _)⟩
  · exact .of_closed rfl he he hm (length_tail_lt_of_suffix (List.dropWhile_suffix _) hb)

theorem inSelect_nears (hm : b.mode = .inSelect ∨ b.mode = .inSelectInTable) :
    (b.inSelect token).Nears token b := by
  have hs (token : Token) : b.mode.isSettled token = false := by
    rcases hm with h | h <;> rw [h] <;> rfl
  unfold inSelect
  cases token with
  | start tag =>
    have hc : b.Closer (.start tag) (.start tag) b.closeSelect :=
      closeSelect_closer (by rintro ⟨⟩) (hs (.start tag))
    simp [selectStart, hc]
  | text | nul | comment | doctype | stop => trivial
  | eof => exact inBody_nears_of_not_htmlStop rfl

theorem inSelectInTable_nears (hm : b.mode = .inSelectInTable) :
    (b.inSelectInTable token).Nears token b := by
  have hc (he : token ≠ .eof) : b.Closer token token b.closeSelect :=
    closeSelect_closer he (by rw [hm]; rfl)
  have hselect : (b.inSelect token).Nears token b := inSelect_nears (.inr hm)
  unfold inSelectInTable
  cases token with
  | start | stop => simp [hc, hselect]
  | text | nul | comment | doctype | eof => exact hselect

theorem templateAs_nears {mode : Mode} (he : token ≠ .eof) (hm : b.mode = .inTemplate)
    (hr : mode.rank token < 4) : (b.templateAs mode token).Nears token b :=
  Closer.of_mode rfl he (by rw [hm]; rfl) (Nat.le_refl _) (by rw [hm]; exact hr)

theorem inTemplateContent_nears (hm : b.mode = .inTemplate) :
    (b.inTemplateContent token).Nears token b := by
  unfold inTemplateContent
  cases token with
  | start tag =>
    have h {mode : Mode} (hr : mode.rank (.start tag) < 4) :=
      templateAs_nears (b := b) (by rintro ⟨⟩) hm hr
    dsimp only
    repeat' split
    · trivial
    all_goals exact h (by simp [Token.isHtmlStop])
  | text | nul | comment => exact inBody_nears_of_not_htmlStop rfl
  | doctype => trivial
  | stop => simp
  | eof => exact endTemplate_nears

theorem inFrameset_nears : (b.inFrameset token).Nears token b := by
  unfold inFrameset
  cases token <;> simp

theorem afterFrameset_nears : (b.afterFrameset token).Nears token b := by
  unfold afterFrameset
  cases token <;> simp

theorem afterAfterFrameset_nears : (b.afterAfterFrameset token).Nears token b := by
  unfold afterAfterFrameset
  cases token <;> simp

theorem byMode_nears : (b.byMode token).Nears token b := by
  unfold byMode
  split
  next hm => exact initial_nears hm
  next hm => exact beforeHtml_nears hm
  next hm => exact beforeHead_nears hm
  next hm => exact inHead_nears hm
  next hm => exact afterHead_nears hm
  next hm => exact inBody_nears fun _ => hm
  next hm => exact inText_nears hm
  next hm => exact inTable_nears (.inl hm) fun _ _ _ => hm
  next hm => exact inTableText_nears hm
  next hm => exact inCaption_nears hm
  next hm => exact inColumnGroup_nears hm
  next hm => exact inTableBody_nears hm
  next hm => exact inRow_nears hm
  next hm => exact inCell_nears hm
  next hm => exact inSelect_nears (.inl hm)
  next hm => exact inSelectInTable_nears hm
  next hm => exact inTemplateContent_nears hm
  next hm => exact afterBody_nears hm
  next => exact inFrameset_nears
  next => exact afterFrameset_nears
  next hm => exact afterAfterBody_nears hm
  next => exact afterAfterFrameset_nears

theorem breakOut_nears : (b.breakOut token).Nears token b :=
  nears_of_suffix (List.dropWhile_suffix _) byMode_nears

theorem foreignStop_nears (outer : List Open) :
    (foreignStop tag b outer).Nears (.stop tag) b := by
  fun_induction foreignStop tag b outer with
  | case1 | case2 | case4 => trivial
  | case3 => exact byMode_nears
  | case5 _ _ _ _ _ ih => exact ih

theorem foreign_nears : (b.foreign token).Nears token b := by
  unfold foreign
  cases token with
  | text | nul | comment | doctype | eof => trivial
  | start tag =>
    unfold foreignStart
    dsimp only
    split
    · exact breakOut_nears
    · split <;> trivial
  | stop => simp [breakOut_nears, foreignStop_nears]

theorem step_nears (b : Builder) (token : Token) : (b.step token).Nears token b := by
  rw [step, nears_ite]
  exact ⟨fun _ => foreign_nears, fun _ => byMode_nears⟩

theorem closer_of_step {b' : Builder} {token' : Token} (h : b.step token = again b' token') :
    b.Closer token token' b' := by
  have hs := step_nears b token
  rwa [h] at hs

def use (token : Token) (b : Builder) : Builder :=
  match _h : b.step token with
  | done b => b
  | again b token => use token b
termination_by distance token b
decreasing_by exact closer_of_step _h

theorem use_of_done {b' : Builder} (h : b.step token = done b') : use token b = b' := by
  rw [use]
  split
  · next h' => exact Step.done.inj (h'.symm.trans h)
  · next h' => cases h'.symm.trans h

theorem use_of_again {b' : Builder} {token' : Token} (h : b.step token = again b' token') :
    use token b = use token' b' := by
  rw [use]
  split
  · next h' => cases h'.symm.trans h
  · next h' =>
    cases h'.symm.trans h
    rfl

/-- `use` with its first rounds counted. A document can so be computed without the proof that the
rounds come to an end. -/
def useCounted : (rounds : Nat) → (token : Token) → Builder → Builder
  | 0, token, b => use token b
  | rounds + 1, token, b =>
    match b.step token with
    | done b => b
    | again b token => useCounted rounds token b

theorem useCounted_eq (rounds : Nat) (token : Token) (b : Builder) :
    useCounted rounds token b = use token b := by
  induction rounds generalizing token b with
  | zero => rfl
  | succ rounds ih =>
    rw [useCounted]
    cases h : b.step token with
    | done b' => exact (use_of_done h).symm
    | again b' token' => exact (ih token' b').trans (use_of_again h).symm

def receive (b : Builder) (token : Token) : Builder :=
  let token :=
    match token with
    | .text ('\n' :: t) => if b.skipNewline then .text t else token
    | _ => token
  let b := { b with skipNewline := false }
  if token = .text [] then b else useCounted 100 token b

end RefPages.Markup.Builder
