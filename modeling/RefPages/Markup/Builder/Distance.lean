import RefPages.Markup.Builder.Modes

/-!
How far a builder is from using a token up: first the text that a table keeps back, then the elements
that may still be closed, then the modes that pass the token on.
-/

namespace RefPages.Markup

namespace Token

def isStart (names : List String) : Token → Bool
  | start tag => names.contains tag.name
  | _ => false

def isHtmlStop : Token → Bool
  | stop tag => tag.name == "html"
  | _ => false

theorem isHtmlStop_stop {tag : Tag} (h : tag.name ≠ "html") : (stop tag).isHtmlStop = false :=
  beq_eq_false_iff_ne.mpr h

def isTableText : Token → Bool
  | text _ | nul => true
  | _ => false

end Token

namespace Mode

@[simp]
def rank (token : Token) : Mode → Nat
  | .initial => 6
  | .beforeHtml => 5
  | .beforeHead => 4
  | .inHead => 3
  | .afterHead | .afterAfterBody => 2
  | .inBody => if token.isHtmlStop then 1 else 0
  | .afterBody => if token.isHtmlStop then 0 else 1
  | .text back => rank token back + 1
  | .inTableText back => if token.isTableText then 0 else rank token back + 1
  | .inTemplate => 4
  | .inTable => 3
  | .inTableBody => 2
  | .inRow => 1
  | _ => 0

@[simp]
def isSettled (token : Token) : Mode → Bool
  | .initial | .beforeHtml | .beforeHead | .inHead | .afterHead | .inBody | .afterBody
  | .afterAfterBody => true
  | .inTable => token.isStart ("col" :: "tr" :: Names.cells)
  | .inColumnGroup => token.isStart ["col"]
  | .inTableBody => token.isStart ("tr" :: Names.cells)
  | .inRow => token.isStart Names.cells
  | _ => false

end Mode

namespace Builder

def templates (b : Builder) : Nat :=
  b.stack.countP (·.isHtml "template")

def height (token : Token) (b : Builder) : Nat :=
  if token = .eof then b.templates
  else if b.mode.isSettled token then 0
  else b.stack.length + 1

def distance (token : Token) (b : Builder) : Nat × Nat × Nat :=
  (b.tableText.length, b.height token, b.mode.rank token)

/-- The second builder is nearer to using its token up. -/
def Closer (token : Token) (b : Builder) (token' : Token) (b' : Builder) : Prop :=
  Prod.Lex (· < ·) (Prod.Lex (· < ·) (· < ·)) (distance token' b') (distance token b)

end Builder

def Step.Nears (token : Token) (b : Builder) : Step → Prop
  | done _ => True
  | again b' token' => b.Closer token token' b'

namespace Builder

open Step

variable {b b' : Builder} {token token' : Token} {tag : Tag} {mode : Mode}

@[simp]
theorem nears_done : (done b').Nears token b :=
  trivial

@[simp]
theorem nears_again : (again b' token').Nears token b ↔ b.Closer token token' b' :=
  .rfl

@[simp]
theorem nears_ite {p : Prop} [Decidable p] {s s' : Step} :
    (if p then s else s').Nears token b ↔ (p → s.Nears token b) ∧ (¬p → s'.Nears token b) := by
  split <;> simp [*]

theorem closer_iff : b.Closer token token' b' ↔
    b'.tableText.length < b.tableText.length ∨ b'.tableText.length = b.tableText.length ∧
      (b'.height token' < b.height token ∨ b'.height token' = b.height token ∧
        b'.mode.rank token' < b.mode.rank token) := by
  simp only [Closer, distance, Prod.lex_def]

theorem Closer.of_rank (ht : b'.tableText = b.tableText) (hh : b'.height token' ≤ b.height token)
    (hr : b'.mode.rank token' < b.mode.rank token) : b.Closer token token' b' := by
  rw [closer_iff, ht]
  omega

theorem Closer.of_settled (ht : b'.tableText = b.tableText)
    (hs : b'.mode.isSettled token' = true)
    (he : token' = .eof → token = .eof ∧ b'.templates ≤ b.templates)
    (hr : b'.mode.rank token' < b.mode.rank token) : b.Closer token token' b' := by
  refine .of_rank ht ?_ hr
  by_cases h : token' = .eof
  · obtain ⟨rfl, hle⟩ := he h
    rwa [h, height, height, if_pos rfl, if_pos rfl]
  · rw [height, if_neg h, if_pos hs]
    exact Nat.zero_le _

theorem height_le (he : token ≠ .eof) : b.height token ≤ b.stack.length + 1 := by
  rw [height, if_neg he]
  split <;> omega

theorem height_eq (he : token ≠ .eof) (hs : b.mode.isSettled token = false) :
    b.height token = b.stack.length + 1 := by
  rw [height, if_neg he, hs, if_neg Bool.false_ne_true]

theorem Closer.of_closed (ht : b'.tableText = b.tableText) (he : token ≠ .eof)
    (he' : token' ≠ .eof) (hs : b.mode.isSettled token = false)
    (hl : b'.stack.length < b.stack.length) : b.Closer token token' b' := by
  have hle := height_le (b := b') he'
  rw [closer_iff, ht, height_eq he hs]
  omega

theorem Closer.of_mode (ht : b'.tableText = b.tableText) (he : token ≠ .eof)
    (hs : b.mode.isSettled token = false) (hl : b'.stack.length ≤ b.stack.length)
    (hr : b'.mode.rank token < b.mode.rank token) : b.Closer token token b' := by
  have hle := height_le (b := b') he
  rw [closer_iff, ht, height_eq he hs]
  omega

theorem Closer.of_template (ht : b'.tableText = b.tableText) (hl : b'.templates < b.templates) :
    b.Closer .eof .eof b' := by
  rw [closer_iff, ht]
  exact .inr ⟨rfl, .inl hl⟩

theorem Closer.of_suffix {stack : List Open} (hs : stack <:+ b.stack)
    (h : Closer token { b with stack } token' b') : b.Closer token token' b' := by
  have hcount : ({ b with stack } : Builder).templates ≤ b.templates := hs.sublist.countP_le
  have hlength := hs.length_le
  have hh : ({ b with stack } : Builder).height token ≤ b.height token := by
    unfold height
    dsimp only
    split
    · exact hcount
    · split <;> omega
  rw [closer_iff] at h ⊢
  dsimp only at h
  omega

theorem nears_of_suffix {stack : List Open} (hs : stack <:+ b.stack) {s : Step}
    (h : s.Nears token { b with stack }) : s.Nears token b := by
  cases s with
  | done => trivial
  | again => exact Closer.of_suffix hs h

theorem length_tail_lt_of_suffix {stack : List Open} (hs : stack <:+ b.stack) (h : b.stack ≠ []) :
    stack.tail.length < b.stack.length := by
  have hle := hs.length_le
  have hpos := List.length_pos_iff.mpr h
  rw [List.length_tail]
  omega

theorem countP_tail_dropWhile_lt {α : Type} {p : α → Bool} {l : List α} (h : l.any p = true) :
    ((l.dropWhile fun a => !p a).tail).countP p < l.countP p := by
  induction l with
  | nil => cases h
  | cons a l ih =>
    cases ha : p a with
    | true => simp [ha]
    | false => simpa [ha] using ih (by simpa [ha] using h)

theorem stack_ne_nil_of_inScope {bounds p : Open → Bool} (h : b.inScope bounds p = true) :
    b.stack ≠ [] := by
  intro hb
  rw [inScope, hb] at h
  cases h

theorem stack_ne_nil_of_currentIs {name : String} (h : b.currentIs name = true) :
    b.stack ≠ [] := by
  intro hb
  rw [currentIs, current?, hb] at h
  cases h

theorem addText_eq (t : Text) (b : Builder) : ∃ draft, b.addText t = { b with draft } := by
  rw [addText]
  split
  · exact ⟨b.draft, rfl⟩
  · exact ⟨_, rfl⟩

theorem tableText_addText (t : Text) (b : Builder) : (b.addText t).tableText = b.tableText := by
  obtain ⟨draft, h⟩ := addText_eq t b
  rw [h]

theorem stack_addText (t : Text) (b : Builder) : (b.addText t).stack = b.stack := by
  obtain ⟨draft, h⟩ := addText_eq t b
  rw [h]

theorem tableText_reopen (tags : List Tag) (entries : List Formatting) (b : Builder) :
    (reopen tags entries b).2.tableText = b.tableText := by
  induction tags generalizing entries b with
  | nil => rfl
  | cons tag tags ih =>
    rw [reopen, ih]
    rfl

theorem tableText_bodyText (t : Text) (b : Builder) : (b.bodyText t).tableText = b.tableText := by
  have hr : b.reconstruct.tableText = b.tableText := by
    unfold reconstruct
    dsimp only
    split
    · rfl
    · exact tableText_reopen ..
  rw [bodyText, tableText_addText, ← hr]
  split <;> rfl

theorem tableText_flushTableText (b : Builder) : b.flushTableText.tableText = [] := by
  have hfold (add : Text → Builder → Builder)
      (h : ∀ t b, (add t b).tableText = b.tableText) (ts : List Text) (b : Builder) :
      (ts.foldl (fun b t => add t b) b).tableText = b.tableText := by
    induction ts generalizing b with
    | nil => rfl
    | cons t ts ih => rw [List.foldl_cons, ih, h]
  unfold flushTableText
  dsimp only
  split
  · exact hfold addText tableText_addText _ _
  · exact hfold bodyText tableText_bodyText _ _

theorem flushTableText_of_nil (h : b.tableText = []) : b.flushTableText = b := by
  rw [flushTableText, h]
  cases b
  cases h
  rfl

theorem splitText_nears {t : Text} {onBlanks : Text → Builder → Builder}
    {onRest : Token → Builder → Step} (h : ∀ u, (onRest (.text u) b).Nears (.text t) b)
    (h' : ∀ u, (onRest (.text u) (onBlanks (blanks t) b)).Nears (.text t) b) :
    (splitText t onBlanks onRest b).Nears (.text t) b := by
  unfold splitText
  dsimp only
  split
  · trivial
  · split
    · exact h _
    · exact h' _

end Builder
end RefPages.Markup
