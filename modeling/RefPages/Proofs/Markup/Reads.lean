import RefPages.Markup.Document
import RefPages.Proofs.Markup.Lexer

namespace RefPages.Markup.Builder

open Lexer (IsRun IsTagName)

structure IsPlain (b : Builder) : Prop where
  reading : b.reading = .content
  foreign : b.inForeign = false
  newline : b.skipNewline = false

def Reads (b : Builder) (s : Text) (b' : Builder) : Prop :=
  ∀ t, b.readAll (s ++ t) = b'.readAll t

variable {b b' b'' : Builder} {s u : Text}

theorem Reads.refl (b : Builder) : Reads b [] b :=
  fun _ => rfl

theorem Reads.trans (h : Reads b s b') (h' : Reads b' u b'') : Reads b (s ++ u) b'' := by
  intro t
  rw [List.append_assoc, h, h']

theorem readAll_next {c : Char} {t rest : Text} {token : Token} (h : b.IsPlain)
    (hn : Lexer.next false .content c t = ⟨[token], .content, rest⟩) :
    b.readAll (c :: t) = (b.receive token).readAll rest := by
  have hb : { b with reading := .content } = b := by rw [← h.reading]
  rw [readAll, h.foreign, h.reading, hn]
  dsimp only [List.foldl]
  rw [hb]

theorem IsPlain.isForeign (h : b.IsPlain) (token : Token) : b.isForeign token = false := by
  have hf := h.foreign
  rw [inForeign] at hf
  cases hc : b.current? with
  | none => rw [Builder.isForeign.eq_def, hc]
  | some o =>
    have ho : o.space = .html := by simpa [hc] using hf
    cases token <;> simp [Builder.isForeign, hc, ho]

inductive Uses : Token → Builder → Builder → Prop
  | done {token : Token} {b b' : Builder} (h : b.byMode token = .done b') : Uses token b b'
  | again {token token' : Token} {b b₁ b' : Builder} (h : b.byMode token = .again b₁ token')
    (h₁ : b₁.IsPlain) (hu : Uses token' b₁ b') : Uses token b b'

theorem IsPlain.use_eq (h : b.IsPlain) {token : Token} (hu : Uses token b b') :
    use token b = b' := by
  have hstep {b : Builder} (h : b.IsPlain) (token : Token) : b.step token = b.byMode token := by
    rw [Builder.step, h.isForeign, if_neg Bool.false_ne_true]
  induction hu with
  | done hb => exact use_of_done ((hstep h _).trans hb)
  | again hb h₁ _ ih => exact (use_of_again ((hstep h _).trans hb)).trans (ih h₁)

theorem IsPlain.receive_eq (h : b.IsPlain) {token : Token} (ht : token ≠ .text [])
    (hu : Uses token b b') : b.receive token = b' := by
  have hnew : { b with skipNewline := false } = b := by rw [← h.newline]
  rw [receive.eq_def, hnew]
  simp only [useCounted_eq]
  split
  · rw [h.newline, if_neg Bool.false_ne_true, if_neg ht]
    exact h.use_eq hu
  · rw [if_neg ht]
    exact h.use_eq hu

theorem reads_start (name : String) (hn : IsTagName name) (h : b.IsPlain)
    (hu : Uses (.start { name }) b b') : Reads b ('<' :: (name.toList ++ ['>'])) b' := by
  intro t
  rw [← h.receive_eq (by rintro ⟨⟩) hu, List.cons_append, List.append_assoc]
  exact readAll_next h (Lexer.next_start hn (by rintro _ ⟨⟩; rfl) (Lexer.attributes_end [] t))

theorem reads_class (name : String) (v : Text) (hn : IsTagName name) (hq : '"' ∉ v) (hv : IsRun v)
    (h : b.IsPlain) (hu : Uses (.start { name, attributes := [⟨"class", v⟩] }) b b') :
    Reads b ('<' :: (name.toList ++ (" class=\"".toList ++ (v ++ "\">".toList)))) b' := by
  intro t
  rw [← h.receive_eq (by rintro ⟨⟩) hu, List.cons_append, List.append_assoc, List.append_assoc]
  exact readAll_next h
    (Lexer.next_start hn (by rintro _ ⟨⟩; rfl) (Lexer.attributes_class hq hv t))

theorem reads_stop (name : String) (hn : IsTagName name) (h : b.IsPlain)
    (hu : Uses (.stop { name }) b b') : Reads b ('<' :: '/' :: (name.toList ++ ['>'])) b' := by
  intro t
  rw [← h.receive_eq (by rintro ⟨⟩) hu, List.cons_append, List.cons_append, List.append_assoc]
  exact readAll_next h (Lexer.next_stop hn t)

theorem reads_text (hs : IsRun s) (h : b.IsPlain) (hu : u.head? = some '<')
    (hr : Reads (b.receive (.text s)) u b') : Reads b (s ++ u) b' := by
  intro t
  rw [List.append_assoc, ← hr t]
  cases s with
  | nil =>
    have hb : { b with skipNewline := false } = b := by rw [← h.newline]
    exact congrArg (readAll · (u ++ t)) hb.symm
  | cons c s =>
    obtain ⟨u, rfl⟩ := List.head?_eq_some_iff.mp hu
    exact readAll_next h (Lexer.next_run hs rfl)

end RefPages.Markup.Builder
