import RefPages.Proofs.Page.Single
import RefPages.Proofs.Prose.Collapse

/-!
Pages that are written in the plainest way: a table for each prototype, and a paragraph for each
error.
-/

namespace RefPages.Page

open Text (collapse withBreaks withBreaks_append withBreaks_of_not_mem)

def prototype (s : Text) : Text :=
  "<table><tr><td>".toList ++ (s ++ ";</td></tr></table>".toList)

def paragraph (e : Text) : Text :=
  "<p>".toList ++ (e ++ "</p>".toList)

def synopsisPart (ss : List Text) : Text :=
  "<div class=\"funcsynopsis\">".toList ++ (ss.flatMap prototype ++ "</div>".toList)

def errorsPart (es : List Text) : Text :=
  "<div class=\"refsect1\"><h2>Errors</h2>".toList ++ (es.flatMap paragraph ++ "</div>".toList)

def written (ss es : List Text) : Text :=
  synopsisPart ss ++ '\n' :: errorsPart es

def writtenExtract (ss es : List Text) : Extract where
  signatures := ss.map fun s => collapse (s ++ [';'])
  errors := (es.map collapse).filter fun t => !t.isEmpty

def tagOf (name : String) : Text :=
  '<' :: name.toList ++ ['>']

theorem prototype_eq (s : Text) :
    prototype s = tagOf "table" ++ (tagOf "tr" ++ (tagOf "td" ++ (s ++ ([';'] ++
      (tagOf "/td" ++ (tagOf "/tr" ++ tagOf "/table")))))) := by
  unfold prototype tagOf
  simp

theorem paragraph_eq (e : Text) : paragraph e = tagOf "p" ++ (e ++ tagOf "/p") := by
  unfold paragraph tagOf
  simp

def IsBare (t : Text) : Prop :=
  ∀ c ∈ ['<', '>', '&', ';', '\x00'], c ∉ t

instance : DecidablePred IsBare :=
  fun _ => List.decidableBAll _ _

theorem IsBare.withBreaks {lone : Char} {t : Text} (h : IsBare t)
    (hl : lone ∉ ['<', '>', '&', ';', '\x00']) : IsBare (withBreaks lone t) := by
  intro c hc hm
  rcases Text.mem_withBreaks hm with hm | rfl | rfl
  · exact h c hc hm
  · revert hc
    decide
  · exact hl hc

theorem isBare_map_withBreaks {lone : Char} (hl : lone ∉ ['<', '>', '&', ';', '\x00'])
    {ts : List Text} (h : ∀ t ∈ ts, IsBare t) : ∀ t ∈ ts.map (Text.withBreaks lone), IsBare t := by
  intro t ht
  obtain ⟨u, hu, rfl⟩ := List.mem_map.mp ht
  exact (h u hu).withBreaks hl

theorem withBreaks_between {lone : Char} {front back : Text} (hf : '\r' ∉ front) (hb : '\r' ∉ back)
    (hh : back.head? ≠ some '\n') (s : Text) :
    withBreaks lone (front ++ (s ++ back)) = front ++ (withBreaks lone s ++ back) := by
  have hlast : front.getLast? ≠ some '\r' := fun he => hf (List.mem_of_getLast? he)
  rw [withBreaks_append fun he => absurd he hlast, withBreaks_append fun _ => hh,
    withBreaks_of_not_mem hf, withBreaks_of_not_mem hb]

theorem withBreaks_flatMap {lone : Char} {f : Text → Text}
    (hf : ∀ s, withBreaks lone (f s) = f (withBreaks lone s))
    (hl : ∀ s, (f s).getLast? ≠ some '\r') (ss : List Text) :
    withBreaks lone (ss.flatMap f) = (ss.map (withBreaks lone)).flatMap f := by
  induction ss with
  | nil => rfl
  | cons s ss ih =>
    rw [List.flatMap_cons, withBreaks_append fun he => absurd he (hl s), hf, ih, List.map_cons,
      List.flatMap_cons]

theorem withBreaks_prototype (lone : Char) (s : Text) :
    withBreaks lone (prototype s) = prototype (withBreaks lone s) := by
  unfold prototype
  apply withBreaks_between <;> simp

theorem withBreaks_paragraph (lone : Char) (e : Text) :
    withBreaks lone (paragraph e) = paragraph (withBreaks lone e) := by
  unfold paragraph
  apply withBreaks_between <;> simp

theorem getLast?_prototype (s : Text) : (prototype s).getLast? = some '>' := by
  unfold prototype
  rw [List.getLast?_append, List.getLast?_append]
  simp

theorem getLast?_paragraph (e : Text) : (paragraph e).getLast? = some '>' := by
  unfold paragraph
  rw [List.getLast?_append, List.getLast?_append]
  simp

theorem withBreaks_synopsisPart (lone : Char) (ss : List Text) :
    withBreaks lone (synopsisPart ss) = synopsisPart (ss.map (withBreaks lone)) := by
  have hlast (s : Text) : (prototype s).getLast? ≠ some '\r' := by simp [getLast?_prototype]
  unfold synopsisPart
  rw [← withBreaks_flatMap (withBreaks_prototype lone) hlast]
  apply withBreaks_between <;> simp

theorem withBreaks_errorsPart (lone : Char) (es : List Text) :
    withBreaks lone (errorsPart es) = errorsPart (es.map (withBreaks lone)) := by
  have hlast (e : Text) : (paragraph e).getLast? ≠ some '\r' := by simp [getLast?_paragraph]
  unfold errorsPart
  rw [← withBreaks_flatMap (withBreaks_paragraph lone) hlast]
  apply withBreaks_between <;> simp

theorem getLast?_synopsisPart (ss : List Text) : (synopsisPart ss).getLast? = some '>' := by
  unfold synopsisPart
  rw [List.getLast?_append, List.getLast?_append]
  simp

theorem getLast?_errorsPart (es : List Text) : (errorsPart es).getLast? = some '>' := by
  unfold errorsPart
  rw [List.getLast?_append, List.getLast?_append]
  simp

theorem withBreaks_written (lone : Char) (ss es : List Text) :
    withBreaks lone (written ss es) =
      written (ss.map (withBreaks lone)) (es.map (withBreaks lone)) := by
  have hlast : (synopsisPart ss).getLast? ≠ some '\r' := by simp [getLast?_synopsisPart]
  rw [written, withBreaks_append fun he => absurd he hlast, withBreaks_synopsisPart,
    Text.withBreaks_cons (by decide), withBreaks_errorsPart, written]

theorem writtenExtract_withBreaks {lone : Char} (h : isBlank lone = true) (ss es : List Text) :
    writtenExtract (ss.map (withBreaks lone)) (es.map (withBreaks lone)) =
      writtenExtract ss es := by
  have hs (s : Text) : collapse (withBreaks lone s ++ [';']) = collapse (s ++ [';']) := by
    rw [← Text.collapse_withBreaks h (s ++ [';']), withBreaks_append fun _ => by decide]
    rfl
  rw [writtenExtract, writtenExtract, List.map_map, List.map_map]
  simp only [Function.comp_def, hs, Text.collapse_withBreaks h]

end RefPages.Page
