import Mathlib.Data.List.Chain
import RefPages.Domain.Label
import RefPages.Proofs.Domain.Codes
import RefPages.Proofs.Text.Letters

namespace RefPages.Domain

def asciiCodes : Nat :=
  Codes.span 0 0x7F

namespace Normal

abbrev Row := Nat × Nat × Nat

def wholesOf (rows : List Row) : Nat :=
  Codes.ofList (rows.map (·.1))

def firstsOf (rows : List Row) : Nat :=
  Codes.ofList (rows.map (·.2.1))

def secondsOf (rows : List Row) : Nat :=
  Codes.ofList (rows.map (·.2.2))

def nestedIn (rows : List Row) : (depth : Nat) → Nat
  | 0 => wholesOf rows
  | depth + 1 => wholesOf (rows.filter fun r => (nestedIn rows depth).testBit r.2.1)

def syllableCodes : Nat :=
  Codes.span syllables (syllables + 11171)

def letterCodes : Nat :=
  Codes.span leading (leading + 18) ||| Codes.span vowels (vowels + 20) |||
    Codes.span (trailing + 1) (trailing + 27)

structure Fit (rows : List Row) (marks : Nat) : Prop where
  ascending : (rows.map (·.1)).IsChain (· < ·)
  valid : ∀ r ∈ rows, r.1.isValidChar ∧ r.2.1.isValidChar ∧ r.2.2.isValidChar
  shallow : nestedIn rows 6 = 0
  wholes : Codes.apart (wholesOf rows) (secondsOf rows ||| letterCodes ||| asciiCodes) = true
  syllables : Codes.apart syllableCodes (wholesOf rows ||| firstsOf rows ||| secondsOf rows) = true
  seconds : Codes.apart (secondsOf rows) asciiCodes = true
  dot : Codes.apart (firstsOf rows) (1 <<< '.'.toNat) = true
  marks : Codes.apart marks (firstsOf rows ||| letterCodes ||| syllableCodes ||| asciiCodes) = true

instance (rows : List Row) (marks : Nat) : Decidable (Fit rows marks) :=
  decidable_of_iff
    ((rows.map (·.1)).IsChain (· < ·) ∧
      (∀ r ∈ rows, r.1.isValidChar ∧ r.2.1.isValidChar ∧ r.2.2.isValidChar) ∧
      nestedIn rows 6 = 0 ∧
      Codes.apart (wholesOf rows) (secondsOf rows ||| letterCodes ||| asciiCodes) = true ∧
      Codes.apart syllableCodes (wholesOf rows ||| firstsOf rows ||| secondsOf rows) = true ∧
      Codes.apart (secondsOf rows) asciiCodes = true ∧
      Codes.apart (firstsOf rows) (1 <<< '.'.toNat) = true ∧
      Codes.apart marks (firstsOf rows ||| letterCodes ||| syllableCodes ||| asciiCodes) = true)
    ⟨fun ⟨h₁, h₂, h₃, h₄, h₅, h₆, h₇, h₈⟩ => ⟨h₁, h₂, h₃, h₄, h₅, h₆, h₇, h₈⟩,
      fun ⟨h₁, h₂, h₃, h₄, h₅, h₆, h₇, h₈⟩ => ⟨h₁, h₂, h₃, h₄, h₅, h₆, h₇, h₈⟩⟩

end Normal

def Property.combiningCodes : Nat :=
  Codes.union Span.codes combiningTable.toList

set_option maxRecDepth 1000000 in
theorem Normal.fit_table : Fit table Property.combiningCodes := by
  unfold table composites Property.combiningCodes Property.combiningTable Property.spans
    Property.combiningClasses
  rw [String.toList_ofList, String.toList_ofList, List.toList_toArray]
  decide +kernel

namespace Property

def leftward : List Direction :=
  [.right, .arabicLetter, .arabicNumber]

def LeftBeyondAscii (spans : List (Span Direction)) : Prop :=
  ∀ s ∈ spans, leftward.contains s.value = true → 0x80 ≤ s.first

instance (spans : List (Span Direction)) : Decidable (LeftBeyondAscii spans) :=
  inferInstanceAs (Decidable (∀ s ∈ spans, _))

set_option maxRecDepth 1000000 in
theorem leftBeyondAscii_table : LeftBeyondAscii directionTable.toList := by
  unfold directionTable spans directions
  rw [String.toList_ofList, List.toList_toArray]
  decide +kernel

end Property

namespace Mapping

def movedIn (s : Span Rule) (every : Nat) : List Nat :=
  ((List.range (s.last + 1 - s.first)).filter (· % every = 0)).map (s.first + ·)

def changedIn (s : Span Rule) : Nat :=
  match s.value with
  | .moved every _ => Codes.ofList (movedIn s every)
  | _ => s.codes

def move (distance : Int) (n : Nat) : Nat :=
  (Char.ofNat (n + distance).toNat).toNat

def resultsOf (s : Span Rule) : Nat :=
  match s.value with
  | .disallowed => 0
  | .ignored => 0
  | .replaced texts => Codes.ofList (texts.flatten.map Char.toNat)
  | .moved every distance => Codes.ofList ((movedIn s every).map (move distance))

def changed (spans : List (Span Rule)) : Nat :=
  Codes.span 'A'.toNat 'Z'.toNat ||| Codes.union changedIn spans

def results (spans : List (Span Rule)) (rows : List Normal.Row) : Nat :=
  Codes.union resultsOf spans ||| Normal.wholesOf rows ||| Normal.firstsOf rows |||
    Normal.secondsOf rows ||| Normal.syllableCodes ||| Normal.letterCodes

def Settles (spans : List (Span Rule)) (rows : List Normal.Row) : Prop :=
  Codes.apart (changed spans) (results spans rows) = true

instance (spans : List (Span Rule)) (rows : List Normal.Row) : Decidable (Settles spans rows) :=
  inferInstanceAs (Decidable (_ = true))

set_option maxRecDepth 1000000 in
theorem settles_table : Settles table.toList Normal.table := by
  unfold table rows Normal.table Normal.composites
  rw [String.toList_ofList, String.toList_ofList, List.toList_toArray]
  decide +kernel

end Mapping
end RefPages.Domain
