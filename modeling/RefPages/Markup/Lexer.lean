import RefPages.Markup.Reference
import RefPages.Markup.Tag

/-!
Markup as tokens. How the text ahead is read depends on what came before: the content of some
elements is text up to the tag that closes them. `Lexer.next` takes the tokens at the head of the
text and always leaves less of it.
-/

namespace RefPages.Markup

inductive Reading where
  | content
  | rawText (tag : String)
  | replaceable (tag : String)
  | script
  | rest
  deriving DecidableEq, Repr

structure Lexed where
  tokens : List Token
  reading : Reading
  rest : Text

namespace Lexer

open Text (skipBlanks)

def prepare (t : Text) : Text :=
  let t := if t.head? = some '\uFEFF' then t.drop 1 else t
  match t.splitOn '\r' with
  | [] => []
  | first :: rest => first ++ rest.flatMap fun p => if p.head? = some '\n' then p else '\n' :: p

def withoutNul (t : Text) : Text :=
  t.map fun c => if c = '\x00' then Reference.replacement else c

def nameOf (t : Text) : String :=
  String.ofList ((withoutNul t).map Char.toLower)

def startsWithAnyCase (word t : Text) : Bool :=
  (t.take word.length).map Char.toLower == word

def inTagName (c : Char) : Bool :=
  !(isAsciiBlank c || c == '/' || c == '>')

def inAttributeName (c : Char) : Bool :=
  inTagName c && c != '='

def inBareValue (c : Char) : Bool :=
  !(isAsciiBlank c || c == '>')

def attributeValue (t : Text) : Text × Text :=
  match t with
  | '=' :: t =>
    match skipBlanks t with
    | '"' :: t => (t.takeWhile (· ≠ '"'), (t.dropWhile (· ≠ '"')).drop 1)
    | '\'' :: t => (t.takeWhile (· ≠ '\''), (t.dropWhile (· ≠ '\'')).drop 1)
    | t => (t.takeWhile inBareValue, t.dropWhile inBareValue)
  | t => ([], t)

theorem attributeValue_suffix (t : Text) : List.IsSuffix (attributeValue t).2 t := by
  have hs : ∀ t : Text, List.IsSuffix (skipBlanks t) t := fun t => List.dropWhile_suffix _
  unfold attributeValue
  split
  · rename_i t
    have ht := hs t
    refine List.IsSuffix.trans ?_ (List.suffix_cons '=' t)
    split
    · rename_i u hu
      rw [hu] at ht
      exact (((List.drop_suffix _ _).trans (List.dropWhile_suffix _)).trans
        (List.suffix_cons _ _)).trans ht
    · rename_i u hu
      rw [hu] at ht
      exact (((List.drop_suffix _ _).trans (List.dropWhile_suffix _)).trans
        (List.suffix_cons _ _)).trans ht
    · exact (List.dropWhile_suffix _).trans ht
  · exact List.suffix_refl _

def addAttribute (name value : Text) (found : List Attribute) : List Attribute :=
  let a : Attribute := ⟨nameOf name, Reference.decode true (withoutNul value)⟩
  if found.any (·.name == a.name) then found else a :: found

def attributes (found : List Attribute) (t : Text) : Option (List Attribute × Bool × Text) :=
  match _h : skipBlanks t with
  | [] => none
  | '>' :: rest => some (found.reverse, false, rest)
  | '/' :: '>' :: rest => some (found.reverse, true, rest)
  | '/' :: rest => attributes found rest
  | c :: more =>
    let value := attributeValue (skipBlanks (more.dropWhile inAttributeName))
    attributes (addAttribute (c :: more.takeWhile inAttributeName) value.1 found) value.2
termination_by t.length
decreasing_by
  all_goals
    have hs : List.IsSuffix (skipBlanks t) t := List.dropWhile_suffix _
    have hl := hs.length_le
    rw [_h] at hl
    simp only [List.length_cons] at hl
  · omega
  · have h₁ := (attributeValue_suffix (skipBlanks (more.dropWhile inAttributeName))).length_le
    have h₂ : (skipBlanks (more.dropWhile inAttributeName)).length ≤ more.length :=
      ((List.dropWhile_suffix isAsciiBlank).trans (List.dropWhile_suffix inAttributeName)).length_le
    omega

theorem attributes_suffix {found attrs : List Attribute} {closed : Bool} {t rest : Text}
    (h : attributes found t = some (attrs, closed, rest)) : List.IsSuffix rest t := by
  have hs : ∀ {t u : Text}, skipBlanks t = u → List.IsSuffix u t :=
    fun h => h ▸ List.dropWhile_suffix _
  fun_induction attributes found t with
  | case1 => simp at h
  | case2 found t rest' ht =>
    cases h
    exact (List.suffix_cons _ _).trans (hs ht)
  | case3 found t rest' ht =>
    cases h
    exact ((List.suffix_cons _ _).trans (List.suffix_cons _ _)).trans (hs ht)
  | case4 found t rest' _ ht ih =>
    exact ((ih h).trans (List.suffix_cons _ _)).trans (hs ht)
  | case5 found t c more _ _ _ ht value ih =>
    exact (((((ih h).trans (attributeValue_suffix _)).trans (List.dropWhile_suffix isAsciiBlank)).trans
      (List.dropWhile_suffix inAttributeName)).trans (List.suffix_cons _ _)).trans (hs ht)

def tag (t : Text) : Option (Tag × Text) :=
  (attributes [] (t.dropWhile inTagName)).map fun (attrs, closed, rest) =>
    (⟨nameOf (t.takeWhile inTagName), attrs, closed⟩, rest)

theorem tag_suffix {t rest : Text} {found : Tag} (h : tag t = some (found, rest)) :
    List.IsSuffix rest t := by
  simp only [tag, Option.map_eq_some_iff] at h
  obtain ⟨⟨attrs, closed, rest'⟩, ha, h⟩ := h
  cases h
  exact (attributes_suffix ha).trans (List.dropWhile_suffix _)

def tagToken (wrap : Tag → Token) (t : Text) : Lexed :=
  match tag t with
  | none => ⟨[], .content, []⟩
  | some (found, rest) => ⟨[wrap found], .content, rest⟩

def bogusComment (t : Text) : Lexed :=
  ⟨[.comment (withoutNul (t.takeWhile (· ≠ '>')))], .content, (t.dropWhile (· ≠ '>')).drop 1⟩

def afterComment : Text → Text
  | [] => []
  | '-' :: '-' :: '>' :: t => t
  | '-' :: '-' :: '!' :: '>' :: t => t
  | _ :: t => afterComment t

def commentText : (read : Text) → Text → Text
  | read, [] => read.reverse
  | read, '-' :: '-' :: '>' :: _ => read.reverse
  | read, '-' :: '-' :: '!' :: '>' :: _ => read.reverse
  | read, c :: t => commentText (c :: read) t

def comment : Text → Lexed
  | '>' :: t => ⟨[.comment []], .content, t⟩
  | '-' :: '>' :: t => ⟨[.comment []], .content, t⟩
  | t => ⟨[.comment (withoutNul (commentText [] t))], .content, afterComment t⟩

def identifier? : Text → Option (Text × Text)
  | q :: t =>
    if q == '"' || q == '\'' then
      match t.dropWhile (· ≠ q) with
      | [] => none
      | _ :: rest => some (withoutNul (t.takeWhile (· ≠ q)), rest)
    else none
  | [] => none

def identifiers (name : String) (t : Text) : Doctype :=
  let t := skipBlanks t
  if t.isEmpty then { name }
  else if startsWithAnyCase "public".toList t then
    match identifier? (skipBlanks (t.drop 6)) with
    | none => { name, flawed := true }
    | some (publicId, t) =>
      let t := skipBlanks t
      if t.isEmpty then { name, publicId }
      else
        match identifier? t with
        | none => { name, publicId, flawed := true }
        | some (systemId, _) => { name, publicId, systemId }
  else if startsWithAnyCase "system".toList t then
    match identifier? (skipBlanks (t.drop 6)) with
    | none => { name, flawed := true }
    | some (systemId, _) => { name, systemId }
  else { name, flawed := true }

def doctypeOf (t : Text) : Doctype :=
  let t := skipBlanks t
  if t.isEmpty then { flawed := true }
  else
    identifiers (nameOf (t.takeWhile fun c => !isAsciiBlank c)) (t.dropWhile fun c => !isAsciiBlank c)

def doctype (t : Text) : Lexed :=
  ⟨[.doctype (doctypeOf (t.takeWhile (· ≠ '>')))], .content, (t.dropWhile (· ≠ '>')).drop 1⟩

def textToken (t : Text) : List Token :=
  if t.isEmpty then [] else [.text t]

def textTokens (t : Text) : List Token :=
  [Token.nul].intercalate ((t.splitOn '\x00').map textToken)

def cdata (t : Text) : Lexed :=
  match Text.splitAt? "]]>".toList [] t with
  | none => ⟨textTokens t, .content, []⟩
  | some (content, rest) => ⟨textTokens content, .content, rest⟩

def declaration (foreign : Bool) (t : Text) : Lexed :=
  if "--".toList.isPrefixOf t then comment (t.drop 2)
  else if startsWithAnyCase "doctype".toList t then doctype (t.drop 7)
  -- Elsewhere a CDATA section is a comment.
  else if foreign && "[CDATA[".toList.isPrefixOf t then cdata (t.drop 7)
  else bogusComment t

def closing : Text → Lexed
  | [] => ⟨[.text ['<', '/']], .content, []⟩
  | '>' :: t => ⟨[], .content, t⟩
  | c :: t => if c.isAlpha then tagToken .stop (c :: t) else bogusComment (c :: t)

def markup (foreign : Bool) : Text → Lexed
  | '!' :: t => declaration foreign t
  | '/' :: t => closing t
  | '?' :: t => bogusComment ('?' :: t)
  | c :: t => if c.isAlpha then tagToken .start (c :: t) else ⟨[.text ['<']], .content, c :: t⟩
  | [] => ⟨[.text ['<']], .content, []⟩

def closes (name : Text) : Text → Bool
  | '<' :: '/' :: t =>
    startsWithAnyCase name t && (t.drop name.length).head?.any fun c => !inTagName c
  | _ => false

def untilClosed (name : Text) : (read : Text) → Text → Text × Text
  | read, [] => (read.reverse, [])
  | read, c :: t => if closes name (c :: t) then (read.reverse, c :: t) else untilClosed name (c :: read) t

inductive Hidden where
  | no
  | comment (dashes : Nat)
  | nested (dashes : Nat)

namespace Hidden

def pass (c : Char) : Hidden → Hidden
  | no => no
  | comment dashes =>
    if c = '-' then comment (dashes + 1) else if c = '>' ∧ 2 ≤ dashes then no else comment 0
  | nested dashes =>
    if c = '-' then nested (dashes + 1) else if c = '>' ∧ 2 ≤ dashes then no else nested 0

def scriptTag (lead : Text) (t : Text) : Bool :=
  lead.isPrefixOf t && startsWithAnyCase "script".toList (t.drop lead.length) &&
    ((t.drop lead.length).drop 6).head?.any fun c => !inTagName c

end Hidden

/-- Splits before the tag that closes a script. Inside `<!--` … `-->` a nested `<script>` keeps the
closing tag after it from ending the script. -/
def untilScriptClosed : Hidden → (read : Text) → Text → Text × Text
  | _, read, [] => (read.reverse, [])
  | .no, read, c :: t =>
    if closes "script".toList (c :: t) then (read.reverse, c :: t)
    else if "<!--".toList.isPrefixOf (c :: t) then
      untilScriptClosed (.comment 2) ('-' :: '-' :: '!' :: '<' :: read) (t.drop 3)
    else untilScriptClosed .no (c :: read) t
  | .comment dashes, read, c :: t =>
    if closes "script".toList (c :: t) then (read.reverse, c :: t)
    else if Hidden.scriptTag ['<'] (c :: t) then untilScriptClosed (.nested 0) (c :: read) t
    else untilScriptClosed (Hidden.pass c (.comment dashes)) (c :: read) t
  | .nested dashes, read, c :: t =>
    -- The closing tag is that of the nested script.
    if Hidden.scriptTag ['<', '/'] (c :: t) then untilScriptClosed (.comment 0) (c :: read) t
    else untilScriptClosed (Hidden.pass c (.nested dashes)) (c :: read) t
termination_by _ _ t => t.length

def rawTokens (content : Text) : Text → Lexed
  | _ :: _ :: t =>
    let l := tagToken .stop t
    { l with tokens := textToken content ++ l.tokens }
  | _ => ⟨textToken content, .content, []⟩

def inContent (c : Char) : Bool :=
  c != '<' && c != '\x00'

def next (foreign : Bool) (reading : Reading) (c : Char) (t : Text) : Lexed :=
  match reading with
  | .content =>
    if c = '<' then markup foreign t
    else if c = '\x00' then ⟨[.nul], .content, t⟩
    else
      ⟨[.text (Reference.decode false (c :: t.takeWhile inContent))], .content, t.dropWhile inContent⟩
  | .rawText name =>
    let split := untilClosed name.toList [] (c :: t)
    rawTokens (withoutNul split.1) split.2
  | .replaceable name =>
    let split := untilClosed name.toList [] (c :: t)
    rawTokens (Reference.decode false (withoutNul split.1)) split.2
  | .script =>
    let split := untilScriptClosed .no [] (c :: t)
    rawTokens (withoutNul split.1) split.2
  | .rest => ⟨[.text (withoutNul (c :: t))], .rest, []⟩

theorem tagToken_suffix (wrap : Tag → Token) (t : Text) :
    List.IsSuffix (tagToken wrap t).rest t := by
  unfold tagToken
  split
  · exact List.nil_suffix
  · rename_i h
    exact tag_suffix h

theorem bogusComment_suffix (t : Text) : List.IsSuffix (bogusComment t).rest t :=
  (List.drop_suffix _ _).trans (List.dropWhile_suffix _)

theorem afterComment_suffix (t : Text) : List.IsSuffix (afterComment t) t := by
  fun_induction afterComment t with
  | case1 => exact List.suffix_refl _
  | case2 t => exact ⟨['-', '-', '>'], rfl⟩
  | case3 t => exact ⟨['-', '-', '!', '>'], rfl⟩
  | case4 c t _ _ ih => exact ih.trans (List.suffix_cons _ _)

theorem comment_suffix (t : Text) : List.IsSuffix (comment t).rest t := by
  unfold comment
  split
  · exact List.suffix_cons _ _
  · exact ⟨['-', '>'], rfl⟩
  · exact afterComment_suffix t

theorem cdata_suffix (t : Text) : List.IsSuffix (cdata t).rest t := by
  unfold cdata
  split
  · exact List.nil_suffix
  · rename_i content rest h
    exact ⟨content ++ "]]>".toList, by simpa using Text.splitAt?_append h⟩

theorem declaration_suffix (foreign : Bool) (t : Text) :
    List.IsSuffix (declaration foreign t).rest t := by
  unfold declaration
  split
  · exact (comment_suffix _).trans (List.drop_suffix _ _)
  split
  · exact ((List.drop_suffix _ _).trans (List.dropWhile_suffix _)).trans (List.drop_suffix _ _)
  split
  · exact (cdata_suffix _).trans (List.drop_suffix _ _)
  · exact bogusComment_suffix t

theorem closing_suffix (t : Text) : List.IsSuffix (closing t).rest t := by
  unfold closing
  split
  · exact List.suffix_refl _
  · exact List.suffix_cons _ _
  · split
    · exact tagToken_suffix _ _
    · exact bogusComment_suffix _

theorem markup_suffix (foreign : Bool) (t : Text) : List.IsSuffix (markup foreign t).rest t := by
  unfold markup
  split
  · exact (declaration_suffix foreign _).trans (List.suffix_cons _ _)
  · exact (closing_suffix _).trans (List.suffix_cons _ _)
  · exact bogusComment_suffix _
  · split
    · exact tagToken_suffix _ _
    · exact List.suffix_refl _
  · exact List.suffix_refl _

theorem rawTokens_rest_lt {content rest : Text} {n : Nat} (hn : 0 < n) (h : rest.length ≤ n) :
    (rawTokens content rest).rest.length < n := by
  unfold rawTokens
  split
  · rename_i t
    have := (tagToken_suffix .stop t).length_le
    simp only [List.length_cons] at h
    simp only
    omega
  · exact hn

theorem untilClosed_length_le (name read t : Text) :
    (untilClosed name read t).2.length ≤ t.length := by
  fun_induction untilClosed name read t with
  | case1 => simp
  | case2 => simp
  | case3 read c t _ ih => exact Nat.le_succ_of_le ih

theorem untilScriptClosed_length_le (h : Hidden) (read t : Text) :
    (untilScriptClosed h read t).2.length ≤ t.length := by
  fun_induction untilScriptClosed h read t <;> simp_all <;> omega

theorem next_rest_lt (foreign : Bool) (reading : Reading) (c : Char) (t : Text) :
    (next foreign reading c t).rest.length < (c :: t).length := by
  have hn : 0 < (c :: t).length := Nat.zero_lt_succ _
  unfold next
  split
  · split
    · exact Nat.lt_succ_of_le (markup_suffix foreign t).length_le
    · split
      · exact Nat.lt_succ_self _
      · exact Nat.lt_succ_of_le (List.dropWhile_suffix inContent).length_le
  · rename_i name
    exact rawTokens_rest_lt hn (untilClosed_length_le name.toList [] (c :: t))
  · rename_i name
    exact rawTokens_rest_lt hn (untilClosed_length_le name.toList [] (c :: t))
  · exact rawTokens_rest_lt hn (untilScriptClosed_length_le .no [] (c :: t))
  · exact hn

end Lexer
end RefPages.Markup
