import BotCanvas.Offside.Condition
import BotCanvas.Proofs.Program.Names
import BotCanvas.Proofs.Text.Ends
import BotCanvas.Proofs.Text.Replacing

/-!
# Conditions token by token

A condition that is spelled with one space between its tokens is respelled token by token: the
operators and the three constants get the spelling of the language with suites, and everything else,
literals above all, is copied (`conditionCode_join`).

**Parts.** A complete literal ends the part of code in front of it (`respell_literal`).

**Code.** All replacements stop at a space (`replaceOperators_append_space`), so each token is
replaced on its own. The two operators that join conditions bring spaces along; narrowing takes them
away again as long as something stands on either side (`narrow_spread`).
-/

namespace BotCanvas.Offside

open Text

/-! ## Tokens -/

/-- A word: ASCII letters, digits and low lines. -/
structure ConditionWord where
  text : Text
  ne_nil : text ≠ []
  plain : ∀ c ∈ text, isPlain c = true

/-- Tests for what can stand in a literal. A backslash takes the next character along, which may not
be a line feed; everything else but the closing mark stands for itself. -/
def isInside (quote : Char) : Text → Bool
  | [] => true
  | '\\' :: c :: r => c != '\n' && isInside quote r
  | c :: r => c != quote && c != '\\' && isInside quote r

/-- A complete literal between single or double quotes. -/
structure ConditionLiteral where
  quote : Char
  inside : Text
  isQuote : quote = '\x22' ∨ quote = '\x27'
  complete : isInside quote inside = true

/-- A literal with its quotes. -/
def ConditionLiteral.text (l : ConditionLiteral) : Text :=
  l.quote :: (l.inside ++ [l.quote])

/-- The signs that conditions are made with. -/
inductive ConditionSign
  | same
  | different
  | both
  | either
  | opening
  | closing
  deriving DecidableEq

namespace ConditionSign

/-- A sign as users spell it. -/
def text : ConditionSign → Text
  | same => "==="
  | different => "!=="
  | both => "&&"
  | either => "||"
  | opening => "("
  | closing => ")"

/-- A sign in the language with suites. -/
def respelled : ConditionSign → Text
  | same => "=="
  | different => "!="
  | both => "and"
  | either => "or"
  | opening => "("
  | closing => ")"

/-- Tests for a sign that joins two conditions. -/
def isJoint : ConditionSign → Bool
  | both => true
  | either => true
  | _ => false

end ConditionSign

/-- A token of a condition. -/
inductive ConditionToken
  | word (w : ConditionWord)
  | sign (s : ConditionSign)
  | literal (l : ConditionLiteral)

namespace ConditionToken

/-- A token as users spell it. -/
def text : ConditionToken → Text
  | word w => w.text
  | sign s => s.text
  | literal l => l.text

/-- A word in the language with suites: the constants have names of their own. -/
def respelledWord (w : Text) : Text :=
  if w = "true".toList then "True"
  else if w = "false".toList then "False"
  else if w = "null".toList then "None"
  else w

/-- A token in the language with suites. -/
def respelled : ConditionToken → Text
  | word w => respelledWord w.text
  | sign s => s.respelled
  | literal l => l.text

/-- Tests for a token that joins two conditions. -/
def isJoint : ConditionToken → Bool
  | sign s => s.isJoint
  | _ => false

/-- Tests for a literal. -/
def isLiteral : ConditionToken → Bool
  | literal _ => true
  | _ => false

end ConditionToken

open ConditionToken

variable {t : ConditionToken}

/-- A word has no other characters than those of words. -/
theorem ConditionWord.not_mem
    (w : ConditionWord)
    {c : Char}
    (hc : isPlain c = false) :
    c ∉ w.text := by
  intro h
  rw [w.plain c h] at hc
  cases hc

namespace ConditionToken

/-- Tests for the marks of literals. -/
def isQuote (c : Char) : Bool :=
  c == '\x22' || c == '\x27'

/-- What is tested for is a literal. -/
theorem exists_of_isLiteral
    (ht : t.isLiteral = true) :
    ∃ l, t = .literal l := by
  cases t with
  | literal l => exact ⟨l, rfl⟩
  | word w => cases ht
  | sign s => cases ht

/-- Only literals have quotes. -/
theorem not_isQuote_of_mem
    (ht : t.isLiteral = false)
    {c : Char}
    (hc : c ∈ t.text) :
    isQuote c = false := by
  cases t with
  | word w =>
      cases hquote : isQuote c with
      | false => rfl
      | true =>
          have hcases : c = '\x22' ∨ c = '\x27' := by simpa [isQuote] using hquote
          rcases hcases with rfl | rfl <;> exact absurd hc (w.not_mem (by decide))
  | sign s =>
      have hsigns : ∀ c ∈ s.text, isQuote c = false :=
        forall_eq_false_of_any (by cases s <;> decide)
      exact hsigns c hc
  | literal l => cases ht

/-- A token begins and ends with characters that are not blank. -/
theorem ends_text
    (t : ConditionToken) :
    (∃ c r, t.text = c :: r ∧ isBlank c = false) ∧ ∃ r c, t.text = r ++ [c] ∧ isBlank c = false := by
  have hsolid : ∀ s : Text, s ≠ [] → (∀ c ∈ s, isBlank c = false) →
      (∃ c r, s = c :: r ∧ isBlank c = false) ∧ ∃ r c, s = r ++ [c] ∧ isBlank c = false := by
    intro s hne hs
    refine ⟨?_, s.dropLast, s.getLast hne, (List.dropLast_append_getLast hne).symm,
      hs _ (List.getLast_mem hne)⟩
    cases s with
    | nil => exact absurd rfl hne
    | cons c r => exact ⟨c, r, rfl, hs c List.mem_cons_self⟩
  cases t with
  | word w =>
      exact hsolid w.text w.ne_nil fun c hc =>
        not_isBlank_of_class (.inl (isWord_of_isPlain (w.plain c hc)))
  | sign s =>
      exact hsolid s.text (by cases s <;> decide) (forall_eq_false_of_any (by cases s <;> decide))
  | literal l =>
      have hquote : isBlank l.quote = false := by
        rcases l.isQuote with h | h <;> rw [h] <;> decide
      exact ⟨⟨l.quote, _, rfl, hquote⟩, l.quote :: l.inside, l.quote, rfl, hquote⟩

end ConditionToken

/-! ## Parts -/

/-- A condition that is respelled part by part. -/
def respell (s : Text) : Text :=
  (conditionParts s).flatMap respellPart

/-- A text without quotes is one part of code. -/
theorem respell_code
    {code : Text}
    (hcode : ∀ c ∈ code, isQuote c = false) :
    respell code = respellCode code := by
  have hparts : partsAfter 0 code = [.code code] := by
    induction code with
    | nil => rfl
    | cons c r ih =>
        rw [List.forall_mem_cons] at hcode
        have hc : ¬(c = '\x22' ∨ c = '\x27') := by simpa [isQuote] using hcode.1
        rw [partsAfter, if_neg hc, ih hcode.2]
  rw [respell, conditionParts, hparts]
  simp [respellPart]

/-- The rest of a complete literal is all that is in it. -/
theorem literalRest?_inside
    {quote : Char}
    (hquote : quote ≠ '\\')
    {inside : Text}
    (h : isInside quote inside = true)
    (r : Text) :
    literalRest? quote (inside ++ quote :: r) = some (inside ++ [quote], r) := by
  fun_induction isInside quote inside with
  | case1 =>
      rw [List.nil_append, literalRest?]
      · rw [if_pos rfl]
        rfl
      · exact fun c r' hc _ => hquote hc
  | case2 c inside ih =>
      simp only [Bool.and_eq_true, bne_iff_ne] at h
      rw [List.cons_append, List.cons_append, literalRest?, if_neg h.1, ih h.2]
      rfl
  | case3 c inside _ ih =>
      simp only [Bool.and_eq_true, bne_iff_ne] at h
      rw [List.cons_append, literalRest?]
      · rw [if_neg h.1.1, if_neg h.1.2, ih h.2]
        rfl
      · exact fun c r' hc' _ => h.1.2 hc'

/-- Passing over characters is dropping them. -/
theorem partsAfter_append
    (a r : Text) :
    partsAfter a.length (a ++ r) = partsAfter 0 r := by
  induction a with
  | nil => rfl
  | cons c a ih => exact ih

/-- A complete literal ends the code in front of it and is copied. -/
theorem respell_literal
    (code : Text)
    (hcode : ∀ c ∈ code, isQuote c = false)
    (l : ConditionLiteral)
    (r : Text) :
    respell (code ++ (l.text ++ r)) = respellCode code ++ (l.text ++ respell r) := by
  have hparts : partsAfter 0 (code ++ (l.text ++ r)) =
      .code code :: .literal l.text :: partsAfter 0 r := by
    induction code with
    | nil =>
        have hslash : l.quote ≠ '\\' := by
          rcases l.isQuote with h | h <;> rw [h] <;> decide
        have htext : l.text ++ r = l.quote :: (l.inside ++ l.quote :: r) := by
          simp [ConditionLiteral.text]
        have hafter : partsAfter (l.inside ++ [l.quote]).length (l.inside ++ l.quote :: r) =
            partsAfter 0 r := by
          have happend := partsAfter_append (l.inside ++ [l.quote]) r
          rwa [List.append_assoc] at happend
        rw [List.nil_append, htext, partsAfter, if_pos l.isQuote,
          literalRest?_inside hslash l.complete]
        simp only [hafter, ConditionLiteral.text]
    | cons c code ih =>
        rw [List.forall_mem_cons] at hcode
        have hc : ¬(c = '\x22' ∨ c = '\x27') := by simpa [isQuote] using hcode.1
        rw [List.cons_append, partsAfter, if_neg hc, ih hcode.2]
  rw [respell, conditionParts, hparts]
  simp [respellPart, respell, conditionParts]

/-! ## Code -/

/-- Replaces the operators and words of code. -/
def replaceOperators (s : Text) : Text :=
  replaceWord "null" "None" (replaceWord "false" "False" (replaceWord "true" "True"
    (replaceAll "||" " or " (replaceAll "&&" " and " (replaceAll "!==" "!="
      (replaceAll "===" "==" s))))))

theorem respellCode_eq
    (s : Text) :
    respellCode s = narrow (replaceOperators s) :=
  rfl

/-- No operator and no word reaches across a space. -/
theorem replaceOperators_append_space
    (a b : Text) :
    replaceOperators (a ++ ' ' :: b) = replaceOperators a ++ ' ' :: replaceOperators b := by
  unfold replaceOperators
  rw [replaceAll_append_cons (by decide) (by decide), replaceAll_append_cons (by decide) (by decide),
    replaceAll_append_cons (by decide) (by decide), replaceAll_append_cons (by decide) (by decide),
    replaceWord_append_cons (by decide) (List.all_eq_true.1 (by decide)) (by decide),
    replaceWord_append_cons (by decide) (List.all_eq_true.1 (by decide)) (by decide),
    replaceWord_append_cons (by decide) (List.all_eq_true.1 (by decide)) (by decide)]

namespace ConditionToken

/-- A token whose operators and words are replaced: joints bring spaces along. -/
def replaced (t : ConditionToken) : Text :=
  if t.isJoint then ' ' :: (t.respelled ++ [' ']) else t.respelled

/-- Outside of literals a token is replaced on its own. -/
theorem replaceOperators_text
    (ht : t.isLiteral = false) :
    replaceOperators t.text = t.replaced := by
  cases t with
  | literal l => cases ht
  | sign s => cases s <;> decide
  | word w =>
      have hword : ∀ c ∈ w.text, isWord c = true := fun c hc => isWord_of_isPlain (w.plain c hc)
      have hoperators : replaceAll "||" " or " (replaceAll "&&" " and " (replaceAll "!==" "!="
          (replaceAll "===" "==" w.text))) = w.text := by
        rw [replaceAll_of_not_mem (c := '=') (by decide) (w.not_mem (by decide)),
          replaceAll_of_not_mem (c := '=') (by decide) (w.not_mem (by decide)),
          replaceAll_of_not_mem (c := '&') (by decide) (w.not_mem (by decide)),
          replaceAll_of_not_mem (c := '|') (by decide) (w.not_mem (by decide))]
      show replaceOperators w.text = respelledWord w.text
      rw [replaceOperators, hoperators, respelledWord]
      by_cases htrue : w.text = "true".toList
      · rw [htrue]
        decide
      · rw [if_neg htrue, replaceWord_of_isWord (by decide) hword, if_neg htrue]
        by_cases hfalse : w.text = "false".toList
        · rw [hfalse]
          decide
        · rw [if_neg hfalse, replaceWord_of_isWord (by decide) hword, if_neg hfalse,
            replaceWord_of_isWord (by decide) hword]

/-- A respelled token outside of literals has no blanks. -/
theorem not_isBlank_of_mem_respelled
    (ht : t.isLiteral = false) :
    ∀ c ∈ t.respelled, isBlank c = false := by
  cases t with
  | literal l => cases ht
  | sign s => exact forall_eq_false_of_any (by cases s <;> decide)
  | word w =>
      show ∀ c ∈ respelledWord w.text, isBlank c = false
      unfold respelledWord
      split
      · exact forall_eq_false_of_any (by decide)
      · split
        · exact forall_eq_false_of_any (by decide)
        · split
          · exact forall_eq_false_of_any (by decide)
          · exact fun c hc => not_isBlank_of_class (.inl (isWord_of_isPlain (w.plain c hc)))

/-- And it is not empty. -/
theorem respelled_ne_nil
    (t : ConditionToken) :
    t.respelled ≠ [] := by
  cases t with
  | literal l => exact List.cons_ne_nil _ _
  | sign s => cases s <;> decide
  | word w =>
      show respelledWord w.text ≠ []
      unfold respelledWord
      split
      · decide
      · split
        · decide
        · split
          · decide
          · exact w.ne_nil

end ConditionToken

/-- Tokens with a space in front of each. -/
def spread (spell : ConditionToken → Text) (tokens : List ConditionToken) : Text :=
  tokens.flatMap fun t => ' ' :: spell t

theorem spread_cons
    (spell : ConditionToken → Text)
    (t : ConditionToken)
    (tokens : List ConditionToken) :
    spread spell (t :: tokens) = ' ' :: (spell t ++ spread spell tokens) :=
  rfl

/-- Code is replaced token by token. -/
theorem replaceOperators_spread
    {tokens : List ConditionToken}
    (htokens : ∀ t ∈ tokens, t.isLiteral = false)
    (lead : Text)
    {tail : Text}
    (htail : tail = [] ∨ tail = [' ']) :
    replaceOperators (lead ++ (spread text tokens ++ tail)) =
      replaceOperators lead ++ (spread replaced tokens ++ tail) := by
  induction tokens generalizing lead with
  | nil =>
      rcases htail with rfl | rfl
      · simp [spread]
      · exact replaceOperators_append_space lead []
  | cons t tokens ih =>
      rw [List.forall_mem_cons] at htokens
      rw [spread_cons, spread_cons, List.cons_append, List.cons_append, List.append_assoc,
        List.append_assoc, replaceOperators_append_space, ih htokens.2,
        replaceOperators_text htokens.1]

/-- Narrowing takes away the spaces that joints brought along. -/
theorem narrow_spread
    {tokens : List ConditionToken}
    (htokens : ∀ t ∈ tokens, t.isLiteral = false)
    {tail : Text}
    (htail : tail = [' '] ∨ tail = [] ∧ ∀ t ∈ tokens.getLast?, t.isJoint = false) :
    narrow (spread replaced tokens ++ tail) = spread respelled tokens ++ tail := by
  induction tokens with
  | nil => rcases htail with rfl | ⟨rfl, -⟩ <;> rfl
  | cons t tokens ih =>
      rw [List.forall_mem_cons] at htokens
      have hrest := ih htokens.2 (htail.imp_right (And.imp_right fun h u hu => h u (by
        rw [List.getLast?_cons, Option.mem_def.1 hu]
        rfl)))
      obtain ⟨c, w, hw⟩ := List.exists_cons_of_ne_nil t.respelled_ne_nil
      have hblank := not_isBlank_of_mem_respelled htokens.1
      have hc : isBlank c = false := hblank c (by rw [hw]; simp)
      have hstep : ∀ r, narrow (' ' :: (t.respelled ++ r)) = ' ' :: (t.respelled ++ narrow r) := by
        intro r
        rw [narrow_space (by rw [hw]; simp [hc]), narrow_append hblank]
      rw [spread_cons, spread_cons, List.cons_append, List.cons_append, List.append_assoc,
        List.append_assoc, ← hrest]
      cases hjoint : t.isJoint with
      | false => rw [replaced, if_neg (by simp [hjoint]), hstep]
      | true =>
          -- something follows, so the space behind the joint meets another one
          obtain ⟨r, hr⟩ : ∃ r, spread replaced tokens ++ tail = ' ' :: r := by
            cases tokens with
            | cons u tokens => exact ⟨_, rfl⟩
            | nil =>
                rcases htail with rfl | ⟨-, hlast⟩
                · exact ⟨[], rfl⟩
                · rw [hlast t rfl] at hjoint
                  cases hjoint
          rw [replaced, if_pos hjoint, hr, List.cons_append, narrow_two_spaces, List.append_assoc,
            hstep, List.singleton_append, narrow_two_spaces]

/-- What code may begin with: a text without quotes, the operators of which are replaced. -/
structure Begins (lead respelled : Text) : Prop where
  quotes : ∀ c ∈ lead, isQuote c = false
  replaced : replaceOperators lead = respelled
  solid : ∀ c ∈ respelled, isBlank c = false

/-- Nothing begins the code behind a literal. -/
theorem Begins.nil :
    Begins [] [] :=
  ⟨by simp, rfl, by simp⟩

/-- A condition may begin with any token but a joint. -/
theorem Begins.token
    (ht : t.isLiteral = false)
    (hjoint : t.isJoint = false) :
    Begins t.text t.respelled where
  quotes c hc := not_isQuote_of_mem ht hc
  replaced := by rw [replaceOperators_text ht, ConditionToken.replaced, if_neg (by simp [hjoint])]
  solid := not_isBlank_of_mem_respelled ht

/-- Code with spaces between its tokens is respelled token by token. -/
theorem respellCode_spread
    {lead lead' : Text}
    (hlead : Begins lead lead')
    {tokens : List ConditionToken}
    (htokens : ∀ t ∈ tokens, t.isLiteral = false)
    {tail : Text}
    (htail : tail = [' '] ∨ tail = [] ∧ ∀ t ∈ tokens.getLast?, t.isJoint = false) :
    respellCode (lead ++ (spread text tokens ++ tail)) =
      lead' ++ (spread respelled tokens ++ tail) := by
  rw [respellCode_eq, replaceOperators_spread htokens lead (htail.symm.imp_left And.left),
    hlead.replaced, narrow_append hlead.solid, narrow_spread htokens htail]

/-- Code without literals has no quotes. -/
theorem not_isQuote_of_mem_spread
    {lead lead' : Text}
    (hlead : Begins lead lead')
    {tokens : List ConditionToken}
    (htokens : ∀ t ∈ tokens, t.isLiteral = false)
    {tail : Text}
    (htail : tail = [' '] ∨ tail = []) :
    ∀ c ∈ lead ++ (spread text tokens ++ tail), isQuote c = false := by
  have hspace : isQuote ' ' = false := by decide
  refine List.forall_mem_append.2 ⟨hlead.quotes, List.forall_mem_append.2 ⟨fun c hc => ?_, ?_⟩⟩
  · obtain ⟨t, ht, hc⟩ := List.mem_flatMap.1 hc
    rcases List.mem_cons.1 hc with rfl | hc
    · exact hspace
    · exact not_isQuote_of_mem (htokens t ht) hc
  · rcases htail with rfl | rfl
    · simpa using hspace
    · simp

/-- Code and the tokens behind it are respelled token by token, up to the end of the condition. -/
theorem respell_spread
    {lead lead' : Text}
    (hlead : Begins lead lead')
    (code : List ConditionToken)
    (hcode : ∀ t ∈ code, t.isLiteral = false)
    {tokens : List ConditionToken}
    (hlast : ∀ t ∈ (code ++ tokens).getLast?, t.isJoint = false) :
    respell (lead ++ spread text (code ++ tokens)) = lead' ++ spread respelled (code ++ tokens) := by
  -- the code grows up to the next literal, behind which it starts anew
  induction tokens generalizing lead lead' code with
  | nil =>
      rw [List.append_nil] at hlast ⊢
      have hquotes := not_isQuote_of_mem_spread hlead hcode (.inr rfl)
      have hcodes := respellCode_spread hlead hcode (.inr ⟨rfl, hlast⟩)
      rw [List.append_nil] at hquotes hcodes
      rw [respell_code hquotes, hcodes, List.append_nil]
  | cons t tokens ih =>
      cases ht : t.isLiteral with
      | false =>
          have hgrown : ∀ u ∈ code ++ [t], u.isLiteral = false := by
            simpa [or_imp, forall_and] using ⟨hcode, ht⟩
          have hstep := ih hlead _ hgrown
          simp only [List.append_assoc, List.singleton_append] at hstep
          exact hstep hlast
      | true =>
          obtain ⟨l, rfl⟩ := exists_of_isLiteral ht
          have hrest := ih .nil [] (by simp) fun u hu => hlast u (by
            rw [List.nil_append] at hu
            rw [List.getLast?_append, List.getLast?_cons, Option.mem_def.1 hu]
            rfl)
          have hspread : ∀ (spell : ConditionToken → Text) (front : Text),
              spell (.literal l) = l.text →
              front ++ spread spell (code ++ .literal l :: tokens) =
                (front ++ (spread spell code ++ [' '])) ++ (l.text ++ spread spell tokens) := by
            intro spell front hspell
            simp [spread, hspell]
          rw [hspread text lead rfl, hspread respelled lead' rfl,
            respell_literal _ (not_isQuote_of_mem_spread hlead hcode (.inl rfl)),
            respellCode_spread hlead hcode (.inl rfl)]
          exact congrArg _ (congrArg _ hrest)

/-! ## Conditions -/

/-- Texts with single spaces between them begin with the first, and a space is in front of each of
the others. -/
theorem join_map_cons
    (spell : ConditionToken → Text)
    (t : ConditionToken)
    (tokens : List ConditionToken) :
    join [' '] ((t :: tokens).map spell) = spell t ++ spread spell tokens := by
  induction tokens generalizing t with
  | nil => simp [join, spread]
  | cons u tokens ih =>
      rw [List.map_cons, List.map_cons, join_cons_cons, ← List.map_cons, ih]
      rfl

/-- Tokens with single spaces between them have no blanks at their ends. -/
theorem strip_join
    {tokens : List ConditionToken}
    (hne : tokens ≠ []) :
    strip (join [' '] (tokens.map text)) = join [' '] (tokens.map text) ∧
      join [' '] (tokens.map text) ≠ [] := by
  obtain ⟨t, tokens, rfl⟩ := List.exists_cons_of_ne_nil hne
  obtain ⟨c, r, hstart, hc⟩ := t.ends_text.1
  obtain ⟨front, d, hend, hd⟩ : ∃ front d,
      t.text ++ spread text tokens = front ++ [d] ∧ isBlank d = false := by
    rcases List.eq_nil_or_concat tokens with rfl | ⟨tokens, u, rfl⟩
    · obtain ⟨front, d, hend, hd⟩ := t.ends_text.2
      exact ⟨front, d, by simp [spread, hend], hd⟩
    · obtain ⟨front, d, hend, hd⟩ := u.ends_text.2
      exact ⟨t.text ++ (spread text tokens ++ ' ' :: front), d, by simp [spread, hend], hd⟩
  rw [join_map_cons]
  refine ⟨strip_of_ends (fun e he => ?_) fun e he => ?_, by rw [hstart]; simp⟩
  · obtain rfl : c = e := by simpa [hstart] using he
    exact hc
  · obtain rfl : d = e := by simpa [hend] using he
    exact hd

/--
A condition that is spelled with single spaces between its tokens, and that neither begins nor ends
with a joint, is respelled token by token: operators and constants as the language with suites spells
them, and every other word and every literal as it is.
-/
theorem conditionCode_join
    {tokens : List ConditionToken}
    (hne : tokens ≠ [])
    (hfirst : ∀ t ∈ tokens.head?, t.isJoint = false)
    (hlast : ∀ t ∈ tokens.getLast?, t.isJoint = false) :
    conditionCode (.str (String.ofList (join [' '] (tokens.map text)))) =
      join [' '] (tokens.map respelled) := by
  obtain ⟨hstrip, hempty⟩ := strip_join hne
  have hspelled : (Value.str (String.ofList (join [' '] (tokens.map text)))).displayPresent =
      join [' '] (tokens.map text) := by
    simp [Value.displayPresent, Value.isPresent, Value.display, hempty]
  have hcode : conditionCode (.str (String.ofList (join [' '] (tokens.map text)))) =
      respell (join [' '] (tokens.map text)) := by
    unfold conditionCode
    rw [hspelled, hstrip]
    simp only [List.isEmpty_iff, hempty, if_false]
    rfl
  obtain ⟨t, tokens, rfl⟩ := List.exists_cons_of_ne_nil hne
  rw [hcode, join_map_cons, join_map_cons]
  have hrest : ∀ u ∈ tokens.getLast?, u.isJoint = false := fun u hu => hlast u (by
    rw [List.getLast?_cons, Option.mem_def.1 hu]
    rfl)
  cases ht : t.isLiteral with
  | false =>
      exact respell_spread (.token ht (hfirst t rfl)) [] (by simp) hrest
  | true =>
      obtain ⟨l, rfl⟩ := exists_of_isLiteral ht
      have hliteral := respell_literal [] (by simp) l (spread text tokens)
      have hbehind := respell_spread .nil [] (by simp) hrest
      simp only [List.nil_append] at hliteral hbehind
      rw [hbehind] at hliteral
      exact hliteral

/-- A condition with operators and constants in literals, an escaped mark and the other one in a
literal, words that begin or end like constants, and joints next to literals. -/
def quotedCondition : List ConditionToken :=
  [.sign .opening, .literal ⟨'\x22', "a &&  \\\" true'", .inl rfl, by decide⟩, .sign .both,
    .literal ⟨'\x27', "\"null", .inr rfl, by decide⟩, .sign .different,
    .word ⟨"true_", by decide, List.all_eq_true.1 (by decide)⟩, .sign .closing, .sign .either,
    .sign .both, .word ⟨"null", by decide, List.all_eq_true.1 (by decide)⟩, .sign .same,
    .word ⟨"nullable", by decide, List.all_eq_true.1 (by decide)⟩]

/-- Its literals and words are copied, and its operators are respelled. -/
theorem conditionCode_quotedCondition :
    quotedCondition ≠ [] ∧ (∀ t ∈ quotedCondition.head?, t.isJoint = false) ∧
    (∀ t ∈ quotedCondition.getLast?, t.isJoint = false) ∧
    conditionCode (.str (String.ofList (join [' '] (quotedCondition.map text)))) =
      "( \"a &&  \\\" true'\" and '\"null' != true_ ) or and None == nullable".toList := by
  have hne : quotedCondition ≠ [] := by simp [quotedCondition]
  have hfirst : ∀ t ∈ quotedCondition.head?, t.isJoint = false := by
    simp [quotedCondition, isJoint, ConditionSign.isJoint]
  have hlast : ∀ t ∈ quotedCondition.getLast?, t.isJoint = false := by
    simp [quotedCondition, isJoint]
  exact ⟨hne, hfirst, hlast, (conditionCode_join hne hfirst hlast).trans (by decide)⟩

end BotCanvas.Offside
