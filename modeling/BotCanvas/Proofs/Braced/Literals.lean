import BotCanvas.Braced.Actions
import BotCanvas.Proofs.Program.Literals
import BotCanvas.Proofs.Program.Places

/-!
# Literals in the language with braces

How the language reads a template and a text between single quotes, and where the statements of a
flow stand in a handler.
-/

namespace BotCanvas.Braced

/-- What a character behind a backslash stands for. Escapes by number and continued lines are left
out. -/
def unescape (c : Char) : Option Char :=
  match c with
  | 'b' => some '\x08'
  | 't' => some '\t'
  | 'n' => some '\n'
  | 'v' => some '\x0b'
  | 'f' => some '\x0c'
  | 'r' => some '\r'
  | _ =>
      if Text.isAsciiDigit c || c == 'x' || c == 'u' || Text.isLineBreak c then none else some c

/-- A template: text between backticks that holds no placeholder. -/
def template : LiteralForm where
  quote := '\x60'
  unescape := unescape
  stands c next := c != '\\' && c != '\r' && !(c == '$' && next == some '\x7b')

/-- A text between single quotes, in one row. -/
def singleQuoted : LiteralForm where
  quote := '\x27'
  unescape := unescape
  stands c _ := c != '\\' && c != '\n' && c != '\r'

/-- The first character of an escaped text, if it opens a placeholder, did so before. -/
theorem head?_escape_ne
    {r : Text}
    (h : r.head? ≠ some '\x7b')
    (post : Text) :
    (escape r ++ template.quote :: post).head? ≠ some '\x7b' := by
  cases r with
  | nil => simp [escape, template]
  | cons c r =>
      have hc : c ≠ '\x7b' := by simpa using h
      unfold escape
      split
      · simp
      · split
        · simp
        · split
          · simp
          · split
            · simp
            · simpa using hc

/-- What stands behind the backslashes of an escaped text, and the characters that it stands for. -/
def escapes : List (Char × Char) :=
  [('\\', '\\'), ('\x27', '\x27'), ('\x22', '\x22'), ('\x60', '\x60'), ('$', '$'), ('r', '\r'),
    ('n', '\n')]

/-- A character gets a backslash, or it is none that needs one. -/
theorem escape_cons_cases
    (c : Char)
    (r : Text) :
    (∃ x, escape (c :: r) = '\\' :: x :: escape r ∧ (x, c) ∈ escapes) ∨
    (escape (c :: r) = c :: escape r ∧ c ≠ '\n' ∧ c ≠ '\r' ∧
      (c ≠ '\\' ∧ c ≠ '\x27' ∧ c ≠ '\x22' ∧ c ≠ '\x60') ∧
      ¬(c = '$' ∧ r.head? = some '\x7b')) := by
  by_cases hmark : c = '\\' ∨ c = '\x27' ∨ c = '\x22' ∨ c = '\x60'
  · refine .inl ⟨c, by rw [escape, if_pos hmark], ?_⟩
    rcases hmark with rfl | rfl | rfl | rfl <;> decide
  · by_cases hdollar : c = '$' ∧ r.head? = some '\x7b'
    · refine .inl ⟨c, by rw [escape, if_neg hmark, if_pos hdollar], ?_⟩
      rw [hdollar.1]
      decide
    · by_cases hcr : c = '\r'
      · refine .inl ⟨'r', by rw [escape, if_neg hmark, if_neg hdollar, if_pos hcr], ?_⟩
        rw [hcr]
        decide
      · by_cases hlf : c = '\n'
        · refine .inl ⟨'n', by
            rw [escape, if_neg hmark, if_neg hdollar, if_neg hcr, if_pos hlf], ?_⟩
          rw [hlf]
          decide
        · refine .inr ⟨by rw [escape, if_neg hmark, if_neg hdollar, if_neg hcr, if_neg hlf], hlf,
            hcr, by simpa only [not_or] using hmark, hdollar⟩

/-- A backslash that a character gets can be read back. -/
theorem escape_cons
    (c : Char)
    (r : Text) :
    (∃ x, escape (c :: r) = '\\' :: x :: escape r ∧ unescape x = some c ∧
      Text.isLineBreak x = false ∧ (c = '\n' ∨ c = '\r' ∨ Text.isBlank c = false)) ∨
    (escape (c :: r) = c :: escape r ∧ c ≠ '\n' ∧ c ≠ '\r' ∧
      (c ≠ '\\' ∧ c ≠ '\x27' ∧ c ≠ '\x22' ∧ c ≠ '\x60') ∧
      ¬(c = '$' ∧ r.head? = some '\x7b')) := by
  have hescapes : ∀ p ∈ escapes, unescape p.1 = some p.2 ∧ Text.isLineBreak p.1 = false ∧
      (p.2 = '\n' ∨ p.2 = '\r' ∨ Text.isBlank p.2 = false) := by
    decide
  refine (escape_cons_cases c r).imp_left ?_
  rintro ⟨x, hx, hmem⟩
  exact ⟨x, hx, hescapes _ hmem⟩

/-- Templates understand how texts are escaped. -/
theorem template_spells :
    template.Spells escape where
  quote := ⟨by decide, by decide⟩
  stands c next h := by
    simp [template, Text.ne_of_isSeparator h (d := '\\') (by decide) (by decide),
      Text.ne_of_isSeparator h (d := '\r') (by decide) (by decide),
      Text.ne_of_isSeparator h (d := '$') (by decide) (by decide)]
  nil := rfl
  cons c r := by
    refine (escape_cons c r).imp_right ?_
    rintro ⟨hplain, hlf, hcr, ⟨hslash, -, -, hmark⟩, hdollar⟩
    refine ⟨hplain, hlf, hcr, hslash, hmark, fun post => ?_⟩
    have hnext : ¬(c = '$' ∧ (escape r ++ template.quote :: post).head? = some '\x7b') := by
      rintro ⟨hc, hhead⟩
      exact head?_escape_ne (fun h => hdollar ⟨hc, h⟩) post hhead
    generalize (escape r ++ template.quote :: post).head? = next at hnext
    by_cases hc : c = '$'
    · have hne : next ≠ some '\x7b' := fun h => hnext ⟨hc, h⟩
      simp [template, hslash, hcr, hne]
    · simp [template, hslash, hcr, hc]

/-- So do texts between single quotes. -/
theorem singleQuoted_spells :
    singleQuoted.Spells escape where
  quote := ⟨by decide, by decide⟩
  stands c next h := by
    simp [singleQuoted, Text.ne_of_isSeparator h (d := '\\') (by decide) (by decide),
      Text.ne_of_isSeparator h (d := '\n') (by decide) (by decide),
      Text.ne_of_isSeparator h (d := '\r') (by decide) (by decide)]
  nil := rfl
  cons c r := by
    refine (escape_cons c r).imp_right ?_
    rintro ⟨hplain, hlf, hcr, ⟨hslash, hmark, -, -⟩, -⟩
    refine ⟨hplain, hlf, hcr, hslash, hmark, fun post => ?_⟩
    simp [singleQuoted, hslash, hlf, hcr]

/-! ## Places -/

/-- Branches keep the code of their arms. -/
theorem keepsArms :
    dialect.KeepsArms where
  suite _ := .self
  yes s yes no := Code.Inside.self.deeper.stack (by simp)
  no s yes no := Code.Inside.self.deeper.stack (by simp)
  denied s denied allowed := Code.Inside.self.deeper.stack (by simp)
  allowed s denied allowed := Code.Inside.self.stack (by simp)
  body s body := Code.Inside.self.deeper.stack (by simp)

theorem inside_guarded
    (label : Text)
    (body : Code)
    (reply : Bool) :
    body.Inside (guarded label body reply) :=
  Code.Inside.self.deeper.stack (by simp)

theorem inside_onInteraction
    (test : List Piece)
    (body : Code) :
    body.Inside (onInteraction test body) :=
  (Code.Inside.self.nest 2).stack (by simp)

/-- A dispatch holds the code of every subcommand. -/
theorem inside_dispatch
    {subcommands : List Subcommand}
    {sub : Subcommand}
    (h : sub ∈ subcommands) :
    sub.body.Inside (dispatch subcommands) := by
  obtain ⟨index, hindex⟩ := List.getElem?_of_mem h
  have hcase : sub.body.deeper ∈ subcommands.zipIdx.flatMap fun p =>
      [.line [.code (if p.2 = 0 then "if" else "\x7d else if"), " (subcommand === '",
        .literal p.1.name, "') \x7b"], p.1.body.deeper] :=
    List.mem_flatMap.2 ⟨(sub, index), List.mem_zipIdx_iff_getElem?.2 hindex, by simp⟩
  exact Code.Inside.self.deeper.stack (List.mem_cons_of_mem _ (List.mem_append_left _ hcase))

theorem inside_slashChain
    (body : Code) :
    body.Inside (slashChain body) :=
  Code.Inside.self.deeper.stack (by simp)

/-- The handler of a trigger holds what it is given to hold. -/
theorem inside_handler
    (kind : TriggerKind)
    (guard : Text)
    {body code : Code}
    {subcommands : List Subcommand}
    (h : code ∈ Dialect.bodiesOf kind body subcommands) :
    code.Inside (handler kind guard body subcommands) := by
  unfold Dialect.bodiesOf at h
  cases kind with
  | slash =>
      rw [handler]
      cases hempty : subcommands.isEmpty with
      | true =>
          rw [hempty] at h
          rw [List.mem_singleton.1 h, if_pos rfl]
          split
          · exact (inside_slashChain body).trans (inside_onInteraction _ _)
          · exact ((inside_slashChain body).trans (inside_guarded _ _ _)).trans
              (inside_onInteraction _ _)
      | false =>
          rw [hempty] at h
          obtain ⟨sub, hsub, rfl⟩ := List.mem_map.1 h
          rw [if_neg (by decide)]
          exact ((inside_dispatch hsub).trans (inside_guarded _ _ _)).trans
            (inside_onInteraction _ _)
  | component =>
      rw [List.mem_singleton.1 h, handler]
      split
      · exact inside_onInteraction _ _
      · exact (inside_guarded _ _ _).trans (inside_onInteraction _ _)
  | event =>
      rw [List.mem_singleton.1 h, handler]
      have hguarded : body.Inside
          (if isNoop body then body else guarded (eventName guard) body false) := by
        split
        · exact .self
        · exact inside_guarded _ _ _
      exact hguarded.deeper.stack (by simp)

/-- The statement of a reply without an embed. -/
def replyLine (s : Subject) : Code :=
  .line ["await interaction.reply(\x7b content: `", s.literal "content", "`, ephemeral: ",
    boolWord (s.flag "ephemeral"), " \x7d);"]

theorem reply_gives
    {s : Subject}
    (h : s.flag "useEmbed" = false) :
    Emit.Gives (fun code => (replyLine s).Inside code) (reply s) := by
  unfold reply
  simp only [h, Bool.false_eq_true, if_false]
  exact .pure .self

end BotCanvas.Braced
