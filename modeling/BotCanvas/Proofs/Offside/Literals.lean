import BotCanvas.Offside.Actions
import BotCanvas.Proofs.Program.Literals
import BotCanvas.Proofs.Program.Places

/-!
# Literals in the language with suites

How the language reads a literal between double quotes, and where the statements of a flow stand in
a handler.
-/

namespace BotCanvas.Offside

/-- What a character behind a backslash stands for. Escapes by number or by name, continued lines and
backslashes that stand for themselves are left out. -/
def unescape : Char → Option Char
  | '\\' => some '\\'
  | '\x27' => some '\x27'
  | '\x22' => some '\x22'
  | 'a' => some '\x07'
  | 'b' => some '\x08'
  | 'f' => some '\x0c'
  | 'n' => some '\n'
  | 'r' => some '\r'
  | 't' => some '\t'
  | 'v' => some '\x0b'
  | _ => none

/-- A literal between double quotes, in one row. -/
def quoted : LiteralForm where
  quote := '\x22'
  unescape := unescape
  stands c _ := c != '\\' && c != '\n' && c != '\r'

/-- What stands behind the backslashes of an escaped text, and the characters that it stands for. -/
def escapes : List (Char × Char) :=
  [('\\', '\\'), ('\x27', '\x27'), ('\x22', '\x22'), ('r', '\r'), ('n', '\n')]

/-- A character gets a backslash, or it is none that needs one. -/
theorem escape_cons_cases
    (c : Char)
    (r : Text) :
    (∃ x, escape (c :: r) = '\\' :: x :: escape r ∧ (x, c) ∈ escapes) ∨
    (escape (c :: r) = c :: escape r ∧ c ≠ '\n' ∧ c ≠ '\r' ∧
      c ≠ '\\' ∧ c ≠ '\x22' ∧ c ≠ '\x27') := by
  have hcons : escape (c :: r) = escapeChar c ++ escape r := List.flatMap_cons
  by_cases hmark : c = '\\' ∨ c = '\x22' ∨ c = '\x27'
  · refine .inl ⟨c, by rw [hcons, escapeChar, if_pos hmark]; rfl, ?_⟩
    rcases hmark with rfl | rfl | rfl <;> decide
  · by_cases hcr : c = '\r'
    · refine .inl ⟨'r', by rw [hcons, escapeChar, if_neg hmark, if_pos hcr]; rfl, ?_⟩
      rw [hcr]
      decide
    · by_cases hlf : c = '\n'
      · refine .inl ⟨'n', by
          rw [hcons, escapeChar, if_neg hmark, if_neg hcr, if_pos hlf]; rfl, ?_⟩
        rw [hlf]
        decide
      · refine .inr ⟨by rw [hcons, escapeChar, if_neg hmark, if_neg hcr, if_neg hlf]; rfl, hlf, hcr,
          by simpa only [not_or] using hmark⟩

/-- Literals understand how texts are escaped. -/
theorem quoted_spells :
    quoted.Spells escape where
  quote := ⟨by decide, by decide⟩
  stands c next h := by
    simp [quoted, Text.ne_of_isSeparator h (d := '\\') (by decide) (by decide),
      Text.ne_of_isSeparator h (d := '\n') (by decide) (by decide),
      Text.ne_of_isSeparator h (d := '\r') (by decide) (by decide)]
  nil := rfl
  cons c r := by
    have hescapes : ∀ p ∈ escapes, unescape p.1 = some p.2 ∧ Text.isLineBreak p.1 = false ∧
        (p.2 = '\n' ∨ p.2 = '\r' ∨ Text.isBlank p.2 = false) := by
      decide
    rcases escape_cons_cases c r with ⟨x, hx, hmem⟩ | ⟨hplain, hlf, hcr, hslash, hmark, -⟩
    · exact .inl ⟨x, hx, hescapes _ hmem⟩
    · refine .inr ⟨hplain, hlf, hcr, hslash, hmark, fun post => ?_⟩
      simp [quoted, hslash, hlf, hcr]

/-! ## Places -/

/-- Branches keep the code of their arms. -/
theorem keepsArms :
    dialect.KeepsArms where
  suite c := by
    change c.Inside (suite c)
    unfold suite
    split
    · exact Code.Inside.self.stack (by simp)
    · exact .self
  yes s yes no := Code.Inside.self.deeper.stack (by simp)
  no s yes no := Code.Inside.self.deeper.stack (by simp)
  denied s denied allowed := Code.Inside.self.deeper.stack (by simp)
  allowed s denied allowed := Code.Inside.self.stack (by simp)
  body s body := Code.Inside.self.deeper.stack (by simp)

theorem inside_handlerBody
    (label : Text)
    (body : Code)
    (reply : Bool) :
    body.Inside (handlerBody label body reply) := by
  unfold handlerBody
  split
  · exact .self
  · exact Code.Inside.self.deeper.stack (by simp)

/-- The parts of a group hold the code of every subcommand. -/
theorem inside_groupParts
    (group base guard : Text)
    {subcommands : List Subcommand}
    {sub : Subcommand}
    (h : sub ∈ subcommands)
    (tally : Tally) :
    ∃ part ∈ (groupParts group base guard subcommands tally).1, sub.body.Inside part := by
  induction subcommands generalizing tally with
  | nil => cases h
  | cons first rest ih =>
      rw [groupParts]
      rcases List.mem_cons.1 h with rfl | h
      · have hbody := inside_handlerBody (guard ++ ' ' :: sub.name) sub.body true
        exact ⟨_, List.mem_cons_self, hbody.deeper.stack (by simp)⟩
      · obtain ⟨part, hpart, hsub⟩ := ih h _
        exact ⟨part, List.mem_cons_of_mem _ hpart, hsub⟩

/-- Code keeps its place among spaced parts. -/
theorem inside_spaced
    {parts : List Code}
    {part : Code}
    (h : part ∈ parts) :
    part.Inside (spaced parts) := by
  refine Code.Inside.self.stack ?_
  induction parts with
  | nil => cases h
  | cons first rest ih =>
      cases rest with
      | nil => exact h
      | cons second rest =>
          rcases List.mem_cons.1 h with rfl | h
          · exact List.mem_cons_self
          · exact List.mem_cons_of_mem _ (List.mem_cons_of_mem _ (List.mem_cons_of_mem _ (ih h)))

/-- The handler of a trigger holds what it is given to hold. -/
theorem inside_handler
    (catalog : Catalog)
    (trigger : Option Block)
    (kind : TriggerKind)
    (guard : Text)
    {body code : Code}
    {subcommands : List Subcommand}
    (h : code ∈ Dialect.bodiesOf kind body subcommands)
    (tally : Tally) :
    code.Inside (handler catalog trigger kind guard body subcommands tally).1 := by
  unfold Dialect.bodiesOf at h
  cases kind with
  | slash =>
      rw [handler]
      cases hempty : subcommands.isEmpty with
      | true =>
          rw [hempty] at h
          rw [List.mem_singleton.1 h, if_pos rfl]
          exact ((inside_handlerBody guard body true).deeper).stack (by simp)
      | false =>
          rw [hempty] at h
          obtain ⟨sub, hsub, rfl⟩ := List.mem_map.1 h
          rw [if_neg (by decide)]
          obtain ⟨part, hpart, hbody⟩ := inside_groupParts
            (tally.nextName (Name.identifier "command" guard ++ "_group".toList))
            (Name.identifier "command" guard) guard hsub
            (tally.bump (Name.identifier "command" guard ++ "_group".toList))
          refine hbody.trans (inside_spaced ?_)
          exact List.mem_cons_of_mem _ (List.mem_append_left _ hpart)
  | component =>
      rw [List.mem_singleton.1 h, handler]
      exact ((inside_handlerBody guard body true).nest 2).stack (by simp)
  | event =>
      rw [List.mem_singleton.1 h, handler]
      exact ((inside_handlerBody (eventName guard) body false).deeper).stack (by simp)

/-- The statement of a reply without an embed. -/
def replyLine (s : Subject) : Code :=
  .line ["await interaction.response.send_message(\"", s.literal "content", "\", ephemeral=",
    boolWord (s.flag "ephemeral"), ")"]

theorem reply_gives
    {s : Subject}
    (h : s.flag "useEmbed" = false) :
    Emit.Gives (fun code => (replyLine s).Inside code) (reply s) := by
  unfold reply
  simp only [h, Bool.false_eq_true, if_false]
  exact .pure .self

end BotCanvas.Offside
