import BotCanvas.Offside.Spelling
import BotCanvas.Proofs.Program.Names

/-!
# Literals and remarks of the language with suites

An escaped text stays inside the literal that it stands in, between single and double quotes alike:
every quote and every backslash of the text has a backslash before it, and no line feed is left.
-/

namespace BotCanvas.Offside

open Lexis

/-- How the language with suites tells code, remarks and literals apart. -/
def lexis (countsBrackets : Bool) : Lexis where
  backticks := false
  hashRemarks := true
  slashRemarks := false
  countsBrackets := countsBrackets

/-- How texts with characters of a class are written in it. -/
def writing (countsBrackets : Bool) (isSpoken : Char → Bool) : Writing :=
  ⟨lexis countsBrackets, spelling, isSpoken⟩

variable {counts : Bool}

/-- Reading an escaped character in a literal leads nowhere else. -/
theorem read_escapeChar
    {q : Quote}
    (hq : q ≠ .backtick)
    (c : Char)
    (opened : List Char) :
    (lexis counts).read (some (.literal q, opened)) (escapeChar c) =
      some (.literal q, opened) := by
  have hescaped : ∀ d, d ≠ '\n' →
      (lexis counts).read (some (.literal q, opened)) ['\\', d] = some (.literal q, opened) := by
    intro d hd
    simp [read_cons, advance, trackAt, next, hd]
  unfold escapeChar
  split
  · rename_i h
    refine hescaped c ?_
    rintro rfl
    simp at h
  · rename_i h
    simp only [not_or] at h
    split
    · exact hescaped 'r' (by decide)
    · split
      · exact hescaped 'n' (by decide)
      · rename_i hfeed
        have hmark : c ≠ q.mark := by
          cases q with
          | single => exact h.2.2
          | double => exact h.2.1
          | backtick => exact absurd rfl hq
        simp [read_cons, advance, trackAt, next, hfeed, h.1, hmark]

/-- Reading an escaped text in a literal leads nowhere else. -/
theorem encloses :
    (lexis counts).Encloses spelling := by
  intro q hq t opened
  have hquote : q ≠ .backtick := by
    rintro rfl
    simp [hasQuote, lexis] at hq
  change (lexis counts).read _ (escape t) = _
  induction t with
  | nil => rfl
  | cons c r ih =>
      rw [escape, List.flatMap_cons, read_append, read_escapeChar hquote]
      exact ih

/-- An escaped text holds no line feed. -/
theorem lineFeed_not_mem_escape
    (t : Text) :
    '\n' ∉ escape t := by
  have hchar : ∀ c, '\n' ∉ escapeChar c := by
    intro c
    unfold escapeChar
    split
    · rename_i h
      have hc : '\n' ≠ c := by
        rintro rfl
        simp at h
      simp [hc]
    · split
      · simp
      · split
        · simp
        · rename_i hfeed
          simp [Ne.symm hfeed]
  intro h
  obtain ⟨c, -, hc⟩ := List.mem_flatMap.1 h
  exact hchar c hc

end BotCanvas.Offside
