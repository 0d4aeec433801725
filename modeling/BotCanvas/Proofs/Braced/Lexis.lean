import BotCanvas.Braced.Spelling
import BotCanvas.Proofs.Program.Names

/-!
# Literals and remarks of the language with braces

An escaped text stays inside the literal that it stands in, whatever encloses it: every quote and
every backslash of the text has a backslash before it, and no line feed is left.
-/

namespace BotCanvas.Braced

open Lexis

/-- How the language with braces tells code, remarks and literals apart. -/
def lexis (countsBrackets : Bool) : Lexis where
  backticks := true
  hashRemarks := false
  slashRemarks := true
  countsBrackets := countsBrackets

/-- How texts with characters of a class are written in it. -/
def writing (countsBrackets : Bool) (isSpoken : Char → Bool) : Writing :=
  ⟨lexis countsBrackets, spelling, isSpoken⟩

variable {counts : Bool}

/-- Reading an escaped text in a literal leads nowhere else. -/
theorem encloses :
    (lexis counts).Encloses spelling := by
  intro q _ t opened
  have hmark : ∀ c, c ≠ '\x27' → c ≠ '\x22' → c ≠ '\x60' → c ≠ q.mark := by
    intro c h1 h2 h3
    cases q
    · exact h1
    · exact h2
    · exact h3
  have hescaped : ∀ c, c ≠ '\n' → ∀ r : Text,
      (lexis counts).read (some (.literal q, opened)) ('\\' :: c :: r) =
        (lexis counts).read (some (.literal q, opened)) r := by
    intro c hc r
    simp [read_cons, advance, trackAt, next, hc]
  change (lexis counts).read _ (escape t) = _
  fun_induction escape t with
  | case1 => rfl
  | case2 c r h ih =>
      have hfeed : c ≠ '\n' := by
        rintro rfl
        simp at h
      rw [hescaped c hfeed, ih]
  | case3 c r h hdollar ih =>
      have hfeed : c ≠ '\n' := by
        rintro rfl
        simp at hdollar
      rw [hescaped c hfeed, ih]
  | case4 r h hdollar ih => rw [hescaped 'r' (by decide), ih]
  | case5 r h hdollar hreturn ih => rw [hescaped 'n' (by decide), ih]
  | case6 c r h hdollar hreturn hfeed ih =>
      simp only [not_or] at h
      have hstep : (lexis counts).advance (some (.literal q, opened)) c =
          some (.literal q, opened) := by
        simp [advance, trackAt, next, hfeed, h.1, hmark c h.2.1 h.2.2.1 h.2.2.2]
      rw [read_cons, hstep, ih]

/-- An escaped text holds no line feed and no carriage return. -/
theorem not_mem_escape
    (t : Text)
    {c : Char}
    (hc : c = '\n' ∨ c = '\r') :
    c ∉ escape t := by
  fun_induction escape t with
  | case1 => simp
  | case2 d r h ih =>
      have hd : d ≠ c := by
        rintro rfl
        rcases hc with rfl | rfl <;> simp at h
      rcases hc with rfl | rfl <;> simp [ih, Ne.symm hd]
  | case3 d r h hdollar ih =>
      have hd : d ≠ c := by
        rintro rfl
        rcases hc with rfl | rfl <;> simp at hdollar
      rcases hc with rfl | rfl <;> simp [ih, Ne.symm hd]
  | case4 r h hdollar ih => rcases hc with rfl | rfl <;> simp [ih]
  | case5 r h hdollar hreturn ih => rcases hc with rfl | rfl <;> simp [ih]
  | case6 d r h hdollar hreturn hfeed ih =>
      rcases hc with rfl | rfl
      · simp [ih, Ne.symm hfeed]
      · simp [ih, Ne.symm hreturn]

end BotCanvas.Braced
