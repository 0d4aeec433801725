import BotCanvas.Proofs.Program.Statements
import BotCanvas.Proofs.Text.Parts

/-!
# Marks of statements

Whether a handler does nothing is told from its text alone. What tells statements from the line
that does nothing is a mark: a bracket, an equals sign or a colon. One of them stands in the
program's own text of every statement and branch, or in a remark (`Code.Marked`), and none in that
line. So the texts of blocks cannot hide that there is something to do, whatever they are.

A dialect that marks its statements (`Dialect.Marking`) gives marked code for every flow with a step
in it (`Dialect.Marking.emitFlow`), and the empty flow does nothing. How the arms of a step look
does not matter: a branch is marked by lines of its own. So the body of a handler is guarded unless its
flow is empty (`Dialect.Marking.handlerBody_eq`).
-/

namespace BotCanvas

/-- The marks of statements. -/
def statementMarks : List Char := ['(', '=', ':']

/-- Tests for a piece that is written with a mark, however the user's texts are escaped. -/
def Piece.isMarked : Piece → Bool
  | .code s => Text.isAscii s && (Text.asciiChars s).any statementMarks.contains
  | .remark t => t.any statementMarks.contains
  | _ => false

/-- Code with a marked piece in one of its lines. -/
inductive Code.Marked : Code → Prop
  | line
      {pieces : List Piece} :
      pieces.any Piece.isMarked = true →
      Marked (.line pieces)
  | stack
      {parts : List Code}
      {c : Code} :
      c ∈ parts →
      Marked c →
      Marked (.stack parts)

variable {sp : Spelling}

/-- No mark is blank. -/
theorem not_isBlank_of_mem_statementMarks
    {m : Char}
    (hm : m ∈ statementMarks) :
    Text.isBlank m = false := by
  have hall : (statementMarks.all fun m => !Text.isBlank m) = true := by decide
  simpa using List.all_eq_true.1 hall m hm

/-- A mark does not stand in a text without marks. -/
theorem not_mem_of_mem_statementMarks
    {t : Text}
    (ht : t.any statementMarks.contains = false)
    {m : Char}
    (hm : m ∈ statementMarks) :
    m ∉ t := by
  intro hmem
  exact List.any_eq_false.1 ht m hmem (List.contains_iff_mem.2 hm)

/-- The mark of a piece is written. -/
theorem Piece.exists_mem_write
    (sp : Spelling)
    {x : Piece}
    (h : x.isMarked = true) :
    ∃ m ∈ statementMarks, m ∈ x.write sp := by
  have hfound : ∀ t : Text, t.any statementMarks.contains = true → ∃ m ∈ statementMarks, m ∈ t := by
    intro t ht
    obtain ⟨m, hm, hmark⟩ := List.any_eq_true.1 ht
    exact ⟨m, List.contains_iff_mem.1 hmark, hm⟩
  cases x with
  | code s =>
      rw [isMarked, Bool.and_eq_true] at h
      have hchars : Text.asciiChars s = s.toList := Text.asciiChars_eq h.1
      exact hfound s.toList (hchars ▸ h.2)
  | remark t => exact hfound _ h
  | literal t => cases h
  | name t => cases h
  | condition t => cases h

namespace Code

/-- A marked line under other code marks all of it. -/
theorem Marked.last
    (front : List Code)
    {pieces : List Piece}
    (h : pieces.any Piece.isMarked = true) :
    (Code.stack (front ++ [Code.line pieces])).Marked :=
  .stack (List.mem_append_right front List.mem_cons_self) (.line h)

/-- What a part is written with, the parts are written with. -/
theorem mem_writeParts
    {parts : List Code}
    {c : Code}
    {m : Char}
    (hc : c ∈ parts)
    (hm : m ∈ c.write sp) :
    m ∈ writeParts sp parts := by
  induction parts with
  | nil => cases hc
  | cons first rest ih =>
      cases rest with
      | nil =>
          rw [List.mem_singleton.1 hc] at hm
          exact hm
      | cons next rest =>
          rw [writeParts, List.mem_append]
          rcases List.mem_cons.1 hc with rfl | hc
          · exact .inl hm
          · exact .inr (List.mem_cons_of_mem _ (ih hc))

/-- Marked code is written with a mark. -/
theorem Marked.exists_mem_write
    (sp : Spelling)
    {c : Code}
    (h : c.Marked) :
    ∃ m ∈ statementMarks, m ∈ c.write sp := by
  induction h with
  | line hpieces =>
      obtain ⟨x, hx, hmarked⟩ := List.any_eq_true.1 hpieces
      obtain ⟨m, hmark, hm⟩ := Piece.exists_mem_write sp hmarked
      rw [write]
      exact ⟨m, hmark, List.mem_flatMap.2 ⟨x, hx, hm⟩⟩
  | stack hc _ ih =>
      obtain ⟨m, hmark, hm⟩ := ih
      rw [write]
      exact ⟨m, hmark, mem_writeParts hc hm⟩

/-- Marked code is not written as a line without marks, and not with blanks around it either. -/
theorem Marked.amountsTo_eq_false
    {c : Code}
    {t : Text}
    (h : c.Marked)
    (ht : t.any statementMarks.contains = false) :
    c.amountsTo sp t = false := by
  obtain ⟨m, hmark, hm⟩ := h.exists_mem_write sp
  refine beq_eq_false_iff_ne.2 fun heq => not_mem_of_mem_statementMarks ht hmark ?_
  rcases Text.mem_strip_of_mem hm with hblank | hkept
  · rw [not_isBlank_of_mem_statementMarks hmark] at hblank
    cases hblank
  · exact heq ▸ hkept

/-- A remark is marked by a colon in its text, which bringing it onto one line keeps. -/
theorem marked_remarkLine
    (mark : String)
    {t : Text}
    (h : ':' ∈ t) :
    (remarkLine mark t).Marked := by
  have hkept : ':' ∈ Text.squeeze t := Text.mem_squeeze_of_mem (by decide) h
  have hremark : (Piece.remark (Text.squeeze t)).isMarked = true :=
    List.any_eq_true.2 ⟨':', hkept, by decide⟩
  exact .line (List.any_eq_true.2 ⟨_, by simp, hremark⟩)

end Code

/-- Whatever an emission starts with, it gives what its rest always gives. -/
theorem Emit.Gives.after
    {α β : Type}
    {P : β → Prop}
    (m : Emit α)
    {f : α → Emit β}
    (hf : ∀ a, Gives P (f a)) :
    Gives P (m >>= f) :=
  (Gives.any m).bind fun a _ => hf a

namespace Dialect

/-- A dialect that marks its statements, its branches and its guards, but not the line that does
nothing. -/
structure Marking (d : Dialect) : Prop where
  unmarked : d.noop.any statementMarks.contains = false
  trimmed : Text.strip d.noop = d.noop
  action : ∀ entry ∈ d.actions, ∀ s, Emit.Gives Code.Marked (entry.2 s)
  choice : ∀ s yes no, (d.choice s yes no).Marked
  gate : ∀ s denied allowed, (d.gate s denied allowed).Marked
  recovery : ∀ s body, (d.recovery s body).Marked
  suite : ∀ body, body.Marked → (d.suite body).Marked
  guarded : ∀ label body reply, (d.guarded label body reply).Marked

namespace Marking

variable {d : Dialect}

/-- A block that does not branch is marked; one of an unknown type by its remark. -/
theorem emitAction
    (hd : d.Marking)
    (s : Subject) :
    Emit.Gives Code.Marked (d.emitAction s) := by
  unfold Dialect.emitAction
  split
  · rename_i action haction
    exact hd.action _ (mem_of_lookup haction) s
  · refine .pure (Code.marked_remarkLine _ ?_)
    simp

/-- Every step is marked, whatever its arms are. -/
theorem emitStep
    (hd : d.Marking)
    (catalog : Catalog)
    (step : Step) :
    Emit.Gives Code.Marked (d.emitStep catalog step) := by
  obtain ⟨block, arms⟩ := step
  rw [Dialect.emitStep]
  split
  · exact .after _ fun yes => .after _ fun no => .pure (hd.choice _ _ _)
  · exact .after _ fun denied => .after _ fun allowed => .pure (hd.gate _ _ _)
  · exact .after _ fun body => .pure (hd.recovery _ _)
  · exact hd.emitAction _

/-- Each of several steps is marked. -/
theorem emitList
    (hd : d.Marking)
    (catalog : Catalog)
    (steps : List Step) :
    Emit.Gives (fun cs => cs.length = steps.length ∧ ∀ c ∈ cs, c.Marked)
      (d.emitList catalog steps) := by
  induction steps with
  | nil =>
      rw [Dialect.emitList]
      exact .pure (by simp)
  | cons step rest ih =>
      rw [Dialect.emitList]
      refine (hd.emitStep catalog step).bind fun c hc => ih.bind fun cs hcs => .pure ?_
      obtain ⟨hlength, hmarked⟩ := hcs
      exact ⟨by simp [hlength], List.forall_mem_cons.2 ⟨hc, hmarked⟩⟩

/-- A flow with a step in it is marked, and an empty flow is the line that does nothing. -/
theorem emitFlow
    (hd : d.Marking)
    (catalog : Catalog)
    (flow : List Step) :
    Emit.Gives (fun c => if flow = [] then c = d.noopCode else c.Marked)
      (d.emitFlow catalog flow) := by
  rw [Dialect.emitFlow]
  refine (hd.emitList catalog flow).bind fun cs hcs => .pure ?_
  obtain ⟨hlength, hmarked⟩ := hcs
  cases cs with
  | nil =>
      obtain rfl : flow = [] := List.length_eq_zero_iff.1 hlength.symm
      rfl
  | cons c rest =>
      have hflow : flow ≠ [] := by
        rintro rfl
        cases hlength
      rw [if_neg hflow]
      exact hd.suite _ (.stack List.mem_cons_self (hmarked c List.mem_cons_self))

/-- The code of a flow does nothing if and only if the flow is empty. -/
theorem isNoop_iff
    (hd : d.Marking)
    {catalog : Catalog}
    {flow : List Step}
    {σ σ' : Scope}
    {code : Code}
    (h : (d.emitFlow catalog flow).run.run σ = (.ok code, σ')) :
    d.isNoop code = true ↔ flow = [] := by
  have hcode := (hd.emitFlow catalog flow).of_run h
  by_cases hflow : flow = []
  · rw [if_pos hflow] at hcode
    have hnoop : d.isNoop d.noopCode = true := beq_iff_eq.2 hd.trimmed
    exact iff_of_true (hcode ▸ hnoop) hflow
  · rw [if_neg hflow] at hcode
    have hmarked : d.isNoop code = false := hcode.amountsTo_eq_false hd.unmarked
    exact iff_of_false (by simp [hmarked]) hflow

/-- A guard is not the line that does nothing, whatever it guards. -/
theorem write_guarded_ne
    (hd : d.Marking)
    (label : Text)
    (body : Code)
    (reply : Bool) :
    d.write (d.guarded label body reply) ≠ d.noop := by
  intro heq
  obtain ⟨m, hmark, hm⟩ := (hd.guarded label body reply).exists_mem_write d.spelling
  exact not_mem_of_mem_statementMarks hd.unmarked hmark (heq ▸ hm)

/-- The body of a handler is the line that does nothing if the flow is empty, and otherwise the
guarded code of the flow. -/
theorem handlerBody_eq
    (hd : d.Marking)
    {catalog : Catalog}
    {flow : List Step}
    {σ σ' : Scope}
    {code : Code}
    (h : (d.emitFlow catalog flow).run.run σ = (.ok code, σ'))
    (label : Text)
    (reply : Bool) :
    d.handlerBody label code reply =
      if flow = [] then d.noopCode else d.guarded label code reply := by
  have hcode := (hd.emitFlow catalog flow).of_run h
  have hnoop := hd.isNoop_iff h
  unfold handlerBody
  by_cases hflow : flow = []
  · rw [if_pos hflow] at hcode
    rw [if_pos (hnoop.2 hflow), if_pos hflow, hcode]
  · rw [if_neg (mt hnoop.1 hflow), if_neg hflow]

end Marking

end Dialect

end BotCanvas
