import BotCanvas.Proofs.Program.Forms
import BotCanvas.Proofs.Program.Statements

/-!
# Brackets through stacked code

Parts one under another lead where the last of them leads, if each goes on where the one before
it stopped. A body that closes what it opens may stand anywhere in such a chain, at any depth.
-/

namespace BotCanvas.Lexis

variable {lx : Lexis}
variable {sp : Spelling}

/-- Parts each of which goes on where the one before it stopped. -/
def Chain (lx : Lexis) (sp : Spelling) : List Code → List Char → List Char → Prop
  | [], k, l => k = l
  | c :: rest, k, l => ∃ m, Leads lx (c.write sp) k m ∧ Chain lx sp rest m l

/-- A spelling that indents by spaces. -/
def IsSpaced (sp : Spelling) : Prop :=
  ∃ n, sp.indentUnit = List.replicate n ' '

namespace Chain

variable {k l m : List Char}
variable {parts parts' : List Code}

theorem append
    (h : Chain lx sp parts k l)
    (h' : Chain lx sp parts' l m) :
    Chain lx sp (parts ++ parts') k m := by
  induction parts generalizing k with
  | nil =>
      obtain rfl := h
      exact h'
  | cons c rest ih =>
      obtain ⟨n, hc, hrest⟩ := h
      exact ⟨n, hc, ih hrest⟩

/-- A chain that is not empty leads as a stack. -/
theorem stack
    (hne : parts ≠ [])
    (h : Chain lx sp parts k l) :
    Leads lx ((Code.stack parts).write sp) k l := by
  rw [Code.write]
  induction parts generalizing k with
  | nil => exact absurd rfl hne
  | cons c rest ih =>
      obtain ⟨n, hc, hrest⟩ := h
      cases rest with
      | nil =>
          obtain rfl := hrest
          exact hc
      | cons d rest => exact hc.append (ih (by simp) hrest)

/-- Parts that each close what they open. -/
theorem ofNeutral
    (h : ∀ c ∈ parts, Leads lx (c.write sp) [] [])
    (k : List Char) :
    Chain lx sp parts k k := by
  induction parts with
  | nil => rfl
  | cons c rest ih =>
      exact ⟨k, (h c (by simp)).under k, ih fun d hd => h d (by simp [hd])⟩

end Chain

namespace Leads

variable {k l : List Char}
variable {c : Code}

/-- Code some levels deeper leads as before. -/
theorem nest
    (hsp : IsSpaced sp)
    (levels : Nat)
    (h : Leads lx (c.write sp) k l) :
    Leads lx ((Code.nest levels c).write sp) k l := by
  obtain ⟨n, hn⟩ := hsp
  rw [Code.write, Spelling.indent, hn, List.flatten_replicate_replicate]
  exact h.indent _

/-- A body that closes what it opens, some levels deeper and among open brackets. -/
theorem body
    (hsp : IsSpaced sp)
    (levels : Nat)
    (h : Leads lx (c.write sp) [] [])
    (k : List Char) :
    Leads lx ((Code.nest levels c).write sp) k k :=
  (h.nest hsp levels).under k

/-- Lines that close what they open, one under another, close what they open. -/
theorem ofEvery
    (h : c.Every fun ps => Leads lx ((Code.line ps).write sp) [] []) :
    Leads lx (c.write sp) [] [] := by
  induction h with
  | line h => exact h
  | stack hne _ ih => exact Chain.stack hne (.ofNeutral ih [])

end Leads

/-- An empty row opens and closes nothing. -/
theorem Leads.empty
    (k : List Char) :
    Leads lx [] k k := by
  intro below
  have htrack : lx.track '\n' (k ++ below) = some (k ++ below) := by
    unfold track
    cases lx.countsBrackets <;> rfl
  have henter : lx.enter '\n' = .code := enter_of_isLineBreak (by decide)
  simp [read_cons, advance, trackAt, next, htrack, henter]

/-- Fragments with line feeds between. -/
theorem Leads.join
    (n : Nat)
    {fragments : List Text}
    (h : ∀ t ∈ fragments, Leads lx t [] []) :
    Leads lx (Text.join (List.replicate (n + 1) '\n') fragments) [] [] := by
  have hgap : ∀ (n : Nat) (t : Text), Leads lx t [] [] →
      Leads lx (List.replicate n '\n' ++ t) [] [] := by
    intro n t ht
    induction n with
    | zero => exact ht
    | succ n ih =>
        have := (Leads.empty []).append ih
        rwa [List.nil_append] at this
  unfold Text.join
  induction fragments with
  | nil => exact Leads.empty []
  | cons t rest ih =>
      cases rest with
      | nil => simpa using h t (by simp)
      | cons u rest =>
          have hrest := ih fun v hv => h v (by simp [hv])
          rw [List.intercalate_cons_cons, List.replicate_succ, List.append_assoc,
            List.cons_append]
          exact (h t (by simp)).append (hgap n _ hrest)

/-! ## Lines of the program itself -/

/-- Where lines of the program itself lead to. -/
def constantsLead (lx : Lexis) : List Code → List Char → Option (List Char)
  | [], k => some k
  | .line pieces :: rest, k =>
      if pieces.all fun x => x.slot.isReadable && x matches .code _ then
        match lx.advance (lx.readCells (some (.code, k)) (shape (pieces.map Piece.slot))) '\n' with
        | some (.code, m) => constantsLead lx rest m
        | _ => none
      else none
  | _ :: _, _ => none

/-- Lines of the program itself are a chain. -/
theorem Chain.ofConstants
    {w : Writing}
    (hsp : w.lexis.Encloses w.spelling)
    {parts : List Code}
    {k l : List Char}
    (h : constantsLead w.lexis parts k = some l) :
    Chain w.lexis w.spelling parts k l := by
  fun_induction constantsLead w.lexis parts k with
  | case1 k => exact Option.some.inj h
  | case2 k pieces rest hcode m hread ih =>
      rw [List.all_eq_true] at hcode
      refine ⟨m, Leads.ofForm hsp ?_ ?_, ih h⟩
      · intro x hx
        have := hcode x hx
        cases x with
        | code s => trivial
        | _ => simp at this
      · rw [formLeads, Bool.and_eq_true, beq_iff_eq]
        refine ⟨?_, hread⟩
        rw [List.all_map, List.all_eq_true]
        intro x hx
        have := hcode x hx
        rw [Bool.and_eq_true] at this
        exact this.1
  | case3 => cases h
  | case4 => cases h
  | case5 => cases h

end BotCanvas.Lexis
