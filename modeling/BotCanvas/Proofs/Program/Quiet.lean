import BotCanvas.Proofs.Program.Assembly
import BotCanvas.Proofs.Program.Chains
import BotCanvas.Proofs.Program.Mentions

/-!
# Programs that keep quiet about a phrase

If the statements, branches and handlers of a dialect have no share in an occurrence of a phrase,
nor has the header of a program, then the phrase occurs in the program if and only if one of the
user's texts in it has the phrase (`Dialect.QuietAbout.infix_program_iff`).
-/

namespace BotCanvas

open Lexis (IsSpaced)

namespace Code

variable {w : Text}
variable {pieces : List Piece}
variable {parts : List Code}
variable {c : Code}

@[simp] theorem quiet_line_iff :
    Quiet w (.line pieces) ↔ isQuiet w (pieces.map Piece.slot) = true := by
  constructor
  · intro h
    cases h with
    | line h => exact h
  · exact .line

@[simp] theorem quiet_stack_iff :
    Quiet w (.stack parts) ↔ ∀ c ∈ parts, Quiet w c := by
  constructor
  · intro h
    cases h with
    | stack h => exact h
  · exact .stack

@[simp] theorem quiet_nest_iff
    (levels : Nat) :
    Quiet w (.nest levels c) ↔ Quiet w c := by
  constructor
  · intro h
    cases h with
    | nest h => exact h
  · exact .nest

@[simp] theorem quiet_deeper_iff :
    Quiet w c.deeper ↔ Quiet w c :=
  quiet_nest_iff 1

/-- Code whose lines are all quiet is quiet. -/
theorem Quiet.ofEvery
    {P : List Piece → Prop}
    (hP : ∀ pieces, P pieces → isQuiet w (pieces.map Piece.slot) = true)
    (h : c.Every P) :
    Quiet w c := by
  induction h with
  | line h => exact .line (hP _ h)
  | stack _ _ ih => exact .stack ih

end Code

namespace Dialect

/-- A dialect whose own text has no share in an occurrence of a phrase, except perhaps for its
header. -/
structure QuietAbout (d : Dialect) (w : Text) : Prop where
  action : ∀ s, Emit.Gives (Code.Quiet w) (d.emitAction s)
  choice : ∀ s yes no, yes.Quiet w → no.Quiet w → (d.choice s yes no).Quiet w
  gate : ∀ s denied allowed, (∀ c ∈ denied, c.Quiet w) → (∀ c ∈ allowed, c.Quiet w) →
    (d.gate s denied allowed).Quiet w
  recovery : ∀ s body, body.Quiet w → (d.recovery s body).Quiet w
  idle : d.noopCode.Quiet w
  suite : ∀ body, body.Quiet w → (d.suite body).Quiet w
  handler : ∀ catalog trigger kind guard body subcommands tally,
    (subcommands = [] → body.Quiet w) → (∀ sub ∈ subcommands, sub.body.Quiet w) →
    (kind ≠ .slash → subcommands = []) →
    (d.handler catalog trigger kind guard body subcommands tally).1.Quiet w
  footer : ∀ commands, (d.footer commands).Quiet w

/-- A user's text in the program of a canvas has a phrase in it. -/
def Spells (d : Dialect) (catalog : Catalog) (mode : Traversal) (canvas : Canvas) (w : Text) :
    Prop :=
  ∃ units, d.handlerUnits catalog mode canvas = .ok units ∧
    ∃ c ∈ d.sections catalog canvas units, ∃ t ∈ c.texts d.spelling, w <:+: t

variable {d : Dialect}
variable {w : Text}
variable {catalog : Catalog}
variable {mode : Traversal}
variable {canvas : Canvas}
variable {units : List HandlerUnit}

/-- Emission in such a dialect gives quiet code, step by step. -/
theorem QuietAbout.keeps
    (hd : d.QuietAbout w)
    (catalog : Catalog) :
    (d.codeMeaning catalog).Keeps (fun _ => True) (Code.Quiet w) (Code.Quiet w) where
  action b _ _ := hd.action ⟨catalog, b⟩
  choice _ _ _ _ _ hyes hno := hd.choice _ _ _ hyes hno
  gate _ _ _ _ _ hdenied hallowed := hd.gate _ _ _ hdenied hallowed
  recovery _ _ _ _ hbody := hd.recovery _ _ hbody
  idle := hd.idle
  sequence _ _ hparts := hd.suite _ (.stack hparts)

/-- The sections of a program are quiet if its header is. -/
theorem QuietAbout.sections
    (hd : d.QuietAbout w)
    (hheader : (d.header canvas.types).Quiet w)
    (h : d.handlerUnits catalog mode canvas = .ok units) :
    ∀ c ∈ d.sections catalog canvas units, c.Quiet w := by
  have hunits := units_of_keeps (hd.keeps catalog) (fun _ _ => trivial) h
  unfold Dialect.sections
  intro c hc
  rw [List.mem_append, List.mem_cons, List.mem_singleton] at hc
  rcases hc with (rfl | hc) | rfl
  · exact hheader
  · refine forall_handlers (fun u hu tally => ?_) [] c hc
    have hu := hunits u hu
    refine hd.handler _ _ _ _ _ _ _ (fun hnil => (hu.body hnil).2) (fun sub hsub => ?_) hu.slash
    exact (List.forall₂_same.1 hu.subcommands sub hsub).body.2
  · exact hd.footer _

/-- A phrase occurs in a program with a quiet header if and only if a user's text has it. -/
theorem QuietAbout.infix_program_iff
    (hd : d.QuietAbout w)
    (hw : w.IsPhrase)
    (hspaced : IsSpaced d.spelling)
    (hseparator : ∃ n, d.sectionSeparator = List.replicate (n + 1) '\n')
    (hheader : (d.header canvas.types).Quiet w)
    {program : Text}
    (h : d.program catalog mode canvas = .ok program) :
    w <:+: program ↔ d.Spells catalog mode canvas w := by
  obtain ⟨units, hunits, rfl⟩ := exists_units h
  obtain ⟨width, hspaced⟩ := hspaced
  obtain ⟨n, hseparator⟩ := hseparator
  have hsections := hd.sections hheader hunits
  have hblank : ∀ c ∈ d.spelling.indentUnit, Text.isBlank c = true := by
    intro c hc
    rw [hspaced] at hc
    rw [List.eq_of_mem_replicate hc]
    decide
  have htexts : ∀ c ∈ d.sections catalog canvas units,
      w <:+: Text.stripEndChar '\n' (d.write c) ↔ ∃ t ∈ c.texts d.spelling, w <:+: t := by
    intro c hc
    rw [hw.infix_stripEndChar_iff]
    exact (hsections c hc).infix_write_iff hw hblank
  rw [hw.infix_append_lineFeed_iff, List.infix_nil, hseparator, hw.infix_join_iff]
  constructor
  · intro hin
    obtain ⟨part, hpart, hin⟩ := hin.resolve_right hw.ne_nil
    obtain ⟨c, hc, rfl⟩ := List.mem_map.1 hpart
    exact ⟨units, hunits, c, hc, (htexts c hc).1 hin⟩
  · rintro ⟨units', hunits', c, hc, ht⟩
    obtain rfl : units = units' := Except.ok.inj (hunits.symm.trans hunits')
    exact .inl ⟨_, List.mem_map_of_mem hc, (htexts c hc).2 ht⟩

end Dialect

end BotCanvas
