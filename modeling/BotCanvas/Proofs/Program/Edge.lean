import BotCanvas.Proofs.Program.Assembly
import BotCanvas.Proofs.Program.Rows

/-!
# The left edge of a program

A row is at the left edge if it begins with something else than a blank. What a language declares
for a whole program stands there. The edge of a stack is that of its parts, and nested code has
none, whatever the user's texts in it are (`Code.edge_stack`, `Code.edge_nest`).

**Programs.** The edge of a program is that of its sections, one after another
(`Dialect.edge_program`).
-/

namespace BotCanvas

namespace Text

/-- Tests for a row at the left edge. -/
def isAtEdge : Text → Bool
  | [] => false
  | c :: _ => !isBlank c

/-- The rows of a text at the left edge. -/
def edge (t : Text) : List Text :=
  (splitOn '\n' t).filter isAtEdge

/-- The rows of two texts are at the edge one after another. -/
theorem edge_append
    (a b : Text) :
    edge (a ++ '\n' :: b) = edge a ++ edge b := by
  rw [edge, splitOn_append, List.filter_append]
  rfl

/-- Line feeds at the end add no row at the edge. -/
theorem edge_append_lineFeeds
    (t : Text)
    (n : Nat) :
    edge (t ++ List.replicate n '\n') = edge t := by
  induction n with
  | zero => rw [List.replicate_zero, List.append_nil]
  | succ n ih =>
      have hend := edge_append (t ++ List.replicate n '\n') []
      rw [List.replicate_succ', ← List.append_assoc, hend, ih]
      exact List.append_nil _

/-- Nor does leaving them out drop one. -/
theorem edge_stripEndChar
    (t : Text) :
    edge (stripEndChar '\n' t) = edge t := by
  obtain ⟨n, hn⟩ := exists_stripEndChar_append '\n' t
  conv_rhs => rw [hn, edge_append_lineFeeds]

/-- The last of some line feeds ends the row in front of what follows. -/
theorem append_replicate
    (s : Text)
    (gap : Nat)
    (u : Text) :
    s ++ List.replicate (gap + 1) '\n' ++ u = (s ++ List.replicate gap '\n') ++ '\n' :: u := by
  simp [List.replicate_succ']

/-- What is joined in front of the last text has its edge in the rows in front of it. -/
theorem exists_splitOn_join
    (gap : Nat)
    (parts : List Text)
    (last : Text) :
    ∃ front, splitOn '\n' (join (List.replicate (gap + 1) '\n') (parts ++ [last])) =
        front ++ splitOn '\n' last ∧
      front.filter isAtEdge = parts.flatMap edge := by
  unfold join
  induction parts with
  | nil => exact ⟨[], by simp, rfl⟩
  | cons s rest ih =>
      obtain ⟨front, hrows, hedge⟩ := ih
      refine ⟨splitOn '\n' (s ++ List.replicate gap '\n') ++ front, ?_, ?_⟩
      · obtain ⟨t, others, hothers⟩ := List.exists_cons_of_ne_nil
          (l := rest ++ [last]) (by simp)
        rw [hothers] at hrows
        rw [List.cons_append, hothers, List.intercalate_cons_cons, append_replicate, splitOn_append,
          hrows, List.append_assoc]
      · have hs : (splitOn '\n' (s ++ List.replicate gap '\n')).filter isAtEdge = edge s :=
          edge_append_lineFeeds s gap
        rw [List.filter_append, hs, hedge, List.flatMap_cons]

/-- An indented row is empty or begins with a blank. -/
theorem indent_eq_nil_or_cons
    {n : Nat}
    (hn : 0 < n)
    (s : Text) :
    indent (List.replicate n ' ') s = [] ∨
      ∃ c r, indent (List.replicate n ' ') s = c :: r ∧ isBlank c = true := by
  obtain ⟨n, rfl⟩ := Nat.exists_eq_add_one.2 hn
  rw [indent_eq]
  unfold opening
  split
  · rename_i hblank
    cases s with
    | nil => exact .inl rfl
    | cons c r =>
        have hhead := head?_inner (List.replicate (n + 1) ' ') (c :: r)
        obtain ⟨t, ht⟩ := List.head?_eq_some_iff.1 hhead
        refine .inr ⟨c, t, ht, ?_⟩
        cases hbreak : isLineBreak c with
        | true => exact isBlank_of_isLineBreak hbreak
        | false =>
            rw [firstLine, List.takeWhile_cons_of_pos (by simp [hbreak]), List.all_cons,
              Bool.and_eq_true] at hblank
            exact hblank.1
  · exact .inr ⟨' ', _, rfl, by decide⟩

end Text

namespace Code

variable {sp : Spelling}

/-- The rows of code at the left edge. -/
def edge (sp : Spelling) (c : Code) : List Text :=
  Text.edge (c.write sp)

/-- The edge of a stack is that of its parts. -/
theorem edge_stack
    (parts : List Code) :
    edge sp (.stack parts) = parts.flatMap (edge sp) := by
  cases parts with
  | nil => rfl
  | cons c rest =>
      have hrows : Text.splitOn '\n' ((Code.stack (c :: rest)).write sp) =
          (c :: rest).flatMap (rows sp) := rows_stack (by simp)
      rw [edge, Text.edge, hrows, List.filter_flatMap]
      rfl

/-- Nested code has no edge. -/
theorem edge_nest
    {n : Nat}
    (hsp : sp.indentUnit = List.replicate (n + 1) ' ')
    (levels : Nat)
    (c : Code) :
    edge sp (.nest (levels + 1) c) = [] := by
  have hrows : Text.splitOn '\n' ((Code.nest (levels + 1) c).write sp) =
      (c.rows sp).map (Text.indent (List.replicate ((levels + 1) * (n + 1)) ' ')) :=
    rows_nest hsp (levels + 1) c
  rw [edge, Text.edge, hrows, List.filter_eq_nil_iff]
  intro row hrow
  obtain ⟨r, -, rfl⟩ := List.mem_map.1 hrow
  obtain hnil | ⟨d, rest, hcons, hd⟩ :=
    Text.indent_eq_nil_or_cons (Nat.mul_pos levels.succ_pos n.succ_pos) r
  · rw [hnil]
    exact Bool.false_ne_true
  · rw [hcons, Text.isAtEdge, hd]
    exact Bool.false_ne_true

/-- Pieces without line feeds are one row, which is at the edge or not. -/
theorem edge_line
    {pieces : List Piece}
    (h : ∀ x ∈ pieces, '\n' ∉ x.write sp) :
    edge sp (.line pieces) =
      if Text.isAtEdge (pieces.flatMap (Piece.write sp)) then [pieces.flatMap (Piece.write sp)]
      else [] := by
  have hrows : Text.splitOn '\n' ((Code.line pieces).write sp) =
      [pieces.flatMap (Piece.write sp)] := rows_line h
  rw [edge, Text.edge, hrows]
  exact List.filter_cons

end Code

namespace Dialect

variable {d : Dialect}
variable {catalog : Catalog}
variable {mode : Traversal}
variable {canvas : Canvas}
variable {program : Text}

/-- The rows of the footer come last in a program. The rows in front of them have the edge of the
header and of the handlers. -/
theorem exists_rows_program
    (gap : Nat)
    (hgap : d.sectionSeparator = List.replicate (gap + 1) '\n')
    (h : d.program catalog mode canvas = .ok program) :
    ∃ units front, d.handlerUnits catalog mode canvas = .ok units ∧
      Text.splitOn '\n' program = front ++
        (Text.splitOn '\n'
          (Text.stripEndChar '\n' (d.write (d.footer (commands catalog units)))) ++ [[]]) ∧
      front.filter Text.isAtEdge =
        (d.header canvas.types :: ((d.handlers catalog units).run []).1).flatMap
          (Code.edge d.spelling) := by
  obtain ⟨units, hunits, rfl⟩ := exists_units h
  have hsection : ∀ c : Code, Text.edge (Text.stripEndChar '\n' (d.write c)) =
      Code.edge d.spelling c := fun c => Text.edge_stripEndChar _
  obtain ⟨front, hrows, hedge⟩ := Text.exists_splitOn_join gap
    ((d.header canvas.types :: ((d.handlers catalog units).run []).1).map
      fun c => Text.stripEndChar '\n' (d.write c))
    (Text.stripEndChar '\n' (d.write (d.footer (commands catalog units))))
  refine ⟨units, front, hunits, ?_, ?_⟩
  · rw [sections, List.map_append, List.map_singleton, hgap, Text.splitOn_append, hrows,
      List.append_assoc]
    rfl
  · rw [hedge, List.flatMap_map]
    simp only [hsection]

/-- The edge of a program is that of its sections. -/
theorem edge_program
    (gap : Nat)
    (hgap : d.sectionSeparator = List.replicate (gap + 1) '\n')
    (h : d.program catalog mode canvas = .ok program) :
    ∃ units, d.handlerUnits catalog mode canvas = .ok units ∧
      Text.edge program = (d.sections catalog canvas units).flatMap (Code.edge d.spelling) := by
  obtain ⟨units, front, hunits, hrows, hedge⟩ := exists_rows_program gap hgap h
  have hfooter : (Text.splitOn '\n'
      (Text.stripEndChar '\n' (d.write (d.footer (commands catalog units))))).filter Text.isAtEdge =
        Code.edge d.spelling (d.footer (commands catalog units)) := Text.edge_stripEndChar _
  have hlast : [([] : Text)].filter Text.isAtEdge = [] := rfl
  refine ⟨units, hunits, ?_⟩
  rw [Text.edge, hrows, List.filter_append, List.filter_append, hedge, hfooter, hlast,
    List.append_nil, sections, List.flatMap_append, List.flatMap_singleton]

end Dialect

end BotCanvas
