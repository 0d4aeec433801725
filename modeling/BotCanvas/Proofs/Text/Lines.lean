import BotCanvas.Proofs.Text.Indent

/-!
# Lines of indented texts

A text is cut right behind each of its line ends, where a carriage return and the line feed behind it
are one end. There is one such cut (`lines_eq_iff`), so to know the lines of a text it is enough to
see that they are cut in this way.

Indentation moves the lines of a text and keeps their ends, so the lines of an indented text are
the moved lines (`lines_indent`), and indentation twice is indentation by both leads
(`indent_indent_of_unbroken`).
-/

namespace BotCanvas.Text

/-- What ends a line: a character that ends a line, or a carriage return with its line feed. -/
def IsLineEnd (e : Text) : Prop :=
  e = ['\r', '\n'] ∨ ∃ c, isLineBreak c = true ∧ e = [c]

/-- Lines that are cut right behind every line end. Only the last one may be unfinished, and then it
is not empty. A carriage return on its own is not followed by a line feed on its own. -/
inductive IsCut : List Line → Prop
  | nil : IsCut []
  | last
      {body : Text} :
      body ≠ [] →
      (∀ c ∈ body, isLineBreak c = false) →
      IsCut [⟨body, []⟩]
  | cons
      {body ending : Text}
      {rest : List Line} :
      (∀ c ∈ body, isLineBreak c = false) →
      IsLineEnd ending →
      (ending = ['\r'] → ∀ l ∈ rest.head?, l ≠ ⟨[], ['\n']⟩) →
      IsCut rest →
      IsCut (⟨body, ending⟩ :: rest)

/-- Lines hold no line ends. -/
theorem IsCut.unbroken
    {ls : List Line}
    (h : IsCut ls) :
    ∀ l ∈ ls, ∀ c ∈ l.body, isLineBreak c = false := by
  induction h with
  | nil => exact fun l hl => absurd hl List.not_mem_nil
  | last hne hunbroken => exact List.forall_mem_singleton.2 hunbroken
  | cons hunbroken hending hpair hrest ih => exact List.forall_mem_cons.2 ⟨hunbroken, ih⟩

/-- The first of the lines that begin with a line feed holds nothing else. -/
theorem IsCut.eq_of_head?_flatMap
    {ls : List Line}
    (h : IsCut ls)
    (hhead : (ls.flatMap Line.full).head? = some '\n') :
    ls.head? = some ⟨[], ['\n']⟩ := by
  have hbreak : isLineBreak '\n' = true := by decide
  have hbody : ∀ {body : Text} (r : Text), (∀ c ∈ body, isLineBreak c = false) →
      (body ++ r).head? = some '\n' → body = [] := by
    intro body r hbody hhead
    cases body with
    | nil => rfl
    | cons c body =>
        obtain rfl : c = '\n' := by simpa using hhead
        exact absurd (hbody '\n' (by simp)) (by simp [hbreak])
  cases h with
  | nil => cases hhead
  | last hne hunbroken =>
      exact absurd (hbody [] hunbroken (by simpa [Line.full] using hhead)) hne
  | @cons body ending rest hunbroken hending hpair hrest =>
      rw [List.flatMap_cons, Line.full, List.append_assoc] at hhead
      obtain rfl := hbody _ hunbroken hhead
      rcases hending with rfl | ⟨c, -, rfl⟩
      · cases hhead
      · obtain rfl : c = '\n' := by simpa using hhead
        rfl

/-- A character that ends no line belongs to the first line. -/
theorem lines_cons
    {c : Char}
    (hc : isLineBreak c = false)
    (r : Text) :
    lines (c :: r) = match lines r with
      | [] => [⟨[c], []⟩]
      | l :: ls => ⟨c :: l.body, l.ending⟩ :: ls := by
  rw [lines]
  · rw [hc]
    rfl
  · rintro t rfl -
    cases hc

/-- A line end in front of a text makes a line of its own. -/
theorem lines_append_of_isLineEnd
    {e : Text}
    (he : IsLineEnd e)
    {r : Text}
    (hr : e = ['\r'] → r.head? ≠ some '\n') :
    lines (e ++ r) = ⟨[], e⟩ :: lines r := by
  rcases he with rfl | ⟨c, hc, rfl⟩
  · rw [List.cons_append, List.cons_append, List.nil_append, lines]
  · rw [List.singleton_append, lines, if_pos hc]
    rintro t rfl rfl
    exact hr rfl rfl

/-- What stands before the first line and ends no line belongs to that line. -/
theorem lines_append_of_unbroken
    {a : Text}
    (ha : ∀ c ∈ a, isLineBreak c = false)
    {r : Text}
    {l : Line}
    {ls : List Line}
    (hr : lines r = l :: ls) :
    lines (a ++ r) = ⟨a ++ l.body, l.ending⟩ :: ls := by
  induction a with
  | nil => exact hr
  | cons c a ih =>
      rw [List.forall_mem_cons] at ha
      rw [List.cons_append, lines_cons ha.1, ih ha.2]
      rfl

/-- A text without line ends is an unfinished line. -/
theorem lines_of_unbroken
    {a : Text}
    (hne : a ≠ [])
    (ha : ∀ c ∈ a, isLineBreak c = false) :
    lines a = [⟨a, []⟩] := by
  rw [← List.dropLast_concat_getLast hne]
  have hlast : isLineBreak (a.getLast hne) = false := ha _ (List.getLast_mem hne)
  exact lines_append_of_unbroken (fun c hc => ha c (List.dropLast_subset a hc))
    (lines_cons hlast [])

/-- What is cut behind every line end is cut into its lines. -/
theorem IsCut.lines_flatMap
    {ls : List Line}
    (h : IsCut ls) :
    lines (ls.flatMap Line.full) = ls := by
  induction h with
  | nil => rfl
  | @last body hne hunbroken =>
      rw [List.flatMap_singleton, Line.full, List.append_nil]
      exact lines_of_unbroken hne hunbroken
  | @cons body ending rest hunbroken hending hpair hrest ih =>
      have hnext : ending = ['\r'] → (rest.flatMap Line.full).head? ≠ some '\n' :=
        fun hcar hhead => hpair hcar _ (hrest.eq_of_head?_flatMap hhead) rfl
      have hend := lines_append_of_isLineEnd hending hnext
      rw [ih] at hend
      rw [List.flatMap_cons, Line.full, List.append_assoc]
      exact (lines_append_of_unbroken hunbroken hend).trans (by rw [List.append_nil])

/-- The lines of a text are cut behind every line end. -/
theorem isCut_lines
    (s : Text) :
    IsCut (lines s) := by
  fun_induction lines s with
  | case1 => exact .nil
  | case2 r ih => exact .cons (by simp) (.inl rfl) (by simp) ih
  | case3 c r hcr hc ih =>
      refine .cons (by simp) (.inr ⟨c, hc, rfl⟩) ?_ ih
      rintro hcar l hl rfl
      obtain ⟨ls, hls⟩ := List.head?_eq_some_iff.1 hl
      refine hcr (ls.flatMap Line.full) (List.singleton_inj.1 hcar) ?_
      rw [← flatMap_full_lines r, hls]
      rfl
  | case4 c r hcr hc hr ih => exact .last (by simp) (by simpa using hc)
  | case5 c r hcr hc l ls hr ih =>
      rw [hr] at ih
      have hcons : ∀ {body : Text}, (∀ d ∈ body, isLineBreak d = false) →
          ∀ d ∈ c :: body, isLineBreak d = false := fun hbody =>
        List.forall_mem_cons.2 ⟨by simpa using hc, hbody⟩
      cases ih with
      | last hne hunbroken => exact .last (by simp) (hcons hunbroken)
      | cons hunbroken hending hpair hrest => exact .cons (hcons hunbroken) hending hpair hrest

/-- The lines of a text are its only cut behind every line end. -/
theorem lines_eq_iff
    {s : Text}
    {ls : List Line} :
    lines s = ls ↔ IsCut ls ∧ ls.flatMap Line.full = s := by
  constructor
  · rintro rfl
    exact ⟨isCut_lines s, flatMap_full_lines s⟩
  · rintro ⟨hcut, rfl⟩
    exact hcut.lines_flatMap

/-! ## Moved lines -/

namespace Line

/-- A line that is moved by a lead, unless it is blank. Its end stays as it is. -/
def moved (lead : Text) (l : Line) : Line :=
  ⟨if l.isBlankLine then l.body else lead ++ l.body, l.ending⟩

/-- A moved line is a line of indentation. -/
theorem full_moved
    (lead : Text)
    (l : Line) :
    (l.moved lead).full = indentLine lead l := by
  unfold moved indentLine
  split
  · rfl
  · exact List.append_assoc _ _ _

/-- A line is moved twice as by both leads. -/
theorem moved_moved
    (lead lead' : Text)
    (l : Line) :
    (l.moved lead).moved lead' = l.moved (lead' ++ lead) := by
  cases hblank : l.body.all isBlank with
  | true => simp [moved, isBlankLine, hblank]
  | false => simp [moved, isBlankLine, hblank, List.all_append]

variable {lead : Text}
variable {l : Line}

/-- No line end comes in by moving. -/
theorem unbroken_moved
    (hlead : ∀ c ∈ lead, isLineBreak c = false)
    (hl : ∀ c ∈ l.body, isLineBreak c = false) :
    ∀ c ∈ (l.moved lead).body, isLineBreak c = false := by
  unfold moved
  split
  · exact hl
  · exact List.forall_mem_append.2 ⟨hlead, hl⟩

/-- Only an empty line is moved to an empty line. -/
theorem body_eq_nil_of_moved
    (h : (l.moved lead).body = []) :
    l.body = [] := by
  unfold moved at h
  split at h
  · exact h
  · exact (List.append_eq_nil_iff.1 h).2

end Line

/-- Moved lines are cut as before, if the lead ends no line. -/
theorem IsCut.map_moved
    {lead : Text}
    (hlead : ∀ c ∈ lead, isLineBreak c = false)
    {ls : List Line}
    (h : IsCut ls) :
    IsCut (ls.map (Line.moved lead)) := by
  induction h with
  | nil => exact .nil
  | last hne hunbroken =>
      exact .last (fun hnil => hne (Line.body_eq_nil_of_moved hnil))
        (Line.unbroken_moved hlead hunbroken)
  | @cons body ending rest hunbroken hend hpair hrest ih =>
      refine .cons (Line.unbroken_moved hlead hunbroken) hend (fun hcar l' hl' heq => ?_) ih
      rw [List.head?_map] at hl'
      obtain ⟨l, hl, rfl⟩ := Option.map_eq_some_iff.1 hl'
      have hbody : l.body = [] := Line.body_eq_nil_of_moved (congrArg Line.body heq)
      have hending : l.ending = ['\n'] := congrArg Line.ending heq
      exact hpair hcar l hl (congrArg₂ Line.mk hbody hending)

/-- The lines of an indented text are the moved lines of the text, if the lead ends no line. -/
theorem lines_indent
    {lead : Text}
    (hlead : ∀ c ∈ lead, isLineBreak c = false)
    (s : Text) :
    lines (indent lead s) = (lines s).map (Line.moved lead) := by
  refine lines_eq_iff.2 ⟨(isCut_lines s).map_moved hlead, ?_⟩
  rw [indent_eq_flatMap, List.flatMap_map]
  exact List.flatMap_congr fun l _ => Line.full_moved lead l

/-- Indentation twice is indentation by both leads, if the inner one ends no line. -/
theorem indent_indent_of_unbroken
    {lead : Text}
    (hlead : ∀ c ∈ lead, isLineBreak c = false)
    (lead' s : Text) :
    indent lead' (indent lead s) = indent (lead' ++ lead) s := by
  rw [indent_eq_flatMap, lines_indent hlead, List.flatMap_map, indent_eq_flatMap]
  refine List.flatMap_congr fun l _ => ?_
  rw [← Line.full_moved, Line.moved_moved, Line.full_moved]

end BotCanvas.Text
