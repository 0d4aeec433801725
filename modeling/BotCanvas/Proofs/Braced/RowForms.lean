import BotCanvas.Proofs.Braced.FirstWords
import BotCanvas.Proofs.Program.Shapes

/-!
# Rows read by their forms

Statements begin their rows with words of the program and with names that it gave out, whatever the
user's texts behind them are. So the form of a line tells which of its names are declared or assigned
to, by the places of their pieces (`formRows`), and a line does what its form says
(`codeEffects_line`).
-/

namespace BotCanvas.Braced

open Text (IsVariable)

/-! ## Marks -/

/-- A character of the program, or the place of another text: of a name, or of any other. -/
inductive Mark (α : Type)
  | char (c : Char)
  | name (a : α)
  | text (a : α)

namespace Mark

variable {α : Type}

/-- What a mark is written as, with given texts in the places. -/
def write (f : α → Text) : Mark α → Text
  | char c => [c]
  | name a => f a
  | text a => f a

/-- Tests for a space. -/
def isSpace : Mark α → Bool
  | char c => c == ' '
  | _ => false

/-- Tests for the end of a row. -/
def isLineFeed : Mark α → Bool
  | char c => c == '\n'
  | _ => false

/-- The rows of a line. -/
def rows (line : List (Mark α)) : List (List (Mark α)) :=
  line.splitOnP isLineFeed

/-- What follows given characters, if a row begins with them. -/
def dropChars : Text → List (Mark α) → Option (List (Mark α))
  | [], row => some row
  | c :: s, .char d :: row => if c = d then dropChars s row else none
  | _ :: _, _ => none

/-- The word that a row begins with, and what follows it. -/
def firstWord : List (Mark α) → Text × List (Mark α)
  | .char c :: row =>
      if Text.isWord c then
        match firstWord row with
        | (word, rest) => (c :: word, rest)
      else ([], .char c :: row)
  | row => ([], row)

/-- Tests for a row that ends with a character of the program other than an opening brace. -/
def endsPlain (row : List (Mark α)) : Bool :=
  match row.getLast? with
  | some (.char c) => c != '\x7b'
  | _ => false

end Mark

/-- What the beginning of a row tells. -/
inductive RowForm (α : Type)
  /-- Nothing is bound. -/
  | quiet
  /-- A name is bound. -/
  | bound (keyword : Keyword) (a : α)
  /-- Nothing is bound if a path stands in the given place. -/
  | path (a : α)
  deriving DecidableEq

namespace RowForm

variable {α β : Type}

/-- The same form with another text in its place. -/
def map (f : α → β) : RowForm α → RowForm β
  | quiet => .quiet
  | bound keyword a => .bound keyword (f a)
  | path a => .path (f a)

/-- Tests for a form in which nothing is bound, whatever is put into the row. -/
def isQuiet : RowForm α → Bool
  | quiet => true
  | _ => false

/-- The text in the place of a form suits it. -/
def Fits : RowForm Text → Prop
  | quiet => True
  | bound keyword name => keyword.Suits name
  | path t => IsPath t

@[simp] theorem fits_constant
    (f : α → Text)
    (a : α) :
    ((bound .constant a).map f).Fits ↔ IsVariable (f a) :=
  Iff.rfl

@[simp] theorem fits_variable
    (f : α → Text)
    (a : α) :
    ((bound .var a).map f).Fits ↔ IsVariable (f a) :=
  Iff.rfl

@[simp] theorem fits_assignment
    (f : α → Text)
    (a : α) :
    ((bound .assignment a).map f).Fits ↔ IsVariable (f a) ∧ f a ∉ declarators :=
  Iff.rfl

@[simp] theorem fits_path
    (f : α → Text)
    (a : α) :
    ((path a).map f).Fits ↔ IsPath (f a) :=
  Iff.rfl

/-- What a row of a form does. -/
def effects : RowForm Text → List (Effect Binding)
  | bound keyword name => [.item (keyword.bind name)]
  | _ => []

end RowForm

section Forms

variable {α : Type}

/-- What the word that a row begins with and what follows the space behind it tell. -/
def spacedForm? (word : Text) : List (Mark α) → Option (RowForm α)
  | .name a :: rest =>
      if word = "const".toList then (Mark.dropChars " = " rest).map fun _ => .bound .constant a
      else if word = "let".toList then
        (Mark.dropChars " = " rest).map fun _ => .bound .var a
      else if word = [] then none
      else some (.path a)
  | .char d :: _ => if word = [] ∨ word ∈ declarators ∨ d = '=' then none else some .quiet
  | _ => none

/-- What the word that a row begins with and what follows it tell. -/
def wordForm? (word : Text) : List (Mark α) → Option (RowForm α)
  | .char c :: rest =>
      if c = ' ' then spacedForm? word rest
      else if word = [] ∧ (c = '\x7d' ∨ c = '/' ∨ Text.isBlank c = true) then none
      else some .quiet
  | _ => none

/-- What a row without spaces in front of it tells. -/
def statementForm? (row : List (Mark α)) : Option (RowForm α) :=
  match Mark.dropChars "//" row with
  | some _ => some .quiet
  | none =>
      if Mark.endsPlain row then
        match row with
        | .name a :: rest =>
            match Mark.dropChars " = " rest with
            | some _ => some (.bound .assignment a)
            | none => (Mark.dropChars "." rest).map fun _ => .path a
        | _ => wordForm? (Mark.firstWord row).1 (Mark.firstWord row).2
      else none

/-- What a row tells. -/
def rowForm? (row : List (Mark α)) : Option (RowForm α) :=
  statementForm? (row.dropWhile Mark.isSpace)

end Forms

/-! ## What the forms say -/

section Writing

variable {α : Type}
variable {f : α → Text}

/-- What marks are written as, with given texts in the places. -/
def writeMarks (f : α → Text) (row : List (Mark α)) : Text :=
  row.flatMap (Mark.write f)

/-- Characters in front of a row. -/
theorem writeMarks_of_dropChars
    {s : Text}
    {row rest : List (Mark α)}
    (h : Mark.dropChars s row = some rest) :
    writeMarks f row = s ++ writeMarks f rest := by
  induction s generalizing row with
  | nil =>
      cases h
      rfl
  | cons c s ih =>
      cases row with
      | nil => cases h
      | cons x row =>
          cases x with
          | char d =>
              rw [Mark.dropChars] at h
              split at h
              · rename_i hcd
                rw [writeMarks, List.flatMap_cons, hcd]
                exact congrArg (d :: ·) (ih h)
              · cases h
          | name a => cases h
          | text a => cases h

/-- Characters behind a name. -/
theorem writeMarks_name
    {s : Text}
    {name : α}
    {row rest : List (Mark α)}
    (h : Mark.dropChars s row = some rest) :
    writeMarks f (.name name :: row) = f name ++ (s ++ writeMarks f rest) :=
  congrArg (f name ++ ·) (writeMarks_of_dropChars h)

/-- The first word of a row. -/
theorem firstWord_spec
    (row : List (Mark α)) :
    (∀ c ∈ (Mark.firstWord row).1, Text.isWord c = true) ∧
      writeMarks f row = (Mark.firstWord row).1 ++ writeMarks f (Mark.firstWord row).2 ∧
      ∀ c rest, (Mark.firstWord row).2 = .char c :: rest → Text.isWord c = false := by
  induction row with
  | nil => exact ⟨by simp [Mark.firstWord], rfl, by simp [Mark.firstWord]⟩
  | cons x row ih =>
      cases x with
      | char d =>
          obtain ⟨hword, hwrite, hrest⟩ := ih
          rw [Mark.firstWord]
          split
          · rename_i hd
            refine ⟨List.forall_mem_cons.2 ⟨hd, hword⟩, ?_, hrest⟩
            rw [writeMarks, List.flatMap_cons]
            exact congrArg (d :: ·) hwrite
          · rename_i hd
            refine ⟨by simp, rfl, ?_⟩
            intro c rest h
            cases h
            simpa using hd
      | name a => exact ⟨by simp [Mark.firstWord], rfl, by simp [Mark.firstWord]⟩
      | text a => exact ⟨by simp [Mark.firstWord], rfl, by simp [Mark.firstWord]⟩

/-- The end of a row. -/
theorem getLast?_writeMarks
    {row : List (Mark α)}
    (h : Mark.endsPlain row = true) :
    (writeMarks f row).getLast? ≠ some '\x7b' := by
  unfold Mark.endsPlain at h
  split at h
  · rename_i c hlast
    obtain ⟨front, rfl⟩ := List.getLast?_eq_some_iff.1 hlast
    rw [writeMarks, List.flatMap_append, List.flatMap_singleton, Mark.write,
      List.getLast?_append, List.getLast?_singleton, Option.some_or]
    simpa using h
  · cases h

/-- A row that neither ends a block nor is a remark nor opens a block does what it does with a
name. -/
theorem statementEffects_eq
    {c : Char}
    {t : Text}
    (hc : c ≠ '\x7d' ∧ c ≠ '/')
    (hlast : (c :: t).getLast? ≠ some '\x7b') :
    statementEffects (c :: t) = (binding? (Text.firstLine (c :: t))).toList.map .item := by
  have hremark : ¬"//".toList <+: Text.firstLine (c :: t) := by
    intro h
    have hprefix := h.trans (List.takeWhile_prefix _)
    rw [show "//".toList = ['/', '/'] from rfl, List.cons_prefix_cons] at hprefix
    exact hc.2 hprefix.1.symm
  have hclose : (c :: t).head? ≠ some '\x7d' := fun h => hc.1 (Option.some.inj h)
  rw [statementEffects, if_neg hremark, if_neg hclose, if_neg hlast, List.nil_append,
    List.append_nil]

/-- A first word ends no line. -/
theorem firstLine_word_append
    {w : Text}
    (hw : ∀ c ∈ w, Text.isWord c = true)
    (r : Text) :
    Text.firstLine (w ++ r) = w ++ Text.firstLine r :=
  Text.firstLine_append_of_unbroken
    (fun c hc => Text.isLineBreak_of_not_isBlank (Text.not_isBlank_of_class (.inl (hw c hc)))) r

/-- A word of the program that ends no line goes in front of the first line. -/
theorem firstLine_append
    {s : String}
    (hs : (s.toList.all fun c => !Text.isLineBreak c) = true)
    (r : Text) :
    Text.firstLine (s.toList ++ r) = s.toList ++ Text.firstLine r :=
  Text.firstLine_append_of_unbroken (Text.unbroken_of_all hs) r

/-- A character that is no line end goes in front of the first line. -/
theorem firstLine_cons
    {c : Char}
    (hc : Text.isLineBreak c = false)
    (r : Text) :
    Text.firstLine (c :: r) = c :: Text.firstLine r :=
  Text.firstLine_append_of_unbroken (by simpa using hc : ∀ d ∈ [c], Text.isLineBreak d = false) r

/-- The text behind a first word decides whether a row does something with a name. -/
theorem binding?_word_append
    {w : Text}
    (hw : ∀ c ∈ w, Text.isWord c = true)
    {c : Char}
    (hc : Text.isWord c = false)
    {r : Text}
    (hassign : ¬" = ".toList <+: c :: r)
    (hword : w ∉ declarators ∨ c ≠ ' ') :
    binding? (Text.firstLine (w ++ c :: r)) = none := by
  rw [firstLine_word_append hw]
  cases hbreak : Text.isLineBreak c with
  | true =>
      have hend : Text.firstLine (c :: r) = [] :=
        List.takeWhile_cons_of_neg (by simp [hbreak])
      have hdrop : w.dropWhile Text.isWord = [] := List.dropWhile_eq_nil_iff.2 hw
      rw [hend, List.append_nil]
      refine binding?_eq_none ?_ (.inr ?_)
      · rw [hdrop]
        decide
      · rw [hdrop]
        decide
  | false =>
      have htake := Text.takeWhile_isWord_append hw hc (Text.firstLine r)
      have hdrop := Text.dropWhile_isWord_append hw hc (Text.firstLine r)
      rw [firstLine_cons hbreak]
      refine binding?_eq_none ?_ ?_
      · rw [hdrop, ← firstLine_cons hbreak]
        exact fun h => hassign (h.trans (List.takeWhile_prefix _))
      · rw [htake, hdrop]
        exact hword.imp_right fun hne heq => hne (Option.some.inj heq)

/-- What a statement whose beginning has a form does. -/
def Does (t : Text) (form : RowForm Text) : Prop :=
  t.head?.any Text.isBlank = false ∧
    (t.getLast? ≠ some '\x7b' → statementEffects t = form.effects)

/-- A row with a first word does what it does with a name. -/
theorem Does.ofBinding
    {t : Text}
    {form : RowForm Text}
    {c : Char}
    {r : Text}
    (ht : t = c :: r)
    (hc : c ≠ '\x7d' ∧ c ≠ '/' ∧ Text.isBlank c = false)
    (h : (binding? (Text.firstLine t)).toList.map .item = form.effects) :
    Does t form := by
  subst ht
  refine ⟨by simpa using hc.2.2, fun hlast => ?_⟩
  rw [statementEffects_eq ⟨hc.1, hc.2.1⟩ hlast]
  exact h

/-- Word characters are no marks. -/
theorem isPlain_of_isWord
    {c : Char}
    (h : Text.isWord c = true) :
    c ≠ '\x7d' ∧ c ≠ '/' ∧ Text.isBlank c = false := by
  refine ⟨?_, ?_, Text.not_isBlank_of_class (.inl h)⟩
  · rintro rfl
    exact absurd h (by decide)
  · rintro rfl
    exact absurd h (by decide)

/-- A row whose first word is followed by something else than an assignment binds nothing. -/
theorem Does.ofWord
    {w : Text}
    (hw : ∀ c ∈ w, Text.isWord c = true)
    {c : Char}
    (hc : Text.isWord c = false)
    (hplain : w = [] → c ≠ '\x7d' ∧ c ≠ '/' ∧ Text.isBlank c = false)
    {r : Text}
    (hassign : ¬" = ".toList <+: c :: r)
    (hword : w ∉ declarators ∨ c ≠ ' ')
    {form : RowForm Text}
    (hform : form.effects = []) :
    Does (w ++ c :: r) form := by
  have hnone := binding?_word_append hw hc hassign hword
  have heffects :
      (binding? (Text.firstLine (w ++ c :: r))).toList.map Effect.item = form.effects := by
    rw [hnone, hform]
    rfl
  cases w with
  | nil => exact .ofBinding rfl (hplain rfl) heffects
  | cons d w => exact .ofBinding rfl (isPlain_of_isWord (hw d (by simp))) heffects

/-- What stands behind a name that is bound. -/
theorem firstLine_bound
    {name : Text}
    (hname : IsVariable name)
    (r : Text) :
    Text.firstLine (name ++ (" = ".toList ++ r)) = name ++ (" = ".toList ++ Text.firstLine r) := by
  rw [firstLine_word_append hname.2,
    firstLine_append (s := " = ") (by decide)]

/-- A row that declares a constant. -/
theorem Does.constant
    {name : Text}
    (hname : IsVariable name)
    (r : Text) :
    Does ("const ".toList ++ (name ++ (" = ".toList ++ r))) (.bound .constant name) := by
  refine .ofBinding (c := 'c') rfl (by decide) ?_
  rw [firstLine_append (s := "const ") (by decide),
    firstLine_bound hname, binding?_constant hname]
  rfl

/-- A row that declares a variable. -/
theorem Does.var
    {name : Text}
    (hname : IsVariable name)
    (r : Text) :
    Does ("let ".toList ++ (name ++ (" = ".toList ++ r))) (.bound .var name) := by
  refine .ofBinding (c := 'l') rfl (by decide) ?_
  rw [firstLine_append (s := "let ") (by decide),
    firstLine_bound hname, binding?_variable hname]
  rfl

/-- A row that assigns to a variable. -/
theorem Does.assignment
    {name : Text}
    (hname : Keyword.assignment.Suits name)
    (r : Text) :
    Does (name ++ (" = ".toList ++ r)) (.bound .assignment name) := by
  obtain ⟨c, rest, hcons⟩ := List.exists_cons_of_ne_nil hname.1.1
  have hc : Text.isWord c = true := hname.1.2 c (by simp [hcons])
  refine .ofBinding (c := c) (r := rest ++ (" = ".toList ++ r)) (by rw [hcons]; rfl)
    (isPlain_of_isWord hc) ?_
  rw [firstLine_bound hname.1, binding?_assignment hname]
  rfl

/-- A row that goes on with a dot behind a path. -/
theorem Does.path
    {t : Text}
    (ht : IsPath t)
    (r : Text) :
    Does (t ++ (".".toList ++ r)) (.path t) := by
  obtain ⟨rest, hrest⟩ :
      ∃ rest, t ++ (".".toList ++ r) = t.takeWhile (· != '.') ++ '.' :: rest := by
    have hsplit := List.takeWhile_append_dropWhile (p := fun c => c != '.') (l := t)
    cases hdrop : t.dropWhile (· != '.') with
    | nil =>
        rw [hdrop, List.append_nil] at hsplit
        exact ⟨r, by rw [hsplit]; rfl⟩
    | cons d others =>
        have hd := List.head_dropWhile_not (fun c => c != '.') (l := t) (by simp [hdrop])
        simp only [hdrop, List.head_cons, bne_eq_false_iff_eq] at hd
        refine ⟨others ++ '.' :: r, ?_⟩
        conv_lhs => rw [← hsplit, hdrop, hd]
        rw [List.append_assoc]
        rfl
  rw [hrest]
  refine .ofWord ht.2 (by decide) (fun hnil => absurd hnil ht.1) ?_ (.inr (by decide)) rfl
  intro h
  exact absurd (List.cons_prefix_cons.1 h).1 (by decide)

/-- A row with a word and a path behind it. -/
theorem Does.wordPath
    {w t : Text}
    (hw : ∀ c ∈ w, Text.isWord c = true)
    (hne : w ≠ [])
    (hword : w ∉ declarators)
    (ht : IsPath t)
    (r : Text) :
    Does (w ++ ' ' :: (t ++ r)) (.path t) := by
  refine .ofWord hw (by decide) (fun hnil => absurd hnil hne) ?_ (.inl hword) rfl
  intro h
  have hhead : "= ".toList <+: t ++ r := (List.cons_prefix_cons.1 h).2
  obtain ⟨c, rest, hcons⟩ := List.exists_cons_of_ne_nil ht.1
  obtain ⟨u, hu⟩ := List.takeWhile_prefix (l := t) fun c => c != '.'
  have hc : Text.isWord c = true := ht.2 c (by rw [hcons]; simp)
  rw [← hu, hcons, List.cons_append, List.cons_append] at hhead
  have hequals : '=' = c := (List.cons_prefix_cons.1 hhead).1
  rw [← hequals] at hc
  exact absurd hc (by decide)

/-- What follows the space behind the first word of a row tells what the row does. -/
theorem Does.ofSpacedForm
    {w : Text}
    (hw : ∀ c ∈ w, Text.isWord c = true)
    {rest : List (Mark α)}
    {form : RowForm α}
    (h : spacedForm? w rest = some form)
    (hfits : (form.map f).Fits) :
    Does (w ++ ' ' :: writeMarks f rest) (form.map f) := by
  unfold spacedForm? at h
  split at h
  · rename_i name behind
    split_ifs at h with hconst hlet hnil
    · obtain ⟨r, hr, rfl⟩ := Option.map_eq_some_iff.1 h
      rw [hconst, writeMarks_name hr]
      exact .constant hfits _
    · obtain ⟨r, hr, rfl⟩ := Option.map_eq_some_iff.1 h
      rw [hlet, writeMarks_name hr]
      exact .var hfits _
    · cases h
      have hdeclarators : w ∉ declarators := fun h =>
        (List.mem_cons.1 h).elim hconst fun h => hlet (List.mem_singleton.1 h)
      exact .wordPath hw hnil hdeclarators hfits (writeMarks f behind)
  · rename_i d behind
    split_ifs at h with hbad
    obtain ⟨hnil, hdeclarators, hd⟩ : w ≠ [] ∧ w ∉ declarators ∧ d ≠ '=' := by
      simpa only [not_or] using hbad
    cases h
    refine .ofWord hw (by decide) (fun h => absurd h hnil) (r := d :: writeMarks f behind) ?_
      (.inl hdeclarators) rfl
    intro hassign
    exact hd (List.cons_prefix_cons.1 (List.cons_prefix_cons.1 hassign).2).1.symm
  · cases h

/-- What follows the first word of a row tells what the row does. -/
theorem Does.ofWordForm
    {w : Text}
    (hw : ∀ c ∈ w, Text.isWord c = true)
    {rest : List (Mark α)}
    (hstop : ∀ c others, rest = .char c :: others → Text.isWord c = false)
    {form : RowForm α}
    (h : wordForm? w rest = some form)
    (hfits : (form.map f).Fits) :
    Does (w ++ writeMarks f rest) (form.map f) := by
  unfold wordForm? at h
  split at h
  · rename_i c others
    have hc : Text.isWord c = false := hstop c others rfl
    split_ifs at h with hspace hplain
    · subst hspace
      exact .ofSpacedForm hw h hfits
    · cases h
      refine .ofWord hw hc (fun hnil => ?_) (r := writeMarks f others) ?_ (.inr hspace) rfl
      · simpa only [hnil, true_and, not_or, Bool.not_eq_true] using hplain
      · exact fun hassign => hspace (List.cons_prefix_cons.1 hassign).1.symm
  · cases h

/-- A statement does what its form says. -/
theorem Does.ofStatementForm
    {row : List (Mark α)}
    {form : RowForm α}
    (h : statementForm? row = some form)
    (hfits : (form.map f).Fits) :
    (writeMarks f row).head?.any Text.isBlank = false ∧
      statementEffects (writeMarks f row) = (form.map f).effects := by
  unfold statementForm? at h
  split at h
  · rename_i rest hremark
    cases h
    have hwrite : writeMarks f row = "//".toList ++ writeMarks f rest :=
      writeMarks_of_dropChars hremark
    have hprefix : "//".toList <+: Text.firstLine ("//".toList ++ writeMarks f rest) := by
      rw [firstLine_append (s := "//") (by decide)]
      exact List.prefix_append _ _
    rw [hwrite, statementEffects, if_pos hprefix]
    exact ⟨rfl, rfl⟩
  · split_ifs at h with hend
    suffices hdoes : Does (writeMarks f row) (form.map f) from
      ⟨hdoes.1, hdoes.2 (getLast?_writeMarks hend)⟩
    split at h
    · rename_i name behind _
      split at h
      · rename_i r hr
        cases h
        rw [writeMarks_name hr]
        exact .assignment hfits _
      · obtain ⟨r, hr, rfl⟩ := Option.map_eq_some_iff.1 h
        rw [writeMarks_name hr]
        exact .path hfits _
    · obtain ⟨hword, hwrite, hstop⟩ := firstWord_spec row
      rw [hwrite]
      exact .ofWordForm hword hstop h hfits

/-- The blanks in front of a row are its spaces, if no blank follows them. -/
theorem dropWhile_writeMarks
    {row : List (Mark α)}
    (h : (writeMarks f (row.dropWhile Mark.isSpace)).head?.any Text.isBlank = false) :
    (writeMarks f row).dropWhile Text.isBlank = writeMarks f (row.dropWhile Mark.isSpace) := by
  induction row with
  | nil => rfl
  | cons x row ih =>
      cases hx : Mark.isSpace x with
      | true =>
          rw [List.dropWhile_cons_of_pos hx] at h ⊢
          obtain rfl : x = .char ' ' := by
            cases x with
            | char c => rw [beq_iff_eq.1 hx]
            | name a => cases hx
            | text a => cases hx
          rw [← ih h]
          exact List.dropWhile_cons_of_pos (by decide)
      | false =>
          rw [List.dropWhile_cons_of_neg (by simp [hx])] at h ⊢
          cases hwrite : writeMarks f (x :: row) with
          | nil => rfl
          | cons c rest =>
              rw [hwrite] at h
              exact List.dropWhile_cons_of_neg (by simpa using h)

/-- A row does what its form says. -/
theorem rowEffects_writeMarks
    {row : List (Mark α)}
    {form : RowForm α}
    (h : rowForm? row = some form)
    (hfits : (form.map f).Fits) :
    rowEffects (writeMarks f row) = (form.map f).effects := by
  obtain ⟨hhead, heffects⟩ := Does.ofStatementForm h hfits
  rw [rowEffects, dropWhile_writeMarks hhead, heffects]

end Writing

/-! ## Lines -/

/-- The marks of a slot in a given place of a line. -/
def slotMarks (i : Nat) : Slot → List (Mark Nat)
  | .code s => (Text.asciiChars s).map .char
  | .name => [.name i]
  | _ => [.text i]

/-- The marks of a form, with the numbers of its pieces in their places. -/
def formMarks (form : List Slot) : List (Mark Nat) :=
  form.zipIdx.flatMap fun (slot, i) => slotMarks i slot

/-- What the rows of a form tell, without those that tell nothing. -/
def formRows (form : List Slot) : Option (List (RowForm Nat)) :=
  if form.all Slot.isReadable then
    ((Mark.rows (formMarks form)).mapM rowForm?).map fun rows => rows.filter (!·.isQuiet)
  else none

/-- The text that a piece puts into a line. -/
def inserted : Piece → Text
  | .code _ => []
  | x => x.write spelling

/-- The text that the piece in a given place puts into a line. -/
def insertedAt (pieces : List Piece) (i : Nat) : Text :=
  (pieces[i]?.map inserted).getD []

@[simp] theorem insertedAt_cons_zero
    (x : Piece)
    (rest : List Piece) :
    insertedAt (x :: rest) 0 = inserted x :=
  rfl

@[simp] theorem insertedAt_cons_succ
    (x : Piece)
    (rest : List Piece)
    (i : Nat) :
    insertedAt (x :: rest) (i + 1) = insertedAt rest i :=
  rfl

/-- A line without line feeds in what its pieces put into it has the rows of its form. -/
theorem splitOn_writeMarks
    {α : Type}
    {f : α → Text}
    (hf : ∀ a, '\n' ∉ f a)
    (line : List (Mark α)) :
    Text.splitOn '\n' (writeMarks f line) = (Mark.rows line).map (writeMarks f) := by
  induction line with
  | nil => rfl
  | cons x line ih =>
      have hrows : Mark.rows (x :: line) =
          if Mark.isLineFeed x then [] :: Mark.rows line
          else (Mark.rows line).modifyHead (x :: ·) := List.splitOnP_cons_eq_if_modifyHead ..
      have hwrite : writeMarks f (x :: line) = x.write f ++ writeMarks f line := List.flatMap_cons
      rw [hrows, hwrite]
      split
      · rename_i hfeed
        obtain rfl : x = .char '\n' := by
          cases x with
          | char c => rw [beq_iff_eq.1 hfeed]
          | name a => cases hfeed
          | text a => cases hfeed
        have hsplit := Text.splitOn_append '\n' [] (writeMarks f line)
        rw [ih] at hsplit
        exact hsplit
      · rename_i hfeed
        have hx : '\n' ∉ x.write f := by
          cases x with
          | char c =>
              intro hmem
              exact hfeed (beq_iff_eq.2 (List.mem_singleton.1 hmem).symm)
          | name a => exact hf a
          | text a => exact hf a
        obtain ⟨row, rows, hline⟩ : ∃ row rows, Mark.rows line = row :: rows :=
          List.exists_cons_of_ne_nil (List.splitOnP_ne_nil Mark.isLineFeed line)
        rw [Text.splitOn_append_of_not_mem hx, ih, hline]
        rfl

/-- A line is written as its form says. -/
theorem writeMarks_formMarks
    {pieces : List Piece}
    (hform : (pieces.map Piece.slot).all Slot.isReadable = true) :
    writeMarks (insertedAt pieces) (formMarks (pieces.map Piece.slot)) =
      pieces.flatMap (Piece.write spelling) := by
  suffices h : ∀ front rest, (rest.map Piece.slot).all Slot.isReadable = true →
      writeMarks (insertedAt (front ++ rest))
        (((rest.map Piece.slot).zipIdx front.length).flatMap fun (slot, i) => slotMarks i slot) =
      rest.flatMap (Piece.write spelling) from h [] pieces hform
  intro front rest hrest
  induction rest generalizing front with
  | nil => rfl
  | cons x rest ih =>
      rw [List.map_cons, List.all_cons, Bool.and_eq_true] at hrest
      have htail := ih (front ++ [x]) hrest.2
      rw [List.append_assoc, List.singleton_append, List.length_append, List.length_singleton] at htail
      have hat : insertedAt (front ++ x :: rest) front.length = inserted x := by
        simp [insertedAt]
      rw [List.map_cons, List.zipIdx_cons, List.flatMap_cons, writeMarks, List.flatMap_append,
        List.flatMap_cons]
      refine congrArg₂ (· ++ ·) ?_ htail
      cases x with
      | code s =>
          have hs : Text.asciiChars s = s.toList := Text.asciiChars_eq hrest.1
          simp only [Piece.slot, slotMarks, hs, List.flatMap_map, Mark.write, Piece.write]
          exact List.flatMap_singleton' _
      | literal t => exact (List.flatMap_singleton ..).trans hat
      | name t => exact (List.flatMap_singleton ..).trans hat
      | condition t => exact (List.flatMap_singleton ..).trans hat
      | remark t => exact (List.flatMap_singleton ..).trans hat

/-- The places of a form hold what is put into its line. -/
theorem insertedAt_forall
    {q : Text → Prop}
    {pieces : List Piece}
    (hnil : q [])
    (h : ∀ x ∈ pieces, q (inserted x))
    (i : Nat) :
    q (insertedAt pieces i) := by
  rw [insertedAt]
  cases hpiece : pieces[i]? with
  | none => exact hnil
  | some x => exact h x (List.mem_of_getElem? hpiece)

/-- Rows with forms do what the forms say. -/
theorem flatMap_rowEffects
    {α : Type}
    {f : α → Text}
    {rows : List (List (Mark α))}
    {forms : List (RowForm α)}
    (h : rows.mapM rowForm? = some forms)
    (hfits : ∀ form ∈ forms.filter (!·.isQuiet), (form.map f).Fits) :
    (rows.map (writeMarks f)).flatMap rowEffects =
      (forms.filter (!·.isQuiet)).flatMap fun form => (form.map f).effects := by
  induction rows generalizing forms with
  | nil =>
      cases h
      rfl
  | cons row rows ih =>
      simp only [List.mapM_cons, Option.bind_eq_bind, Option.pure_def, Option.bind_eq_some_iff,
        Option.some.injEq] at h
      obtain ⟨form, hform, others, hothers, rfl⟩ := h
      rw [List.map_cons, List.flatMap_cons]
      cases hquiet : form.isQuiet with
      | true =>
          rw [List.filter_cons_of_neg (by simp [hquiet])] at hfits ⊢
          obtain rfl : form = .quiet := by
            cases form with
            | quiet => rfl
            | bound keyword a => cases hquiet
            | path a => cases hquiet
          rw [rowEffects_writeMarks hform trivial, ih hothers hfits]
          rfl
      | false =>
          rw [List.filter_cons_of_pos (by simp [hquiet]), List.forall_mem_cons] at hfits
          rw [List.filter_cons_of_pos (by simp [hquiet]), List.flatMap_cons,
            rowEffects_writeMarks hform hfits.1, ih hothers hfits.2]

/-- A line does what its form says. -/
theorem codeEffects_line
    {pieces : List Piece}
    (rows : List (RowForm Nat))
    (hform : formRows (pieces.map Piece.slot) = some rows)
    (hrows : ∀ x ∈ pieces, '\n' ∉ inserted x)
    (hfits : ∀ row ∈ rows, (row.map (insertedAt pieces)).Fits) :
    codeEffects (.line pieces) = rows.flatMap fun row => (row.map (insertedAt pieces)).effects := by
  unfold formRows at hform
  split_ifs at hform with hreadable
  obtain ⟨forms, hforms, rfl⟩ := Option.map_eq_some_iff.1 hform
  have hwrite : (Code.line pieces).write spelling =
      writeMarks (insertedAt pieces) (formMarks (pieces.map Piece.slot)) := by
    rw [Code.write, writeMarks_formMarks hreadable]
  rw [codeEffects, effects, hwrite,
    splitOn_writeMarks (insertedAt_forall (q := ('\n' ∉ ·)) List.not_mem_nil hrows),
    flatMap_rowEffects hforms hfits]

end BotCanvas.Braced
