import BotCanvas.Proofs.Program.Chains
import BotCanvas.Proofs.Text.Parts
import Mathlib.Data.List.Induction

/-!
# Skeletons

The skeleton of a program is the program without the bodies of its literals: of each literal only
the quotes that open and close it remain. It is what a text in a literal must not change.

Like reading, taking the skeleton goes along with building a program. Skeletons of fragments one
under another stand one under another (`skeleton_append_lineFeed`), and the skeleton of indented
code is the indented skeleton (`skeleton_indent`): a lead is put before a row inside a literal as
well, but there the skeleton does not show it.
-/

namespace BotCanvas

namespace Spot

/-- Tests for a place inside a literal. -/
def isInside : Spot → Bool
  | .literal _ => true
  | .escaped _ => true
  | _ => false

/-- Tests for a character of the body of a literal; the quote that closes it is none. -/
def hides : Spot → Char → Bool
  | .literal q, c => c != q.mark
  | .escaped _, _ => true
  | _, _ => false

theorem hides_of_not_isInside
    {p : Spot}
    (h : p.isInside = false)
    (c : Char) :
    p.hides c = false := by
  cases p with
  | literal q => cases h
  | escaped q => cases h
  | _ => rfl

end Spot

theorem Quote.mark_ne_of_isBlank
    (q : Quote)
    {c : Char}
    (h : Text.isBlank c = true) :
    c ≠ q.mark := by
  rintro rfl
  revert h
  cases q <;> decide

namespace Lexis

section Places

variable (lx : Lexis)

/-- The place behind a text. -/
def placeFrom (p : Spot) (t : Text) : Spot :=
  t.foldl lx.next p

/-- What is left of a text, from a place on, without the bodies of literals. -/
def skeletonFrom : Spot → List Char → Text
  | _, [] => []
  | p, c :: r =>
      if p.hides c then skeletonFrom (lx.next p c) r else c :: skeletonFrom (lx.next p c) r

/-- What is left of a text without the bodies of literals. -/
def skeleton (t : Text) : Text :=
  lx.skeletonFrom .code t

theorem placeFrom_append
    (p : Spot)
    (a b : Text) :
    lx.placeFrom p (a ++ b) = lx.placeFrom (lx.placeFrom p a) b :=
  List.foldl_append

theorem skeletonFrom_append
    (p : Spot)
    (a b : Text) :
    lx.skeletonFrom p (a ++ b) =
      lx.skeletonFrom p a ++ lx.skeletonFrom (lx.placeFrom p a) b := by
  induction a generalizing p with
  | nil => rfl
  | cons c r ih =>
      rw [List.cons_append, skeletonFrom, skeletonFrom, ih]
      split <;> rfl

end Places

variable {lx : Lexis}
variable {p q : Spot}

/-- A reader that does not fail goes from place to place. -/
theorem placeFrom_of_read
    {k l : List Char}
    {t : Text}
    (h : lx.read (some (p, k)) t = some (q, l)) :
    lx.placeFrom p t = q := by
  induction t generalizing p k with
  | nil =>
      cases h
      rfl
  | cons c r ih =>
      rw [read_cons] at h
      cases hstep : lx.advance (some (p, k)) c with
      | none =>
          rw [hstep, read_none] at h
          cases h
      | some s =>
          obtain ⟨p', k'⟩ := s
          obtain ⟨rfl, -⟩ := advance_eq_some hstep
          rw [hstep] at h
          exact ih h

/-- A character behind a backslash does not show in a literal. -/
theorem skeletonFrom_escape
    (quote : Quote)
    (c : Char)
    (r : Text) :
    lx.skeletonFrom (.literal quote) ('\\' :: c :: r) = lx.skeletonFrom (.literal quote) r := by
  have hmark : ('\\' != quote.mark) = true := by
    cases quote <;> decide
  rw [skeletonFrom, Spot.hides, if_pos hmark]
  rfl

/-- Nor does one that is neither a backslash nor the quote. -/
theorem skeletonFrom_body
    {quote : Quote}
    {c : Char}
    (hescape : c ≠ '\\')
    (hmark : c ≠ quote.mark)
    (r : Text) :
    lx.skeletonFrom (.literal quote) (c :: r) = lx.skeletonFrom (.literal quote) r := by
  rw [skeletonFrom, Spot.hides, if_pos (bne_iff_ne.2 hmark), next, if_neg hescape, if_neg hmark]

/-! ## Blanks -/

theorem quote?_of_isBlank
    {c : Char}
    (h : Text.isBlank c = true) :
    lx.quote? c = none := by
  have hsingle : c ≠ '\x27' := Quote.single.mark_ne_of_isBlank h
  have hdouble : c ≠ '\x22' := Quote.double.mark_ne_of_isBlank h
  have hbacktick : c ≠ '\x60' := Quote.backtick.mark_ne_of_isBlank h
  simp [quote?, hsingle, hdouble, hbacktick]

theorem enter_of_isBlank
    {c : Char}
    (h : Text.isBlank c = true) :
    lx.enter c = .code := by
  have hne : ∀ d : Char, Text.isBlank d = false → c ≠ d := by
    rintro d hd rfl
    rw [hd] at h
    cases h
  simp [enter, quote?_of_isBlank h, hne '#' (by decide), hne '/' (by decide)]

/-- A blank neither opens nor closes a literal. -/
theorem isInside_next_of_isBlank
    {c : Char}
    (h : Text.isBlank c = true) :
    (lx.next p c).isInside = p.isInside := by
  have hne : ∀ d : Char, Text.isBlank d = false → c ≠ d := by
    rintro d hd rfl
    rw [hd] at h
    cases h
  cases p with
  | code => rw [next, enter_of_isBlank h]
  | slash =>
      rw [next, if_neg (hne '/' (by decide)), if_neg (hne '*' (by decide)), enter_of_isBlank h]
      rfl
  | remark =>
      rw [next]
      split <;> rfl
  | block => rw [next, if_neg (hne '*' (by decide))]
  | star =>
      rw [next, if_neg (hne '/' (by decide)), if_neg (hne '*' (by decide))]
      rfl
  | literal q => rw [next, if_neg (hne '\\' (by decide)), if_neg (q.mark_ne_of_isBlank h)]
  | escaped q => rfl

theorem hides_of_isBlank
    {c : Char}
    (h : Text.isBlank c = true) :
    p.hides c = p.isInside := by
  cases p with
  | literal q => exact bne_iff_ne.2 (q.mark_ne_of_isBlank h)
  | _ => rfl

theorem next_space
    (h : IsSettled p) :
    lx.next p ' ' = p := by
  rcases h with rfl | rfl | rfl | ⟨q, rfl⟩
  · exact enter_of_isBlank (by decide)
  · rfl
  · rfl
  · cases q <;> rfl

/-- So do more spaces, which show outside of literals only. -/
theorem skeletonFrom_spaces
    (h : IsSettled p)
    (n : Nat)
    (t : Text) :
    lx.skeletonFrom p (List.replicate n ' ' ++ t) =
      (if p.isInside then [] else List.replicate n ' ') ++ lx.skeletonFrom p t := by
  have hblank : Text.isBlank ' ' = true := by decide
  induction n with
  | zero => cases p.isInside <;> rfl
  | succ n ih =>
      rw [List.replicate_succ, List.cons_append, skeletonFrom, hides_of_isBlank hblank,
        next_space h, ih]
      cases p.isInside <;> rfl

/-! ## Indentation -/

/-- A skeleton tells whether a line is blank: a literal shows at least the quote that opens it. -/
theorem all_isBlank_firstLine_skeletonFrom
    (h : p.isInside = false)
    (t : Text) :
    (Text.firstLine (lx.skeletonFrom p t)).all Text.isBlank =
      (Text.firstLine t).all Text.isBlank := by
  unfold Text.firstLine
  induction t generalizing p with
  | nil => rfl
  | cons c r ih =>
      rw [skeletonFrom, p.hides_of_not_isInside h]
      simp only [Bool.false_eq_true, if_false, List.takeWhile_cons]
      cases Text.isLineBreak c with
      | true => rfl
      | false =>
          simp only [Bool.not_false, if_true, List.all_cons]
          cases hblank : Text.isBlank c with
          | false => rfl
          | true => rw [ih ((isInside_next_of_isBlank hblank).trans h)]

theorem opening_skeletonFrom
    (lead : Text)
    (h : p.isInside = false)
    (t : Text) :
    Text.opening lead (lx.skeletonFrom p t) = Text.opening lead t := by
  unfold Text.opening
  rw [all_isBlank_firstLine_skeletonFrom h]

/-- What indentation does behind a line end, it does to the skeleton. -/
theorem skeletonFrom_opening_append
    (hsettled : IsSettled p)
    (n : Nat)
    (r t : Text) :
    lx.skeletonFrom p (Text.opening (List.replicate n ' ') r ++ t) =
      (if p.isInside then []
        else Text.opening (List.replicate n ' ') (lx.skeletonFrom p r)) ++
          lx.skeletonFrom p t := by
  cases hinside : p.isInside with
  | true =>
      unfold Text.opening
      split
      · rfl
      · rw [skeletonFrom_spaces hsettled, hinside]
        rfl
  | false =>
      rw [opening_skeletonFrom _ hinside]
      unfold Text.opening
      split
      · rfl
      · rw [skeletonFrom_spaces hsettled, hinside]

/-- The skeleton of an indented text, inside a line, is the indented skeleton. -/
theorem skeletonFrom_inner
    (n : Nat)
    (p : Spot)
    (t : Text) :
    lx.skeletonFrom p (Text.inner (List.replicate n ' ') t) =
      Text.inner (List.replicate n ' ') (lx.skeletonFrom p t) := by
  fun_induction Text.inner (List.replicate n ' ') t generalizing p with
  | case1 => rfl
  | case2 r ih =>
      have hreturn : Text.isBlank '\r' = true := by decide
      have hfeed : Text.isBlank '\n' = true := by decide
      simp only [skeletonFrom, hides_of_isBlank hreturn, hides_of_isBlank hfeed,
        isInside_next_of_isBlank hreturn]
      -- inside a literal neither the line end nor the lead behind it shows, outside both do
      rw [skeletonFrom_opening_append (isSettled_next _ (by decide)), ih,
        isInside_next_of_isBlank hfeed, isInside_next_of_isBlank hreturn]
      cases p.isInside <;> rfl
  | case3 c r hcr hc ih =>
      have hblank := Text.isBlank_of_isLineBreak hc
      simp only [skeletonFrom, hides_of_isBlank hblank]
      rw [skeletonFrom_opening_append (isSettled_next _ hc), ih, isInside_next_of_isBlank hblank]
      cases hinside : p.isInside with
      | true => rfl
      | false =>
          -- a line feed that shows behind the character stood behind it before
          have hshown : ∀ s, c = '\r' → lx.skeletonFrom (lx.next p c) r = '\n' :: s → False := by
            intro s hcar hs
            cases r with
            | nil => cases hs
            | cons d r =>
                rw [skeletonFrom, Spot.hides_of_not_isInside
                  ((isInside_next_of_isBlank hblank).trans hinside)] at hs
                obtain ⟨rfl, -⟩ := List.cons.inj hs
                exact hcr r hcar rfl
          simp only [Bool.false_eq_true, if_false]
          rw [Text.inner, if_pos hc]
          exact hshown
  | case4 c r hcr hc ih =>
      simp only [skeletonFrom, ih]
      split
      · rfl
      · rw [Text.inner, if_neg hc]
        rintro s rfl
        exact absurd (by decide) hc

/-- The skeleton of indented code is the indented skeleton. -/
theorem skeleton_indent
    (n : Nat)
    (t : Text) :
    lx.skeleton (Text.indent (List.replicate n ' ') t) =
      Text.indent (List.replicate n ' ') (lx.skeleton t) := by
  unfold skeleton
  rw [Text.indent_eq, skeletonFrom_opening_append (.inl rfl), skeletonFrom_inner, Text.indent_eq]
  rfl

/-! ## Fragments -/

section Fragments

variable {k l : List Char}
variable {a : Text}

/-- Behind a fragment that leads to code, a line feed is outside of literals. -/
theorem Leads.placeFrom_lineFeed
    (h : Leads lx a k l) :
    lx.next (lx.placeFrom .code a) '\n' = .code := by
  have hplace := placeFrom_of_read (h [])
  rwa [placeFrom_append] at hplace

theorem Leads.isInside_placeFrom
    (h : Leads lx a k l) :
    (lx.placeFrom .code a).isInside = false := by
  have hfeed : (lx.next (lx.placeFrom .code a) '\n').isInside =
      (lx.placeFrom .code a).isInside :=
    isInside_next_of_isBlank (by decide)
  rw [← hfeed, h.placeFrom_lineFeed]
  rfl

/-- Skeletons of fragments one under another stand one under another. -/
theorem skeleton_append_lineFeed
    (h : Leads lx a k l)
    (b : Text) :
    lx.skeleton (a ++ '\n' :: b) = lx.skeleton a ++ '\n' :: lx.skeleton b := by
  unfold skeleton
  rw [skeletonFrom_append, skeletonFrom, Spot.hides_of_not_isInside h.isInside_placeFrom,
    h.placeFrom_lineFeed]
  rfl

/-- The last character of a fragment is the last of its skeleton. -/
theorem skeleton_concat
    {c : Char}
    (h : Leads lx (a ++ [c]) k l) :
    lx.skeleton (a ++ [c]) = lx.skeleton a ++ [c] := by
  have hend := h.isInside_placeFrom
  rw [placeFrom_append] at hend
  have hshown : (lx.placeFrom .code a).hides c = false := by
    revert hend
    generalize lx.placeFrom .code a = p
    cases p with
    | literal q =>
        simp only [placeFrom, List.foldl_cons, List.foldl_nil, next, Spot.hides]
        by_cases hmark : c = q.mark
        · exact fun _ => by simp [hmark]
        · rw [if_neg hmark]
          split <;> exact fun hend => absurd hend.symm Bool.false_ne_true
    | escaped q => exact fun hend => absurd hend.symm Bool.false_ne_true
    | _ => exact fun _ => rfl
  unfold skeleton
  rw [skeletonFrom_append, skeletonFrom, hshown]
  rfl

/-- The skeleton of a fragment without line feeds at its end is its skeleton without them. -/
theorem skeleton_stripEndChar
    (h : Leads lx a k l) :
    lx.skeleton (Text.stripEndChar '\n' a) = Text.stripEndChar '\n' (lx.skeleton a) := by
  induction a using List.reverseRecOn with
  | nil => rfl
  | append_singleton b c ih =>
      have hdrop : ∀ s : Text, Text.stripEndChar '\n' (s ++ ['\n']) = Text.stripEndChar '\n' s := by
        intro s
        simp [Text.stripEndChar]
      rw [skeleton_concat h]
      by_cases hc : c = '\n'
      · subst hc
        -- one line feed behind the fragment leads to code already, so this one may be left out
        have hb : Leads lx b k l := by
          intro below
          have hread := h below
          rw [List.append_assoc, read_append] at hread
          rw [read_append, ← hread]
          exact (advance_lineFeed_twice _).symm
        rw [hdrop, hdrop, ih hb]
      · rw [Text.stripEndChar_append _ _ hc, Text.stripEndChar_append _ _ hc, skeleton_concat h]

end Fragments

/-! ## Texts without quotes -/

theorem mem_of_mem_skeletonFrom
    {t : Text}
    {c : Char}
    (h : c ∈ lx.skeletonFrom p t) :
    c ∈ t := by
  induction t generalizing p with
  | nil => cases h
  | cons d r ih =>
      rw [skeletonFrom] at h
      split at h
      · exact List.mem_cons_of_mem d (ih h)
      · rcases List.mem_cons.1 h with rfl | h
        · exact List.mem_cons_self
        · exact List.mem_cons_of_mem d (ih h)

/-- Without a quote no literal begins. -/
theorem isInside_next_of_quote?
    {c : Char}
    (h : p.isInside = false)
    (hc : lx.quote? c = none) :
    (lx.next p c).isInside = false := by
  have henter : (lx.enter c).isInside = false := by
    rw [enter, hc]
    simp only
    split
    · rfl
    · split <;> rfl
  cases p with
  | code => exact henter
  | slash =>
      rw [next]
      split
      · rfl
      · split
        · rfl
        · exact henter
  | remark =>
      rw [next]
      split <;> rfl
  | block =>
      rw [next]
      split <;> rfl
  | star =>
      rw [next]
      split
      · rfl
      · split <;> rfl
  | literal q => cases h
  | escaped q => cases h

/-- A text whose skeleton has no quotes has no literals. -/
theorem skeletonFrom_eq_self
    {t : Text}
    (hp : p.isInside = false)
    (h : ∀ c ∈ lx.skeletonFrom p t, lx.quote? c = none) :
    lx.skeletonFrom p t = t := by
  induction t generalizing p with
  | nil => rfl
  | cons c r ih =>
      rw [skeletonFrom, p.hides_of_not_isInside hp] at h ⊢
      obtain ⟨hc, hr⟩ := List.forall_mem_cons.1 h
      exact congrArg (c :: ·) (ih (isInside_next_of_quote? hp hc) hr)

/-- Two texts of one skeleton are equal if one of them has no quotes. -/
theorem eq_of_skeleton_eq
    {t t' : Text}
    (h : lx.skeleton t' = lx.skeleton t)
    (ht : ∀ c ∈ t, lx.quote? c = none) :
    t' = t := by
  have hself : lx.skeleton t = t :=
    skeletonFrom_eq_self rfl fun c hc => ht c (mem_of_mem_skeletonFrom hc)
  -- the other text may have quotes only if its skeleton does, which is the first text
  have hself' : lx.skeleton t' = t' := by
    refine skeletonFrom_eq_self rfl fun c hc => ht c ?_
    rw [← hself, ← h]
    exact hc
  rw [← hself', h, hself]

/-! ## Texts of one skeleton -/

/-- Fragments of one skeleton, both of which lead from code to code. -/
structure Twins (lx : Lexis) (t t' : Text) : Prop where
  left : Leads lx t [] []
  right : Leads lx t' [] []
  skeleton : lx.skeleton t' = lx.skeleton t

namespace Twins

variable {a a' b b' : Text}

theorem refl
    (h : Leads lx a [] []) :
    Twins lx a a :=
  ⟨h, h, rfl⟩

theorem symm
    (h : Twins lx a a') :
    Twins lx a' a :=
  ⟨h.right, h.left, h.skeleton.symm⟩

theorem append
    (ha : Twins lx a a')
    (hb : Twins lx b b') :
    Twins lx (a ++ '\n' :: b) (a' ++ '\n' :: b') := by
  refine ⟨ha.left.append hb.left, ha.right.append hb.right, ?_⟩
  rw [skeleton_append_lineFeed ha.left, skeleton_append_lineFeed ha.right, ha.skeleton,
    hb.skeleton]

theorem indent
    (n : Nat)
    (h : Twins lx a a') :
    Twins lx (Text.indent (List.replicate n ' ') a) (Text.indent (List.replicate n ' ') a') := by
  refine ⟨h.left.indent n, h.right.indent n, ?_⟩
  rw [skeleton_indent, skeleton_indent, h.skeleton]

theorem stripEndChar
    (h : Twins lx a a') :
    Twins lx (Text.stripEndChar '\n' a) (Text.stripEndChar '\n' a') := by
  refine ⟨h.left.stripEndChar, h.right.stripEndChar, ?_⟩
  rw [skeleton_stripEndChar h.left, skeleton_stripEndChar h.right, h.skeleton]

/-- Twins with line feeds between them. -/
theorem join
    (n : Nat)
    {fragments fragments' : List Text}
    (h : List.Forall₂ (Twins lx) fragments fragments') :
    Twins lx (Text.join (List.replicate (n + 1) '\n') fragments)
      (Text.join (List.replicate (n + 1) '\n') fragments') := by
  have hgap : ∀ (n : Nat) {t t' : Text}, Twins lx t t' →
      Twins lx (List.replicate n '\n' ++ t) (List.replicate n '\n' ++ t') := by
    intro n t t' ht
    induction n with
    | zero => exact ht
    | succ n ih => exact (refl (Leads.empty [])).append ih
  unfold Text.join
  induction h with
  | nil => exact refl (Leads.empty [])
  | @cons t t' rest rest' ht hrest ih =>
      cases hrest with
      | nil => simpa using ht
      | cons hu hrest =>
          rw [List.intercalate_cons_cons, List.intercalate_cons_cons, List.replicate_succ,
            List.append_assoc, List.append_assoc, List.cons_append]
          exact ht.append (hgap n ih)

/-- Twins have nothing but a given text without quotes between blanks together. -/
theorem strip_eq_iff
    (h : Twins lx a a')
    {t : Text}
    (ht : ∀ c ∈ t, lx.quote? c = none) :
    Text.strip a' = t ↔ Text.strip a = t := by
  have hquotes : ∀ {s : Text}, Text.strip s = t → ∀ c ∈ s, lx.quote? c = none := by
    rintro s rfl c hc
    rcases Text.mem_strip_of_mem hc with hblank | hmem
    · exact quote?_of_isBlank hblank
    · exact ht c hmem
  constructor
  · intro hstrip
    rw [eq_of_skeleton_eq h.symm.skeleton (hquotes hstrip), hstrip]
  · intro hstrip
    rw [eq_of_skeleton_eq h.skeleton (hquotes hstrip), hstrip]

end Twins

end Lexis

end BotCanvas
