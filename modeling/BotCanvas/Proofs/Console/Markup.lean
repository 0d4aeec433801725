import BotCanvas.Console.Markup
import BotCanvas.Text.Quoted
import Mathlib.Data.List.Basic
import Mathlib.Data.List.TakeWhile

/-!
# Messages that can be shown

Showing a message fails only at a tag that closes nothing, and such a tag starts with a bracket and a
slash (`HasCloser`). A message without these two in a row can be shown, by itself (`exists_shown`) and
in a style (`exists_shown_styled`).

**Tags of a message.** In a styled message the tag at the end is the only one that can close, so every
tag either opens a style or is this one, and the style that it names was opened in front
(`ClosesOnly`).
-/

namespace BotCanvas.Markup

/-- A text with the start of a closing tag. -/
def HasCloser (s : Text) : Prop :=
  ['[', '/'] <:+: s

/-- A tag in pieces, if it closes a style. -/
def isCloser : MarkupPiece → Bool
  | .tag _ ('/' :: _) => true
  | _ => false

/-- Pieces with at most one tag that closes, and that one closes the given style. -/
structure ClosesOnly (style : Text) (pieces : List MarkupPiece) : Prop where
  once : pieces.countP isCloser ≤ 1
  named : ∀ position body, .tag position ('/' :: body) ∈ pieces → body = style

variable {style s t : Text}
variable {fuel position : Nat}
variable {plain : Text}
variable {pieces rest : List MarkupPiece}

/-! ## Tags -/

/-- The tag that closes a style. -/
def closing (style : Text) : Text :=
  '[' :: '/' :: (style ++ [']'])

/-- The name of a style that a tag can hold: it starts with a small letter and has neither brackets
nor an equals sign in it. -/
structure IsStyle (style : Text) : Prop where
  starts : ∃ c r, style = c :: r ∧ startsTag c = true ∧ c ≠ '/'
  plain : ∀ c ∈ style, c ≠ '[' ∧ c ≠ ']' ∧ c ≠ '='
  named : (styleName style).isEmpty = false

/-- A tag at the start of a text, and what follows it. -/
theorem tagBody?_eq_some
    {body : Text}
    (h : tagBody? s = some body) :
    ∃ c inner, body = c :: inner ∧ s = '[' :: (body ++ ']' :: s.drop (body.length + 2)) := by
  unfold tagBody? at h
  split at h
  · rename_i c r
    dsimp only at h
    split at h
    · rename_i hstarts
      cases h
      obtain ⟨-, hclosed⟩ := Bool.and_eq_true_iff.1 hstarts
      generalize hinner : r.takeWhile (fun d => d != '[' && d != ']') = inner at hclosed ⊢
      refine ⟨c, inner, rfl, ?_⟩
      have hprefix : inner <+: r := hinner ▸ List.takeWhile_prefix _
      have hsplit : inner ++ r.drop inner.length = r := List.prefix_iff_eq_append.1 hprefix
      have hhead : (r.drop inner.length).head? = some ']' := by simpa using hclosed
      obtain ⟨after, hafter⟩ := List.head?_eq_some_iff.1 hhead
      have hdrop : r.drop (inner.length + 1) = after := by
        rw [← List.drop_drop, hafter]
        rfl
      simp only [List.length_cons, List.drop_succ_cons, hdrop]
      rw [List.cons_append, ← hafter, hsplit]
    · cases h
  · cases h

/-- A style between brackets is a tag. -/
theorem tagBody?_style
    (h : IsStyle style)
    (rest : Text) :
    tagBody? ('[' :: (style ++ ']' :: rest)) = some style := by
  obtain ⟨c, r, rfl, hstarts, -⟩ := h.starts
  have hinner : (r ++ ']' :: rest).takeWhile (fun d => d != '[' && d != ']') = r := by
    rw [List.takeWhile_append_of_pos, List.takeWhile_cons_of_neg (by simp), List.append_nil]
    intro d hd
    obtain ⟨hopen, hclose, -⟩ := h.plain d (List.mem_cons_of_mem _ hd)
    simp [hopen, hclose]
  rw [List.cons_append, tagBody?]
  simp only [hinner, hstarts, List.drop_left, List.head?_cons, beq_self_eq_true, Bool.and_self,
    if_true]

/-! ## Pieces -/

/-- Texts in front close nothing. -/
theorem closesOnly_cons_text
    (s : Text) :
    ClosesOnly style (.text s :: pieces) ↔ ClosesOnly style pieces := by
  constructor
  · rintro ⟨honce, hnamed⟩
    rw [List.countP_cons_of_neg (by simp [isCloser])] at honce
    exact ⟨honce, fun position body hmem => hnamed position body (by simp [hmem])⟩
  · rintro ⟨honce, hnamed⟩
    refine ⟨?_, fun position body hmem => hnamed position body (by simpa using hmem)⟩
    rwa [List.countP_cons_of_neg (by simp [isCloser])]

/-- A tag in front that does not close. -/
theorem closesOnly_cons_opener
    {c : Char}
    {r : Text}
    (hc : c ≠ '/')
    (position : Nat) :
    ClosesOnly style (.tag position (c :: r) :: pieces) ↔ ClosesOnly style pieces := by
  have hopener : isCloser (.tag position (c :: r)) = false := by
    unfold isCloser
    split
    · rename_i heq
      cases heq
      exact absurd rfl hc
    · rfl
  constructor
  · rintro ⟨honce, hnamed⟩
    rw [List.countP_cons_of_neg (by simp [hopener])] at honce
    exact ⟨honce, fun position body hmem => hnamed position body (by simp [hmem])⟩
  · rintro ⟨honce, hnamed⟩
    refine ⟨?_, fun position' body hmem => ?_⟩
    · rwa [List.countP_cons_of_neg (by simp [hopener])]
    · rcases List.mem_cons.1 hmem with heq | hmem
      · cases heq
        exact absurd rfl hc
      · exact hnamed position' body hmem

/-- A single text closes nothing. -/
theorem closesOnly_text
    (s : Text) :
    ClosesOnly style [.text s] :=
  ⟨by simp [isCloser], by simp⟩

/-- A text in which brackets and slashes in a row are the tag at its end, if there are any. -/
def EndsOnly (style s : Text) : Prop :=
  ∀ t, t <:+ s → ['[', '/'] <+: t → t = closing style

theorem EndsOnly.of_suffix
    (h : EndsOnly style s)
    (hsuffix : t <:+ s) :
    EndsOnly style t :=
  fun u hu => h u (hu.trans hsuffix)

/-- No pieces come from the empty text but a text. -/
theorem piecesFrom_nil
    (fuel position : Nat)
    (plain : Text) :
    piecesFrom fuel position plain [] = [.text (unescape plain.reverse)] := by
  cases fuel <;> rfl

/-- The pieces of such a text. -/
theorem closesOnly_piecesFrom
    (hstyle : IsStyle style)
    (h : EndsOnly style s) :
    ClosesOnly style (piecesFrom fuel position plain s) := by
  induction fuel generalizing position plain s with
  | zero => exact closesOnly_text _
  | succ fuel ih =>
      cases s with
      | nil => exact closesOnly_text _
      | cons c r =>
          rw [piecesFrom]
          generalize hslashes : ((c :: r).takeWhile (· == '\\')).length = slashes
          dsimp only
          have hnext : (c :: r).drop slashes <:+ c :: r := List.drop_suffix _ _
          cases htag : tagBody? ((c :: r).drop slashes) with
          | none => exact ih (h.of_suffix (List.suffix_cons c r))
          | some body =>
              obtain ⟨d, inner, rfl, hspelled⟩ := tagBody?_eq_some htag
              have hafter := ((List.drop_suffix ((d :: inner).length + 2) _).trans hnext)
              dsimp only
              split
              · simp only [List.cons_append, List.nil_append, closesOnly_cons_text]
                exact ih (h.of_suffix hafter)
              · simp only [List.cons_append, List.nil_append, closesOnly_cons_text]
                by_cases hd : d = '/'
                · -- a tag that closes ends the text, so nothing comes after it
                  subst hd
                  have hclosing := h _ hnext (by rw [hspelled]; exact ⟨_, rfl⟩)
                  rw [hspelled] at hclosing
                  have hsame : inner ++ ']' :: ((c :: r).drop slashes).drop
                      (('/' :: inner).length + 2) = style ++ ']' :: [] :=
                    (List.cons.inj (List.cons.inj hclosing).2).2
                  have hnot : ']' ∉ style := fun hmem => (hstyle.plain _ hmem).2.1 rfl
                  obtain ⟨rfl, -, hnil⟩ :=
                    (List.append_cons_inj_of_notMem hnot List.not_mem_nil).1 hsame.symm
                  rw [← hnil, piecesFrom_nil]
                  refine ⟨by simp [isCloser], fun position body hmem => ?_⟩
                  exact (by simpa using hmem : _ ∧ body = style).2
                · exact (closesOnly_cons_opener hd _).2 (ih (h.of_suffix hafter))

/-! ## Showing -/

/-- An open style can be closed. -/
theorem exists_close?
    {name : Text}
    {opened : List Text}
    (h : 0 < opened.count name) :
    ∃ left, close? name opened = some left ∧ opened.count name = left.count name + 1 := by
  induction opened with
  | nil => simp at h
  | cons top below ih =>
      rw [close?]
      by_cases htop : top = name
      · subst htop
        exact ⟨below, if_pos rfl, List.count_cons_self⟩
      · rw [List.count_cons_of_ne htop] at h ⊢
        obtain ⟨left, hleft, hcount⟩ := ih h
        refine ⟨top :: left, ?_, ?_⟩
        · rw [if_neg htop, hleft]
          rfl
        · rw [List.count_cons_of_ne htop, hcount]

/-- Pieces are shown if the style that they close is open as often as they close it. -/
theorem exists_shownPieces
    (hstyle : IsStyle style)
    (hnamed : ∀ position body, .tag position ('/' :: body) ∈ pieces → body = style)
    {opened : List Text}
    (hcount : pieces.countP isCloser ≤ opened.count (styleName style)) :
    ∃ t, shownPieces opened pieces = .ok t := by
  induction pieces generalizing opened with
  | nil => exact ⟨[], rfl⟩
  | cons piece pieces ih =>
      have hrest : ∀ position body, .tag position ('/' :: body) ∈ pieces → body = style :=
        fun position body hmem => hnamed position body (List.mem_cons_of_mem _ hmem)
      cases piece with
      | text s =>
          rw [List.countP_cons_of_neg (by simp [isCloser])] at hcount
          obtain ⟨t, ht⟩ := ih hrest hcount
          exact ⟨s ++ t, by rw [shownPieces, ht]; rfl⟩
      | tag position body =>
          rw [shownPieces.eq_def]
          dsimp only
          split
          · -- a tag that closes names the style, which is open
            rename_i closing hname
            obtain ⟨b, rfl⟩ : ∃ b, body = '/' :: b := by
              cases body with
              | nil => cases hname
              | cons d b =>
                  rw [List.takeWhile_cons] at hname
                  split at hname
                  · exact ⟨b, by rw [(List.cons.inj hname).1]⟩
                  · cases hname
            obtain rfl := hnamed position b (by simp)
            have hclosing : closing = b := by
              rw [List.takeWhile_cons_of_pos (by decide), List.takeWhile_eq_self_iff.2] at hname
              · exact (List.cons.inj hname).2.symm
              · intro c hc
                simpa using (hstyle.plain c hc).2.2
            rw [List.countP_cons_of_pos (by simp [isCloser])] at hcount
            obtain ⟨left, hleft, hless⟩ := exists_close? (Nat.lt_of_lt_of_le (Nat.succ_pos _) hcount)
            rw [hclosing, hstyle.named, hleft]
            exact ih hrest (by omega)
          · -- any other tag opens a style
            rename_i hname
            have hopener : isCloser (.tag position body) = false := by
              unfold isCloser
              split
              · rename_i heq
                cases heq
                exact absurd (List.takeWhile_cons_of_pos (by decide)) (hname _)
              · rfl
            rw [List.countP_cons_of_neg (by simp [hopener])] at hcount
            exact ih hrest (Nat.le_trans hcount List.count_le_count_cons)

/-- A text without a bracket and a slash in a row ends in any style. -/
theorem endsOnly_of_not_hasCloser
    (h : ¬HasCloser s)
    (style : Text) :
    EndsOnly style s :=
  fun _ hsuffix hcloser => absurd (hcloser.isInfix.trans hsuffix.isInfix) h

/-- So does such a text in front of the tag that closes the style. -/
theorem endsOnly_append_closing
    (hstyle : IsStyle style)
    (h : ¬HasCloser s) :
    EndsOnly style (s ++ closing style) := by
  intro t hsuffix hcloser
  obtain ⟨before, hsplit⟩ := hsuffix
  rcases List.append_eq_append_iff.1 hsplit with ⟨front, rfl, rfl⟩ | ⟨skipped, -, hinside⟩
  · -- in front of the tag, the bracket would be one of the text
    have hfront : front <:+: before ++ front := ⟨before, [], by simp⟩
    match front, hfront, hcloser with
    | [], _, _ => rfl
    | [c], _, hcloser =>
        rw [closing, List.cons_append, List.nil_append, List.cons_prefix_cons,
          List.cons_prefix_cons] at hcloser
        exact absurd hcloser.2.1 (by decide)
    | c :: d :: r, hfront, hcloser =>
        rw [List.cons_append, List.cons_append, List.cons_prefix_cons, List.cons_prefix_cons]
          at hcloser
        obtain ⟨rfl, rfl, -⟩ := hcloser
        exact absurd ((List.prefix_append ['[', '/'] r).isInfix.trans hfront) h
  · -- inside the tag, only its start is a bracket
    have hsuffix : t <:+ closing style := ⟨skipped, hinside.symm⟩
    rw [closing, List.suffix_cons_iff] at hsuffix
    rcases hsuffix with rfl | hsuffix
    · rfl
    · have hmem := hsuffix.mem (hcloser.mem (List.mem_cons_self (a := '[') (l := ['/'])))
      have hcases : '[' ∈ style := by simpa using hmem
      exact absurd rfl (hstyle.plain _ hcases).1

/-- A message that no bracket and slash occur in can be shown. -/
theorem exists_shown
    (h : ¬HasCloser s) :
    ∃ t, shown s = .ok t := by
  have hstyle : ∀ style, style ∈ [['a'], ['b']] → IsStyle style := by
    intro style hmem
    have hcases : style = ['a'] ∨ style = ['b'] := by simpa using hmem
    rcases hcases with rfl | rfl <;> exact ⟨⟨_, _, rfl, by decide, by decide⟩, by simp, by decide⟩
  -- a tag that closes would close two different styles
  have hnone : ∀ position body, .tag position ('/' :: body) ∉ Markup.pieces s := by
    intro position body hmem
    have ha := (closesOnly_piecesFrom (hstyle ['a'] (by simp))
      (endsOnly_of_not_hasCloser h _)).named position body hmem
    have hb := (closesOnly_piecesFrom (hstyle ['b'] (by simp))
      (endsOnly_of_not_hasCloser h _)).named position body hmem
    rw [ha] at hb
    exact absurd hb (by decide)
  have hcount : (Markup.pieces s).countP isCloser ≤ ([] : List Text).count (styleName ['a']) := by
    rw [List.countP_eq_zero.2]
    · exact Nat.zero_le _
    · intro piece hpiece hcloser
      unfold isCloser at hcloser
      split at hcloser
      · exact hnone _ _ hpiece
      · cases hcloser
  obtain ⟨t, ht⟩ := exists_shownPieces (hstyle ['a'] (by simp))
    (fun position body hmem => absurd hmem (hnone position body)) hcount
  exact ⟨_, by rw [shown, ht]; rfl⟩

/-- Characters that are no brackets and no backslashes are taken one by one. -/
theorem piecesFrom_append
    {lead : Text}
    (h : ∀ c ∈ lead, c ≠ '[' ∧ c ≠ '\\')
    (s : Text) :
    piecesFrom (lead.length + fuel) position plain (lead ++ s) =
      piecesFrom fuel (position + lead.length) (lead.reverse ++ plain) s := by
  induction lead generalizing position plain with
  | nil => simp
  | cons c lead ih =>
      rw [List.forall_mem_cons] at h
      obtain ⟨⟨hbracket, hslash⟩, hrest⟩ := h
      have hslashes : (c :: (lead ++ s)).takeWhile (· == '\\') = [] := by
        rw [List.takeWhile_cons_of_neg (by simpa using hslash)]
      have hplain : tagBody? (c :: (lead ++ s)) = none := by
        unfold tagBody?
        split
        · rename_i heq
          exact absurd (List.cons.inj heq).1 hbracket
        · rfl
      rw [List.length_cons, Nat.add_right_comm, List.cons_append, piecesFrom, hslashes]
      simp only [List.length_nil, List.drop_zero, hplain]
      rw [ih hrest, List.reverse_cons, List.append_assoc, Nat.add_assoc, Nat.add_comm 1]
      rfl

/-- A message in a style can be shown if no bracket and slash occur in it; and so can it behind
blanks. -/
theorem exists_shown_styled
    {style : String}
    (hstyle : IsStyle style.toList)
    {message : Text}
    (lead : Text)
    (hlead : ∀ c ∈ lead, c ≠ '[' ∧ c ≠ '\\')
    (h : ¬HasCloser message) :
    ∃ t, shown (lead ++ styled style message) = .ok t := by
  have hstyled : styled style message =
      '[' :: (style.toList ++ ']' :: (message ++ closing style.toList)) := rfl
  have hname : style.toList.takeWhile (· != '=') = style.toList := by
    rw [List.takeWhile_eq_self_iff]
    intro c hc
    simpa using (hstyle.plain c hc).2.2
  -- the tag in front opens the style, which is left open for the tag at the end
  obtain ⟨rest, hpieces, hrest⟩ : ∃ rest, Markup.pieces (lead ++ styled style message) =
      .text (unescape (lead.reverse ++ []).reverse) :: .text [] ::
        .tag (0 + lead.length + 0) style.toList :: rest ∧ ClosesOnly style.toList rest := by
    rw [Markup.pieces, List.length_append, piecesFrom_append hlead, hstyled, List.length_cons,
      piecesFrom]
    have hslashes : ('[' :: (style.toList ++ ']' :: (message ++ closing style.toList))).takeWhile
        (· == '\\') = [] := rfl
    simp only [hslashes, List.length_nil, List.drop_zero, tagBody?_style hstyle, Nat.zero_div,
      List.replicate_zero, Nat.zero_mod, Nat.reduceEqDiff, if_false, List.cons_append,
      List.nil_append]
    refine ⟨_, rfl, ?_⟩
    rw [List.drop_succ_cons, List.drop_append, List.drop_of_length_le (Nat.le_succ _),
      List.nil_append, Nat.add_sub_cancel_left, List.drop_succ_cons, List.drop_zero]
    exact closesOnly_piecesFrom hstyle (endsOnly_append_closing hstyle h)
  have hopened : ∃ t, shownPieces [styleName style.toList] rest = .ok t :=
    exists_shownPieces hstyle hrest.named (by simpa using hrest.once)
  obtain ⟨t, hshown⟩ := hopened
  obtain ⟨c, r, hc, -, hslash⟩ := hstyle.starts
  have hall : ∃ t, shownPieces [] (Markup.pieces (lead ++ styled style message)) = .ok t := by
    rw [hpieces, shownPieces, shownPieces, shownPieces.eq_def]
    dsimp only
    rw [hname]
    split
    · rename_i heq
      rw [hc] at heq
      exact absurd (List.cons.inj heq).1 hslash
    · rw [hshown]
      exact ⟨_, rfl⟩
  obtain ⟨u, hu⟩ := hall
  exact ⟨_, by rw [shown, hu]; rfl⟩

/-! ## Where closing tags start -/

namespace HasCloser

/-- A closing tag starts in one of two texts, or where they meet. -/
theorem of_append
    (h : HasCloser (s ++ t)) :
    HasCloser s ∨ HasCloser t ∨ (s.getLast? = some '[' ∧ t.head? = some '/') := by
  induction s with
  | nil => exact .inr (.inl h)
  | cons c s ih =>
      have hcons : ['[', '/'] <:+: c :: (s ++ t) := h
      rcases List.infix_cons_iff.1 hcons with hhere | hlater
      · cases s with
        | nil =>
            cases t with
            | nil => exact absurd (hhere.length_le) (by simp)
            | cons d t =>
                rw [List.nil_append, List.cons_prefix_cons, List.cons_prefix_cons] at hhere
                obtain ⟨rfl, rfl, -⟩ := hhere
                exact .inr (.inr ⟨rfl, rfl⟩)
        | cons d s =>
            rw [List.cons_append, List.cons_prefix_cons, List.cons_prefix_cons] at hhere
            obtain ⟨rfl, rfl, -⟩ := hhere
            exact .inl (List.prefix_append ['[', '/'] s).isInfix
      · rcases ih hlater with hs | ht | ⟨hlast, hhead⟩
        · exact .inl (hs.trans (List.suffix_cons c s).isInfix)
        · exact .inr (.inl ht)
        · refine .inr (.inr ⟨?_, hhead⟩)
          rw [List.getLast?_cons, hlast]
          rfl

/-- A text in front that does not end in a bracket starts no closing tag of its own. -/
theorem of_append_right
    (h : HasCloser (s ++ t))
    (hs : ¬HasCloser s)
    (hlast : s.getLast? ≠ some '[') :
    HasCloser t := by
  rcases h.of_append with h | h | h
  · exact absurd h hs
  · exact h
  · exact absurd h.1 hlast

/-- A text behind that does not begin with a slash starts no closing tag. -/
theorem of_append_left
    (h : HasCloser (s ++ t))
    (ht : ¬HasCloser t)
    (hhead : t.head? ≠ some '/') :
    HasCloser s := by
  rcases h.of_append with h | h | h
  · exact h
  · exact absurd h ht
  · exact absurd h.2 hhead

/-- No closing tag starts where there is no bracket. -/
theorem bracket_mem
    (h : HasCloser s) :
    '[' ∈ s :=
  h.mem (by simp)

/-- No closing tag starts where there is no slash. -/
theorem slash_mem
    (h : HasCloser s) :
    '/' ∈ s :=
  h.mem (by simp)

/-- A closing tag in joined texts starts in one of them, unless the separator has a bracket or a
slash. -/
theorem of_join
    {separator : Text}
    {parts : List Text}
    (hseparator : ∀ c ∈ separator, c ≠ '[' ∧ c ≠ '/')
    (hne : separator ≠ [])
    (h : HasCloser (Text.join separator parts)) :
    ∃ part ∈ parts, HasCloser part := by
  unfold Text.join at h
  induction parts with
  | nil => exact absurd h.bracket_mem (by simp)
  | cons part rest ih =>
      cases rest with
      | nil => exact ⟨part, by simp, by simpa using h⟩
      | cons next rest =>
          rw [List.intercalate_cons_cons, List.append_assoc] at h
          have hfront : ¬HasCloser separator := fun h' => (hseparator _ h'.bracket_mem).1 rfl
          have hlast : separator.getLast? ≠ some '[' := fun hlast =>
            (hseparator _ (List.mem_of_getLast? hlast)).1 rfl
          rcases h.of_append with h | h | ⟨-, hhead⟩
          · exact ⟨part, by simp, h⟩
          · obtain ⟨found, hfound, h⟩ := ih (h.of_append_right hfront hlast)
            exact ⟨found, List.mem_cons_of_mem _ hfound, h⟩
          · obtain ⟨c, r, rfl⟩ := List.exists_cons_of_ne_nil hne
            exact absurd (Option.some.inj hhead) (hseparator c (by simp)).2

end HasCloser

end BotCanvas.Markup

namespace BotCanvas.Text

/-- Digits are no brackets and no slashes. -/
theorem mem_hexDigits
    {width n : Nat}
    {c : Char}
    (h : c ∈ hexDigits width n) :
    c ≠ '[' ∧ c ≠ '/' := by
  have hdigit : ∀ n < 16, hexDigit n ≠ '[' ∧ hexDigit n ≠ '/' := by decide
  induction width generalizing n with
  | zero => cases h
  | succ width ih =>
      rw [hexDigits, List.mem_append] at h
      rcases h with h | h
      · exact ih h
      · rw [List.mem_singleton.1 h]
        exact hdigit _ (Nat.mod_lt _ (by decide))

/-- A character is quoted as itself, or by a backslash and others that are no brackets and no
slashes. -/
theorem quotedChar_cases
    {quote : Char}
    (hquote : quote ≠ '[' ∧ quote ≠ '/')
    (c : Char) :
    quotedChar quote c = [c] ∨
      ∃ r, quotedChar quote c = '\\' :: r ∧ ∀ d ∈ r, d ≠ '[' ∧ d ≠ '/' := by
  unfold quotedChar
  split
  · rename_i h
    refine .inr ⟨_, rfl, ?_⟩
    rw [List.forall_mem_singleton]
    rcases h with rfl | rfl
    · exact hquote
    · decide
  · split
    · exact .inr ⟨_, rfl, by simp⟩
    · split
      · exact .inr ⟨_, rfl, by simp⟩
      · split
        · exact .inr ⟨_, rfl, by simp⟩
        · split
          · right
            dsimp only
            split
            · exact ⟨_, rfl, List.forall_mem_cons.2 ⟨by decide, fun d => mem_hexDigits⟩⟩
            · split
              · exact ⟨_, rfl, List.forall_mem_cons.2 ⟨by decide, fun d => mem_hexDigits⟩⟩
              · exact ⟨_, rfl, List.forall_mem_cons.2 ⟨by decide, fun d => mem_hexDigits⟩⟩
          · exact .inl rfl

/-- A bracket or a slash in a quoted character is the character. -/
theorem quotedChar_eq_singleton
    {quote c d : Char}
    (hquote : quote ≠ '[' ∧ quote ≠ '/')
    (hd : d ∈ quotedChar quote c)
    (hcase : d = '[' ∨ d = '/') :
    c = d ∧ quotedChar quote c = [d] := by
  rcases quotedChar_cases hquote c with hself | ⟨r, hr, hothers⟩
  · rw [hself] at hd ⊢
    obtain rfl := List.mem_singleton.1 hd
    exact ⟨rfl, rfl⟩
  · rw [hr, List.mem_cons] at hd
    rcases hd with rfl | hd
    · exact absurd hcase (by decide)
    · rcases hcase with rfl | rfl
      · exact absurd rfl (hothers _ hd).1
      · exact absurd rfl (hothers _ hd).2

/-- Quoting adds no closing tag. -/
theorem hasCloser_of_flatMap
    {quote : Char}
    (hquote : quote ≠ '[' ∧ quote ≠ '/')
    {s : Text}
    (h : Markup.HasCloser (s.flatMap (quotedChar quote))) :
    Markup.HasCloser s := by
  induction s with
  | nil => exact absurd h.bracket_mem (by simp)
  | cons c s ih =>
      rw [List.flatMap_cons] at h
      rcases h.of_append with h | h | ⟨hlast, hhead⟩
      · obtain ⟨-, hself⟩ := quotedChar_eq_singleton hquote h.bracket_mem (.inl rfl)
        rw [hself] at h
        exact absurd h.length_le (by simp)
      · exact (ih h).trans (List.suffix_cons c s).isInfix
      · -- a bracket is followed by what begins with a slash, and only a slash does
        obtain ⟨rfl, -⟩ := quotedChar_eq_singleton hquote (List.mem_of_getLast? hlast) (.inl rfl)
        cases s with
        | nil => cases hhead
        | cons d s =>
            have hslash : d = '/' := by
              rw [List.flatMap_cons] at hhead
              rcases quotedChar_cases hquote d with hself | ⟨r, hr, -⟩
              · rw [hself] at hhead
                exact Option.some.inj hhead
              · rw [hr] at hhead
                exact absurd (Option.some.inj hhead) (by decide)
            rw [hslash]
            exact (List.prefix_append ['[', '/'] s).isInfix

/-- A closing tag in a quoted text is one of the text. -/
theorem hasCloser_of_quoted
    {s : Text}
    (h : Markup.HasCloser (quoted s)) :
    Markup.HasCloser s := by
  have hquote : quoteFor s ≠ '[' ∧ quoteFor s ≠ '/' := by
    unfold quoteFor
    split <;> decide
  have hbody : Markup.HasCloser (s.flatMap (quotedChar (quoteFor s)) ++ [quoteFor s]) :=
    (List.infix_cons_iff.1 h).resolve_left fun hprefix =>
      hquote.1 (List.cons_prefix_cons.1 hprefix).1.symm
  refine hasCloser_of_flatMap hquote (hbody.of_append_left ?_ ?_)
  · exact fun hlast => absurd hlast.length_le (by simp)
  · exact fun hhead => hquote.2 (Option.some.inj hhead)

end BotCanvas.Text
