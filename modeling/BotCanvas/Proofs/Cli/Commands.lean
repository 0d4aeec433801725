import BotCanvas.Proofs.Cli.Messages

/-!
# Rules for commands

What a command does is said by the disk that it is given (`Does`): with which results and disks it
can come to its end, and with which endings and disks it can end the run. There is one rule for each
way to put commands together. Most commands show something and leave the disk as it is (`Keeps`).
-/

namespace BotCanvas

open Markup (HasCloser IsStyle)

namespace Command

variable {α β : Type}
variable {c : Command α}
variable {f : α → Command β}
variable {d d' : Disk}
variable {done : α → Disk → Prop}
variable {done' : β → Disk → Prop}
variable {ended : Ending → Disk → Prop}

/-- On a disk, a command comes to its end with one of some results, or it ends the run in one of some
ways. -/
def Does (c : Command α) (d : Disk) (done : α → Disk → Prop) (ended : Ending → Disk → Prop) : Prop :=
  ∀ s : Transcript, s.disk = d →
    match c.run.run s with
    | (.ok a, s') => done a s'.disk
    | (.error e, s') => ended e s'.disk

namespace Does

theorem pure
    {a : α}
    (h : done a d) :
    Does (Pure.pure a) d done ended := by
  rintro s rfl
  exact h

/-- An ending ends the run. -/
theorem finish
    {e : Ending}
    (h : ended e d) :
    Does (Command.finish e) d done ended := by
  rintro s rfl
  exact h

/-- A command goes on with what the one before it has come to. -/
theorem bind
    (hfirst : Does c d done ended)
    (hrest : ∀ a d', done a d' → Does (f a) d' done' ended) :
    Does (c >>= f) d done' ended := by
  intro s hs
  have hfirst := hfirst s hs
  rw [ExceptT.run_bind, StateT.run_bind]
  cases hrun : c.run.run s with
  | mk result s' =>
      rw [hrun] at hfirst
      cases result with
      | error e => exact hfirst
      | ok a => exact hrest a s'.disk hfirst s' rfl

theorem mono
    {done' : α → Disk → Prop}
    {ended' : Ending → Disk → Prop}
    (h : Does c d done ended)
    (hdone : ∀ a d', done a d' → done' a d')
    (hended : ∀ e d', ended e d' → ended' e d') :
    Does c d done' ended' := by
  intro s hs
  have h := h s hs
  cases hrun : c.run.run s with
  | mk result s' =>
      rw [hrun] at h
      cases result with
      | error e => exact hended e _ h
      | ok a => exact hdone a _ h

/-- What is seen of the run so far has the disk that is there. -/
theorem seen :
    Does get d (fun s d' => d = d' ∧ s.disk = d) ended := by
  rintro s rfl
  exact ⟨rfl, rfl⟩

/-- Changing the run so far changes the disk that is there. -/
theorem changed
    {g : Transcript → Transcript}
    (d' : Disk)
    (h : ∀ s, s.disk = d → (g s).disk = d') :
    Does (modify g) d (fun _ disk => disk = d') ended := by
  intro s hs
  exact h s hs

end Does

/-- On every disk, a command leaves the disk as it is. It comes to its end with one of some results,
or it ends the run in one of some ways. -/
def Keeps (c : Command α) (result : α → Prop) (ending : Ending → Prop) : Prop :=
  ∀ d, Does c d (fun a d' => d' = d ∧ result a) (fun e d' => d' = d ∧ ending e)

namespace Keeps

variable {result : α → Prop}
variable {result' : β → Prop}
variable {ending : Ending → Prop}

theorem pure
    {a : α}
    (h : result a) :
    Keeps (Pure.pure a) result ending :=
  fun _ => .pure ⟨rfl, h⟩

theorem finish
    {e : Ending}
    (h : ending e) :
    Keeps (Command.finish e) result ending :=
  fun _ => .finish ⟨rfl, h⟩

theorem bind
    (hfirst : Keeps c result ending)
    (hrest : ∀ a, result a → Keeps (f a) result' ending) :
    Keeps (c >>= f) result' ending := by
  intro d
  refine (hfirst d).bind ?_
  rintro a d' ⟨rfl, ha⟩
  exact hrest a ha d'

/-- A command that leaves the disk as it is, before one that may not. -/
theorem bind_does
    (hfirst : Keeps c result ending)
    (hended : ∀ e, ending e → ended e d)
    (hrest : ∀ a, result a → Does (f a) d done' ended) :
    Does (c >>= f) d done' ended := by
  refine ((hfirst d).mono (fun _ _ h => h) ?_).bind ?_
  · rintro e d' ⟨rfl, he⟩
    exact hended e he
  · rintro a d' ⟨rfl, ha⟩
    exact hrest a ha

/-- A command that leaves the disk as it is, where that is all that is asked for. -/
theorem does
    (h : Keeps c result ending)
    (hdone : ∀ a, result a → done a d)
    (hended : ∀ e, ending e → ended e d) :
    Does c d done ended := by
  refine (h d).mono ?_ ?_
  · rintro a d' ⟨rfl, ha⟩
    exact hdone a ha
  · rintro e d' ⟨rfl, he⟩
    exact hended e he

/-- Changes of the lines that are shown leave the disk as it is. -/
theorem changed
    {g : Transcript → Transcript}
    (h : ∀ s, (g s).disk = s.disk) :
    Keeps (modify g) (fun _ => True) ending :=
  fun d => (Does.changed d fun s hs => (h s).trans hs).mono (fun _ _ hd => ⟨hd, trivial⟩)
    fun _ _ he => he

/-- What is done for every item of a list leaves the disk as it is if it does so for each. -/
theorem forM
    {l : List α}
    {g : α → Command Unit}
    (h : ∀ a ∈ l, Keeps (g a) (fun _ => True) ending) :
    Keeps (l.forM g) (fun _ => True) ending := by
  induction l with
  | nil => exact pure trivial
  | cons a l ih =>
      rw [List.forall_mem_cons] at h
      rw [List.forM_eq_forM, List.forM_cons]
      exact bind h.1 fun _ _ => ih h.2

/-- So does what is repeated for every item of a list. -/
theorem forIn
    {l : List α}
    {body : α → PUnit → Command (ForInStep PUnit)}
    (h : ∀ a ∈ l, Keeps (body a ⟨⟩) (fun step => step = .yield ⟨⟩) ending) :
    Keeps (ForIn.forIn l ⟨⟩ body) (fun _ => True) ending := by
  induction l with
  | nil => exact pure trivial
  | cons a l ih =>
      rw [List.forall_mem_cons] at h
      rw [List.forIn_cons]
      refine bind h.1 ?_
      rintro step rfl
      exact ih h.2

end Keeps

/-! ## Showing -/

/-- An ending by a tag that closes nothing. -/
def Unclosed (ending : Ending → Prop) : Prop :=
  ∀ e, ending (.crash (.markup e))

variable {ending : Ending → Prop}
variable {message : Text}

theorem shown_or_unclosed
    (h : HasCloser message → Unclosed ending) :
    (∃ t, Markup.shown message = .ok t) ∨ Unclosed ending := by
  by_cases hcloser : HasCloser message
  · exact .inr (h hcloser)
  · exact .inl (Markup.exists_shown hcloser)

/-- What is shown of a message leaves the disk as it is, and ends the run only in its tags. -/
theorem keeps_shown
    (h : (∃ t, Markup.shown message = .ok t) ∨ Unclosed ending) :
    Keeps (shown message) (fun _ => True) ending := by
  unfold shown
  cases hshown : Markup.shown message with
  | ok t => exact .pure trivial
  | error e =>
      refine .finish (h.resolve_left ?_ e)
      rintro ⟨t, ht⟩
      rw [hshown] at ht
      cases ht

theorem keeps_say
    (h : (∃ t, Markup.shown message = .ok t) ∨ Unclosed ending) :
    Keeps (say message) (fun _ => True) ending :=
  (keeps_shown h).bind fun _ _ => .changed fun _ => rfl

/-- The styles of messages. -/
def styles : List String := ["bold red", "bold yellow", "bold green", "dim"]

theorem isStyle_of_mem
    {style : String}
    (h : style ∈ styles) :
    IsStyle style.toList := by
  have hstyles : ∀ style ∈ styles, (style.toList.all fun c => c ∉ ['[', ']', '=']) = true ∧
      (Markup.styleName style.toList).isEmpty = false ∧
      (style.toList.head?.any fun c => Markup.startsTag c && c != '/') = true := by
    decide
  obtain ⟨hplain, hnamed, hhead⟩ := hstyles style h
  obtain ⟨c, hc, hstart⟩ := (Option.any_eq_true _ _).1 hhead
  refine ⟨⟨c, _, List.eq_cons_of_mem_head? hc, by simpa using hstart⟩, fun c hc => ?_, hnamed⟩
  simpa using List.all_eq_true.1 hplain c hc

/-- A message in a style, behind blanks, can be shown unless a closing tag starts in its text. -/
theorem styled_or_unclosed
    (style : String)
    (hstyle : style ∈ styles)
    (lead : Text)
    (hlead : ∀ c ∈ lead, c ≠ '[' ∧ c ≠ '\\')
    (h : HasCloser message → Unclosed ending) :
    (∃ t, Markup.shown (lead ++ Markup.styled style message) = .ok t) ∨ Unclosed ending := by
  by_cases hcloser : HasCloser message
  · exact .inr (h hcloser)
  · exact .inl (Markup.exists_shown_styled (isStyle_of_mem hstyle) lead hlead hcloser)

theorem keeps_say_styled
    (style : String)
    (hstyle : style ∈ styles)
    (h : HasCloser message → Unclosed ending) :
    Keeps (say (Markup.styled style message)) (fun _ => True) ending :=
  keeps_say (styled_or_unclosed style hstyle [] nofun h)

theorem keeps_succeed
    (h : HasCloser message → Unclosed ending) :
    Keeps (succeed message) (fun _ => True) ending :=
  keeps_say_styled "bold green" (by decide) h

/-- An error is reported, which ends the run, unless a closing tag does. -/
theorem keeps_report
    {result : α → Prop}
    (hexit : ending (.exit 1))
    (h : HasCloser message → Unclosed ending) :
    Keeps (report message : Command α) result ending := by
  have hshown := styled_or_unclosed "bold red" (by decide) [] nofun
    fun hcloser => h (@hasCloser_of_words "Error: " _ (by decide) hcloser)
  unfold report
  refine (keeps_shown hshown).bind fun t _ => ?_
  refine (Keeps.changed fun _ => ?_).bind fun _ _ => ?_
  · rfl
  · exact .finish hexit

/-! ## Outcomes -/

/-- Input is given as it is; an error is reported, unless it is a fault of the program. -/
theorem keeps_given
    {input : Except InputError α}
    (hexit : ending (.exit 1))
    (hpairing : ∀ p, input = .error (.pairing p) → p.isForeseen = false →
      ending (.crash (.pairing p)))
    (hcloser : ∀ e, input = .error e → e.isReported = true → HasCloser e.message.toList →
      Unclosed ending) :
    Keeps (given input) (fun a => input = .ok a) ending := by
  unfold given
  cases input with
  | ok a => exact .pure rfl
  | error e =>
      dsimp only
      split
      · rename_i p
        cases hforeseen : p.isForeseen with
        | true =>
            rw [if_pos (show (InputError.pairing p).isReported = true from hforeseen)]
            exact keeps_report hexit (hcloser _ rfl hforeseen)
        | false =>
            have hunreported : ¬(InputError.pairing p).isReported = true := by
              simp [InputError.isReported, hforeseen]
            rw [if_neg hunreported]
            exact .finish (hpairing p rfl hforeseen)
      · rename_i hother
        have hreported : e.isReported = true := by
          cases e with
          | pairing p => exact absurd rfl (hother p)
          | _ => rfl
        exact keeps_report hexit (hcloser _ rfl hreported)

/-- An obstacle on the disk is reported, unless the path cannot be used at all. -/
theorem keeps_written
    {result : Except DiskError α}
    (hexit : ending (.exit 1))
    (hunusable : ∀ e, result = .error e → e.fault = .unusable → ending (.crash (.disk e)))
    (hcloser : ∀ e, result = .error e → HasCloser e.message.toList → Unclosed ending) :
    Keeps (written result) (fun a => result = .ok a) ending := by
  unfold written
  cases result with
  | ok a => exact .pure rfl
  | error e =>
      dsimp only
      split
      · exact .finish (hunusable e rfl ‹_›)
      · refine keeps_report hexit fun h => hcloser e rfl ?_
        exact hasCloser_of_words (by decide) h

/-- A closing tag in a list of identifiers is one of an identifier. -/
theorem hasCloser_of_intercalate
    {ids : List String}
    (h : HasCloser (", ".intercalate ids).toList) :
    ∃ id ∈ ids, HasCloser id.toList := by
  rw [String.toList_intercalate] at h
  obtain ⟨part, hpart, hcloser⟩ := HasCloser.of_join (by simp) (by decide) h
  obtain ⟨id, hid, rfl⟩ := List.mem_map.1 hpart
  exact ⟨id, hid, hcloser⟩

/-- Findings are shown. -/
theorem keeps_showFindings
    {findings : List Finding}
    (h : ∀ f ∈ findings, ∀ id ∈ f.blocks, HasCloser id.toList → Unclosed ending) :
    Keeps (showFindings findings) (fun _ => True) ending := by
  have hnone : Keeps (say (Markup.styled "dim" "No graph findings.".toList)) (fun _ => True)
      ending :=
    keeps_say_styled "dim" (by decide) fun h => absurd h.bracket_mem (by decide)
  have hblocks : Keeps (ForIn.forIn findings PUnit.unit fun f _ => do
      let _ ← shown (", ".intercalate f.blocks).toList
      pure (ForInStep.yield PUnit.unit)) (fun _ => True) ending := by
    refine .forIn fun f hf => (keeps_shown (shown_or_unclosed fun hcloser => ?_)).bind fun _ _ =>
      .pure rfl
    obtain ⟨id, hid, hcloser⟩ := hasCloser_of_intercalate hcloser
    exact h f hf id hid hcloser
  have hcritical : Keeps (if Advice.hasCritical findings then say (Markup.styled "bold yellow"
      "Critical findings present; the bot will still be exported.".toList) else pure ())
      (fun _ => True) ending := by
    split
    · exact keeps_say_styled "bold yellow" (by decide) fun h => absurd h.bracket_mem (by decide)
    · exact .pure trivial
  unfold showFindings
  dsimp only
  split
  · exact hnone.bind fun _ _ => hblocks.bind fun _ _ => hcritical
  · exact hblocks.bind fun _ _ => hcritical

/-- Reports on progress are shown. -/
theorem keeps_showProgress
    {x : Exporter}
    {reports : List Exporter.Progress}
    (h : ∀ r ∈ reports, HasCloser r.message → Unclosed ending) :
    Keeps (showProgress x reports) (fun _ => True) ending := by
  unfold showProgress
  split
  · refine Keeps.forM fun r hr => ?_
    exact keeps_say (styled_or_unclosed "dim" (by decide) [' ', ' '] (by simp) (h r hr))
  · exact .pure trivial

end Command

end BotCanvas
