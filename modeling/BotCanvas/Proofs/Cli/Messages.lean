import BotCanvas.Cli.Run
import BotCanvas.Proofs.Disk.Saving
import BotCanvas.Proofs.Schema.Reports

/-!
# Closing tags in messages

A run shows messages, and they are read as markup. The words of a message are fixed, and between
them stand texts of the user (`UserText`): paths, values that were refused, the language, identifiers
of blocks. The fixed words never start a closing tag, so one that starts in a message starts in a text
of the user.
-/

namespace BotCanvas

open Markup (HasCloser)

/-! ## Words -/

/-- Digits are no brackets. -/
theorem Binary64.not_mem_natDigits
    (n : Nat) :
    '[' ∉ natDigits n := by
  intro h
  have hdigit := Nat.isDigit_of_mem_toDigits (by decide) (by decide) h
  exact absurd hdigit (by decide)

/-- The spelling of a number has no bracket. -/
theorem not_mem_toString
    (n : Nat) :
    '[' ∉ (toString n).toList := by
  rw [Nat.toString_eq_repr, Nat.toList_repr]
  exact Binary64.not_mem_natDigits n

/-- The spelling of a fraction has no bracket. -/
theorem Binary64.not_mem_unitsFixed
    (units : Nat) :
    '[' ∉ unitsFixed units := by
  unfold unitsFixed
  dsimp only
  rw [List.mem_append, List.mem_cons, not_or, not_or]
  exact ⟨not_mem_natDigits _, by decide, not_mem_natDigits _⟩

/-- Texts without brackets have none together. -/
theorem not_mem_append
    {s t : String}
    (hs : '[' ∉ s.toList)
    (ht : '[' ∉ t.toList) :
    '[' ∉ (s ++ t).toList := by
  rw [String.toList_append, List.mem_append]
  exact not_or.2 ⟨hs, ht⟩

/-- A closing tag behind words without a bracket is one of what follows. -/
theorem hasCloser_of_words
    {words : String}
    {t : Text}
    (hwords : '[' ∉ words.toList)
    (h : HasCloser (words.toList ++ t)) :
    HasCloser t :=
  h.of_append_right (fun h => hwords h.bracket_mem) fun hlast =>
    hwords (List.mem_of_getLast? hlast)

/-- A closing tag in two texts is one of the second if the first has no bracket. -/
theorem hasCloser_of_append_right
    {s t : String}
    (hs : '[' ∉ s.toList)
    (h : HasCloser (s ++ t).toList) :
    HasCloser t.toList := by
  rw [String.toList_append] at h
  exact hasCloser_of_words hs h

/-- It is one of the first if the second has no bracket and does not begin with a slash. -/
theorem hasCloser_of_append_left
    {s t : String}
    (ht : '[' ∉ t.toList)
    (hhead : t.toList.head? ≠ some '/')
    (h : HasCloser (s ++ t).toList) :
    HasCloser s.toList := by
  rw [String.toList_append] at h
  exact h.of_append_left (fun h => ht h.bracket_mem) hhead

/-- The spelling of a number with a unit has no bracket. -/
theorem Binary64.not_mem_withUnit
    {name s : String}
    (hname : '[' ∉ name.toList)
    {x : Binary64}
    (h : x.withUnit name = .ok s) :
    '[' ∉ s.toList := by
  cases x with
  | finite negative units =>
      rw [← Except.ok.inj h]
      refine not_mem_append ?_ hname
      rw [String.toList_ofList]
      exact not_mem_unitsFixed units
  | nan => cases h
  | infinite negative => cases h

/-- The spelling of a size has no bracket. -/
theorem not_mem_formatSize
    {n : Nat}
    {s : String}
    (h : formatSize n = .ok s) :
    '[' ∉ s.toList := by
  have hbytes : '[' ∉ (toString (n : Int) ++ " B").toList :=
    not_mem_append (not_mem_toString n) (by decide)
  unfold formatSize at h
  split at h
  · rwa [← Except.ok.inj h]
  · split at h
    · exact Binary64.not_mem_withUnit (by decide) h
    · exact Binary64.not_mem_withUnit (by decide) h

/-- The wording of a fault in a document has no bracket. -/
theorem DocumentError.not_mem_message
    (e : DocumentError) :
    '[' ∉ e.message.toList := by
  have hwording : '[' ∉ e.fault.wording.toList := by
    cases e.fault <;> decide
  have hline := not_mem_append (not_mem_append hwording (t := ": line ") (by decide))
    (not_mem_toString e.line)
  have hcolumn := not_mem_append (not_mem_append hline (t := " column ") (by decide))
    (not_mem_toString e.column)
  exact not_mem_append (not_mem_append (not_mem_append hcolumn (by decide))
    (not_mem_toString e.before.length)) (by decide)

/-- The wording of a foreseen error in credentials has no bracket. -/
theorem PairingError.not_mem_message
    {e : PairingError}
    (h : e.isForeseen = true) :
    '[' ∉ e.message.toList := by
  cases e with
  | wrongLength index length =>
      have hindex := not_mem_append (s := "dictionary update sequence element #") (by decide)
        (not_mem_toString index)
      exact not_mem_append (not_mem_append (not_mem_append hindex (by decide))
        (not_mem_toString length)) (by decide)
  | notIterable kind => cases h
  | notSequence index => cases h
  | unusableKey kind => cases h

/-! ## Paths -/

/-- A closing tag in a path is one of the paths below it. -/
theorem Path.hasCloser_of_above
    {p q : Path}
    (hroot : q.root = p.root)
    (hnames : q.names <+: p.names)
    (h : HasCloser q.text) :
    HasCloser p.text := by
  obtain ⟨rest, hrest⟩ := hnames
  have hjoin : Text.join ['/'] q.names <+: Text.join ['/'] p.names := by
    rw [← hrest]
    unfold Text.join
    induction q.names with
    | nil => exact List.nil_prefix
    | cons name names ih =>
        cases names with
        | nil =>
            cases rest with
            | nil => exact List.prefix_refl _
            | cons next rest =>
                rw [List.cons_append, List.nil_append, List.intercalate_cons_cons,
                  List.append_assoc, List.intercalate_singleton]
                exact List.prefix_append _ _
        | cons next names =>
            rw [List.cons_append, List.cons_append, List.intercalate_cons_cons,
              List.intercalate_cons_cons]
            exact (List.prefix_append_right_inj _).2 ih
  unfold text at h ⊢
  split at h
  · exact absurd h.bracket_mem (by decide)
  · rename_i hq
    have hp : ¬(p.root.isEmpty && p.names.isEmpty) = true := by
      intro hempty
      refine hq ?_
      rw [Bool.and_eq_true, List.isEmpty_iff, List.isEmpty_iff] at hempty ⊢
      rw [hempty.2, List.append_eq_nil_iff] at hrest
      exact ⟨hroot.trans hempty.1, hrest.1⟩
    rw [if_neg hp, ← hroot]
    exact h.trans ((List.prefix_append_right_inj _).2 hjoin).isInfix

/-- A closing tag in the wording of an error is one of its path. -/
theorem DiskError.hasCloser_of_message
    {e : DiskError}
    (h : HasCloser e.message.toList) :
    HasCloser e.path := by
  have hreason : ∀ fault : DiskFault, '/' ∉ fault.reason.2.toList ∧
      '/' ∉ ("[Errno " ++ toString fault.reason.1 ++ "] " ++ fault.reason.2 ++ ": ").toList ∧
      ("[Errno " ++ toString fault.reason.1 ++ "] " ++ fault.reason.2 ++ ": ").toList.getLast? ≠
        some '[' := by
    intro fault
    cases fault <;> decide
  obtain ⟨hplain, hnumbered, hlast⟩ := hreason e.fault
  unfold message at h
  dsimp only at h
  split at h
  · exact absurd h.slash_mem hplain
  · rw [String.toList_append, String.toList_ofList] at h
    exact Text.hasCloser_of_quoted (h.of_append_right (fun h => hnumbered h.slash_mem) hlast)

/-- A closing tag in the wording of an error about a path is one of the path. -/
theorem Disk.IsAbout.hasCloser
    {e : DiskError}
    {p : Path}
    (habout : Disk.IsAbout e p)
    (h : HasCloser e.message.toList) :
    HasCloser p.text := by
  obtain ⟨q, hroot, hnames, hpath, -⟩ := habout
  have hclosing := DiskError.hasCloser_of_message h
  rw [hpath] at hclosing
  exact Path.hasCloser_of_above hroot hnames hclosing

/-! ## Lines of a run -/

/-- The texts of the user in a report. -/
def Exporter.Progress.userTexts : Progress → List Text
  | exporting _ _ language _ => [language.toList]
  | wrote _ folder => [folder.text]
  | _ => []

/-- A closing tag in a report on progress is one of the user. -/
theorem Exporter.Progress.hasCloser_of_message
    {p : Progress}
    (h : HasCloser p.message) :
    ∃ t ∈ p.userTexts, HasCloser t := by
  cases p with
  | exporting blocks connections language order =>
      refine ⟨_, List.mem_singleton_self _, ?_⟩
      have hfront : '[' ∉ ("Exporting " ++ toString blocks ++ " blocks / " ++ toString connections ++
          " connections as ").toList :=
        not_mem_append (not_mem_append (not_mem_append (not_mem_append (by decide)
          (not_mem_toString _)) (by decide)) (not_mem_toString _)) (by decide)
      have hname : '[' ∉ order.name.toList ∧ order.name.toList.head? ≠ some '/' := by
        cases order <;> decide
      have hlanguage := hasCloser_of_append_left (by decide) (by decide)
        (hasCloser_of_append_left hname.1 hname.2
          (hasCloser_of_append_left (by decide) (by decide) h))
      exact hasCloser_of_append_right hfront hlanguage
  | generated files dependencies =>
      refine absurd h.bracket_mem ?_
      exact not_mem_append (not_mem_append (not_mem_append (not_mem_append (by decide)
        (not_mem_toString _)) (by decide)) (not_mem_toString _)) (by decide)
  | packaged files bytes =>
      refine absurd h.bracket_mem ?_
      exact not_mem_append (not_mem_append (not_mem_append (not_mem_append (by decide)
        (not_mem_toString _)) (by decide)) (not_mem_toString _)) (by decide)
  | wrote files folder =>
      refine ⟨_, List.mem_singleton_self _, ?_⟩
      have hfront : '[' ∉ ("Wrote " ++ toString files ++ " files to ").toList :=
        not_mem_append (not_mem_append (by decide) (not_mem_toString _)) (by decide)
      exact hasCloser_of_words hfront h

/-- A closing tag in the last message about an archive is one of its path. -/
theorem Command.hasCloser_of_wrote
    {target : Path}
    {n : Nat}
    {size : String}
    (hsize : formatSize n = .ok size)
    (h : HasCloser ("Wrote ".toList ++ target.text ++ (" (" ++ size ++ ")").toList)) :
    HasCloser target.text := by
  have hback : '[' ∉ (" (" ++ size ++ ")").toList :=
    not_mem_append (not_mem_append (by decide) (not_mem_formatSize hsize)) (by decide)
  have hhead : (" (" ++ size ++ ")").toList.head? = some ' ' := by
    have hopening : " (".toList = [' ', '('] := by decide
    rw [String.append_assoc, String.toList_append, hopening]
    rfl
  have hfront := h.of_append_left (fun h => hback h.bracket_mem) (by rw [hhead]; decide)
  exact hasCloser_of_words (by decide) hfront

/-- A closing tag in the last message about a folder is one of the language or of the output. -/
theorem Command.hasCloser_of_exported
    {language output : String}
    (h : HasCloser ("Exported " ++ language ++ " bot to " ++ output).toList) :
    HasCloser language.toList ∨ HasCloser output.toList := by
  have hlast : ("Exported " ++ language ++ " bot to ").toList.getLast? = some ' ' := by
    have hback : " bot to ".toList.getLast? = some ' ' := by decide
    rw [String.toList_append, List.getLast?_append, hback]
    rfl
  rw [String.toList_append] at h
  rcases h.of_append with h | h | ⟨hbracket, -⟩
  · exact .inl (hasCloser_of_append_right (by decide)
      (hasCloser_of_append_left (by decide) (by decide) h))
  · exact .inr h
  · rw [hlast] at hbracket
    exact absurd hbracket (by decide)

/-- A closing tag in the complaint about a language is one of the language. -/
theorem Dialect.hasCloser_of_unsupported
    {language : String}
    {e : UnsupportedLanguage}
    (h : ofLanguage language = .error e)
    (hcloser : HasCloser e.message.toList) :
    HasCloser language.toList := by
  unfold ofLanguage at h
  cases hfound : all.find? fun d => d.language == language with
  | some d =>
      rw [hfound] at h
      cases h
  | none =>
      rw [hfound] at h
      cases h
      have hchoices : '[' ∉ (if languages.isEmpty = true then ""
          else " (expected one of: " ++ ", ".intercalate languages ++ ")").toList ∧
          (if languages.isEmpty = true then ""
            else " (expected one of: " ++ ", ".intercalate languages ++ ")").toList.head? ≠
              some '/' := by
        decide
      have hquoted := hasCloser_of_append_right (by decide)
        (hasCloser_of_append_left hchoices.1 hchoices.2 hcloser)
      rw [String.toList_ofList] at hquoted
      exact Text.hasCloser_of_quoted hquoted

/-! ## Texts of the user -/

/-- A text of the user that a run may show. -/
inductive UserText (a : Arguments) (environment : List (String × String)) (d : Disk) : Text → Prop
  | canvas : UserText a environment d (Path.read a.canvas.toList).text
  | config {path : String} (h : a.config = some path) :
      UserText a environment d (Path.read path.toList).text
  | variable {t : Text} (h : Config.variableText? environment "BOTEXPORT_PREVIEW_LENGTH" = some t) :
      UserText a environment d t
  | setting {model : String} {source : Value} {issues : List Issue} {i : Issue}
      (h : Input.config a environment d = .error (.invalid model source issues)) (hi : i ∈ issues) :
      UserText a environment d (i.subject source).shown
  | field {model : String} {source : Value} {issues : List Issue} {i : Issue}
      (h : Input.request a d = .error (.invalid model source issues)) (hi : i ∈ issues) :
      UserText a environment d (i.subject source).shown
  | language {r : ExportRequest} (h : Input.request a d = .ok r) :
      UserText a environment d r.language.toList
  | block {r : ExportRequest} {f : Finding} {id : String} (h : Input.request a d = .ok r)
      (hf : f ∈ Advice.analyze .builtin r.canvas) (hid : id ∈ f.blocks) :
      UserText a environment d id.toList
  | output : UserText a environment d a.output.toList
  | folder : UserText a environment d (Path.read a.output.toList).text
  | archive {r : ExportRequest} (h : Input.request a d = .ok r) :
      UserText a environment d (Command.archivePath a.output r.language).text
  | file {path : String} (h : path ∈ Project.paths) :
      UserText a environment d ((Path.read a.output.toList).append (.read path.toList)).text

/-- A text of the user with the start of a closing tag. -/
def StrayCloser (a : Arguments) (environment : List (String × String)) (d : Disk) : Prop :=
  ∃ t, UserText a environment d t ∧ HasCloser t

/-- What stands where an integer should be is the text of a variable, cut off. -/
theorem Config.environmentFields_error
    {environment : List (String × String)}
    {text : String}
    (h : environmentFields environment = .error text) :
    ∃ t, variableText? environment "BOTEXPORT_PREVIEW_LENGTH" = some t ∧
      text = String.ofList ((Text.quoted t).take shownLimit) := by
  unfold environmentFields at h
  cases hvariable : variableText? environment "BOTEXPORT_PREVIEW_LENGTH" with
  | none =>
      simp only [hvariable] at h
      cases h
  | some t =>
      simp only [hvariable] at h
      cases hnumber : Numeral.environment? t with
      | some n =>
          simp only [hnumber] at h
          cases h
      | none =>
          simp only [hnumber] at h
          exact ⟨t, rfl, (Except.error.inj h).symm⟩

namespace Input

variable {a : Arguments}
variable {environment : List (String × String)}
variable {d : Disk}
variable {e : InputError}
variable {α : Type}

/-- A file that cannot be read is named in the error. -/
theorem readText_error
    {p : Path}
    (h : readText d p = .error e) :
    ∃ e', e = .disk e' ∧ Disk.IsAbout e' p := by
  unfold readText at h
  split at h
  · cases h
    exact ⟨_, rfl, Disk.read_error ‹_›⟩
  · cases h
  · cases h

/-- What is refused is refused with its issues. -/
theorem valid_error
    {model : String}
    {source : Value}
    {x : Checked α}
    (h : valid model source x = .error e) :
    ∃ issues, x = .invalid issues ∧ e = .invalid model source issues := by
  cases x with
  | valid a => cases h
  | invalid issues =>
      cases h
      exact ⟨issues, rfl, rfl⟩

/-- A closing tag in the wording of plain issues is one of a refused value. -/
theorem hasCloser_of_invalid
    {model : String}
    {source : Value}
    {issues : List Issue}
    (hmodel : '[' ∉ model.toList)
    (hplain : ∀ i ∈ issues, i.IsPlain)
    (h : HasCloser (InputError.invalid model source issues).message.toList) :
    ∃ i ∈ issues, HasCloser (i.subject source).shown := by
  have hreports : ∀ {issues : List Issue}, (∀ i ∈ issues, i.IsPlain) →
      HasCloser (issues.flatMap fun i => '\n' :: i.report source) →
      ∃ i ∈ issues, HasCloser (i.subject source).shown := by
    intro issues hplain h
    induction issues with
    | nil => exact absurd h.bracket_mem (by simp)
    | cons i issues ih =>
        rw [List.forall_mem_cons] at hplain
        rw [List.flatMap_cons] at h
        rcases h.of_append with h | h | ⟨-, hhead⟩
        · have hreport : HasCloser (i.report source) :=
            (List.infix_cons_iff.1 h).resolve_left fun h => by
              exact absurd (List.cons_prefix_cons.1 h).1 (by decide)
          exact ⟨i, by simp, Issue.hasCloser_of_report hplain.1 hreport⟩
        · obtain ⟨j, hj, h⟩ := ih hplain.2 h
          exact ⟨j, List.mem_cons_of_mem _ hj, h⟩
        · cases issues with
          | nil => cases hhead
          | cons j issues => exact absurd (Option.some.inj hhead) (by decide)
  have hplural : '[' ∉ (if issues.length = 1 then "" else "s").toList := by
    split <;> decide
  have hfront : '[' ∉ (toString issues.length ++ " validation error" ++
      (if issues.length = 1 then "" else "s") ++ " for " ++ model).toList :=
    not_mem_append (not_mem_append (not_mem_append (not_mem_append (not_mem_toString _)
      (by decide)) hplural) (by decide)) hmodel
  have hback := hasCloser_of_append_right hfront h
  rw [String.toList_ofList] at hback
  exact hreports hplain hback

/-- A closing tag in the wording of an unreadable integer is one of its text. -/
theorem hasCloser_of_unreadableInteger
    {s : String}
    (h : HasCloser (InputError.unreadableInteger s).message.toList) :
    HasCloser s.toList :=
  hasCloser_of_append_right (s := "invalid literal for int() with base 10: ") (by decide) h

/-- Switches make no error with the settings. -/
theorem baseConfig_error
    (h : config a environment d = .error e) :
    baseConfig a environment d = .error e := by
  unfold config at h
  cases hbase : baseConfig a environment d with
  | error e' =>
      rw [hbase] at h
      exact h
  | ok c =>
      rw [hbase] at h
      cases h

/-- Every error with the settings is reported. -/
theorem isReported_of_config
    (h : config a environment d = .error e) :
    e.isReported = true := by
  have hbase := baseConfig_error h
  unfold baseConfig at hbase
  split at hbase
  · rcases error_of_bind hbase with hread | ⟨text, -, hvalid⟩
    · obtain ⟨e', rfl, -⟩ := readText_error hread
      rfl
    · obtain ⟨issues, -, rfl⟩ := valid_error hvalid
      rfl
  · split at hbase
    · obtain ⟨issues, -, rfl⟩ := valid_error hbase
      rfl
    · cases hbase
      rfl

/-- A closing tag in an error with the settings is one of the user. -/
theorem strayCloser_of_config
    (h : config a environment d = .error e)
    (hcloser : HasCloser e.message.toList) :
    StrayCloser a environment d := by
  have hbase := baseConfig_error h
  unfold baseConfig at hbase
  split at hbase
  · rename_i path hpath
    obtain ⟨hconfig, -⟩ := Option.filter_eq_some_iff.1 hpath
    rcases error_of_bind hbase with hread | ⟨text, -, hvalid⟩
    · obtain ⟨e', rfl, habout⟩ := readText_error hread
      exact ⟨_, .config hconfig, habout.hasCloser hcloser⟩
    · obtain ⟨issues, hissues, rfl⟩ := valid_error hvalid
      obtain ⟨i, hi, hvalue⟩ := hasCloser_of_invalid (by decide)
        (Config.plain_load text issues hissues) hcloser
      exact ⟨_, .setting h hi, hvalue⟩
  · split at hbase
    · obtain ⟨issues, hissues, rfl⟩ := valid_error hbase
      obtain ⟨i, hi, hvalue⟩ := hasCloser_of_invalid (by decide)
        (Config.plain_readFields _ issues hissues) hcloser
      exact ⟨_, .setting h hi, hvalue⟩
    · rename_i text htext
      cases hbase
      obtain ⟨t, ht, rfl⟩ := Config.environmentFields_error htext
      refine ⟨t, .variable ht, Text.hasCloser_of_quoted ?_⟩
      have hcut := hasCloser_of_unreadableInteger hcloser
      rw [String.toList_ofList] at hcut
      exact hcut.trans (List.take_prefix _ _).isInfix

/-- A closing tag in an error with the request that is reported is one of the user. -/
theorem strayCloser_of_request
    (h : request a d = .error e)
    (hreported : e.isReported = true)
    (hcloser : HasCloser e.message.toList) :
    StrayCloser a environment d := by
  have hsteps := h
  unfold request at hsteps
  rcases error_of_bind hsteps with hread | ⟨text, -, hsteps⟩
  · obtain ⟨e', rfl, habout⟩ := readText_error hread
    exact ⟨_, .canvas, habout.hasCloser hcloser⟩
  · rcases error_of_bind hsteps with hload | ⟨document, -, hsteps⟩
    · obtain ⟨e', -, rfl⟩ := exists_of_mapError hload
      exact absurd hcloser.bracket_mem e'.not_mem_message
    · rcases error_of_bind hsteps with hfields | ⟨fields, -, hvalid⟩
      · obtain ⟨e', -, rfl⟩ := exists_of_mapError hfields
        exact absurd hcloser.bracket_mem (PairingError.not_mem_message hreported)
      · obtain ⟨issues, hissues, rfl⟩ := valid_error hvalid
        obtain ⟨i, hi, hvalue⟩ := hasCloser_of_invalid (by decide)
          (ExportRequest.plain_read _ issues hissues) hcloser
        exact ⟨_, .field h hi, hvalue⟩

end Input

end BotCanvas
