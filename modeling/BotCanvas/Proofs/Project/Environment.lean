import BotCanvas.Proofs.Project.Credentials
import BotCanvas.Proofs.Text.Ends

/-!
# The environment of a bot, line by line

The environment has one line for each of the credentials, and no credential reaches out of its line,
whatever line ends are in it: its own lines are joined by spaces and trimmed (`settingText`). So the
lines of a rendered environment are known from the credentials alone (`environmentLines`), and reading
each of them up to its first equals sign gives the credentials back.
-/

namespace BotCanvas

open Text

/-- A credential as the environment has it: its lines with single spaces between, trimmed. -/
def settingText (s : String) : Text :=
  strip (join [' '] (lineBodies s.toList))

/-- No line ends in a credential. -/
theorem not_isLineBreak_of_mem_settingText
    (s : String) :
    ∀ c ∈ settingText s, isLineBreak c = false := by
  intro c hc
  rcases mem_join (mem_of_mem_stripBy hc) with hc | ⟨line, hline, hc⟩
  · rw [List.mem_singleton.1 hc]
    decide
  · exact not_isLineBreak_of_mem_lineBodies hline c hc

/-- A credential in one line, without blanks at its ends, is kept as it is. -/
theorem settingText_eq
    {s : String}
    (hline : ∀ c ∈ s.toList, isLineBreak c = false)
    (hhead : ∀ c ∈ s.toList.head?, isBlank c = false)
    (hlast : ∀ c ∈ s.toList.getLast?, isBlank c = false) :
    settingText s = s.toList := by
  have hjoin : join [' '] (lineBodies s.toList) = s.toList := by
    rw [lineBodies_of_unbroken hline]
    cases s.toList <;> simp [join]
  rw [settingText, hjoin, strip_of_ends hhead hlast]

/-- The names and values of credentials in their order. There is a prefix only if it is not
empty. -/
def Credentials.settings (c : Credentials) : List (String × String) :=
  [("BOT_TOKEN", c.token), ("CLIENT_ID", c.clientId)] ++
    (c.commandPrefix.toList.filter (· ≠ "")).map fun s => ("PREFIX", s)

/-- The lines of the environment for credentials. -/
def environmentLines (c : Credentials) : List Text :=
  "# Discord Bot Configuration".toList ::
    (c.settings.map (fun p => p.1.toList ++ '=' :: settingText p.2) ++
      [[], "# DO NOT COMMIT THIS FILE TO VERSION CONTROL".toList])

/-- Reads a line of an environment: the name in front of its first equals sign and the text behind
it, if there is one. -/
def setting? (line : Text) : Option (Text × Text) :=
  match line.dropWhile (· != '=') with
  | [] => none
  | _ :: value => some (line.takeWhile (· != '='), value)

/-- A text that has the lines of the environment for credentials, and says nothing else about them
to a reader of lines. -/
structure SpellsOut (c : Credentials) (content : Text) : Prop where
  lines : lineBodies content = environmentLines c
  entries : (lineBodies content).filterMap setting? =
    c.settings.map fun p => (p.1.toList, settingText p.2)

/-- The names of settings are words in one line. -/
theorem Credentials.forall_settings
    (c : Credentials) :
    ∀ p ∈ c.settings,
      (∀ d ∈ p.1.toList, isLineBreak d = false) ∧ ∀ d ∈ p.1.toList, (d != '=') = true := by
  intro p hp
  have hname : p.1 = "BOT_TOKEN" ∨ p.1 = "CLIENT_ID" ∨ p.1 = "PREFIX" := by
    simp only [settings, List.mem_append, List.mem_cons, List.not_mem_nil, or_false,
      List.mem_map] at hp
    rcases hp with (rfl | rfl) | ⟨s, -, rfl⟩ <;> simp
  refine ⟨forall_eq_false_of_any ?_, List.all_eq_true.1 ?_⟩ <;>
    rcases hname with h | h | h <;> rw [h] <;> decide

/-- Rows that are closed by line feeds are lines. -/
theorem lineBodies_rows
    {rows : List Text}
    (h : ∀ row ∈ rows, ∀ c ∈ row, isLineBreak c = false) :
    lineBodies (rows.flatMap (· ++ ['\n'])) = rows := by
  induction rows with
  | nil => rfl
  | cons row rows ih =>
      rw [List.forall_mem_cons] at h
      rw [List.flatMap_cons, List.append_assoc, List.singleton_append,
        lineBodies_append_of_unbroken h.1, ih h.2]

/-- No line of an environment is broken. -/
theorem not_isLineBreak_of_mem_environmentLines
    (c : Credentials) :
    ∀ row ∈ environmentLines c, ∀ d ∈ row, isLineBreak d = false := by
  have hcomments : ∀ row ∈ [[], "# DO NOT COMMIT THIS FILE TO VERSION CONTROL".toList],
      ∀ d ∈ row, isLineBreak d = false :=
    List.forall_mem_cons.2 ⟨by simp, List.forall_mem_singleton.2 (forall_eq_false_of_any (by decide))⟩
  refine List.forall_mem_cons.2 ⟨forall_eq_false_of_any (by decide),
    List.forall_mem_append.2 ⟨fun row hrow => ?_, hcomments⟩⟩
  obtain ⟨p, hp, rfl⟩ := List.mem_map.1 hrow
  refine List.forall_mem_append.2 ⟨(c.forall_settings p hp).1, ?_⟩
  exact List.forall_mem_cons.2 ⟨by decide, not_isLineBreak_of_mem_settingText p.2⟩

/-- A name without an equals sign is read up to the first one. -/
theorem setting?_append
    {name : Text}
    (hname : ∀ c ∈ name, (c != '=') = true)
    (value : Text) :
    setting? (name ++ '=' :: value) = some (name, value) := by
  rw [setting?, List.dropWhile_append_of_pos hname, List.takeWhile_append_of_pos hname]
  simp

/-- Reading the lines of an environment gives the settings. -/
theorem filterMap_setting?_environmentLines
    (c : Credentials) :
    (environmentLines c).filterMap setting? =
      c.settings.map fun p => (p.1.toList, settingText p.2) := by
  have hrows : (c.settings.map fun p => p.1.toList ++ '=' :: settingText p.2).filterMap setting? =
      c.settings.map fun p => (p.1.toList, settingText p.2) := by
    rw [List.filterMap_map, ← List.filterMap_eq_map]
    refine List.filterMap_congr fun p hp => ?_
    exact setting?_append (c.forall_settings p hp).2 _
  have hopening : setting? "# Discord Bot Configuration".toList = none := by decide
  have hclosing : [[], "# DO NOT COMMIT THIS FILE TO VERSION CONTROL".toList].filterMap setting? =
      [] := by decide
  rw [environmentLines, List.filterMap_cons_none hopening, List.filterMap_append, hrows, hclosing,
    List.append_nil]

namespace Template

variable {context : Context}

/-- A part in front of parts with a known text. -/
theorem render_cons
    {part : TemplatePart}
    {rest : List TemplatePart}
    {s t : Text}
    (hfirst : renderPart context part = .ok s)
    (hrest : render context rest = .ok t) :
    render context (part :: rest) = .ok (s ++ t) := by
  rw [render, hfirst, hrest]
  rfl

/-- A text in one line, where a context has one. -/
theorem renderPart_oneLine
    {t : Term}
    {s : String}
    (ht : t.value context = .ok (.str s)) :
    renderPart context (.oneLine t) = .ok (settingText s) := by
  rw [renderPart, ht]
  rfl

/-- Parts that stand only if a text is there and is not empty. -/
theorem renderPart_given
    {t : Term}
    {s : Option String}
    (ht : t.value context = .ok (s.elim .null .str))
    {body : List TemplatePart}
    {row : String → Text}
    (hbody : ∀ present, s = some present → render context body = .ok (row present)) :
    renderPart context (.given t body) = .ok ((s.toList.filter (· ≠ "")).flatMap row) := by
  rw [renderPart, ht]
  cases s with
  | none => rfl
  | some present =>
      by_cases hempty : present = ""
      · rw [hempty]
        rfl
      · have hpresent : (Value.str present).isPresent = true := by
          simpa [Value.isPresent] using hempty
        show (if (Value.str present).isPresent then render context body else .ok []) = _
        rw [if_pos hpresent, hbody present rfl]
        simp [hempty]

end Template

namespace Exporter

variable (x : Exporter)
variable (r : ExportRequest)

/-- The rows of an environment, in the pieces that the document has. -/
theorem flatMap_environmentLines
    (c : Credentials) :
    (environmentLines c).flatMap (· ++ ['\n']) =
      "# Discord Bot Configuration\nBOT_TOKEN=".toList ++ (settingText c.token ++
        ("\nCLIENT_ID=".toList ++ (settingText c.clientId ++ ("\n".toList ++
          ((c.commandPrefix.toList.filter (· ≠ "")).flatMap
              (fun s => "PREFIX=".toList ++ (settingText s ++ ("\n".toList ++ []))) ++
            ("\n# DO NOT COMMIT THIS FILE TO VERSION CONTROL\n".toList ++ [])))))) := by
  simp [environmentLines, Credentials.settings, List.flatMap_map]

open Template in
/-- The environment is rendered line by line. -/
theorem render_environment
    (d : Dialect)
    (packages : List (String × String)) :
    Template.render (x.context d r packages) Documents.environment =
      .ok ((environmentLines r.credentials).flatMap (· ++ ['\n'])) := by
  have hfield : ∀ key v, getField? key [("bot_token", Value.str r.credentials.token),
      ("client_id", .str r.credentials.clientId),
      ("prefix", r.credentials.commandPrefix.elim .null .str)] = some v →
      (Term.field "settings" key).value (x.context d r packages) = .ok v := by
    intro key v h
    show ((getField? key _).elim _ _ : Except RenderError Value) = _
    rw [h]
    rfl
  rw [flatMap_environmentLines]
  refine render_cons rfl <| render_cons (renderPart_oneLine (hfield _ _ rfl)) <|
    render_cons rfl <| render_cons (renderPart_oneLine (hfield _ _ rfl)) <| render_cons rfl <|
    render_cons (renderPart_given (hfield _ _ rfl) fun s hs => ?_) <| render_cons rfl rfl
  refine render_cons rfl <| render_cons (renderPart_oneLine (hfield _ _ ?_)) <| render_cons rfl rfl
  rw [hs]
  rfl

/-- What is rendered spells out the credentials. -/
theorem spellsOut_rendered
    {d : Dialect}
    {packages : List (String × String)}
    {content : String}
    (h : render (x.context d r packages) Documents.environment = .ok content) :
    SpellsOut r.credentials content.toList := by
  have hcontent : content.toList = (environmentLines r.credentials).flatMap (· ++ ['\n']) := by
    have htext := render_ok h
    rw [x.render_environment r d packages] at htext
    exact (Except.ok.inj htext).symm
  have hlines : lineBodies content.toList = environmentLines r.credentials := by
    rw [hcontent, lineBodies_rows (not_isLineBreak_of_mem_environmentLines r.credentials)]
  exact ⟨hlines, by rw [hlines, filterMap_setting?_environmentLines]⟩

/--
The environment can be rendered for any credentials, and has a line for each of them and no other
settings; so has the environment of every exported project. A credential is in its line as it is, if
it has no line end and no blank at its ends.
-/
theorem spellsOut_environment :
    (∀ d packages, ∃ content,
      render (x.context d r packages) Documents.environment = .ok content ∧
        SpellsOut r.credentials content.toList) ∧
    (∀ p, x.project r = .ok p → ∃ f, p.file? Project.environmentPath = some f ∧
      SpellsOut r.credentials f.content.toList) ∧
    ∀ s : String, (∀ c ∈ s.toList, isLineBreak c = false) →
      (∀ c ∈ s.toList.head?, isBlank c = false) → (∀ c ∈ s.toList.getLast?, isBlank c = false) →
      settingText s = s.toList := by
  refine ⟨fun d packages => ?_, fun p hp => ?_, fun s => settingText_eq⟩
  · obtain ⟨content, hcontent⟩ := exists_render (x.renders_environment d r packages)
    exact ⟨content, hcontent, x.spellsOut_rendered r hcontent⟩
  · obtain ⟨d, packages, content, hcontent, hfile⟩ := x.exists_render_environment hp
    exact ⟨_, hfile, x.spellsOut_rendered r hcontent⟩

/-- Credentials with lines of an environment in them, a prefix of line ends, and plain ones. -/
def brokenCredentials : Credentials :=
  ⟨"T\r\nPREFIX=!\u2028", "a=b", some "\x0b\n"⟩

/-- They are joined into a line each, the prefix into an empty one. -/
theorem spellsOut_environment_brokenCredentials :
    (∃ p, standard.project ⟨.empty, "discord.py", brokenCredentials⟩ = .ok p ∧
      ∃ f, p.file? Project.environmentPath = some f ∧
        SpellsOut brokenCredentials f.content.toList) ∧
    (∀ c ∈ "a=b".toList, isLineBreak c = false) ∧
    (∀ c ∈ "a=b".toList.head?, isBlank c = false) ∧
    (∀ c ∈ "a=b".toList.getLast?, isBlank c = false) ∧ settingText "a=b" = "a=b".toList ∧
    environmentLines brokenCredentials = ["# Discord Bot Configuration".toList,
      "BOT_TOKEN=T PREFIX=!".toList, "CLIENT_ID=a=b".toList, "PREFIX=".toList, [],
      "# DO NOT COMMIT THIS FILE TO VERSION CONTROL".toList] := by
  obtain ⟨p, hp⟩ := exists_project (x := standard)
    (r := ⟨.empty, "discord.py", brokenCredentials⟩) (by decide) (by decide)
  have h := spellsOut_environment standard ⟨.empty, "discord.py", brokenCredentials⟩
  have hline : ∀ c ∈ "a=b".toList, isLineBreak c = false := forall_eq_false_of_any (by decide)
  have hhead : ∀ c ∈ "a=b".toList.head?, isBlank c = false := by
    simp
    decide
  have hlast : ∀ c ∈ "a=b".toList.getLast?, isBlank c = false := by
    simp
    decide
  exact ⟨⟨p, hp, h.2.1 p hp⟩, hline, hhead, hlast, h.2.2 "a=b" hline hhead hlast, by decide⟩

end Exporter

end BotCanvas
