import BotCanvas.Lint.File
import BotCanvas.Project.Export
import BotCanvas.Proofs.Braced.Program
import BotCanvas.Proofs.Program.Rows

/-!
# Exported projects pass their own checks

Every project in the language with braces passes the checks of all its files: the program is
balanced and logs the client in, the manifest is a document with dependencies, the environment
sets the token, and no file is blank. The texts on the canvas, in the catalog and in the settings
have no say in it, except for conditions that blocks spell out.
-/

namespace BotCanvas

namespace Text

/-- A text with a character that is not blank does not strip to nothing. -/
theorem strip_ne_nil
    {s : Text}
    {c : Char}
    (hc : c ∈ s)
    (hblank : isBlank c = false) :
    (strip s).isEmpty = false := by
  have hdrop : ∀ {s : Text}, c ∈ s → c ∈ s.dropWhile isBlank := by
    intro s hc
    have hsplit := List.takeWhile_append_dropWhile (p := isBlank) (l := s)
    rw [← hsplit] at hc
    rcases List.mem_append.1 hc with hc | hc
    · have := List.mem_takeWhile_imp hc
      rw [hblank] at this
      cases this
    · exact hc
  have hmem : c ∈ strip s := by
    unfold strip stripBy
    exact List.mem_reverse.2 (hdrop (List.mem_reverse.2 (hdrop hc)))
  cases hs : strip s with
  | nil => simp [hs] at hmem
  | cons d r => rfl

/-- The last of texts that are joined ends them. -/
theorem suffix_join
    (separator : Text)
    (parts : List Text)
    (last : Text) :
    last <:+ join separator (parts ++ [last]) := by
  unfold join
  induction parts with
  | nil => simp
  | cons p rest ih =>
      cases rest with
      | nil =>
          rw [List.cons_append, List.nil_append, List.intercalate_cons_cons]
          exact ih.trans (List.suffix_append _ _)
      | cons q rest =>
          rw [List.cons_append, List.cons_append, List.intercalate_cons_cons]
          exact ih.trans (List.suffix_append _ _)

end Text

namespace Braced

/-- A program needs the packages of the library, or these and those for voice. -/
theorem dependencies_mem
    (program : Text)
    (types : List String) :
    dependencies program types ∈ [basePackages, basePackages ++ voicePackages] := by
  unfold dependencies
  split <;> simp

/-- The line that starts the client. -/
def loginLine : Text := "client.login(process.env.BOT_TOKEN);"

/-- The footer ends with the line that starts the client. -/
theorem suffix_footer
    (commands : List CommandSpec) :
    loginLine <:+ (footer commands).write spelling := by
  have hsuffix := Code.suffix_writeParts spelling
    ("const commands = [" :: ((firstOfEachName commands).flatMap registration ++
      startLines.dropLast)) (.line [.code "client.login(process.env.BOT_TOKEN);"])
  rw [Code.write_code, List.cons_append, List.append_assoc] at hsuffix
  exact hsuffix

/-- A program ends with the line that starts the client. -/
theorem exists_append_loginLine
    {catalog : Catalog}
    {mode : Traversal}
    {canvas : Canvas}
    {program : Text}
    (h : dialect.program catalog mode canvas = .ok program) :
    ∃ front, program = front ++ loginLine ++ ['\n'] := by
  obtain ⟨units, -, rfl⟩ := Dialect.exists_units h
  obtain ⟨body, hbody⟩ := suffix_footer (Dialect.commands catalog units)
  have hlast : loginLine = loginLine.dropLast ++ [';'] := by decide
  have hstrip : Text.stripEndChar '\n' (body ++ loginLine) = body ++ loginLine := by
    rw [hlast, ← List.append_assoc, Text.stripEndChar_append '\n' _ (by decide)]
  have hsections : (dialect.sections catalog canvas units).map
        (fun c => Text.stripEndChar '\n' (dialect.write c)) =
      (dialect.header canvas.types :: ((dialect.handlers catalog units).run []).1).map
        (fun c => Text.stripEndChar '\n' (dialect.write c)) ++ [body ++ loginLine] := by
    unfold Dialect.sections
    rw [List.map_append, List.map_singleton, ← hstrip, hbody]
    rfl
  rw [hsections]
  obtain ⟨front, hfront⟩ := Text.suffix_join dialect.sectionSeparator
    ((dialect.header canvas.types :: ((dialect.handlers catalog units).run []).1).map
      fun c => Text.stripEndChar '\n' (dialect.write c)) (body ++ loginLine)
  exact ⟨front ++ body, by rw [← hfront, List.append_assoc front body]⟩

end Braced

namespace Lint

/-- The check of a file that is not blank goes by the last name of its path. -/
theorem check_eq
    (path name suffix : String)
    {content : String}
    (hname : String.ofList (Path.read path.toList).name = name)
    (hsuffix : String.ofList (Path.read path.toList).suffix = suffix)
    {c : Char}
    (hc : c ∈ content.toList)
    (hblank : Text.isBlank c = false) :
    check ⟨path, content⟩ =
      entryIssues name content.toList ++ contentIssues suffix name content.toList := by
  unfold check
  simp only [hname, hsuffix, Text.strip_ne_nil hc hblank, Bool.false_eq_true, if_false]

/-- A program with braces passes its check if the reader comes through and it starts the client. -/
theorem check_program
    {program front : Text}
    (hread : (Braced.lexis true).read (some (.code, [])) program = some (.code, []))
    (hlogin : program = front ++ Braced.loginLine ++ ['\n']) :
    check ⟨"index.js", String.ofList program⟩ = [] := by
  have hmem : ';' ∈ (String.ofList program).toList := by
    rw [String.toList_ofList, hlogin, List.mem_append, List.mem_append]
    exact .inl (.inr (by decide))
  have hcall : Text.occursIn "client.login(".toList program = true := by
    have hstart : "client.login(".toList <+: Braced.loginLine :=
      List.isPrefixOf_iff_prefix.1 (by decide)
    refine Text.occursIn_iff.2 (hstart.isInfix.trans ?_)
    exact ⟨front, ['\n'], by rw [hlogin]⟩
  have hentry : entryIssues "index.js" program = [] := by
    unfold entryIssues requiredCalls
    rw [List.lookup_cons_self]
    simp only [hcall, if_true]
  rw [check_eq "index.js" "index.js" ".js" (by decide) (by decide) hmem
    (by decide), String.toList_ofList, hentry]
  simp [contentIssues, Brackets.check_eq_nil hread]

/-- A readme that is not blank passes its check. -/
theorem check_readme
    {content : String}
    {c : Char}
    (hc : c ∈ content.toList)
    (hblank : Text.isBlank c = false) :
    check ⟨"README.md", content⟩ = [] := by
  rw [check_eq "README.md" "README.md" ".md" (by decide) (by decide) hc hblank]
  simp [contentIssues, entryIssues, requiredCalls, List.lookup_cons]

/-- An environment that sets the token in some row passes its check. -/
theorem check_environment
    {content : String}
    {front rest : Text}
    (h : content.toList = front ++ '\n' :: ("BOT_TOKEN=".toList ++ rest)) :
    check ⟨".env", content⟩ = [] := by
  have hmem : '=' ∈ content.toList := by
    rw [h]
    simp
  have hrow : ∀ u : Text, '\n' ∉ u → ∃ row rows,
      Text.splitOn '\n' (u ++ rest) = (u ++ row) :: rows := by
    intro u hu
    induction u with
    | nil =>
        obtain ⟨row, rows, hrows⟩ := List.exists_cons_of_ne_nil (Text.splitOn_ne_nil '\n' rest)
        exact ⟨row, rows, hrows⟩
    | cons d u ih =>
        simp only [List.mem_cons, not_or] at hu
        obtain ⟨row, rows, hrows⟩ := ih hu.2
        refine ⟨row, rows, ?_⟩
        rw [List.cons_append, Text.splitOn, if_neg (Ne.symm hu.1), hrows]
        rfl
  have htoken : definesToken content.toList = true := by
    obtain ⟨row, rows, hrows⟩ := hrow "BOT_TOKEN=".toList (by decide)
    unfold definesToken
    rw [h, Text.splitOn_append, hrows, List.any_append, List.any_cons,
      List.isPrefixOf_iff_prefix.2 (List.prefix_append _ _)]
    simp
  rw [check_eq ".env" ".env" "" (by decide) (by decide) hmem (by decide)]
  simp [contentIssues, entryIssues, requiredCalls, List.lookup_cons, htoken]

/-- A manifest passes its check if the document in it does. -/
theorem check_manifest
    {content : Text}
    (hdocument : Manifest.checkDocument content = [])
    {c : Char}
    (hc : c ∈ content)
    (hblank : Text.isBlank c = false) :
    check ⟨"package.json", String.ofList content⟩ = [] := by
  have hmem : c ∈ (String.ofList content).toList := by
    rwa [String.toList_ofList]
  rw [check_eq "package.json" "package.json" ".json" (by decide) (by decide) hmem
    hblank, String.toList_ofList]
  simp [contentIssues, entryIssues, requiredCalls, List.lookup_cons, hdocument]

/-- A document with either list of packages passes its check, and it is no blank text. -/
theorem checkDocument_packages
    {packages : List (String × String)}
    (h : packages ∈ [Braced.basePackages, Braced.basePackages ++ Braced.voicePackages]) :
    Manifest.checkDocument
        (Document.print (Exporter.manifest Braced.dialect packages) ++ ['\n']) = [] ∧
      '\x7b' ∈ Document.print (Exporter.manifest Braced.dialect packages) ++ ['\n'] := by
  revert packages
  decide +kernel

end Lint

namespace Template

/-- A document that begins with a text begins with it in every context. -/
theorem exists_render_text
    {context : Context}
    {s : String}
    {rest : List TemplatePart}
    {t : Text}
    (h : render context (.text s :: rest) = .ok t) :
    ∃ others, t = s.toList ++ others := by
  rw [render, renderPart] at h
  cases hrest : render context rest with
  | error e =>
      rw [hrest] at h
      cases h
  | ok others =>
      rw [hrest] at h
      exact ⟨others, (Except.ok.inj h).symm⟩

end Template

namespace Exporter

variable {context : Context}
variable {content : String}

/-- A rendered document is the text of its template. -/
theorem render_ok
    {t : Template}
    (h : render context t = .ok content) :
    Template.render context t = .ok content.toList := by
  unfold render at h
  cases htext : Template.render context t with
  | error e =>
      rw [htext] at h
      cases h
  | ok text =>
      rw [htext] at h
      rw [← Except.ok.inj h, String.toList_ofList]

/-- The manifest of a program with braces is its document and a line feed. -/
theorem manifest_eq
    {x : Exporter}
    {r : ExportRequest}
    {packages : List (String × String)}
    (h : render (x.context Braced.dialect r packages) (manifestTemplate "package.json") =
      .ok content) :
    content = String.ofList (Document.print (manifest Braced.dialect packages) ++ ['\n']) := by
  have hfield : getField? "manifest" (x.context Braced.dialect r packages) =
      some (manifest Braced.dialect packages) :=
    rfl
  have htext : Template.render (x.context Braced.dialect r packages) Documents.manifest =
      .ok (Document.print (manifest Braced.dialect packages) ++ ['\n']) := by
    simp only [Documents.manifest, Template.render, Template.renderPart, hfield, Option.elim,
      Except.bind, Except.map]
    rfl
  rw [render, manifestTemplate, if_pos (beq_self_eq_true "package.json"), htext] at h
  exact (Except.ok.inj h).symm

/-- The readme is not blank. -/
theorem mem_readme
    (h : render context Documents.readme = .ok content) :
    '#' ∈ content.toList := by
  obtain ⟨others, hothers⟩ := Template.exists_render_text (render_ok h)
  rw [hothers]
  exact List.mem_append_left _ (by decide)

/-- The environment sets the token in its second row. -/
theorem exists_environment
    (h : render context Documents.environment = .ok content) :
    ∃ rest, content.toList = "# Discord Bot Configuration".toList ++
      '\n' :: ("BOT_TOKEN=".toList ++ rest) := by
  obtain ⟨others, hothers⟩ := Template.exists_render_text (render_ok h)
  have htext : "# Discord Bot Configuration\nBOT_TOKEN=".toList =
      "# Discord Bot Configuration".toList ++ '\n' :: "BOT_TOKEN=".toList := by
    decide
  rw [htext, List.append_assoc, List.cons_append] at hothers
  exact ⟨others, hothers⟩

/-- The files of a project in a dialect, and what they were made of. -/
theorem exists_files
    {x : Exporter}
    {d : Dialect}
    {r : ExportRequest}
    {p : Project}
    (h : x.projectIn d r = .ok p) :
    ∃ program manifest readme environment,
      d.program x.catalog x.config.traversal r.canvas = .ok program ∧
      render (x.context d r (d.dependencies program r.canvas.types))
        (manifestTemplate d.manifestPath) = .ok manifest ∧
      render (x.context d r (d.dependencies program r.canvas.types)) Documents.readme =
        .ok readme ∧
      render (x.context d r (d.dependencies program r.canvas.types)) Documents.environment =
        .ok environment ∧
      p.files = [⟨d.entryPoint, String.ofList program⟩, ⟨d.manifestPath, manifest⟩,
        ⟨Project.readmePath, readme⟩, ⟨Project.environmentPath, environment⟩] := by
  unfold projectIn at h
  obtain ⟨program, hprogram, h⟩ := exists_of_bind h
  obtain ⟨manifest, hmanifest, h⟩ := exists_of_bind h
  obtain ⟨readme, hreadme, h⟩ := exists_of_bind h
  obtain ⟨environment, henvironment, h⟩ := exists_of_bind h
  obtain ⟨instructions, -, h⟩ := exists_of_bind h
  refine ⟨program, manifest, readme, environment, ?_, hmanifest, hreadme, henvironment, ?_⟩
  · cases hresult : d.program x.catalog x.config.traversal r.canvas with
    | error e =>
        rw [hresult] at hprogram
        cases hprogram
    | ok text =>
        rw [hresult] at hprogram
        exact congrArg _ (Except.ok.inj hprogram)
  · rw [← Except.ok.inj h]

/--
Whenever an export in the language with braces succeeds, the checks find nothing wrong with any of
its four files, whatever the blocks hold besides plain conditions. The program itself is balanced.
-/
theorem check_files_eq_nil
    {x : Exporter}
    {r : ExportRequest}
    {p : Project}
    (hlanguage : r.language = "discord.js")
    (hcanvas : ∀ b ∈ r.canvas.blocks, Braced.HasPlainCondition x.catalog b)
    (h : x.project r = .ok p) :
    p.files.map GeneratedFile.path = ["index.js", "package.json", "README.md", ".env"] ∧
      (∀ f ∈ p.files, Lint.check f = []) ∧
      ∀ f ∈ p.files, f.path = "index.js" → Brackets.check f.content.toList = [] := by
  have hdialect : Dialect.ofLanguage r.language = .ok Braced.dialect := by
    rw [hlanguage]
    rfl
  have hproject : x.projectIn Braced.dialect r = .ok p := by
    unfold project at h
    rw [hdialect] at h
    exact h
  obtain ⟨program, manifest, readme, environment, hprogram, hmanifest, hreadme, henvironment,
    hfiles⟩ := exists_files hproject
  have hread := Braced.read_program hcanvas hprogram
  obtain ⟨front, hlogin⟩ := Braced.exists_append_loginLine hprogram
  obtain ⟨rest, htoken⟩ := exists_environment henvironment
  have hdocument := manifest_eq hmanifest
  rw [hfiles]
  refine ⟨rfl, ?_, ?_⟩
  · simp only [List.mem_cons, List.not_mem_nil, or_false]
    rintro f (rfl | rfl | rfl | rfl)
    · exact Lint.check_program hread hlogin
    · have hchecked := Lint.checkDocument_packages
        (Braced.dependencies_mem program r.canvas.types)
      rw [hdocument]
      exact Lint.check_manifest hchecked.1 hchecked.2 (by decide)
    · exact Lint.check_readme (mem_readme hreadme) (by decide)
    · exact Lint.check_environment htoken
  · simp only [List.mem_cons, List.not_mem_nil, or_false]
    rintro f (rfl | rfl | rfl | rfl) hpath
    · rw [String.toList_ofList]
      exact Brackets.check_eq_nil hread
    · exact absurd (show "package.json" = "index.js" from hpath) (by decide)
    · exact absurd (show "README.md" = "index.js" from hpath) (by decide)
    · exact absurd (show ".env" = "index.js" from hpath) (by decide)

/-- A request whose texts are full of marks. -/
def markedRequest : ExportRequest where
  canvas :=
    ⟨[⟨"1", "event_listener", .finite false 0, .finite false 0, [("event", .str "x'\x7d")], "", ""⟩,
      ⟨"2", "if_condition", .finite false 0, .finite false 0, [("condition", .str "a > 1")], "", ""⟩,
      ⟨"3", "action_reply", .finite false 0, .finite false 1,
        [("content", .str "\x60\x7d) \\ $\x7b")], "", ""⟩],
     []⟩
  language := "discord.js"
  credentials := ⟨"\x7d\n", "'", none⟩

set_option maxRecDepth 20000 in
/-- The checks find nothing wrong with what that request is answered with. -/
theorem check_files_markedRequest :
    ∃ p, standard.project markedRequest = .ok p ∧
      p.files.map GeneratedFile.path = ["index.js", "package.json", "README.md", ".env"] ∧
      (∀ f ∈ p.files, Lint.check f = []) ∧
      ∀ f ∈ p.files, f.path = "index.js" → Brackets.check f.content.toList = [] := by
  have hflow : ∀ t, Flow.linearize standard.catalog standard.config.traversal
      markedRequest.canvas (some t) = (markedRequest.canvas.blocks.drop 1).map .plain :=
    fun t => (Flow.linearize_position_of_pairwise (by decide +kernel) (some t)).trans rfl
  have hproject : (standard.project markedRequest).toOption.isSome = true := by
    unfold project projectIn Dialect.program Dialect.handlerUnits Dialect.handlerUnit
      Dialect.flowCode
    simp only [hflow]
    decide +kernel
  have hcanvas : ∀ b ∈ markedRequest.canvas.blocks,
      Braced.HasPlainCondition standard.catalog b := by
    intro b hb _
    refine Braced.isPlainCondition_of_all ?_
    revert b
    exact List.forall_mem_cons.2 ⟨by decide +kernel, List.forall_mem_cons.2
      ⟨by decide +kernel, List.forall_mem_cons.2 ⟨by decide +kernel, by simp⟩⟩⟩
  cases hp : standard.project markedRequest with
  | error e => simp [hp, Except.toOption] at hproject
  | ok p => exact ⟨p, rfl, check_files_eq_nil rfl hcanvas hp⟩

end Exporter

end BotCanvas
