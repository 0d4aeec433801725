import BotCanvas.Cli.Input
import BotCanvas.Proofs.Fallible
import BotCanvas.Proofs.Schema.Fields

/-!
# Switches before the document

The canvas file holds a canvas or a whole request. Four switches of the command line go before what
the file says: the target language, and the three credentials. If the file makes a request by itself
then it makes one with the switches too, and each switch changes its own part and nothing else
(`request_of_switches`).
-/

namespace BotCanvas

namespace Arguments

/-- The command line without the switches that go before the document. -/
def unswitched (a : Arguments) : Arguments :=
  { a with language := none, token := none, clientId := none, commandPrefix := none }

/-- The target language that the command line names; an empty one counts as none. -/
def namedLanguage? (a : Arguments) : Option String :=
  a.language.filter fun s => !s.isEmpty

end Arguments

namespace Credentials

/-- Credentials with those of a command line in their place. -/
def switched (a : Arguments) (c : Credentials) : Credentials :=
  ⟨a.token.getD c.token, a.clientId.getD c.clientId, a.commandPrefix.or c.commandPrefix⟩

end Credentials

namespace Input

open Schema

/-- The value that the canvas of a document is read from: its field of that name, or the whole
document if it has none. -/
def canvasValue : Value → Value
  | .obj fields => (getField? "canvas" fields).getD (.obj fields)
  | v => v

/-- The target language that a document names. A canvas alone names none. -/
def documentLanguage? : Value → Option String
  | .obj fields =>
      if hasField "canvas" fields then
        match getField? "language" fields with
        | some (.str s) => some s
        | _ => none
      else none
  | _ => none

/-- The document in the canvas file. -/
def document? (a : Arguments) (d : Disk) : Option Value :=
  match readText d (.read a.canvas.toList) with
  | .ok text => (Document.read (Text.unifyLineFeeds text)).toOption
  | .error _ => none

/-! ## Fields with switches before them -/

section Override

variable {α : Type}
variable {fields : Fields}
variable {key name first second : String}
variable {value : Option String}
variable {default a : α}
variable {check : Value → Checked α}

/-- A switch changes no other field. -/
theorem getField?_override_of_ne
    (h : key ≠ name) :
    getField? name (override key value fields) = getField? name fields := by
  cases value with
  | none => rfl
  | some s => exact getField?_setField_of_ne h _ _

theorem optional_override_of_ne
    (h : key ≠ name) :
    optional (override key value fields) name default check =
      optional fields name default check := by
  cases value with
  | none => rfl
  | some s => exact optional_setField_of_ne h

theorem optionalEither_override_of_ne
    (hfirst : key ≠ first)
    (hsecond : key ≠ second) :
    optionalEither (override key value fields) first second default check =
      optionalEither fields first second default check := by
  cases value with
  | none => rfl
  | some s => exact optionalEither_setField_of_ne hfirst hsecond

/-- A field is read as its switch says, or else as before. -/
theorem optional_override_self
    {f : String → α}
    (hcheck : ∀ s, check (.str s) = .valid (f s))
    (h : optional fields name default check = .valid a) :
    optional (override name value fields) name default check = .valid ((value.map f).getD a) := by
  cases value with
  | none => exact h
  | some s => exact optional_setField_self (hcheck s)

/-- So is a field with two names, under either of which it may stand in the document. -/
theorem optionalEither_override_self
    {f : String → α}
    (hcheck : ∀ s, check (.str s) = .valid (f s))
    (h : optionalEither fields first second default check = .valid a) :
    optionalEither (override first value fields) first second default check =
      .valid ((value.map f).getD a) := by
  cases value with
  | none => exact h
  | some s => exact optionalEither_setField_self (hcheck s)

end Override

/-! ## Credentials and requests -/

/-- The fields of credentials with the switches before them. -/
def switchedFields (a : Arguments) (fields : Fields) : Fields :=
  override "prefix" a.commandPrefix
    (override "clientId" a.clientId (override "botToken" a.token fields))

/-- Credentials that can be read are read with each switch in its place. -/
theorem read_switchedFields
    (a : Arguments)
    {fields : Fields}
    {c : Credentials}
    (h : Credentials.read (.obj fields) = .valid c) :
    Credentials.read (.obj (switchedFields a fields)) = .valid (c.switched a) := by
  obtain ⟨token, clientId, commandPrefix, htoken, hclientId, hprefix, rfl⟩ :=
    Checked.three_eq_valid_iff.1 h
  have htext : ∀ s : String, text (.str s) = .valid s := fun _ => rfl
  have hsome : ∀ s : String, textOrNull (.str s) = .valid (some s) := fun _ => rfl
  refine Checked.three_eq_valid_iff.2 ⟨_, _, _, ?_, ?_, ?_, rfl⟩
  · rw [switchedFields, optionalEither_override_of_ne (by decide) (by decide),
      optionalEither_override_of_ne (by decide) (by decide),
      optionalEither_override_self htext htoken, Option.map_id']
  · rw [switchedFields, optionalEither_override_of_ne (by decide) (by decide)]
    rw [optionalEither_override_self htext, Option.map_id']
    rwa [optionalEither_override_of_ne (by decide) (by decide)]
  · have hread : optional (override "clientId" a.clientId (override "botToken" a.token fields))
        "prefix" none textOrNull = .valid commandPrefix := by
      rwa [optional_override_of_ne (by decide), optional_override_of_ne (by decide)]
    rw [switchedFields, optional_override_self hsome hread]
    cases a.commandPrefix <;> rfl

/-- The fields of the request that a document makes by itself. -/
def documentFields (document : Fields) : Fields :=
  if hasField "canvas" document then document else [("canvas", .obj document)]

/-- What a request is read from, in terms of the document alone: its fields, with the language and
the credentials set. -/
theorem requestFields_eq
    (a : Arguments)
    (document : Fields) :
    requestFields a document =
      (credentialFields ((getField? "settings" (documentFields document)).getD .null)).map
        fun credentials => setField "settings" (.obj (switchedFields a credentials))
          (override "language" a.namedLanguage? (documentFields document)) := by
  unfold requestFields
  simp only
  rw [getField?_override_of_ne (by decide), ← documentFields]
  cases credentialFields ((getField? "settings" (documentFields document)).getD .null) <;> rfl

/-- A request whose credentials are set passes its check if all three parts do. -/
theorem read_setCredentials_iff
    {fields credentials : Fields}
    {r : ExportRequest} :
    ExportRequest.read (.obj (setField "settings" (.obj credentials) fields)) = .valid r ↔
      optional fields "canvas" .empty (fun v => .valid (Canvas.read v)) = .valid r.canvas ∧
        optional fields "language" ExportRequest.standardLanguage text = .valid r.language ∧
        Credentials.read (.obj credentials) = .valid r.credentials := by
  have hcanvas : optional (setField "settings" (.obj credentials) fields) "canvas" Canvas.empty
      (fun v => .valid (Canvas.read v)) =
        optional fields "canvas" .empty fun v => .valid (Canvas.read v) :=
    optional_setField_of_ne (by decide)
  have hlanguage : optional (setField "settings" (.obj credentials) fields) "language"
      ExportRequest.standardLanguage text =
        optional fields "language" ExportRequest.standardLanguage text :=
    optional_setField_of_ne (by decide)
  have hcredentials : optional (setField "settings" (.obj credentials) fields) "settings"
      Credentials.none ExportRequest.readCredentials =
        (Credentials.read (.obj credentials)).under (.field "settings") := by
    rw [Schema.optional, getField?_setField_self]
    rfl
  rw [← hcanvas, ← hlanguage]
  refine Checked.three_eq_valid_iff.trans ⟨?_, ?_⟩
  · rintro ⟨canvas, language, credentials, hcanvas, hlanguage, hread, rfl⟩
    rw [hcredentials] at hread
    exact ⟨hcanvas, hlanguage, Checked.under_eq_valid_iff.1 hread⟩
  · rintro ⟨hcanvas, hlanguage, hread⟩
    exact ⟨_, _, _, hcanvas, hlanguage,
      hcredentials.trans (Checked.under_eq_valid_iff.2 hread), rfl⟩

/-- Without switches nothing is set but the credentials. -/
theorem requestFields_unswitched
    (a : Arguments)
    (document : Fields) :
    requestFields a.unswitched document =
      (credentialFields ((getField? "settings" (documentFields document)).getD .null)).map
        fun credentials => setField "settings" (.obj credentials) (documentFields document) :=
  requestFields_eq a.unswitched document

/-- The fields of a document; one that is no object is the only field of one. -/
def loadedFields : Value → Fields
  | .obj fields => fields
  | v => [("_root", v)]

/-- The test for a field finds what the look-up finds. -/
theorem hasField_eq
    (key : String)
    (fields : Fields) :
    hasField key fields = (getField? key fields).isSome := by
  induction fields with
  | nil => rfl
  | cons p rest ih =>
      obtain ⟨k, v⟩ := p
      by_cases hk : k = key
      · simp [hasField, getField?, hk]
      · have hbeq : (k == key) = false := beq_false_of_ne hk
        simpa [hasField, getField?, hk, hbeq] using ih

/-- The canvas of a request is that of its document. -/
theorem canvas_documentFields
    (v : Value)
    {canvas : Canvas}
    (h : optional (documentFields (loadedFields v)) "canvas" .empty
      (fun w => .valid (Canvas.read w)) = .valid canvas) :
    canvas = Canvas.read (canvasValue v) := by
  have hfound : ∀ {fields : Fields} {w : Value}, getField? "canvas" fields = some w →
      optional fields "canvas" .empty (fun w => .valid (Canvas.read w)) =
        .valid (Canvas.read w) := by
    intro fields w hw
    rw [Schema.optional, hw]
    rfl
  cases v with
  | obj fields =>
      cases hfield : getField? "canvas" fields with
      | some w =>
          have hfields : documentFields (loadedFields (.obj fields)) = fields := by
            simp [documentFields, loadedFields, hasField_eq, hfield]
          rw [hfields, hfound hfield] at h
          cases h
          simp [canvasValue, hfield]
      | none =>
          have hfields : documentFields (loadedFields (.obj fields)) =
              [("canvas", .obj fields)] := by
            simp [documentFields, loadedFields, hasField_eq, hfield]
          rw [hfields, hfound (w := .obj fields) rfl] at h
          cases h
          simp [canvasValue, hfield]
  | _ =>
      -- what is no object has nothing on its canvas, inside a field as well as by itself
      cases h
      rfl

/-- So is its language. -/
theorem language_documentFields
    (v : Value)
    {language : String}
    (h : optional (documentFields (loadedFields v)) "language" ExportRequest.standardLanguage text =
      .valid language) :
    language = (documentLanguage? v).getD ExportRequest.standardLanguage := by
  cases v with
  | obj fields =>
      rw [documentLanguage?]
      cases hcanvas : hasField "canvas" fields with
      | true =>
          rw [loadedFields, documentFields, if_pos hcanvas, Schema.optional] at h
          rw [if_pos rfl]
          cases hfield : getField? "language" fields with
          | none =>
              rw [hfield] at h
              cases h
              rfl
          | some w =>
              rw [hfield, Checked.under_eq_valid_iff] at h
              cases w with
              | str s =>
                  cases h
                  rfl
              | _ => cases h
      | false =>
          rw [loadedFields, documentFields, hcanvas] at h
          cases h
          rfl
  | _ =>
      cases h
      rfl

/-- The request in the canvas file is read from the fields of its document. -/
theorem request_eq_ok_iff
    {a : Arguments}
    {d : Disk}
    {r : ExportRequest} :
    request a d = .ok r ↔
      ∃ v fields, document? a d = some v ∧ requestFields a (loadedFields v) = .ok fields ∧
        ExportRequest.read (.obj fields) = .valid r := by
  have hsome : ∀ v : Value,
      ((requestFields a (loadedFields v)).mapError InputError.pairing >>= fun fields =>
        valid "ExportRequest" (.obj fields) (ExportRequest.read (.obj fields))) = .ok r ↔
      ∃ fields, requestFields a (loadedFields v) = .ok fields ∧
        ExportRequest.read (.obj fields) = .valid r := by
    intro v
    cases requestFields a (loadedFields v) with
    | error e => exact iff_of_false nofun (by simp)
    | ok fields =>
        change valid "ExportRequest" (.obj fields) (ExportRequest.read (.obj fields)) = _ ↔ _
        cases hread : ExportRequest.read (.obj fields) with
        | invalid issues => exact iff_of_false nofun (by simp [hread])
        | valid r' => simp [valid, hread]
  cases htext : readText d (.read a.canvas.toList) with
  | error e =>
      have hdocument : document? a d = none := by rw [document?, htext]
      have hrequest : request a d = .error e := by
        rw [request, htext]
        rfl
      rw [hdocument, hrequest]
      exact iff_of_false nofun nofun
  | ok t =>
      have hdocument : document? a d = (Document.read (Text.unifyLineFeeds t)).toOption := by
        rw [document?, htext]
      have hrequest : request a d =
          (((Document.read (Text.unifyLineFeeds t)).map loadedFields).mapError
            InputError.document >>= fun fields =>
              (requestFields a fields).mapError InputError.pairing >>= fun fields =>
                valid "ExportRequest" (.obj fields) (ExportRequest.read (.obj fields))) := by
        rw [request, htext]
        rfl
      rw [hdocument, hrequest]
      cases Document.read (Text.unifyLineFeeds t) with
      | error e => exact iff_of_false nofun nofun
      | ok v =>
          refine (hsome v).trans ⟨?_, ?_⟩
          · exact fun ⟨fields, hfields, hread⟩ => ⟨v, fields, rfl, hfields, hread⟩
          · rintro ⟨_, fields, ⟨⟩, hfields, hread⟩
            exact ⟨fields, hfields, hread⟩

/--
If the canvas file makes a request by itself, it makes one with the switches of a command line too.
The canvas is that of the document, whatever the switches. The language is the one named on the
command line, or else that of the document, or else the standard one. Each of the credentials is
what its switch says, or else what it is without any switch.
-/
theorem request_of_switches
    {a : Arguments}
    {d : Disk}
    {r₀ : ExportRequest}
    (h : request a.unswitched d = .ok r₀) :
    ∃ v r, document? a d = some v ∧ request a d = .ok r ∧
      r.canvas = r₀.canvas ∧ r.canvas = Canvas.read (canvasValue v) ∧
      r.language =
        a.namedLanguage?.getD ((documentLanguage? v).getD ExportRequest.standardLanguage) ∧
      r.credentials.token = a.token.getD r₀.credentials.token ∧
      r.credentials.clientId = a.clientId.getD r₀.credentials.clientId ∧
      r.credentials.commandPrefix = a.commandPrefix.or r₀.credentials.commandPrefix := by
  obtain ⟨v, fields, hdocument, hfields, hread⟩ := request_eq_ok_iff.1 h
  rw [requestFields_unswitched] at hfields
  cases hpairs : credentialFields
      ((getField? "settings" (documentFields (loadedFields v))).getD .null) with
  | error e =>
      rw [hpairs] at hfields
      cases hfields
  | ok credentials =>
      rw [hpairs] at hfields
      cases hfields
      obtain ⟨hcanvas, hlanguage, hcredentials⟩ := read_setCredentials_iff.1 hread
      have hspelled : ∀ s : String, text (.str s) = .valid s := fun _ => rfl
      have hswitched : ExportRequest.read (.obj (setField "settings"
          (.obj (switchedFields a credentials))
          (override "language" a.namedLanguage? (documentFields (loadedFields v))))) =
            .valid ⟨r₀.canvas, a.namedLanguage?.getD r₀.language, r₀.credentials.switched a⟩ := by
        refine read_setCredentials_iff.2 ⟨?_, ?_, read_switchedFields a hcredentials⟩
        · rwa [optional_override_of_ne (by decide)]
        · rw [optional_override_self hspelled hlanguage, Option.map_id']
      refine ⟨v, _, hdocument, request_eq_ok_iff.2 ⟨v, _, hdocument, ?_, hswitched⟩, rfl,
        canvas_documentFields v hcanvas, ?_, rfl, rfl, rfl⟩
      · rw [requestFields_eq, hpairs]
        rfl
      · rw [← language_documentFields v hlanguage]

/-- A command line with an empty token and a client identifier. -/
def tokenLine : Arguments :=
  ⟨"c.json", none, "./bot", false, false, some "", some "7", none, none, none, false⟩

/-- A disk with a request that has its credentials under their second names. -/
def secondNamesDisk : Disk :=
  ⟨[(["c.json".toList], .file (.text ("\x7b\"canvas\": \x7b\x7d, \"language\": \"discord.py\", " ++
    "\"settings\": \x7b\"bot_token\": \"a\", \"client_id\": \"b\", \"prefix\": \"?\"\x7d\x7d")))]⟩

/-- Both switches go before the document, also the empty one; the rest is the document's. -/
theorem request_of_switches_tokenLine :
    ∃ r₀ r, request tokenLine.unswitched secondNamesDisk = .ok r₀ ∧
      r₀.credentials = ⟨"a", "b", some "?"⟩ ∧ request tokenLine secondNamesDisk = .ok r ∧
      r.canvas = r₀.canvas ∧ r.language = "discord.py" ∧
      r.credentials = ⟨"", "7", some "?"⟩ := by
  have hplain : (request tokenLine.unswitched secondNamesDisk).toOption.map
      ExportRequest.credentials = some ⟨"a", "b", some "?"⟩ := by
    decide +kernel
  have hlanguage : (document? tokenLine secondNamesDisk).bind documentLanguage? =
      some "discord.py" := by
    decide +kernel
  cases h : request tokenLine.unswitched secondNamesDisk with
  | error e =>
      rw [h] at hplain
      cases hplain
  | ok r₀ =>
      rw [h] at hplain
      have hcredentials : r₀.credentials = ⟨"a", "b", some "?"⟩ := Option.some.inj hplain
      obtain ⟨v, r, hdocument, hr, hcanvas, -, hname, htoken, hclientId, hprefix⟩ :=
        request_of_switches h
      rw [hdocument, Option.bind_some] at hlanguage
      rw [hcredentials] at htoken hclientId hprefix
      refine ⟨r₀, r, rfl, hcredentials, hr, hcanvas, ?_, ?_⟩
      · rw [hname, hlanguage]
        rfl
      · rw [← show (⟨r.credentials.token, r.credentials.clientId, r.credentials.commandPrefix⟩ :
          Credentials) = r.credentials from rfl, htoken, hclientId, hprefix]
        rfl

end Input

end BotCanvas
