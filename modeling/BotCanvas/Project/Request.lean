import BotCanvas.Canvas.Reader

/-!
# Requests for an export

A request names the canvas, the target language and the credentials of the bot. A canvas of any
form has a reading; a language must be a text, and credentials must be texts, of which the prefix
may be missing.
-/

namespace BotCanvas

open Schema

/-- What a bot is known by, and the character that its commands start with, if any. -/
structure Credentials where
  token : String
  clientId : String
  commandPrefix : Option String
  deriving DecidableEq

namespace Credentials

/-- No credentials. -/
def none : Credentials := ⟨"", "", Option.none⟩

/-- Reads credentials. -/
def read : Value → Checked Credentials :=
  object (.notModel "ExportSettings") fun fields =>
    mk <$> optionalEither fields "botToken" "bot_token" "" text
      <*> optionalEither fields "clientId" "client_id" "" text
      <*> optional fields "prefix" Option.none textOrNull

end Credentials

/-- A request for an export. -/
structure ExportRequest where
  canvas : Canvas
  language : String
  credentials : Credentials

namespace ExportRequest

/-- The target language of a request that names none. -/
def standardLanguage : String := "discord.js"

/-- The request that says nothing. -/
def standard : ExportRequest := ⟨.empty, standardLanguage, .none⟩

/-- Reads credentials, where null counts as none. -/
def readCredentials : Value → Checked Credentials
  | .null => .valid .none
  | v => Credentials.read v

/-- Reads a request. -/
def read : Value → Checked ExportRequest :=
  object (.notModel "ExportRequest") fun fields =>
    mk <$> optional fields "canvas" .empty (fun v => .valid (Canvas.read v))
      <*> optional fields "language" standardLanguage text
      <*> optional fields "settings" .none readCredentials

/-- Reads a request, where what is no object says nothing. -/
def readOrStandard (v : Value) : Checked ExportRequest :=
  match v with
  | .obj _ => read v
  | _ => .valid standard

end ExportRequest

end BotCanvas
