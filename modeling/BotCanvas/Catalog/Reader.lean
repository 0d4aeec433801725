import BotCanvas.Catalog.Basic
import BotCanvas.Schema.Field

/-!
# Definitions read from documents
-/

namespace BotCanvas

open Schema

namespace PropertyOption

/-- Reads a choice. -/
def read : Value → Checked PropertyOption :=
  object (.notModel "PropertyOption") fun fields =>
    mk <$> required fields "label" text <*> required fields "value" text

end PropertyOption

namespace PropertySpec

/-- Reads a property. -/
def read : Value → Checked PropertySpec :=
  object (.notModel "PropertySpec") fun fields =>
    mk <$> required fields "key" text
      <*> required fields "label" text
      <*> optional fields "kind" .text
        (choice (.notAmong (PropertyKind.table.map Prod.fst)) PropertyKind.table)
      <*> optional fields "required" false flag
      <*> optional fields "default" .null .valid
      <*> optional fields "options" [] (sequence PropertyOption.read)
      <*> optional fields "placeholder" none textOrNull
      <*> optional fields "helper_text" none textOrNull

end PropertySpec

namespace BlockDefinition

/-- Reads a block type. -/
def read : Value → Checked BlockDefinition :=
  object (.notModel "BlockDefinition") fun fields =>
    mk <$> required fields "type" text
      <*> required fields "label" text
      <*> optional fields "description" "" text
      <*> required fields "category" text
      <*> optional fields "inputs" 1 (integerBetween 0 1)
      <*> optional fields "outputs" 1 (integerBetween 0 2)
      <*> optional fields "properties" [] (sequence PropertySpec.read)

end BlockDefinition

end BotCanvas
