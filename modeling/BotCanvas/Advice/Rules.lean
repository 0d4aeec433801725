import BotCanvas.Advice.Finding
import BotCanvas.Flow.Basic
import BotCanvas.Value.Coerce

/-!
# Advisory rules

Seven rules look at a canvas, one after another: blocks that nothing leads to, triggers that lead
nowhere, connections from a block to itself, moderation without a permission check, public
replies, channels given by number, and many data blocks.
-/

namespace BotCanvas

namespace Advice

/-- What a finding calls a block: its label, or its type if it has none. -/
def blockName (b : Block) : String :=
  if b.label.isEmpty then b.type else b.label

/-- Blocks that are no triggers and that no connection arrives at. -/
def orphanedBlocks (catalog : Catalog) (canvas : Canvas) : List Finding :=
  (canvas.blocks.filter fun b =>
    !Flow.isTrigger catalog b && !(canvas.connections.any fun c => c.target == b.id)).map fun b =>
      { rule := "orphaned-block"
        title := "Unconnected Logic Block"
        description := "The block \"" ++ blockName b ++ "\" is floating and won't execute."
        concern := .logic
        severity := .high
        blocks := [b.id]
        suggestion := "Connect a previous block to this one" }

/-- Triggers that no connection leaves. -/
def deadEndTriggers (catalog : Catalog) (canvas : Canvas) : List Finding :=
  (canvas.blocks.filter fun b =>
    Flow.isTrigger catalog b && !(canvas.connections.any fun c => c.source == b.id)).map fun b =>
      { rule := "dead-end-trigger"
        title := "Trigger Does Nothing"
        description := "The trigger \"" ++ blockName b ++ "\" starts the flow but leads nowhere."
        concern := .logic
        severity := .medium
        blocks := [b.id]
        suggestion := "Add an action block (like Send Message) after this trigger" }

/-- Connections from a block to itself. -/
def selfLoops (canvas : Canvas) : List Finding :=
  (canvas.connections.filter Connection.isSelfLoop).map fun c =>
    { rule := "infinite-loop-self"
      title := "Infinite Loop Detected"
      description := "A block connects to itself immediately."
      concern := .optimization
      severity := .critical
      blocks := [c.source]
      suggestion := "Remove the connection feeding back into the same block" }

/-- The block types that check permissions. -/
def permissionChecks : List String := ["check_permissions", "check_bot_permissions"]

/-- Moderation blocks on a canvas without any permission check. -/
def uncheckedModeration (catalog : Catalog) (canvas : Canvas) : List Finding :=
  let moderation := canvas.blocks.filter fun b => Flow.category catalog b == "moderation"
  if moderation.isEmpty || canvas.hasType permissionChecks then []
  else
    [{ rule := "missing-perm-check"
       title := "Unsafe Moderation Command"
       description := "You have kick/ban actions but no permission checks."
       concern := .security
       severity := .critical
       blocks := moderation.map Block.id
       suggestion := "Add a \"Check Permissions\" block before the moderation action" }]

/-- A stored property, null if there is none. -/
def stored (b : Block) (key : String) : Value :=
  (getField? key b.properties).getD .null

/-- Replies that everyone sees. -/
def publicReplies (canvas : Canvas) : List Finding :=
  (canvas.blocks.filter fun b =>
    b.type == "action_reply" && !(stored b "ephemeral").asFlag).map fun b =>
      { rule := "public-reply-spam"
        title := "Public Reply Considerations"
        description := "This reply is public. Frequent usage might spam chat."
        concern := .style
        severity := .low
        blocks := [b.id]
        suggestion :=
          "Consider enabling \"Ephemeral\" (Hidden) property for utility commands" }

/-- Messages to a channel that is given by number. -/
def hardcodedChannels (canvas : Canvas) : List Finding :=
  (canvas.blocks.filter fun b =>
    b.type == "send_message" && Text.isNumeral (Text.strip (stored b "channel_id").displayPresent)).map
      fun b =>
        { rule := "hardcoded-channel"
          title := "Hardcoded Channel ID"
          description :=
            "Using a fixed Channel ID means this only works in one server/channel."
          concern := .optimization
          severity := .medium
          blocks := [b.id]
          suggestion := "Use a variable or Option input for Channel ID to make it dynamic" }

/-- How many data blocks are not yet many. -/
def dataBlockThreshold : Nat := 5

/-- Many data blocks. -/
def heavyDataUsage (catalog : Catalog) (canvas : Canvas) : List Finding :=
  if canvas.blocks.countP (fun b => Flow.category catalog b == "data") ≤ dataBlockThreshold then []
  else
    [{ rule := "heavy-db-usage"
       title := "High Database Load"
       description := "Many database operations detected in one flow."
       concern := .optimization
       severity := .medium
       blocks := []
       suggestion :=
        "Try to combine read/writes or use local variables if persistence is not needed" }]

/-- The findings of all rules, rule after rule. -/
def analyze (catalog : Catalog) (canvas : Canvas) : List Finding :=
  orphanedBlocks catalog canvas ++ deadEndTriggers catalog canvas ++ selfLoops canvas ++
    uncheckedModeration catalog canvas ++ publicReplies canvas ++ hardcodedChannels canvas ++
    heavyDataUsage catalog canvas

/-- Tests for a finding of the highest severity. -/
def hasCritical (findings : List Finding) : Bool :=
  findings.any fun f => f.severity == .critical

end Advice

end BotCanvas
