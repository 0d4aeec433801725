import BotCanvas.Catalog.Basic

/-!
# The built-in catalog

The block types of the editor's palette. Blocks that start a flow come first, then the actions by
subject.
-/

namespace BotCanvas

namespace PropertySpec

/-- A property of a kind with nothing set. -/
def ofKind (kind : PropertyKind) (key label : String) : PropertySpec :=
  ⟨key, label, kind, false, .null, [], none, none⟩

/-- The property, required by the editor. -/
def mandatory (p : PropertySpec) : PropertySpec :=
  { p with isRequired := true }

/-- The property with a default. -/
def preset (p : PropertySpec) (default : Value) : PropertySpec :=
  { p with default := default }

/-- The property with choices: what is shown and what is stored. -/
def among (p : PropertySpec) (options : List (String × String)) : PropertySpec :=
  { p with options := options.map fun (label, value) => ⟨label, value⟩ }

/-- The property with a placeholder. -/
def hinting (p : PropertySpec) (placeholder : String) : PropertySpec :=
  { p with placeholder := some placeholder }

/-- The property with a helper text. -/
def explaining (p : PropertySpec) (helperText : String) : PropertySpec :=
  { p with helperText := some helperText }

end PropertySpec

namespace BlockDefinition

/-- A block type with one input and one output. -/
def ofCategory (category type label : String) (properties : List PropertySpec) :
    BlockDefinition :=
  ⟨type, label, "", category, 1, 1, properties⟩

/-- The block type with a description. -/
def describedAs (d : BlockDefinition) (description : String) : BlockDefinition :=
  { d with description := description }

/-- The block type without an input. -/
def starting (d : BlockDefinition) : BlockDefinition :=
  { d with inputs := 0 }

/-- The block type with two outputs. -/
def twoWay (d : BlockDefinition) : BlockDefinition :=
  { d with outputs := 2 }

end BlockDefinition

namespace Catalog.Builtin

open BlockDefinition PropertySpec

/-- Whether only the user sees an answer. -/
def ephemeral : PropertySpec :=
  (ofKind .boolean "ephemeral" "Ephemeral (only visible to user)").preset (.bool false)

/-- The text of a message. -/
def content : PropertySpec :=
  (ofKind .textarea "content" "Message Content").hinting "Enter message content..."

/-- Whether a message is an embed. -/
def useEmbed : PropertySpec :=
  (ofKind .boolean "useEmbed" "Send as Embed").preset (.bool false)

/-- The title of an embed. -/
def embedTitle : PropertySpec :=
  ofKind .text "embed_title" "Embed Title"

/-- The text of an embed. -/
def embedDescription : PropertySpec :=
  ofKind .textarea "embed_description" "Embed Description"

/-- The colour of an embed. -/
def embedColor : PropertySpec :=
  (ofKind .color "embed_color" "Embed Color").preset (.str "#3b82f6")

/-- The reason of a moderation. -/
def reason : PropertySpec :=
  (ofKind .text "reason" "Reason").preset (.str "No reason provided")

/-- The member that a moderation is about. -/
def userId : PropertySpec :=
  (ofKind .text "userId" "User ID").mandatory.hinting "Enter user ID or variable"

/-- The variable that takes a result. -/
def saveTo : PropertySpec :=
  (ofKind .text "saveTo" "Save Result To").hinting "result"

/-- The channel that a message goes to. -/
def channelId : PropertySpec :=
  (ofKind .text "channel_id" "Channel ID").explaining
    "Leave empty to send to the channel the interaction came from"

/-- The properties of an embed inside a message. -/
def embed : List PropertySpec :=
  [useEmbed, embedTitle, embedDescription, embedColor]

/-- The permissions to choose from. -/
def permissionOptions : List (String × String) :=
  [("Administrator", "Administrator"),
   ("Manage Server", "ManageGuild"),
   ("Manage Messages", "ManageMessages"),
   ("Kick Members", "KickMembers"),
   ("Ban Members", "BanMembers"),
   ("Moderate Members", "ModerateMembers")]

/-- The events to listen to. -/
def eventOptions : List (String × String) :=
  [("Ready", "ready"),
   ("Message Create", "messageCreate"),
   ("Member Join", "guildMemberAdd"),
   ("Member Leave", "guildMemberRemove"),
   ("Reaction Add", "messageReactionAdd")]

/-- The styles of a button. -/
def buttonStyles : List (String × String) :=
  [("Primary (Blue)", "Primary"),
   ("Secondary (Gray)", "Secondary"),
   ("Success (Green)", "Success"),
   ("Danger (Red)", "Danger")]

/-- The styles of an input field. -/
def inputStyles : List (String × String) :=
  [("Short", "Short"),
   ("Paragraph", "Paragraph")]

/-- The operations on texts. -/
def stringOperations : List (String × String) :=
  [("Split", "split"),
   ("Join", "join"),
   ("Replace", "replace"),
   ("Uppercase", "upper"),
   ("Lowercase", "lower")]

/-- The operations on numbers. -/
def mathOperations : List (String × String) :=
  [("Power", "pow"),
   ("Square Root", "sqrt"),
   ("Round", "round"),
   ("Random Range", "random_range")]

/-- The permission that a check asks for. -/
def permission : PropertySpec :=
  ((ofKind .select "permission" "Permission").mandatory.preset (.str "Administrator")).among
    permissionOptions

/-- Blocks that start a flow. -/
def triggers : List BlockDefinition :=
  [ ((ofCategory "triggers" "command_slash" "Slash Command"
      [(ofKind .text "name" "Command Name").mandatory.preset (.str "ping"),
       (ofKind .text "description" "Description").preset (.str "A bot command")]).describedAs
      "Runs when a user invokes the command").starting,
    (ofCategory "triggers" "command_subcommand" "Subcommand"
      [(ofKind .text "name" "Subcommand Name").mandatory.hinting "add",
       (ofKind .text "description" "Description").preset (.str "A subcommand")]).describedAs
      "Runs when the connected slash command is invoked with this subcommand",
    ((ofCategory "triggers" "event_listener" "Event Listener"
      [((ofKind .select "event" "Event").mandatory.preset (.str "ready")).among
        eventOptions]).describedAs
      "Runs when the gateway emits the selected event").starting,
    ((ofCategory "triggers" "on_button_click" "On Button Click"
      [(ofKind .text "customId" "Custom ID").mandatory.preset (.str "btn_click_1")]).describedAs
      "Runs when a button with this custom id is clicked").starting,
    ((ofCategory "triggers" "on_select_menu" "On Select Menu"
      [(ofKind .text "customId" "Custom ID").mandatory.preset (.str "menu_select_1")]).describedAs
      "Runs when a select menu with this custom id is used").starting,
    ((ofCategory "triggers" "on_modal_submit" "On Modal Submit"
      [(ofKind .text "customId" "Custom ID").mandatory.preset (.str "modal_submit_1")]).describedAs
      "Runs when a modal with this custom id is submitted").starting ]

/-- Blocks that write, change and delete messages. -/
def messages : List BlockDefinition :=
  [ (ofCategory "actions" "action_reply" "Reply" ([content, ephemeral] ++ embed)).describedAs
      "Reply to the interaction",
    (ofCategory "actions" "send_message" "Send Message"
      ([content, channelId] ++ embed)).describedAs
      "Send a message to a channel",
    (ofCategory "actions" "action_defer_reply" "Defer Reply" [ephemeral]).describedAs
      "Acknowledge the interaction and reply later",
    ofCategory "actions" "edit_reply" "Edit Reply" [content],
    ofCategory "actions" "follow_up" "Follow Up" [content, ephemeral],
    (ofCategory "actions" "send_embed" "Embed Block"
      [ofKind .text "title" "Embed Title",
       ofKind .textarea "description" "Embed Description",
       (ofKind .color "color" "Embed Color").preset (.str "#3b82f6")]).describedAs
      "Send rich embed messages",
    ofCategory "actions" "edit_message" "Edit Message" [content],
    ofCategory "actions" "delete_message" "Delete Message" [],
    ofCategory "advanced" "console_log" "Console Log"
      [(ofKind .text "message" "Message").preset (.str "[Log Block]")] ]

/-- Blocks that show buttons, menus and forms. -/
def components : List BlockDefinition :=
  [ ofCategory "components" "add_button" "Add Button"
      [(ofKind .text "label" "Button Label").mandatory.preset (.str "Click me"),
       ((ofKind .select "style" "Button Style").mandatory.preset (.str "Primary")).among buttonStyles,
       (ofKind .text "customId" "Custom ID").mandatory.preset (.str "btn_click_1"),
       content],
    ofCategory "components" "add_select_menu" "Add Select Menu"
      [(ofKind .text "placeholder" "Placeholder").preset (.str "Select an option..."),
       (ofKind .text "customId" "Custom ID").mandatory.preset (.str "menu_select_1"),
       content],
    ofCategory "components" "show_modal" "Show Modal"
      [(ofKind .text "customId" "Custom ID").mandatory.preset (.str "modal_submit_1"),
       (ofKind .text "title" "Modal Title").preset (.str "My Form"),
       (ofKind .text "text_input_id" "Input ID").preset (.str "name_input"),
       (ofKind .text "text_input_label" "Input Label").preset (.str "Your answer"),
       ((ofKind .select "text_input_style" "Input Style").preset (.str "Short")).among inputStyles] ]

/-- Blocks that act on members. -/
def moderation : List BlockDefinition :=
  [ ofCategory "moderation" "action_kick" "Kick Member" [userId, reason],
    ofCategory "moderation" "action_ban" "Ban Member" [userId, reason],
    ofCategory "moderation" "member_timeout" "Timeout Member"
      [userId,
       (ofKind .number "minutes" "Duration (minutes)").mandatory.preset (.int 10),
       (ofKind .text "reason" "Reason").preset (.str "Auto timeout")],
    ofCategory "moderation" "automod_alert" "AutoMod Alert"
      [(ofKind .text "message" "Alert Message").preset (.str "Suspicious activity")] ]

/-- Blocks that go on only with a permission. -/
def gates : List BlockDefinition :=
  [ ((ofCategory "permissions" "check_permissions" "Check Permissions" [permission]).describedAs
      "Continue only when the invoking member has the permission").twoWay,
    ((ofCategory "permissions" "check_bot_permissions" "Check Bot Permissions"
      [permission]).describedAs
      "Continue only when the bot has the permission").twoWay ]

/-- Blocks that create things on a server. -/
def server : List BlockDefinition :=
  [ ofCategory "roles" "role_create" "Create Role"
      [(ofKind .text "name" "Role Name").preset (.str "new-role")],
    ofCategory "channels" "channel_create" "Create Channel"
      [(ofKind .text "name" "Channel Name").preset (.str "new-channel")],
    ofCategory "channels" "thread_create" "Create Thread"
      [(ofKind .text "name" "Thread Name").preset (.str "new-thread")],
    ofCategory "advanced" "event_schedule" "Schedule Event"
      [(ofKind .text "name" "Event Name").mandatory.preset (.str "New Event"),
       (ofKind .text "startTime" "Start Time (ISO 8601)").mandatory] ]

/-- Blocks for voice channels. -/
def voice : List BlockDefinition :=
  [ ofCategory "voice" "voice_join" "Join Voice Channel"
      [(ofKind .text "channelId" "Voice Channel ID").mandatory],
    ofCategory "voice" "voice_leave" "Leave Voice Channel" [] ]

/-- Blocks that choose, wait and catch errors. -/
def logic : List BlockDefinition :=
  [ ((ofCategory "logic" "if_condition" "If Condition"
      [(ofKind .text "condition" "Condition").mandatory.preset (.str "true")]).describedAs
      "Execute blocks based on a condition").twoWay,
    (ofCategory "logic" "condition_has_role" "Has Role"
      [(ofKind .text "roleId" "Role ID").mandatory]).twoWay,
    (ofCategory "logic" "condition_has_permission" "Has Permission" [permission]).twoWay,
    (ofCategory "advanced" "wait" "Wait"
      [((ofKind .number "duration" "Duration (seconds)").mandatory.preset (.int 1)).hinting "1"]).describedAs
      "Pause execution for a duration",
    (ofCategory "advanced" "error_handler" "Error Handler"
      [(ofKind .textarea "errorMessage" "Error Message").preset (.str "An error occurred"),
       (ofKind .boolean "logToConsole" "Log Error to Console").preset (.bool true)]).describedAs
      "Catch errors raised by the connected blocks" ]

/-- Blocks that compute and fetch. -/
def dataBlocks : List BlockDefinition :=
  [ ofCategory "variables" "set_variable" "Set Variable"
      [(ofKind .text "name" "Variable Name").mandatory.preset (.str "myVariable"),
       (ofKind .text "value" "Value").mandatory],
    ofCategory "data" "string_manipulation" "String Operation"
      [((ofKind .select "operation" "Operation").mandatory.preset (.str "upper")).among stringOperations,
       ofKind .text "input" "Input",
       saveTo],
    ofCategory "data" "math_advanced" "Math Operation"
      [((ofKind .select "operation" "Operation").mandatory.preset (.str "round")).among mathOperations,
       saveTo],
    ofCategory "data" "http_request" "HTTP Request"
      [(ofKind .text "url" "URL").mandatory.hinting "https://api.example.com",
       saveTo],
    ofCategory "data" "webhook_send" "Send Webhook"
      [(ofKind .text "url" "Webhook URL").mandatory,
       content] ]

/-- All built-in block types. -/
def definitions : List BlockDefinition :=
  triggers ++ messages ++ components ++ moderation ++ gates ++ server ++
    voice ++ logic ++ dataBlocks

end Catalog.Builtin

/-- The catalog of the built-in block types. -/
def Catalog.builtin : Catalog :=
  .ofList Builtin.definitions

end BotCanvas
