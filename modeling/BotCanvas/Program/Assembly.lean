import BotCanvas.Flow.Walk
import BotCanvas.Program.Steps

/-!
# Programs

A program is the header, the handlers of all triggers (slash commands, then components, then
events, each group in document order) and the footer with the registered commands. The handlers
are first made as units: guard, statements and subcommands of each trigger. Function names are
given out afterwards, while the units become code.
-/

namespace BotCanvas

/-- A trigger with everything that its handler holds. -/
structure HandlerUnit where
  trigger : Block
  kind : TriggerKind
  guard : Text
  subcommands : List Subcommand
  body : Code

namespace Dialect

/-- What a trigger is told apart by: the name of its command, its component or its event. -/
def guardOf (catalog : Catalog) (trigger : Block) (kind : TriggerKind) : Text :=
  let s : Subject := ⟨catalog, trigger⟩
  match kind with
  | .slash => Name.command "ping" (s.valueOr "name" (.str "ping")).display
  | .component => (s.value "customId").display
  | .event => (s.valueOr "event" (.str "ready")).display

/-- The statements that run when a trigger fires, in a scope of their own. -/
def flowCode (d : Dialect) (catalog : Catalog) (mode : Traversal) (canvas : Canvas)
    (trigger : Block) : Except NumberError Code :=
  ((d.emitFlow catalog (Flow.linearize catalog mode canvas (some trigger))).run.run .empty).1

/-- The name of a subcommand block; one without gets its number. -/
def subcommandName (catalog : Catalog) (index : Nat) (b : Block) : Text :=
  Name.command ("sub".toList ++ natDigits index) ((Subject.mk catalog b).value "name").display

/-- The subcommands of blocks, the first of which has the given number. A name that was taken
before is passed over. -/
def subcommandsFrom (d : Dialect) (catalog : Catalog) (mode : Traversal) (canvas : Canvas) :
    (index : Nat) → (taken : List Text) → List Block → Except NumberError (List Subcommand)
  | _, _, [] => .ok []
  | index, taken, b :: rest => do
      let name := subcommandName catalog index b
      if taken.contains name then subcommandsFrom d catalog mode canvas (index + 1) taken rest
      else
        let body ← d.flowCode catalog mode canvas b
        let summary :=
          ((Subject.mk catalog b).value "description").asDescription "A subcommand"
        let subs ← subcommandsFrom d catalog mode canvas (index + 1) (name :: taken) rest
        .ok (⟨name, summary, body⟩ :: subs)

/-- The subcommands wired to a slash command. -/
def subcommandsOf (d : Dialect) (catalog : Catalog) (mode : Traversal) (canvas : Canvas)
    (trigger : Block) : Except NumberError (List Subcommand) :=
  d.subcommandsFrom catalog mode canvas 0 [] (Flow.subcommands canvas trigger)

/-- The unit of a trigger. A command with subcommands has no statements of its own. -/
def handlerUnit (d : Dialect) (catalog : Catalog) (mode : Traversal) (canvas : Canvas)
    (kind : TriggerKind) (trigger : Block) : Except NumberError HandlerUnit := do
  let subcommands ← match kind with
    | .slash => d.subcommandsOf catalog mode canvas trigger
    | _ => .ok []
  let body ← if subcommands.isEmpty then d.flowCode catalog mode canvas trigger
    else .ok (.written [])
  .ok ⟨trigger, kind, guardOf catalog trigger kind, subcommands, body⟩

/-- The triggers of a kind in document order. -/
def triggersOf (catalog : Catalog) (canvas : Canvas) (kind : TriggerKind) : List Block :=
  (Flow.triggers catalog canvas).filter fun t => TriggerKind.ofType? t.type == some kind

/-- The units of all triggers, group after group. -/
def handlerUnits (d : Dialect) (catalog : Catalog) (mode : Traversal) (canvas : Canvas) :
    Except NumberError (List HandlerUnit) :=
  (TriggerKind.all.flatMap fun kind =>
    (triggersOf catalog canvas kind).map fun t => (kind, t)).mapM fun (kind, t) =>
      d.handlerUnit catalog mode canvas kind t

/-- The registration of a slash command. -/
def commandSpec (catalog : Catalog) (u : HandlerUnit) : CommandSpec :=
  { name := u.guard
    description :=
      ((Subject.mk catalog u.trigger).value "description").asDescription "A bot command"
    subcommands := u.subcommands.map fun sub => (sub.name, sub.description) }

/-- The commands to register: the slash commands, the first of each name. -/
def commands (catalog : Catalog) (units : List HandlerUnit) : List CommandSpec :=
  (units.filter fun u => u.kind == .slash).foldl
    (fun specs u =>
      if specs.any fun spec => spec.name == u.guard then specs
      else specs ++ [commandSpec catalog u])
    []

/-- The handlers of units; function names are given out in order. -/
def handlers (d : Dialect) (catalog : Catalog) (units : List HandlerUnit) : Naming (List Code) :=
  units.mapM fun u => d.handler catalog (some u.trigger) u.kind u.guard u.body u.subcommands

/-- The sections of a program. -/
def sections (d : Dialect) (catalog : Catalog) (canvas : Canvas) (units : List HandlerUnit) :
    List Code :=
  d.header canvas.types :: ((d.handlers catalog units).run []).1 ++
    [d.footer (commands catalog units)]

/-- A program: its sections without line feeds at their ends, with the separator between. -/
def program (d : Dialect) (catalog : Catalog) (mode : Traversal) (canvas : Canvas) :
    Except NumberError Text :=
  (d.handlerUnits catalog mode canvas).map fun units =>
    Text.join d.sectionSeparator
      ((d.sections catalog canvas units).map fun c => Text.stripEndChar '\n' (d.write c)) ++ ['\n']

end Dialect

end BotCanvas
