import EnvRegistry.CommandLine.Grammar
import EnvRegistry.Relations.Basic

/-! # The commands of the program

    `Action` says what can be asked for on a command line, and `commands` how.  A whole
    command line is an `Invocation`, which also says where the project is and how to
    answer. -/

namespace EnvRegistry.CommandLine

/-- What can be asked for. -/
inductive Action where
  | init
  | createEnvironment (name : String) (group : Option GroupId) (tags : List TagId)
  | listEnvironments
  | showEnvironment (id : EnvironmentId)
  | createTag (name : String)
  | listTags
  | createEdgeGroup (name : String)
  | listEdgeGroups
  | update (id : EnvironmentId) (u : Relations.Update)
  | assign (ids : List EnvironmentId) (request : Relations.Request)
  | showConfig
  | validateConfig
  | setHook (command : Option String)

/-- The update that options ask for; clearing counts as a list without elements. -/
def givenUpdate (g : Given) : Relations.Update where
  group := g.number? "group"
  tags := if g.has "clear-tags" then some [] else g.numbers? "tags"
  edgeGroups := if g.has "clear-edge-groups" then some [] else g.numbers? "edge-groups"

/-- The request that options ask for. -/
def givenRequest (g : Given) : Relations.Request where
  tags := (g.numbers? "tags").getD []
  edgeGroups := (g.numbers? "edge-groups").getD []
  createTags := (g.texts? "create-tags").getD []
  createEdgeGroups := (g.texts? "create-edge-groups").getD []
  group := g.number? "group"
  overrideTags := g.has "override-tags"
  overrideEdgeGroups := g.has "override-edge-groups"
  overrideGroup := g.has "override-group"

/-- A command without options and operands. -/
def plainCommand (a : Action) : Menu Action := .command { action := fun _ => some a }

/-- A command that takes a name. -/
def namedCommand (make : String → Action) : Menu Action :=
  .command {
    operand := some ⟨"name", .text, false⟩
    action := fun g => (g.text? "name").map make }

/-- The group option. -/
def groupOption : OptionRule := { name := "group", taking := .number }

/-- An option for a list of numbers. -/
def numbersOption (name : String) : OptionRule := { name, taking := .numbers }

/-- An option that is there or not. -/
def switchOption (name : String) : OptionRule := { name, taking := .nothing }

/-- The commands for environments. -/
def environmentCommands : Menu Action :=
  .group [
    ("create", .command {
      options := [groupOption, numbersOption "tags"]
      operand := some ⟨"name", .text, false⟩
      action := fun g => (g.text? "name").map fun name =>
        .createEnvironment name (g.number? "group") ((g.numbers? "tags").getD []) }),
    ("list", plainCommand .listEnvironments),
    ("show", .command {
      operand := some ⟨"id", .number, false⟩
      action := fun g => (g.number? "id").map .showEnvironment })]

/-- The commands for relations. -/
def relationCommands : Menu Action :=
  .group [
    ("update", .command {
      options := [groupOption, numbersOption "tags", switchOption "clear-tags",
        numbersOption "edge-groups", switchOption "clear-edge-groups"]
      operand := some ⟨"id", .number, false⟩
      conflicts := [("tags", "clear-tags"), ("edge-groups", "clear-edge-groups")]
      action := fun g => (g.number? "id").map fun id => .update id (givenUpdate g) }),
    ("assign", .command {
      options := [groupOption, numbersOption "tags", numbersOption "edge-groups",
        { name := "create-tags", taking := .texts },
        { name := "create-edge-groups", taking := .texts },
        switchOption "override-tags", switchOption "override-edge-groups",
        switchOption "override-group"]
      operand := some ⟨"ids", .number, true⟩
      action := fun g => (g.numbers? "ids").map fun ids => .assign ids (givenRequest g) })]

/-- All commands. -/
def commands : Menu Action :=
  .group [
    ("init", plainCommand .init),
    ("env", environmentCommands),
    ("tag", .group [("create", namedCommand .createTag), ("list", plainCommand .listTags)]),
    ("edge-group",
      .group [("create", namedCommand .createEdgeGroup), ("list", plainCommand .listEdgeGroups)]),
    ("relations", relationCommands),
    ("config", .group [
      ("show", plainCommand .showConfig),
      ("validate", plainCommand .validateConfig),
      ("set-hook", .command {
        operand := some ⟨"command", .text, false⟩
        action := fun g => some (.setHook (g.text? "command")) })])]

/-- The options of all commands. -/
def commonOptions : List OptionRule :=
  [{ name := "root", taking := .path }, { name := "json", letter := some 'j', taking := .nothing }]

/-- The name of the program. -/
def programName : String := "envrel"

/-- The version of the program. -/
def programVersion : String := "0.1.0"

/-- A command line. -/
structure Invocation where
  action : Action
  /-- The root of the project, if it is given. -/
  root : Option String
  /-- Whether to answer in JSON. -/
  json : Bool

/-- Reads a command line; `presetRoot` is the root to use if the command line gives none.  An empty
one is refused at every level that is not given a root of its own. -/
def Invocation.ofArguments (presetRoot : Option String) (args : List String) :
    Except Stop Invocation := do
  let (action, levels) ← commands.read programName commonOptions args
  if presetRoot = some "" && levels.any (!·.has "root") then throw .misuse
  let g : Given := ⟨levels.flatMap Given.values⟩
  return { action, root := (g.text? "root").or presetRoot, json := g.has "json" }

end EnvRegistry.CommandLine
