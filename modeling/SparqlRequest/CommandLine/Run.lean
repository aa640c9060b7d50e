/-
# CommandLine.Run -- a run of the program

A run reads the configuration, then the template, and binds the placeholders in the order
in which they are given.  What the command line declares comes after what the configuration
declares: the base, the well-known prefixes, then each prefix.  The output file is created
before anything can fail that depends on the finished statement, so it is left empty by
such a failure.

A dry run writes the finished text and names its kind on standard error; every other run
posts the statement and writes the reply as indented JSON.  A dry run does without an
endpoint.

`prepare` is everything up to the bound query, and depends on nothing that the two kinds of
run do differently but the endpoint.
-/
import SparqlRequest.CommandLine.Options
import SparqlRequest.ConfigFile
import SparqlRequest.Json.Writer
import SparqlRequest.Protocol.Round

set_option autoImplicit false

namespace SparqlRequest.CommandLine

/-- What a run finds around it. -/
structure Surroundings where
  /-- The text of the file at a path. -/
  read : Text → Except FileFault Text
  /-- Why no file can be created at a path, if so. -/
  create : Text → Option FileFault
  /-- The text on standard input. -/
  input : Except FileFault Text
  /-- What the reader of TOML says of a text that it refuses. -/
  explain : Text → Text
  library : Http.Library

/-- Why a run fails. -/
inductive Problem where
  | noEndpoint
  | file (fault : FileFault)
  | statement (error : Error)
  deriving DecidableEq

def Problem.message : Problem → Text
  | .noEndpoint => "no endpoint given; use --endpoint or a config file".toList
  | .file fault => fault.message
  | .statement error => error.message

/-- What a run leaves behind. -/
structure Report where
  code : Nat
  output : Text
  errors : Text
  /-- The files that were created, by path, with what was written into them. -/
  written : List (Text × Text)
  /-- What was handed to the transport. -/
  sent : List Delivery
  posts : List Http.Post
  /-- What servers received. -/
  requests : List Http.Request
  deriving DecidableEq, Repr

def lift {α : Type} : Except Error α → Except Problem α
  | .ok value => .ok value
  | .error error => .error (.statement error)

/-- The configuration of a run: that of the file, with the endpoint of the command line. -/
def configure (options : Options) (around : Surroundings) : Except Problem Config := do
  let config ←
    match options.config with
    | none => .ok Config.standard
    | some path =>
        match around.read path with
        | .ok text => lift (Config.ofToml around.explain text)
        | .error fault => .error (.statement (.config (.unreadable path fault)))
  return { config with endpoint := options.endpoint.getD config.endpoint }

def declare (options : Options) (client : Client) : Except Error Client := do
  let client :=
    match options.base with
    | some base => client.register (.base base)
    | none => client
  let client ←
    match options.common with
    | some names => client.registerCommon names
    | none => .ok client
  return client.register (.several options.prefixes)

/-- The path that stands for standard input. -/
def standardInput : Text := ['-']

def template (options : Options) (around : Surroundings) : Except FileFault Text :=
  if options.template = standardInput then around.input else around.read options.template

/-- The way to the endpoint and the bound query. -/
def prepare (options : Options) (around : Surroundings) :
    Except Problem (Http.Connector × Query) := do
  let config ← configure options around
  if config.endpoint.isEmpty && !options.dryRun then .error .noEndpoint
  else
    let (connector, client) ← lift (Http.connect around.library config)
    let client ← lift (declare options client)
    match template options around with
    | .error fault => .error (.file fault)
    | .ok text => return (connector, (client.query text).bindAll options.bindings)

/-- A run that failed before anything was created or sent. -/
def failure (problem : Problem) : Report where
  code := 1
  output := []
  errors := "Error: ".toList ++ problem.message ++ ['\n']
  written := []
  sent := []
  posts := []
  requests := []

/-- A run that failed behind the creation of its output file, which stays empty. -/
def lateFailure (options : Options) (error : Error) : Report :=
  { failure (.statement error) with
    written := options.output.toList.map fun path => (path, []) }

def success (options : Options) (text errors : Text) : Report where
  code := 0
  output := if options.output.isSome then [] else text
  errors := errors
  written := options.output.toList.map fun path => (path, text)
  sent := []
  posts := []
  requests := []

def kindLine (kind : StatementKind) : Text := "Statement kind: ".toList ++ kind.field ++ ['\n']

/-- Writes the finished text, and names its kind unless that is not wanted. -/
def dryRun (options : Options) (query : Query) : Report :=
  match query.render with
  | .error error => lateFailure options error
  | .ok text =>
      match query.kind with
      | .error error => lateFailure options error
      | .ok kind => success options text (if options.quiet then [] else kindLine kind)

/-- Posts the statement and writes the reply. -/
def realRun (options : Options) (library : Http.Library) (connector : Http.Connector)
    (query : Query) : Report :=
  let round := Http.perform library connector query options.parameters
  let report :=
    match round.outcome with
    | .error error => lateFailure options error
    | .ok value => success options (value.indented 0 ++ ['\n']) []
  { report with sent := round.sent, posts := round.posts, requests := round.requests }

def runWith (options : Options) (around : Surroundings) : Report :=
  match prepare options around with
  | .error problem => failure problem
  | .ok (connector, query) =>
      match options.output.bind around.create with
      | some fault => failure (.file fault)
      | none =>
          if options.dryRun then dryRun options query
          else realRun options around.library connector query

def versionLine : Text := "sparql-client 0.1.0\n".toList

def usageLine : Text := "usage: sparql-client [OPTIONS] <QUERY>\n".toList

def run (arguments : List Text) (around : Surroundings) : Report :=
  match Options.ofArguments arguments with
  | .error .usage => ⟨2, [], usageLine, [], [], [], []⟩
  | .error .version => ⟨0, versionLine, [], [], [], [], []⟩
  | .ok options => runWith options around

/-! ## Runs in a folder -/

def Surroundings.ofFolder (folder : Folder) (input : Text) (explain : Text → Text)
    (library : Http.Library) : Surroundings where
  read := folder.read
  create path :=
    match folder.create path with
    | .ok _ => none
    | .error fault => some fault
  input := .ok input
  explain := explain
  library := library

/-- The files of a folder that a run created or changed, by name. -/
def Report.changes (report : Report) (folder : Folder) : List (Text × Text) :=
  report.written.filterMap fun file =>
    match folder.create file.1 with
    | .error _ => none
    | .ok name => if folder.content? name = some (.text file.2) then none else some (name, file.2)

end SparqlRequest.CommandLine
