/-
# Proofs.CommandLine.DryRun -- a dry run shows what the real run sends

A dry run and a real run share their preparation, and differ only in two places: a dry run
does without an endpoint, and behind the creation of the output file it asks its query for
its text and its kind, where a real run executes it.

Given an endpoint, the preparation is the same (`prepare_dry`).  What comes behind it depends
on one thing, the finished statement of the query: without one both runs fail alike
(`dryRun_of_fault`, `realRun_of_fault`), and with one the dry run shows it and the real run
hands it over (`dryRun_of_statement`, `realRun_of_statement`).
-/
import SparqlRequest.CommandLine.Run
import SparqlRequest.Proofs.Outcome
import SparqlRequest.Proofs.Protocol.Round

set_option autoImplicit false

namespace SparqlRequest.CommandLine

def Options.dry (options : Options) : Options := { options with dryRun := true }

def Options.real (options : Options) : Options := { options with dryRun := false }

/-- The configuration of a run, if there is one, names an endpoint. -/
def NamesEndpoint (options : Options) (around : Surroundings) : Prop :=
  ∀ config, configure options around = .ok config → config.endpoint ≠ []

/-- A run put a text where its output goes, and nothing anywhere else. -/
def Report.Shows (report : Report) (output : Option Text) (text : Text) : Prop :=
  match output with
  | none => report.output = text ∧ report.written = []
  | some path => report.output = [] ∧ report.written = [(path, text)]

variable {options : Options} {around : Surroundings}

/-! ## Up to the output file -/

/-- With an endpoint, both runs prepare the same. -/
theorem prepare_dry (named : NamesEndpoint options around) :
    prepare options.dry around = prepare options.real around := by
  have sameConfig : configure options.dry around = configure options.real around := rfl
  have named' : ∀ config, configure options.real around = .ok config → config.endpoint ≠ [] := named
  rw [prepare, prepare, sameConfig]
  cases configured : configure options.real around with
  | error problem => rfl
  | ok config =>
      have present : config.endpoint.isEmpty = false :=
        List.isEmpty_eq_false_iff.2 (named' config configured)
      simp only [bind, Except.bind, present, Bool.false_and]
      rfl

/-- What keeps a run from being prepared is all that the run reports. -/
theorem runWith_of_problem {problem : Problem} (failed : prepare options around = .error problem) :
    runWith options around = failure problem := by
  rw [runWith, failed]

theorem runWith_of_uncreated {connector : Http.Connector} {query : Query} {fault : FileFault}
    (prepared : prepare options around = .ok (connector, query))
    (uncreated : options.output.bind around.create = some fault) :
    runWith options around = failure (.file fault) := by
  simp only [runWith, prepared, uncreated]

/-- A prepared run whose output can be created is a dry run or a real one of the same query. -/
theorem runWith_of_created {connector : Http.Connector} {query : Query}
    (prepared : prepare options around = .ok (connector, query))
    (created : options.output.bind around.create = none) :
    runWith options around =
      if options.dryRun then dryRun options query
      else realRun options around.library connector query := by
  simp only [runWith, prepared, created]

/-! ## Behind it -/

variable {query : Query}

theorem dryRun_of_statement {statement : Statement} (finished : query.statement = .ok statement) :
    dryRun options query =
      success options statement.text (if options.quiet then [] else kindLine statement.kind) := by
  obtain ⟨rendered, told⟩ := Query.shown_of_statement finished
  simp only [dryRun, rendered, told]

/-- A dry run that cannot finish its statement fails behind the creation of its output. -/
theorem dryRun_of_fault {error : Error} (failed : query.statement = .error error) :
    dryRun options query = lateFailure options error := by
  obtain ⟨refused | ⟨text, rendered⟩, untold⟩ := Query.shown_of_fault failed
  · simp only [dryRun, refused]
  · simp only [dryRun, rendered, untold]

variable {library : Http.Library} {connector : Http.Connector}

theorem realRun_of_fault {error : Error} (failed : query.statement = .error error) :
    realRun options library connector query = lateFailure options error := by
  rw [realRun, Http.perform_of_fault library options.parameters failed]
  rfl

/-- A finished statement is handed over, whatever comes of it. -/
theorem realRun_of_statement (options : Options) (library : Http.Library)
    (connector : Http.Connector) {statement : Statement}
    (finished : query.statement = .ok statement) :
    let delivery : Delivery := ⟨statement, options.parameters⟩
    let report := realRun options library connector query
    report.sent = [delivery] ∧ report.posts = [connector.post delivery] ∧
      report.requests = (Http.delivered library connector delivery).requests := by
  rw [realRun, Http.perform_of_statement library options.parameters finished]
  exact ⟨rfl, rfl, rfl⟩

theorem shows_success (options : Options) (text errors : Text) :
    (success options text errors).Shows options.output text := by
  cases output : options.output with
  | none => simp [Report.Shows, success, output]
  | some path => simp [Report.Shows, success, output]

/-! ## Both runs -/

/-- A report of a run that failed before it sent anything. -/
def Report.Unsent (report : Report) : Prop :=
  report.code ≠ 0 ∧ report.sent = [] ∧ report.posts = [] ∧ report.requests = []

/-- Both runs fail with one report, or the dry run shows a statement and the real run executes
the query of it. -/
theorem unsent_or_finished (named : NamesEndpoint options around) :
    (runWith options.real around = runWith options.dry around ∧
        (runWith options.dry around).Unsent) ∨
      ∃ connector query statement, query.statement = .ok statement ∧
        runWith options.dry around =
          success options statement.text (if options.quiet then [] else kindLine statement.kind) ∧
        runWith options.real around =
          realRun options.real around.library connector query := by
  have samePreparation := prepare_dry named
  cases prepared : prepare options.real around with
  | error problem =>
      rw [prepared] at samePreparation
      rw [runWith_of_problem prepared, runWith_of_problem samePreparation]
      exact Or.inl ⟨rfl, Nat.one_ne_zero, rfl, rfl, rfl⟩
  | ok made =>
      obtain ⟨connector, query⟩ := made
      rw [prepared] at samePreparation
      cases created : options.output.bind around.create with
      | some fault =>
          rw [runWith_of_uncreated prepared created, runWith_of_uncreated samePreparation created]
          exact Or.inl ⟨rfl, Nat.one_ne_zero, rfl, rfl, rfl⟩
      | none =>
          have dry : runWith options.dry around = dryRun options.dry query :=
            runWith_of_created samePreparation created
          have real : runWith options.real around =
              realRun options.real around.library connector query :=
            runWith_of_created prepared created
          rw [dry]
          cases finished : query.statement with
          | error error =>
              rw [real, dryRun_of_fault finished, realRun_of_fault finished]
              exact Or.inl ⟨rfl, Nat.one_ne_zero, rfl, rfl, rfl⟩
          | ok statement =>
              have shown : dryRun options.dry query = _ := dryRun_of_statement finished
              exact Or.inr ⟨connector, query, statement, finished, shown, real⟩

/-- A form body whose first field has a name and a value, however a plus sign is read. -/
def StartsWithField (body name value : Text) : Prop :=
  ∀ plus, ∃ more, Form.decode plus body = some ((name, value) :: more)

/-- **A dry run tells the truth.**  Given an endpoint, it succeeds exactly where the real run
hands a statement to its transport.  Then it shows the text of that one statement and names
its kind, and these are the value and the name of the first field of the form that is posted;
over a lawful library, no server receives any other form.  Where it fails, the real run ends in
the same report, and nothing is handed over.  A dry run itself never sends anything. -/
theorem dryRun_tells_realRun (options : Options) (around : Surroundings)
    (named : NamesEndpoint options around) :
    let dry := runWith options.dry around
    let real := runWith options.real around
    (dry.code = 0 ↔ real.sent ≠ []) ∧
      (dry.code = 0 → ∃ delivery, real.sent = [delivery] ∧
        dry.Shows options.output delivery.statement.text ∧
        dry.errors =
          (if options.quiet then []
            else "Statement kind: ".toList ++ delivery.statement.kind.field ++ ['\n']) ∧
        StartsWithField (Form.encode (Http.pairs delivery)) delivery.statement.kind.field
          delivery.statement.text ∧
        (∃ post, real.posts = [post] ∧ post.body = Form.encode (Http.pairs delivery)) ∧
        ∀ network, around.library.Lawful network →
          ∀ request ∈ real.requests, request.HasForm (Form.encode (Http.pairs delivery))) ∧
      (dry.code ≠ 0 → real.code ≠ 0 ∧ real.errors = dry.errors ∧ real.sent = [] ∧
        real.posts = [] ∧ real.requests = []) ∧
      dry.sent = [] ∧ dry.posts = [] ∧ dry.requests = [] := by
  intro dry real
  rcases unsent_or_finished named with ⟨alike, failed, silent⟩ |
    ⟨connector, query, statement, finished, shown, executed⟩
  · have same : real = dry := alike
    rw [same]
    exact ⟨iff_of_false failed (fun sends => sends silent.1),
      fun succeeded => absurd succeeded failed, fun _ => ⟨failed, rfl, silent⟩, silent⟩
  · have real_eq : real = _ := executed
    have dry_eq : dry = _ := shown
    obtain ⟨sent, posted, received⟩ := realRun_of_statement options.real around.library connector
      finished
    rw [← real_eq] at sent posted received
    have succeeded : dry.code = 0 := by
      rw [dry_eq]
      rfl
    refine ⟨iff_of_true succeeded ?_, fun _ => ⟨_, sent, ?_, ?_, ?_, ⟨_, posted, rfl⟩, ?_⟩,
      fun failed => absurd succeeded failed, ?_⟩
    · rw [sent]
      exact List.cons_ne_nil _ _
    · rw [dry_eq]
      exact shows_success options _ _
    · rw [dry_eq]
      rfl
    · exact fun plus => ⟨_, Form.decode_encode plus _⟩
    · intro network lawful
      rw [received]
      exact Http.hasForm_delivered lawful connector _
    · rw [dry_eq]
      exact ⟨rfl, rfl, rfl⟩

/-- An update shown in a file and handed over, and a text without a keyword that stops both
runs. -/
theorem dryRun_tells_realRun_update :
    let options : Options :=
      { Progress.start.options with
        template := standardInput
        endpoint := some "http://a/".toList
        base := some "http://b/".toList
        bindings := [("g".toList, "<g>".toList)]
        output := some "out".toList }
    let around : Surroundings :=
      ⟨fun _ => .error .missing, fun _ => none, .ok "CLEAR ?g ".toList, fun _ => [],
        .through (fun _ => true) fun _ _ => ⟨.dropped, 0⟩⟩
    let wordless : Surroundings := { around with input := .ok "?g ".toList }
    let text := "BASE <http://b/>\n\nCLEAR <g> ".toList
    (runWith options.dry around).written = [("out".toList, text)] ∧
      (∃ delivery, (runWith options.real around).sent = [delivery] ∧
        delivery.statement.text = text ∧
        StartsWithField (Form.encode (Http.pairs delivery)) "update".toList text) ∧
      (runWith options.real wordless).errors = (runWith options.dry wordless).errors ∧
      (runWith options.real wordless).sent = [] := by
  intro options around wordless text
  have named : NamesEndpoint options around := by
    intro config configured
    cases configured
    exact List.cons_ne_nil _ _
  have written : (runWith options.dry around).written = [("out".toList, text)] := by decide +kernel
  have told : (runWith options.dry around).errors = "Statement kind: update\n".toList := by
    decide +kernel
  obtain ⟨delivery, sent, shown, kind, field, -⟩ :=
    (dryRun_tells_realRun options around named).2.1 (by decide +kernel)
  have sameText : delivery.statement.text = text := by
    have one : _ = [("out".toList, delivery.statement.text)] := shown.2
    rw [written] at one
    exact (Prod.mk.inj (List.cons.inj one).1).2.symm
  have isUpdate : delivery.statement.kind.field = "update".toList := by
    rw [told] at kind
    cases same : delivery.statement.kind with
    | update => rfl
    | query =>
        rw [same] at kind
        exact absurd kind (by decide)
  rw [sameText, isUpdate] at field
  have stopped := (dryRun_tells_realRun options wordless named).2.2.1 (by decide +kernel)
  exact ⟨written, ⟨delivery, sent, sameText, field⟩, stopped.2.1, stopped.2.2.1⟩

end SparqlRequest.CommandLine
