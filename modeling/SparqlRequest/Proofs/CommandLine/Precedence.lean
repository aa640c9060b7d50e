/-
# Proofs.CommandLine.Precedence -- which of several declarations of a name counts

A run declares in two layers.  The configuration sets a base, asks for well-known names and
lists prefixes of its own; behind it, the command line does the same.  All of it is written
into one registry, so what is written later wins the URI of a name, and what is written
earlier its place.

`registryOf` is the registry of a configuration and a command line, and `prepare_eq` says
that it is the one that a run works with.  `registryOf_eq` takes it apart: a name that is not
well known is the only fault, and without one the registry is what the two layers write, in
turn.  What it holds is then a matter of the writes (`Registry.Holds`), and each part of a
layer is read off by itself: the last pair of an append is the last of its last part that
has one.
-/
import SparqlRequest.CommandLine.Run
import SparqlRequest.Proofs.Config.Declared
import SparqlRequest.Proofs.Outcome
import SparqlRequest.Proofs.Query.Execution
import SparqlRequest.Proofs.Registry.Writes
import SparqlRequest.Protocol.Network

set_option autoImplicit false

namespace SparqlRequest.CommandLine

open Registry (Write Holds declareAll_append declareAll_eq lastBase? lastBase?_append
  lastBase?_ofPairs lastUri? lastUri?_append writeAll_append written written_append written_ofPairs)
open Vocabulary (firstUnknown? declarationsOf)

/-! ## One layer -/

/-- What a layer writes: its base, the well-known names that it asks for, its prefixes. -/
def layer (base : Option Text) (asked : List Text) (prefixes : List (Text × Text)) : List Write :=
  base.toList.map .base ++
    (Write.ofPairs (declarationsOf asked) ++ Write.ofPairs prefixes)

theorem lastBase?_layer (base : Option Text) (asked : List Text) (prefixes : List (Text × Text)) :
    lastBase? (layer base asked prefixes) = base := by
  rw [layer, lastBase?_append, lastBase?_append, lastBase?_ofPairs, lastBase?_ofPairs]
  cases base with
  | none => rfl
  | some uri => rfl

/-- A layer writes the well-known names that it asks for before its own prefixes. -/
theorem written_layer (base : Option Text) (asked : List Text) (prefixes : List (Text × Text)) :
    written (layer base asked prefixes) = declarationsOf asked ++ prefixes := by
  rw [layer, written_append, written_append, written_ofPairs, written_ofPairs]
  cases base with
  | none => rfl
  | some uri => rfl

theorem lastUri?_declarationsOf_singleton (first name : Text) :
    lastUri? (declarationsOf [first]) name =
      if name = first then Vocabulary.common? name else none := by
  rw [declarationsOf, List.filterMap_cons, List.filterMap_nil]
  cases known : Vocabulary.common? first with
  | none =>
      by_cases same : name = first
      · rw [if_pos same, same, known]
        rfl
      · rw [if_neg same]
        rfl
  | some uri =>
      rw [Option.map_some, Registry.lastUri?_singleton]
      by_cases same : name = first
      · rw [if_pos same.symm, if_pos same, same, known]
      · rw [if_neg (Ne.symm same), if_neg same]

/-- A name that is asked for has its well-known URI. -/
theorem lastUri?_declarationsOf (asked : List Text) (name : Text) :
    lastUri? (declarationsOf asked) name =
      if name ∈ asked then Vocabulary.common? name else none := by
  induction asked with
  | nil => rfl
  | cons first asked ih =>
      have split :
          declarationsOf (first :: asked) = declarationsOf [first] ++ declarationsOf asked :=
        List.filterMap_append (l := [first])
      rw [split, lastUri?_append, ih, lastUri?_declarationsOf_singleton]
      by_cases here : name = first
      · rw [if_pos here, if_pos (List.mem_cons.2 (Or.inl here))]
        split
        · exact Option.or_self
        · rfl
      · by_cases later : name ∈ asked
        · rw [if_pos later, if_neg here, if_pos (List.mem_cons_of_mem first later), Option.or_none]
        · have absent : name ∉ first :: asked := fun member =>
            (List.mem_cons.1 member).elim here later
          rw [if_neg later, if_neg here, if_neg absent, Option.none_or]

/-! ## Both layers -/

variable (config : Config) (options : Options) (around : Surroundings)

/-- The well-known names that the command line asks for, all of them in the order of the
table where it asks without a name. -/
def Options.commonNames (options : Options) : List Text :=
  (options.common.map Vocabulary.asked).getD []

def registryOf (config : Config) (options : Options) : Except Error Registry := do
  let registry ← config.registry
  let client ← declare options ⟨registry⟩
  return client.registry

/-- What a configuration and a command line write. -/
def writesOf (config : Config) (options : Options) : List Write :=
  layer config.base config.commonNames config.prefixes ++
    layer options.base options.commonNames options.prefixes

/-- The first name that is asked for and not well known. -/
def labelFault? (config : Config) (options : Options) : Option Text :=
  (firstUnknown? config.commonNames).or (firstUnknown? options.commonNames)

theorem declared_eq :
    config.declared =
      Registry.empty.writeAll (layer config.base config.commonNames config.prefixes) := by
  have based : Registry.empty.writeAll (config.base.toList.map .base) = ⟨config.base, []⟩ := by
    cases config.base with
    | none => rfl
    | some uri => rfl
  rw [Config.declared, declareAll_append, declareAll_eq,
    declareAll_eq, layer, writeAll_append, writeAll_append, based, Config.selection_eq]

theorem registerCommon_eq (registry : Registry) (names : List Text) :
    Client.registerCommon ⟨registry⟩ names =
      (firstUnknown? (Vocabulary.asked names)).elim
        (.ok ⟨registry.writeAll (Write.ofPairs (declarationsOf (Vocabulary.asked names)))⟩)
        fun name => .error (.unknownLabel name) := by
  rw [Client.registerCommon, Registry.registerCommon_eq, Vocabulary.firstUnknown?_asked,
    Vocabulary.selection_eq]
  cases firstUnknown? names with
  | none =>
      rw [Option.elim_none, Option.elim_none, ← declareAll_eq]
      rfl
  | some name => rfl

/-- The command line declares its layer on a registry, or names its first unknown name. -/
theorem declare_eq (registry : Registry) :
    declare options ⟨registry⟩ =
      (firstUnknown? options.commonNames).elim
        (.ok ⟨registry.writeAll (layer options.base options.commonNames options.prefixes)⟩)
        fun name => .error (.unknownLabel name) := by
  have based : (options.base.elim ⟨registry⟩ fun base => Client.register ⟨registry⟩ (.base base)) =
      (⟨registry.writeAll (options.base.toList.map .base)⟩ : Client) := by
    cases options.base with
    | none => rfl
    | some uri => rfl
  have opened : declare options ⟨registry⟩ =
      (options.common.elim (.ok ⟨registry.writeAll (options.base.toList.map .base)⟩) fun names =>
        Client.registerCommon ⟨registry.writeAll (options.base.toList.map .base)⟩ names).map
          fun client => client.register (.several options.prefixes) := by
    rw [← based, declare]
    cases options.base <;> cases options.common <;> rfl
  rw [opened, layer, writeAll_append, writeAll_append, Options.commonNames]
  cases options.common with
  | none =>
      rw [← declareAll_eq]
      rfl
  | some names =>
      rw [Option.elim_some, registerCommon_eq, Option.map_some, Option.getD_some]
      cases firstUnknown? (Vocabulary.asked names) with
      | none =>
          rw [Option.elim_none, Option.elim_none, ← declareAll_eq _ options.prefixes]
          rfl
      | some name => rfl

/-- **The registry is what both layers write**, unless one asks for a name that is not well
known. -/
theorem registryOf_eq :
    registryOf config options =
      (labelFault? config options).elim (.ok (Registry.empty.writeAll (writesOf config options)))
        fun name => .error (.unknownLabel name) := by
  rw [registryOf, Config.registry_eq, Config.firstUnknown?_eq, declared_eq, labelFault?, writesOf]
  cases firstUnknown? config.commonNames with
  | some name => rfl
  | none =>
      rw [Option.elim_none, Option.none_or, writeAll_append]
      show (declare options ⟨_⟩ >>= fun client => pure client.registry) = _
      rw [declare_eq]
      cases firstUnknown? options.commonNames with
      | none => rfl
      | some name => rfl

theorem lift_bind {α β : Type} (first : Except Error α) (next : α → Except Error β) :
    lift (first >>= next) = lift first >>= fun a => lift (next a) := by
  cases first with
  | error error => rfl
  | ok a => rfl

/-- The way to the endpoint and the bound query, from the configuration of a run on. -/
def prepareFrom (options : Options) (around : Surroundings) (config : Config) :
    Except Problem (Http.Connector × Query) :=
  if config.endpoint.isEmpty && !options.dryRun then .error .noEndpoint
  else do
    let connector ← lift (Http.Connector.ofConfig around.library config)
    let registry ← lift (registryOf config options)
    match template options around with
    | .error fault => .error (.file fault)
    | .ok text => return (connector, (Client.query ⟨registry⟩ text).bindAll options.bindings)

/-- **A run works with the registry of its configuration and its command line.** -/
theorem prepare_eq :
    prepare options around = configure options around >>= prepareFrom options around := by
  rw [prepare]
  refine bind_congr fun config => ?_
  rw [prepareFrom]
  split
  · rfl
  · rw [Http.connect, registryOf, lift_bind, bind_assoc]
    refine bind_congr fun connector => ?_
    rw [lift_bind, lift_bind, bind_assoc, bind_assoc]
    refine bind_congr fun registry => ?_
    rw [lift_bind, bind_assoc]
    rfl

variable {config : Config} {options : Options} {around : Surroundings}

theorem prepare_of_configure (configured : configure options around = .ok config) :
    prepare options around = prepareFrom options around config := by
  rw [prepare_eq, configured]
  rfl

theorem lift_eq_ok_iff {α : Type} {result : Except Error α} {a : α} :
    lift result = .ok a ↔ result = .ok a := by
  cases result with
  | error error => simp [lift]
  | ok value => simp [lift]

/-- The registry of both layers is that of the prepared query. -/
theorem registryOf_of_prepare (configured : configure options around = .ok config)
    {connector : Http.Connector} {query : Query}
    (prepared : prepare options around = .ok (connector, query)) :
    registryOf config options = .ok query.registry := by
  rw [prepare_of_configure configured, prepareFrom] at prepared
  split at prepared
  · cases prepared
  · obtain ⟨_, _, prepared⟩ := bind_eq_ok_iff.1 prepared
    obtain ⟨registry, declared, prepared⟩ := bind_eq_ok_iff.1 prepared
    rw [lift_eq_ok_iff.1 declared]
    split at prepared
    · cases prepared
    · next text _ =>
        cases prepared
        have kept := Query.bindAll_registry (Client.query ⟨registry⟩ text) options.bindings
        exact congrArg Except.ok kept.symm

theorem prepare_of_registryOf_error (configured : configure options around = .ok config)
    (reachable : config.endpoint ≠ [] ∨ options.dryRun = true)
    (built : around.library.refusal? (.ofConfig config) = none) {error : Error}
    (failed : registryOf config options = .error error) :
    prepare options around = .error (.statement error) := by
  have passed : ¬ (config.endpoint.isEmpty && !options.dryRun) = true := by
    rintro stopped
    simp only [Bool.and_eq_true, List.isEmpty_iff, Bool.not_eq_true'] at stopped
    rcases reachable with named | dry
    · exact named stopped.1
    · rw [dry] at stopped
      cases stopped.2
  rw [prepare_of_configure configured, prepareFrom, if_neg passed, failed,
    Http.Connector.ofConfig, built]
  rfl

/-! ## What counts -/

theorem firstUnknown?_commonNames (options : Options) :
    firstUnknown? options.commonNames = options.common.bind firstUnknown? := by
  rw [Options.commonNames]
  cases options.common with
  | none => rfl
  | some names => exact Vocabulary.firstUnknown?_asked names

/-- The configuration fails before the command line, and only without the name that selects
all. -/
theorem labelFault?_eq_some_iff {name : Text} :
    labelFault? config options = some name ↔
      (Config.everyName ∉ config.commonPrefixes ∧
        firstUnknown? config.commonPrefixes = some name) ∨
      ((Config.everyName ∈ config.commonPrefixes ∨ firstUnknown? config.commonPrefixes = none) ∧
        options.common.bind firstUnknown? = some name) := by
  rw [labelFault?, ← Config.firstUnknown?_eq, firstUnknown?_commonNames, Option.or_eq_some_iff,
    Config.firstUnknown?]
  by_cases every : Config.everyName ∈ config.commonPrefixes
  · rw [if_pos (List.contains_iff_mem.2 every)]
    simp [every]
  · rw [if_neg fun found => every (List.contains_iff_mem.1 found)]
    simp [every]

/-- Nothing but a name that is not well known keeps the layers from being declared. -/
theorem registryOf_eq_error_iff {error : Error} :
    registryOf config options = .error error ↔
      ∃ name, labelFault? config options = some name ∧ error = .unknownLabel name := by
  rw [registryOf_eq]
  cases labelFault? config options with
  | none => simp
  | some name => simp [eq_comm]

/-- What a registry says of every name, layer by layer: the prefixes of the command line, the
well-known names that it asks for, and the same of the configuration. -/
structure Precedes (config : Config) (options : Options) (registry : Registry) : Prop where
  base : registry.base = options.base.or config.base
  uri? : ∀ name, registry.uri? name =
    (lastUri? options.prefixes name).or
      ((if name ∈ options.commonNames then Vocabulary.common? name else none).or
        ((lastUri? config.prefixes name).or
          (if name ∈ config.commonNames then Vocabulary.common? name else none)))
  distinct : registry.names.Nodup
  names : registry.names =
    (config.commonNames ++ config.prefixes.map (fun entry => entry.1) ++
      (options.commonNames ++ options.prefixes.map fun entry => entry.1)).eraseDups

/-- The later layer wins, and within a layer its prefixes win over well-known names. -/
theorem precedes_of_registryOf {registry : Registry}
    (declared : registryOf config options = .ok registry) : Precedes config options registry := by
  rw [registryOf_eq] at declared
  cases faulty : labelFault? config options with
  | some name =>
      rw [faulty] at declared
      cases declared
  | none =>
      rw [faulty] at declared
      cases declared
      have held : Holds (Registry.empty.writeAll (writesOf config options))
          (writesOf config options) :=
        Registry.holds_writeAll Registry.holds_empty (writesOf config options)
      have entries : written (writesOf config options) =
          declarationsOf config.commonNames ++ config.prefixes ++
            (declarationsOf options.commonNames ++ options.prefixes) := by
        rw [writesOf, written_append, written_layer, written_layer]
      rw [labelFault?, Option.or_eq_none_iff] at faulty
      refine ⟨?_, fun name => ?_, held.distinct, ?_⟩
      · rw [held.base, writesOf, lastBase?_append, lastBase?_layer, lastBase?_layer]
      · rw [held.uri?, entries, lastUri?_append, lastUri?_append,
          lastUri?_append, lastUri?_declarationsOf, lastUri?_declarationsOf,
          Option.or_assoc]
      · rw [held.names, entries, Registry.firstNames, List.map_append, List.map_append,
          List.map_append, Vocabulary.map_declarationsOf faulty.1,
          Vocabulary.map_declarationsOf faulty.2]

/-- **Which declaration counts.**  The declarations fail for a name that is not well known,
first one that the configuration asks for without selecting all, then one that the command
line asks for.  Otherwise the last declaration of a name gives its URI and the first its
place, through the layers in their order.  A run works with what is declared so, and stops
where the declarations fail. -/
theorem declared_precedence (config : Config) (options : Options) :
    (∀ error, registryOf config options = .error error ↔ ∃ name,
      ((['*'] ∉ config.commonPrefixes ∧ firstUnknown? config.commonPrefixes = some name) ∨
        ((['*'] ∈ config.commonPrefixes ∨ firstUnknown? config.commonPrefixes = none) ∧
          options.common.bind firstUnknown? = some name)) ∧
      error = .unknownLabel name) ∧
    (∀ registry, registryOf config options = .ok registry → Precedes config options registry) ∧
    ∀ around, configure options around = .ok config →
      (∀ connector query, prepare options around = .ok (connector, query) →
        registryOf config options = .ok query.registry) ∧
      ((config.endpoint ≠ [] ∨ options.dryRun = true) →
        around.library.refusal? (.ofConfig config) = none →
        ∀ error, registryOf config options = .error error →
          prepare options around = .error (.statement error)) := by
  refine ⟨fun error => ?_, fun registry => precedes_of_registryOf, fun around configured => ?_⟩
  · rw [registryOf_eq_error_iff]
    simp only [labelFault?_eq_some_iff]
    rfl
  · exact ⟨fun connector query => registryOf_of_prepare configured,
      fun reachable built error => prepare_of_registryOf_error configured reachable built⟩

/-- A configuration that selects all in spite of an unknown name, prefixes of its own for two
names, and a command line that asks for one of the two again and declares it once more.  On
the command line the name that selects all is unknown, and stops a run. -/
theorem declared_precedence_layers :
    let plain := Progress.start.options
    let config : Config :=
      { Config.standard with
        base := some ['c']
        commonPrefixes := [['?'], ['*']]
        prefixes := [(['p'], ['1']), ("rdf".toList, ['2']), (['p'], ['3'])] }
    let options : Options :=
      { plain with
        common := some ["fn".toList, "rdf".toList]
        prefixes := [(['q'], ['4']), ("fn".toList, ['5'])] }
    let around : Surroundings :=
      ⟨fun _ => .error .missing, fun _ => none, .ok [], fun _ => [],
        .through (fun _ => true) fun _ _ => ⟨.refused, 0⟩⟩
    let every : Options := { plain with dryRun := true, common := some [['*']] }
    let bare : Options := { plain with dryRun := true, template := standardInput }
    (∃ registry, registryOf config options = .ok registry ∧
      registry.base = some ['c'] ∧
      registry.uri? ['p'] = some ['3'] ∧
      registry.uri? "rdf".toList = Vocabulary.common? "rdf".toList ∧
      registry.uri? "fn".toList = some ['5'] ∧
      registry.names = Vocabulary.names ++ [['p'], ['q']]) ∧
    prepare every around = .error (.statement (.unknownLabel ['*'])) ∧
    ∃ connector query, prepare bare around = .ok (connector, query) ∧
      registryOf Config.standard bare = .ok query.registry := by
  intro plain config options around every bare
  have layered := declared_precedence config options
  have unknown := declared_precedence Config.standard every
  have known := declared_precedence Config.standard bare
  refine ⟨⟨_, rfl, ?_⟩, ?_, _, _, rfl, (known.2.2 around rfl).1 _ _ rfl⟩
  · have precedes := layered.2.1 _ rfl
    refine ⟨precedes.base, (precedes.uri? _).trans ?_, (precedes.uri? _).trans ?_,
      (precedes.uri? _).trans ?_, precedes.names.trans ?_⟩ <;> decide +kernel
  · refine (unknown.2.2 around rfl).2 (Or.inr rfl) (by decide +kernel) _ ((unknown.1 _).2 ?_)
    exact ⟨['*'], Or.inr ⟨Or.inr rfl, by decide⟩, rfl⟩

end SparqlRequest.CommandLine
