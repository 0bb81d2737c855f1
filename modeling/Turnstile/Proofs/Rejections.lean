import Turnstile.Proofs.Unknowns
import Turnstile.Proofs.Violations

/-!
What is no configuration. A document that is no mapping is refused, and so is a section of an override
that is none, whatever it would be merged into. The exceptions are values that count as mappings here
without being any: a document that is an instant or a byte string stands for the defaults, an instant
in place of a section is passed over where it meets a mapping, and a byte string anywhere.
-/
namespace Turnstile

namespace Value
variable {m : Merging} {fields : Fields} {key : String} {target v : Value}

theorem lookup_own_store {other : String} (differs : key ≠ other) (v : Value) :
    (m.store other v).own.lookup key = m.own.lookup key := by
  rw [Merging.store]
  split
  · rfl
  · rw [Fields.lookup_put, if_neg differs]

/-- Entries of other names leave the own field of a name. -/
theorem lookup_own_mergeFields (fresh : key ∉ fields.map Prod.fst) :
    (mergeFields fields m).own.lookup key = m.own.lookup key := by
  induction fields generalizing m with
  | nil => rw [mergeFields]
  | cons field rest ih =>
      obtain ⟨other, v⟩ := field
      rw [List.map_cons, List.mem_cons, not_or] at fresh
      rw [mergeFields, ih fresh.2]
      cases v with
      | undefined => rw [mergeField]
      | _ => exact lookup_own_store fresh.1 _

theorem lookup_own_mergeField (ancestorless : key ≠ ancestorKey) (present : v ≠ .undefined) :
    (mergeField (key, v) m).own.lookup key = some ((m.held key).merge v) := by
  rw [mergeField_defined present, Merging.store, if_neg fun both => ancestorless both.1,
    Fields.lookup_put, if_pos rfl, merge]

/-- The field that an entry of an override makes, if no other entry of its name comes after it. It is
merged over what stands there by then. -/
theorem field_merge_entry {before after inherited old : Fields} (own : target.entries? = some old)
    (ancestorless : key ≠ ancestorKey) (present : v ≠ .undefined)
    (last : key ∉ after.map Prod.fst) :
    (target.merge (.mapping (before ++ (key, v) :: after) inherited)).field key =
      ((mergeFields before ⟨old, []⟩).held key).merge v := by
  have merged : (mergeFields (before ++ (key, v) :: after) ⟨old, []⟩).own.lookup key =
      some (((mergeFields before ⟨old, []⟩).held key).merge v) := by
    rw [mergeFields_append, mergeFields, lookup_own_mergeFields last,
      lookup_own_mergeField ancestorless present]
  rw [merge, mergeOver, own, field]
  simp only [visible, List.lookup_append, merged]
  rfl

theorem merge_instant (target : Value) (ms : Int) :
    target.merge (.instant ms) =
      if target.isMapping then .ofFields (target.entries?.getD []) else .instant ms := by
  rw [merge, mergeOver.eq_2 _ _ (by simp), isMapping]
  cases target.entries? <;> rfl

theorem kind_merge_binary (target : Value) (bytes : List UInt8) :
    (target.merge (.binary bytes)).kind = "object" := by
  rw [merge, mergeOver.eq_2 _ _ (by simp)]
  cases target.entries? <;> rfl

theorem kind_merge_mapping (target : Value) (own inherited : Fields) :
    (target.merge (.mapping own inherited)).kind = "object" := by
  rw [merge, mergeOver]
  cases target.entries? <;> rfl

/-- Only a value that does not count as a mapping, and an instant that replaces one, is left as
something else than a mapping. -/
theorem kind_merge_iff (present : v ≠ .undefined) :
    (target.merge v).kind ∉ ["undefined", "object"] ↔
      v.isMapping = false ∨ (∃ ms, v = .instant ms) ∧ target.isMapping = false := by
  cases v with
  | undefined => exact absurd rfl present
  | mapping => simp [kind_merge_mapping, isMapping, entries?]
  | binary => simp [kind_merge_binary, isMapping, entries?]
  | instant ms =>
      rw [merge_instant]
      cases mapping : target.isMapping
      · simp [kind]
      · simp [ofFields, kind, isMapping, entries?]
  | number n =>
      rw [merge_of_not_mapping (.inr rfl)]
      cases n <;> simp [kind, isMapping, entries?]
  | _ =>
      rw [merge_of_not_mapping (.inr rfl)]
      simp [kind, isMapping, entries?]

end Value

namespace Config
variable {g : Yaml.Graph} {env : Environment} {document settled : Value} {key : String}

theorem not_endlessMerge_of_lookup {fields : List (String × Yaml.Item)}
    (root : g.fields? g.root = some fields) (none : fields.lookup environmentsKey = none) :
    ¬EndlessMerge g env := by
  rintro ⟨g', m, merge, -⟩
  rw [merge?, root, Option.bind_eq_bind, Option.bind_some, none] at merge
  cases merge

/-- A document with neither sections nor overrides comes to the defaults. -/
theorem validate_settings_of_missing {fields : Fields} (own : document.visible = fields)
    (entries : document.entries? = some fields)
    (missing : ∀ key ∈ [environmentsKey, "tagged_limiter", "task_runner", "logging"],
      fields.lookup key = none) (env : Environment) :
    validate (settings document env) = .ok {} := by
  have environments : document.field environmentsKey = .undefined := by
    rw [Value.field, own, missing _ (by simp)]
    rfl
  have override : override? document env = none := by
    rw [override?, environments]
    rfl
  have absent {key : String} (mem : key ∈ ["tagged_limiter", "task_runner", "logging"]) :
      (base document).field key = .undefined := by
    rw [base, entries, Option.getD_some, Value.field_ofFields,
      lookup_filter_key fun name => name != environmentsKey, missing key (List.mem_cons_of_mem _ mem),
      ite_self]
    rfl
  have limiter : (base document).field "tagged_limiter" = .undefined := absent (by simp)
  have runner : (base document).field "task_runner" = .undefined := absent (by simp)
  have logging : (base document).field "logging" = .undefined := absent (by simp)
  rw [settings, override]
  refine validate_eq_ok.2 ⟨rfl, ?_⟩
  exact {
    limiterSection := .inl limiter
    runnerSection := .inl runner
    loggingSection := .inl logging
    maxConcurrentPerTag := .inl ⟨by rw [limiter]; rfl, rfl⟩
    concurrency := .inl ⟨by rw [runner]; rfl, rfl⟩
    terminationTimeoutMs := .inl ⟨by rw [runner]; rfl, rfl⟩
    level := .inl ⟨by rw [logging]; rfl, rfl⟩
    name := .inl ⟨by rw [logging]; rfl, rfl⟩ }

theorem lookup_bytes {α : Type} (f : UInt8 → α) (bytes : List UInt8) :
    ∀ key ∈ [environmentsKey, "tagged_limiter", "task_runner", "logging"],
      (bytes.zipIdx.map fun (byte, i) => (toString i, f byte)).lookup key = none := by
  intro key mem
  simp only [List.mem_cons, List.not_mem_nil, or_false] at mem
  obtain rfl | rfl | rfl | rfl := mem
  · exact lookup_numbered f (c := 'e') (by decide) (by decide) bytes
  · exact lookup_numbered f (c := 't') (by decide) (by decide) bytes
  · exact lookup_numbered f (c := 't') (by decide) (by decide) bytes
  · exact lookup_numbered f (c := 'l') (by decide) (by decide) bytes

/-- What stands under a key of a document when an entry of an override comes in, after others. -/
def standing (document : Value) (earlier : Fields) (key : String) : Value :=
  (Value.mergeFields earlier ⟨(base document).visible, []⟩).held key

/-- Only what counts as a mapping has overrides. -/
theorem isMapping_of_override {override : Value} (taken : override? document env = some override) :
    document.isMapping = true := by
  by_contra scalar
  have none : document.field environmentsKey = .undefined := by
    cases document with
    | mapping | instant | binary => exact absurd rfl scalar
    | _ => rfl
  rw [override?, none] at taken
  cases taken

theorem field_settings {before after inherited : Fields} {v : Value}
    (taken : override? document env = some (.mapping (before ++ (key, v) :: after) inherited))
    (ancestorless : key ≠ Value.ancestorKey) (present : v ≠ .undefined)
    (last : key ∉ after.map Prod.fst) :
    (settings document env).field key = (standing document before key).merge v := by
  rw [settings, taken]
  have own : (base document).entries? = some (base document).visible := by
    simp [base, Value.ofFields, Value.entries?, Value.visible]
  exact Value.field_merge_entry own ancestorless present last

namespace World
variable {w : World} {source : Source} {argument : Option String}

theorem load_of_not_mapping {bytes : List UInt8} {parsed : Option Yaml.Graph}
    (read : w.read source = .ok bytes) (parse : Yaml.parse (Text.Utf8.decode bytes) = .ok parsed)
    (none : ((parsed.map Yaml.Graph.document).getD .undefined).isMapping = false) :
    w.load source argument = .error (.notMapping (w.pathOf source)) := by
  rw [World.load, read, ofContents, ofText, parse]
  cases parsed with
  | none => rfl
  | some g =>
      have scalar : (documentOf g).isMapping = false := by
        rw [Yaml.Graph.documentOf_eq, Value.isMapping_cut]
        exact none
      simp [ofDocument, scalar]

/-- Documents that count as mappings without being any. -/
theorem load_of_pseudo_mapping {g : Yaml.Graph} (reads : w.Reads source g)
    (root : (∃ ms, g.document = .instant ms) ∨ ∃ bytes, g.document = .binary bytes) :
    w.load source argument = .ok {} := by
  obtain ⟨fields, entries, own, missing, ends⟩ : ∃ fields, g.document.entries? = some fields ∧
      g.document.visible = fields ∧
      (∀ key ∈ [environmentsKey, "tagged_limiter", "task_runner", "logging"],
        fields.lookup key = none) ∧ ∀ env, ¬EndlessMerge g env := by
    have whole : g.document = g.unrolled (g.cells.size + 6) g.root := rfl
    cases item : g.root with
    | instant ms =>
        have fields : g.fields? g.root = some [] := by rw [item, Yaml.Graph.fields?]
        rw [whole, item]
        exact ⟨[], rfl, rfl, fun _ _ => rfl, fun env => not_endlessMerge_of_lookup fields rfl⟩
    | binary bytes =>
        have fields : g.fields? g.root =
            some (bytes.zipIdx.map fun (byte, i) => (toString i, .number (.ofInt byte.toNat))) := by
          rw [item, Yaml.Graph.fields?]
        have none := lookup_bytes (fun byte => Yaml.Item.number (.ofInt byte.toNat)) bytes
          environmentsKey (by simp)
        rw [whole, item]
        exact ⟨_, rfl, rfl, lookup_bytes (fun byte => Value.number (.ofInt byte.toNat)) bytes,
          fun env => not_endlessMerge_of_lookup fields none⟩
    | cell i =>
        rw [whole, item, Yaml.Graph.unrolled] at root
        split at root <;> simp [Value.ofFields] at root
    | _ =>
        rw [whole, item] at root
        simp [Yaml.Graph.unrolled] at root
  have mapping : g.document.isMapping = true := by rw [Value.isMapping, entries, Option.isSome_some]
  rw [load_of_reads reads mapping (not_mergesEndlessly_of_reads reads (ends _)),
    validate_settings_of_missing own entries missing]
  rfl

/-- An issue of a section is reported just if the section is no mapping in the settings. -/
theorem load_refuses_section_iff {settings : Value} {key : String}
    (named : key ∈ ["tagged_limiter", "task_runner", "logging"])
    (checked : w.load source argument = (validate settings).mapError .invalid) :
    (∃ message found, w.load source argument =
        .error (.invalid (.configuration message found none)) ∧ ∃ i ∈ found, i.path = key) ↔
      (settings.field key).kind ∉ ["undefined", "object"] := by
  rw [← section_issue_iff named, checked]
  constructor
  · rintro ⟨message, found, failed, i, mem, path⟩
    cases outcome : validate settings with
    | ok c =>
        rw [outcome] at failed
        cases failed
    | error e =>
        obtain ⟨-, rfl⟩ := validate_eq_error outcome
        rw [outcome] at failed
        cases failed
        exact ⟨i, mem, path⟩
  · rintro ⟨i, mem, path⟩
    obtain ⟨e, failed⟩ := exists_error_iff.2 (List.ne_nil_of_mem mem)
    obtain ⟨-, rfl⟩ := validate_eq_error failed
    exact ⟨_, _, by rw [failed]; rfl, i, mem, path⟩

/-- What an entry in place of a section comes to, if no other entry of its name comes after it. -/
theorem load_refuses_override_iff {g : Yaml.Graph} {before after inherited : Fields} {key : String}
    {v : Value} (reads : w.Reads source g)
    (taken : override? g.document (w.environment argument) =
      some (.mapping (before ++ (key, v) :: after) inherited))
    (named : key ∈ ["tagged_limiter", "task_runner", "logging"]) (last : key ∉ after.map Prod.fst)
    (present : v ≠ .undefined) (ends : ¬w.MergesEndlessly source argument) :
    (∃ message found, w.load source argument =
        .error (.invalid (.configuration message found none)) ∧ ∃ i ∈ found, i.path = key) ↔
      v.isMapping = false ∨
        (∃ ms, v = .instant ms) ∧ (standing g.document before key).isMapping = false := by
  have ancestorless : key ≠ Value.ancestorKey := by
    rintro rfl
    exact absurd named (by decide)
  rw [load_refuses_section_iff named (load_of_reads reads (isMapping_of_override taken) ends),
    field_settings taken ancestorless present last, Value.kind_merge_iff present]

/-- A document that is no mapping is refused, unless it is an instant or a byte string: these come to
the defaults. An entry of an override in place of a section, after which none of its name comes, is
refused if it is no mapping, again with two exceptions: byte strings, and instants that replace what
counts as a mapping. -/
theorem only_mappings_are_configuration {bytes : List UInt8} {parsed : Option Yaml.Graph}
    (read : w.read source = .ok bytes) (parse : Yaml.parse (Text.Utf8.decode bytes) = .ok parsed) :
    let document := (parsed.map Yaml.Graph.document).getD .undefined
    (document.isMapping = false →
      (w.load source argument).mapError LoadError.fault = .error (.configuration
        ("Failed to load configuration: " ++ w.pathOf source ++ " is not a YAML mapping") [] none)) ∧
    ((∃ ms, document = .instant ms) ∨ (∃ bytes, document = .binary bytes) →
      w.load source argument = .ok {}) ∧
    ∀ before key v after inherited,
      override? document (w.environment argument) =
        some (.mapping (before ++ (key, v) :: after) inherited) →
      key ∈ ["tagged_limiter", "task_runner", "logging"] → key ∉ after.map Prod.fst →
      v ≠ .undefined →
        (v.isMapping = false → ∃ e, w.load source argument = .error e) ∧
        (¬w.MergesEndlessly source argument →
          ((∃ message found, w.load source argument =
              .error (.invalid (.configuration message found none)) ∧ ∃ i ∈ found, i.path = key) ↔
            v.isMapping = false ∨
              (∃ ms, v = .instant ms) ∧ (standing document before key).isMapping = false)) := by
  intro document
  refine ⟨fun scalar => ?_, fun pseudo => ?_,
    fun before key v after inherited taken named last present => ?_⟩
  · rw [load_of_not_mapping read parse scalar]
    rfl
  · cases parsed with
    | none => simp [document] at pseudo
    | some g => exact load_of_pseudo_mapping ⟨bytes, read, parse⟩ pseudo
  · cases parsed with
    | none => cases taken
    | some g =>
        have refuses (ends : ¬w.MergesEndlessly source argument) :=
          load_refuses_override_iff ⟨bytes, read, parse⟩ taken named last present ends
        refine ⟨fun scalar => ?_, refuses⟩
        by_cases ends : w.MergesEndlessly source argument
        · exact ⟨_, load_of_mergesEndlessly ends⟩
        · obtain ⟨message, found, failed, -⟩ := (refuses ends).2 (.inl scalar)
          exact ⟨_, failed⟩

/-- A document that is a text. -/
def scalarText : String := "logging\n"

def scalarGraph : Yaml.Graph where
  cells := #[.list [], .mapping []]
  root := .text "logging"

/-- A document that is a date. -/
def dateText : String := "2024-01-01\n"

def dateGraph : Yaml.Graph where
  cells := #[.list [], .mapping []]
  root := .instant 1704067200000

/-- A document that is a byte string. -/
def binaryText : String := "!!binary AQ==\n"

def binaryGraph : Yaml.Graph where
  cells := #[]
  root := .binary [1]

/-- A document with sections, and what its `test` environment makes of them. -/
def overridingText (sections override : String) : String :=
  sections ++ "environments: \x7btest: \x7b" ++ override ++ "\x7d\x7d\n"

/-- Null in place of a section. -/
def nullText : String := overridingText "" "logging: null"

def nullGraph : Yaml.Graph where
  cells := #[
    .list [], .mapping [("environments", .cell 2)], .mapping [("test", .cell 3)],
    .mapping [("logging", .null)]]
  root := .cell 1

/-- A date in place of a section that the document has. -/
def datedText : String := overridingText "logging: \x7b\x7d\n" "logging: 2024-01-01"

def datedGraph : Yaml.Graph where
  cells := #[
    .list [], .mapping [("logging", .cell 2), ("environments", .cell 3)], .mapping [],
    .mapping [("test", .cell 4)], .mapping [("logging", .instant 1704067200000)]]
  root := .cell 1

/-- A byte string, and a date in place of a section that the document does not have. -/
def bytesText : String := overridingText "" "logging: !!binary AQ==, task_runner: 2024-01-01"

def bytesGraph : Yaml.Graph where
  cells := #[
    .list [], .mapping [("environments", .cell 2)], .mapping [("test", .cell 3)],
    .mapping [("logging", .binary [1]), ("task_runner", .instant 1704067200000)]]
  root := .cell 1

/-- A document is refused for a section, in the `test` environment. -/
def RefusedFor (text key : String) : Prop :=
  ∃ message found, (ofPackaged text).load .packaged (some "test") =
    .error (.invalid (.configuration message found none)) ∧ ∃ i ∈ found, i.path = key

theorem kinds_of_documents_and_sections :
    ((ofPackaged scalarText).load .packaged none).mapError LoadError.fault =
      .error (.configuration ("Failed to load configuration: " ++
        (ofPackaged scalarText).pathOf .packaged ++ " is not a YAML mapping") [] none) ∧
    (ofPackaged dateText).load .packaged none = .ok {} ∧
    (ofPackaged binaryText).load .packaged none = .ok {} ∧
    (∃ e, (ofPackaged nullText).load .packaged (some "test") = .error e) ∧
    RefusedFor nullText "logging" ∧ ¬RefusedFor datedText "logging" ∧
    ¬RefusedFor bytesText "logging" ∧ RefusedFor bytesText "task_runner" := by
  have scalar : (ofPackaged scalarText).Reads .packaged scalarGraph :=
    reads_packaged (by decide +kernel)
  have date : (ofPackaged dateText).Reads .packaged dateGraph := reads_packaged (by decide +kernel)
  have binary : (ofPackaged binaryText).Reads .packaged binaryGraph :=
    reads_packaged (by decide +kernel)
  have nulled : (ofPackaged nullText).Reads .packaged nullGraph := reads_packaged (by decide +kernel)
  have dated : (ofPackaged datedText).Reads .packaged datedGraph :=
    reads_packaged (by decide +kernel)
  have bytes : (ofPackaged bytesText).Reads .packaged bytesGraph :=
    reads_packaged (by decide +kernel)
  have nulledEnds : ¬(ofPackaged nullText).MergesEndlessly .packaged (some "test") :=
    not_mergesEndlessly_of_finite nulled (by decide +kernel)
  have datedEnds : ¬(ofPackaged datedText).MergesEndlessly .packaged (some "test") :=
    not_mergesEndlessly_of_finite dated (by decide +kernel)
  have bytesEnds : ¬(ofPackaged bytesText).MergesEndlessly .packaged (some "test") :=
    not_mergesEndlessly_of_finite bytes (by decide +kernel)
  obtain ⟨_, readScalar, parseScalar⟩ := scalar
  obtain ⟨_, readDate, parseDate⟩ := date
  obtain ⟨_, readBinary, parseBinary⟩ := binary
  obtain ⟨_, readNulled, parseNulled⟩ := nulled
  obtain ⟨_, readDated, parseDated⟩ := dated
  obtain ⟨_, readBytes, parseBytes⟩ := bytes
  let instant : Value := .instant 1704067200000
  -- The entries that the environment makes: what is refused of each, and for what reason.
  have null := (@only_mappings_are_configuration _ _ (some "test") _ _ readNulled parseNulled).2.2
    [] "logging" .null [] [] rfl (by simp) (by simp) (by simp)
  have date := (@only_mappings_are_configuration _ _ (some "test") _ _ readDated parseDated).2.2
    [] "logging" instant [] [] rfl (by simp) (by simp) (by simp [instant])
  have entries := (@only_mappings_are_configuration _ _ (some "test") _ _ readBytes parseBytes).2.2
  have binary := entries [] "logging" (.binary [1]) [("task_runner", instant)] [] rfl
    (by simp) (by simp) (by simp)
  have runner := entries [("logging", .binary [1])] "task_runner" instant [] [] rfl
    (by simp) (by simp) (by simp [instant])
  refine ⟨?_, ?_, ?_, null.1 rfl, ?_, ?_, ?_, ?_⟩
  · exact (only_mappings_are_configuration readScalar parseScalar).1 rfl
  · exact (only_mappings_are_configuration readDate parseDate).2.1 (.inl ⟨_, rfl⟩)
  · exact (only_mappings_are_configuration readBinary parseBinary).2.1 (.inr ⟨_, rfl⟩)
  · exact (null.2 nulledEnds).2 (.inl rfl)
  · intro refused
    obtain scalar | ⟨-, nothing⟩ := (date.2 datedEnds).1 refused
    · cases scalar
    · cases nothing
  · intro refused
    obtain scalar | ⟨⟨ms, here⟩, -⟩ := (binary.2 bytesEnds).1 refused
    · cases scalar
    · cases here
  · exact (runner.2 bytesEnds).2 (.inr ⟨⟨_, rfl⟩, rfl⟩)

theorem not_always_refused :
    ¬∀ (w : World) (source : Source) (argument : Option String) (bytes : List UInt8)
      (parsed : Option Yaml.Graph), w.read source = .ok bytes →
      Yaml.parse (Text.Utf8.decode bytes) = .ok parsed →
      (∀ own inherited, (parsed.map Yaml.Graph.document).getD .undefined ≠ .mapping own inherited) →
        ∃ e, w.load source argument = .error e := by
  intro always
  have reads : (ofPackaged dateText).Reads .packaged dateGraph := reads_packaged (by decide +kernel)
  obtain ⟨bytes, read, parse⟩ := reads
  have root : dateGraph.document = .instant 1704067200000 := rfl
  obtain ⟨e, failed⟩ := always _ _ none bytes _ read parse (by simp [root])
  have loaded : (ofPackaged dateText).load .packaged none = .ok {} :=
    load_of_pseudo_mapping ⟨bytes, read, parse⟩ (.inl ⟨_, root⟩)
  cases loaded.symm.trans failed

end World
end Config
end Turnstile
