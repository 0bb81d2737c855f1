import Mathlib
import Turnstile.Config.Cache
import Turnstile.Proofs.Checks
import Turnstile.Proofs.Trees

/-!
Where each setting of a loaded configuration comes from: the override of the environment, else the
document itself, else the defaults. Said of documents that are trees, whose sections are resolved one
by one and field by field.
-/
namespace Turnstile

namespace Fields

/-- The fields of two mappings; of a field that both have, that of the second one. -/
def union (old new : Fields) : Fields :=
  new ++ old.filter fun field => (new.lookup field.1).isNone

theorem lookup_union (old new : Fields) (key : String) :
    (old.union new).lookup key = (new.lookup key).or (old.lookup key) := by
  rw [union, List.lookup_append, lookup_filter_key fun name => (new.lookup name).isNone]
  cases new.lookup key <;> rfl

/-- Under each key of plain fields there is a value. -/
theorem Plain.lookup_eq_none {fields : Fields} (plain : fields.Plain) {key : String} :
    fields.lookup key = none ↔ (Value.ofFields fields).field key = .undefined := by
  rw [Value.field_ofFields]
  cases found : fields.lookup key with
  | none => simp
  | some value => simpa using plain.defined _ (mem_of_lookup found)

end Fields

namespace Config

/-- A section that the base and the override of a document have. -/
def resolvedSection (base override : Value) : Value :=
  match override, base with
  | .undefined, base => base
  | .mapping new _, .mapping old _ => .ofFields (Fields.union old new)
  | override, _ => override

/-- The override of an environment, which only counts among mappings. -/
def overrideOf (document : Value) (name : String) : Value :=
  let environments := document.field "environments"
  if environments.isMapping ∧ (environments.field name).isMapping then environments.field name
  else .undefined

/-- The sections that a document has in an environment. -/
def resolved (document : Value) (name : String) : Value :=
  .ofFields (sectionFields.map fun s =>
    (s.1, resolvedSection (document.field s.1) ((overrideOf document name).field s.1)))

/-- The environment is production or test if the argument says so or, without an argument, the
surroundings do, and development otherwise. -/
def environmentName (argument ambient : Option String) : String :=
  ((argument <|> ambient).filter fun name => name = "production" ∨ name = "test").getD "development"

theorem environmentName_eq (argument ambient : Option String) :
    environmentName argument ambient = (Environment.resolve argument ambient).name := by
  have same : (argument <|> ambient) = argument.orElse fun _ => ambient := rfl
  rw [environmentName, Environment.resolve, same]
  cases argument.orElse fun _ => ambient with
  | none => rfl
  | some name =>
      by_cases production : name = "production"
      · subst production
        rfl
      by_cases test : name = "test"
      · subst test
        rfl
      simp [Option.filter, production, test, Environment.name]

theorem lookup_each {names : List String} {part : Yaml.Outline} {key : String}
    (mem : key ∈ names) : (Yaml.Outline.each names part).names.lookup key = some part := by
  induction names with
  | nil => cases mem
  | cons name rest ih =>
      show ((name, part) :: (Yaml.Outline.each rest part).names).lookup key = some part
      rw [lookup_cons_eq]
      split_ifs with here
      · rfl
      · exact ih ((List.mem_cons.1 mem).resolve_left here)

theorem mem_names (env : Environment) : env.name ∈ Environment.all.map Environment.name := by
  cases env <;> decide

theorem lookup_environments :
    outline.names.lookup environmentsKey =
      some (.each (Environment.all.map Environment.name) sections) := rfl

variable {s : String × List String}

theorem cases_of_mem (mem : s ∈ sectionFields) :
    s = ("tagged_limiter", ["max_concurrent_per_tag"]) ∨
      s = ("task_runner", ["concurrency", "termination_timeout_ms"]) ∨
      s = ("logging", ["level", "name"]) := by
  simpa [sectionFields] using mem

theorem lookup_sections (mem : s ∈ sectionFields) :
    sections.names.lookup s.1 = some (.each s.2 .leaf) := by
  obtain rfl | rfl | rfl := cases_of_mem mem <;> rfl

theorem lookup_outline (mem : s ∈ sectionFields) :
    outline.names.lookup s.1 = some (.each s.2 .leaf) := by
  obtain rfl | rfl | rfl := cases_of_mem mem <;> rfl

theorem field_resolved (mem : s ∈ sectionFields) (document : Value) (name : String) :
    (resolved document name).field s.1 =
      resolvedSection (document.field s.1) ((overrideOf document name).field s.1) := by
  obtain rfl | rfl | rfl := cases_of_mem mem <;> rfl

theorem section_ne (mem : s ∈ sectionFields) :
    s.1 ≠ Value.ancestorKey ∧ s.1 ≠ environmentsKey ∧ ∀ key ∈ s.2, key ≠ Value.ancestorKey := by
  obtain rfl | rfl | rfl := cases_of_mem mem <;> decide

variable {g : Yaml.Graph} {fuel : Nat} {keys : List String} {base base' override override' : Value}
  {document seen : Value}

theorem sameSection_of_seen (own : ∀ key ∈ keys, key ≠ Value.ancestorKey)
    (view : g.Seen (fuel + 1) (.each keys .leaf) base base') : SameSection keys base' base where
  shape := view.shape
  field key mem := (view.field (lookup_each mem) (own key mem)).shape

/-- Merging what is seen of two sections comes to what is seen of the resolved one. -/
theorem sameSection_merge {fuel' : Nat} (own : ∀ key ∈ keys, key ≠ Value.ancestorKey)
    (below : g.Seen (fuel + 1) (.each keys .leaf) base base')
    (above : g.Seen (fuel' + 1) (.each keys .leaf) override override')
    (present : override ≠ .undefined) :
    SameSection keys (base'.merge override') (resolvedSection base override) := by
  by_cases mappings : base.isMapping = true ∧ override.isMapping = true
  · obtain ⟨old, old', ⟨rfl, -⟩, rfl, -⟩ := below.mapping mappings.1
    obtain ⟨new, new', ⟨rfl, plain⟩, rfl, plain'⟩ := above.mapping mappings.2
    obtain ⟨merged, here, -⟩ := Value.merge_ofFields plain' old'
    refine ⟨by rw [here]; rfl, fun key mem => ?_⟩
    have lower := below.field (lookup_each mem) (own key mem)
    have upper := above.field (lookup_each mem) (own key mem)
    show _ = ((Value.ofFields (old.union new)).field key).shape
    rw [Value.field_merge plain', Value.field_ofFields (old.union new), Fields.lookup_union]
    cases found : new.lookup key with
    | none =>
        have missing := upper.undefined_iff.2 (plain.lookup_eq_none.1 found)
        rw [plain'.lookup_eq_none.2 missing, lower.shape, Value.field_ofFields]
        rfl
    | some value =>
        have here : (Value.ofFields new).field key = value := by
          rw [Value.field_ofFields, found, Option.getD_some]
        have present : value ≠ .undefined := plain.defined _ (mem_of_lookup found)
        cases found' : new'.lookup key with
        | none =>
            have missing := upper.undefined_iff.1 (plain'.lookup_eq_none.1 found')
            exact absurd (here.symm.trans missing) present
        | some value' =>
            rw [Value.field_ofFields new', found', Option.getD_some, here] at upper
            exact upper.shape_merge present _
  · have scalar : base'.isMapping = false ∨ override'.isMapping = false := by
      rw [below.isMapping, above.isMapping]
      exact (not_and_or.1 mappings).imp Bool.eq_false_iff.2 Bool.eq_false_iff.2
    have whole : resolvedSection base override = override := by
      unfold resolvedSection
      split
      · exact absurd rfl present
      · exact absurd ⟨rfl, rfl⟩ mappings
      · rfl
    rw [Value.merge_of_not_mapping scalar, whole]
    exact sameSection_of_seen own above

theorem base_ofFields (fields : Fields) :
    Config.base (.ofFields fields) =
      .ofFields (fields.filter fun field => field.1 != environmentsKey) := rfl

theorem field_base (fields : Fields) {key : String} (other : key ≠ environmentsKey) :
    (Config.base (.ofFields fields)).field key = (Value.ofFields fields).field key := by
  rw [base_ofFields, Value.field_ofFields, Value.field_ofFields,
    lookup_filter_key fun name => name != environmentsKey, if_pos (bne_iff_ne.2 other)]

/-- A section after an override has been merged into a document. -/
theorem sameSection_field_merge {fuel' : Nat} {old : Fields} (mem : s ∈ sectionFields)
    (below : g.Seen (fuel + 1) (.each s.2 .leaf) base ((Value.ofFields old).field s.1))
    (above : g.Seen (fuel' + 2) sections override override')
    (mapping : override.isMapping = true) :
    SameSection s.2 (((Value.ofFields old).merge override').field s.1)
      (resolvedSection base (override.field s.1)) := by
  obtain ⟨-, names, keys⟩ := section_ne mem
  have upper := above.field (lookup_sections mem) (section_ne mem).1
  obtain ⟨-, new', -, rfl, plain'⟩ := above.mapping mapping
  rw [Value.field_merge plain']
  cases found : new'.lookup s.1 with
  | none =>
      have missing := upper.undefined_iff.1 (plain'.lookup_eq_none.1 found)
      rw [missing]
      exact sameSection_of_seen keys below
  | some value =>
      have here : (Value.ofFields new').field s.1 = value := by
        rw [Value.field_ofFields, found, Option.getD_some]
      have present : override.field s.1 ≠ .undefined := fun missing =>
        plain'.defined _ (mem_of_lookup found) (here.symm.trans (upper.undefined_iff.2 missing))
      rw [here] at upper
      exact sameSection_merge keys below upper present

/-- Of the settings of a document the same is seen as of the sections that it has. -/
theorem sameSection_settings (view : g.Seen (fuel + 4) outline document seen)
    (mapping : document.isMapping = true) (env : Environment) :
    ∃ own, settings seen env = .ofFields own ∧
      ∀ s ∈ sectionFields,
        SameSection s.2 ((Value.ofFields own).field s.1)
          ((resolved document env.name).field s.1) := by
  have environments := view.field lookup_environments (by decide)
  have entry := environments.field (lookup_each (mem_names env)) (by cases env <;> decide)
  obtain ⟨-, own, -, rfl, -⟩ := view.mapping mapping
  have below (s : String × List String) (mem : s ∈ sectionFields) :
      g.Seen (fuel + 3) (.each s.2 .leaf) (document.field s.1)
        ((Config.base (.ofFields own)).field s.1) := by
    rw [field_base own (section_ne mem).2.1]
    exact view.field (lookup_outline mem) (section_ne mem).1
  by_cases taken : (document.field environmentsKey).isMapping = true ∧
      ((document.field environmentsKey).field env.name).isMapping = true
  · have whole : overrideOf document env.name =
        (document.field environmentsKey).field env.name := if_pos taken
    have merged : settings (.ofFields own) env = (Config.base (.ofFields own)).merge
        (((Value.ofFields own).field environmentsKey).field env.name) := by
      simp [settings, override?, environments.isMapping.trans taken.1,
        entry.isMapping.trans taken.2]
    obtain ⟨-, new', -, here, plain'⟩ := entry.mapping taken.2
    obtain ⟨all, same, -⟩ := Value.merge_ofFields plain'
      (own.filter fun field => field.1 != environmentsKey)
    refine ⟨all, by rw [merged, here, base_ofFields, same], fun s mem => ?_⟩
    rw [field_resolved mem, whole, ← same, ← here]
    exact sameSection_field_merge mem (below s mem) entry taken.2
  · have whole : overrideOf document env.name = .undefined := if_neg taken
    have none : override? (.ofFields own) env = none := by
      rw [← environments.isMapping, ← entry.isMapping] at taken
      rw [override?]
      by_cases mappings : ((Value.ofFields own).field environmentsKey).isMapping = true
      · rw [if_pos mappings]
        exact if_neg fun both => taken ⟨mappings, both⟩
      · rw [if_neg mappings]
    refine ⟨own.filter fun field => field.1 != environmentsKey, ?_, fun s mem => ?_⟩
    · rw [settings, none, base_ofFields]
    · rw [field_resolved mem, whole, ← base_ofFields]
      exact sameSection_of_seen (section_ne mem).2.2 (below s mem)

theorem validate_congr {own own' : Fields}
    (same : ∀ s ∈ sectionFields,
      SameSection s.2 ((Value.ofFields own).field s.1) ((Value.ofFields own').field s.1)) :
    validate (.ofFields own) = validate (.ofFields own') := by
  have checks : check (.ofFields own) = check (.ofFields own') := check_congr same
  rw [validate, checks, validate]

/-- No merge into a tree is endless, as the override that comes in is a tree. -/
theorem not_endlessMerge_of_spells (spelled : g.Spells g.root document) (env : Environment) :
    ¬EndlessMerge g env := by
  rintro ⟨g', m, merge, endless⟩
  obtain ⟨fields, root, merge⟩ := Option.bind_eq_some_iff.1 merge
  obtain ⟨environments, held, merge⟩ := Option.bind_eq_some_iff.1 merge
  obtain ⟨override, found, merge⟩ := Option.bind_eq_some_iff.1 merge
  obtain ⟨item, here, own⟩ := Option.bind_eq_some_iff.1 held
  obtain ⟨_, inner⟩ := spelled.inside root here
  obtain ⟨_, source⟩ := inner.inside own found
  cases merge
  refine Merge.not_endless_of_acc_source (source.acc fun i cell here => ?_) endless
  obtain ⟨bound, rfl⟩ := Array.getElem?_eq_some_iff.1 here
  exact Array.getElem?_push_lt bound

theorem seen_documentOf (spelled : g.Spells g.root document) :
    g.Seen (g.cells.size + 6) outline document (documentOf g) :=
  .inr ⟨g.root, spelled, rfl⟩

namespace World

/-- A document that is a tree is loaded by the sections that it has in the environment: what they
state is the configuration, and if they break rules the error is the one of checking them. -/
theorem load_resolves (w : World) (source : Source) (argument : Option String) {bytes : List UInt8}
    {g : Yaml.Graph} {document : Value} (read : w.read source = .ok bytes)
    (parsed : Yaml.parse (Text.Utf8.decode bytes) = .ok (some g))
    (spelled : g.Spells g.root document) :
    (w.load source argument =
      if document.isMapping then
        (validate (resolved document (environmentName argument w.ambient))).mapError .invalid
      else .error (.notMapping (w.pathOf source))) ∧
    (document.isMapping = true → ∀ c, w.load source argument = .ok c ↔
      Stated (resolved document (environmentName argument w.ambient)) c) := by
  have view := seen_documentOf spelled
  have load : w.load source argument =
      ofDocument (w.pathOf source) (some g) (w.environment argument) := by
    rw [World.load, read, ofContents, ofText, parsed]
  have ends : mergeEnds g (w.environment argument) = true :=
    mergeEnds_iff.2 (not_endlessMerge_of_spells spelled _)
  have named : environmentName argument w.ambient = (w.environment argument).name :=
    environmentName_eq argument w.ambient
  rw [named]
  have outcome : w.load source argument =
      if document.isMapping then
        (validate (resolved document (w.environment argument).name)).mapError .invalid
      else .error (.notMapping (w.pathOf source)) := by
    rw [load, ofDocument, view.isMapping, ends]
    by_cases mapping : document.isMapping = true
    · obtain ⟨own, settled, same⟩ := sameSection_settings view mapping (w.environment argument)
      have checked : validate (settings (documentOf g) (w.environment argument)) =
          validate (resolved document (w.environment argument).name) := by
        rw [settled]
        exact validate_congr same
      rw [checked, if_pos mapping]
      cases validate (resolved document (w.environment argument).name) <;>
        simp [mapping, Except.mapError]
    · simp [mapping]
  refine ⟨outcome, fun mapping c => ?_⟩
  have stated : validate (resolved document (w.environment argument).name) = .ok c ↔
      Stated (resolved document (w.environment argument).name) c :=
    validate_eq_ok.trans (and_iff_right rfl)
  rw [outcome, if_pos mapping, ← stated]
  cases validate (resolved document (w.environment argument).name) <;> simp [Except.mapError]

/-- A document with a section that is overridden in part. -/
def overriddenText : String :=
  "logging:\n" ++
  "  name: app\n" ++
  "environments:\n" ++
  "  test:\n" ++
  "    logging:\n" ++
  "      level: warn\n"

def overriddenGraph : Yaml.Graph where
  cells := #[
    .list [], .mapping [("logging", .cell 3), ("environments", .cell 5)],
    .list [], .mapping [("name", .text "app")],
    .list [], .mapping [("test", .cell 7)],
    .list [], .mapping [("logging", .cell 9)],
    .list [], .mapping [("level", .text "warn")]]
  root := .cell 1

theorem load_of_overridden_section :
    ({ package := { contents := .ok (Text.Utf8.encode overriddenText) } } : World).load .packaged
        (some "test") = .ok { level := .atLeast .warn, name := "app" } := by
  have parsed : Yaml.parse (Text.Utf8.decode (Text.Utf8.encode overriddenText)) =
      .ok (some overriddenGraph) := eq_ok_of_toOption (by decide +kernel)
  have tree : overriddenGraph.isTree 5 overriddenGraph.root = true := by decide +kernel
  have spelled := Yaml.Graph.spells_of_isTree tree
  refine ((load_resolves _ .packaged (some "test") rfl parsed spelled).2 rfl _).2 ?_
  exact {
    limiterSection := .inl rfl
    runnerSection := .inl rfl
    loggingSection := .inr rfl
    maxConcurrentPerTag := .inl ⟨rfl, rfl⟩
    concurrency := .inl ⟨rfl, rfl⟩
    terminationTimeoutMs := .inl ⟨rfl, rfl⟩
    level := .inr rfl
    name := .inr ⟨rfl, by decide⟩ }

end World
end Config
end Turnstile
