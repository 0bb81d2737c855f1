import Mathlib
import Turnstile.Config.Cache
import Turnstile.Proofs.Merges

/-!
Merges of the mappings of a graph, where a mapping can enclose itself. The search that follows nested
merges finds out whether they have an end: it answers that they do just if there is no endless chain
of them. Loading a configuration goes wrong in no other way than by an error of the configuration, or
by such a chain.
-/
namespace Turnstile

/-- Errors of the configuration. -/
def Fault.IsConfiguration (fault : Fault) : Prop :=
  ∃ message issues cause, fault = .configuration message issues cause

theorem eq_ok_of_toOption {ε α : Type} {result : Except ε α} {a : α}
    (found : result.toOption = some a) : result = .ok a := by
  cases result with
  | error e => cases found
  | ok a' => exact congrArg Except.ok (Option.some.inj found)

namespace Config
variable {g : Yaml.Graph} {m n : Merge}

namespace Merge

/-- A nested merge is of a field of the source that is a mapping, into a mapping that is found under
its key. -/
theorem exists_of_nested (inner : n ∈ m.nested g) :
    ∃ fields key, g.fields? m.source = some fields ∧ (key, n.source) ∈ fields ∧
      Target.found? g (m.target.own? g) fields key = some n.target ∧
      n.target.isMapping g = true ∧ (g.fields? n.source).isSome = true := by
  rw [nested] at inner
  obtain ⟨⟨key, item⟩, mem, found⟩ := List.mem_filterMap.1 inner
  obtain ⟨target, under, here⟩ := Option.bind_eq_some_iff.1 found
  cases own : g.fields? m.source with
  | none =>
      rw [own] at mem
      cases mem
  | some fields =>
      rw [own] at mem under
      split at here
      · rename_i mappings
        cases here
        exact ⟨fields, key, rfl, mem, under, mappings⟩
      · cases here

/-- One merge is made in the course of another one. -/
def Within (g : Yaml.Graph) (n m : Merge) : Prop := n ∈ m.nested g

/-- Merges that are nested in each other without end. -/
def Endless (g : Yaml.Graph) (m : Merge) : Prop :=
  ∃ chain : Nat → Merge, chain 0 = m ∧ ∀ depth, chain (depth + 1) ∈ (chain depth).nested g

theorem endless_iff : m.Endless g ↔ ¬Acc (Within g) m :=
  (not_acc_iff_exists_descending_chain (r := Within g)).symm

theorem allM_eq_true {α : Type} {search : α → Option Bool} {items : List α} :
    items.allM search = some true ↔ ∀ item ∈ items, search item = some true := by
  induction items with
  | nil => simp
  | cons item rest ih =>
      rw [List.allM, List.forall_mem_cons, ← ih]
      cases search item with
      | none => simp
      | some answer => cases answer <;> simp

theorem acc_of_endsWithin {outer : List Merge} (ends : m.endsWithin g outer = some true) :
    Acc (Within g) m := by
  refine endsWithin.partial_correctness g (fun _ m answer => answer = true → Acc (Within g) m)
    ?_ outer m true ends rfl
  intro search ih outer m answer found yes
  subst yes
  split at found
  · cases found
  · exact ⟨m, fun inner nested => ih _ inner true (allM_eq_true.1 found inner nested) rfl⟩

/-- A merge that has an end is none of those that it is nested in. -/
theorem not_mem_of_acc (acc : Acc (Within g) m) {outer : List Merge}
    (way : ∀ n ∈ outer, Relation.TransGen (Within g) m n) : m ∉ outer := by
  intro met
  have loop : ¬Acc (Relation.TransGen (Within g)) m :=
    not_acc_iff_exists_descending_chain.2 ⟨fun _ => m, rfl, fun _ => way m met⟩
  exact loop acc.transGen

theorem endsWithin_of_acc (acc : Acc (Within g) m) {outer : List Merge}
    (way : ∀ n ∈ outer, Relation.TransGen (Within g) m n) : m.endsWithin g outer = some true := by
  induction acc generalizing outer with
  | intro m deeper ih =>
      have new : m ∉ outer := not_mem_of_acc ⟨m, deeper⟩ way
      rw [endsWithin, if_neg (by simpa using new), allM_eq_true]
      intro inner nested
      refine ih inner nested fun n met => ?_
      cases met with
      | head => exact .single nested
      | tail _ met => exact .head nested (way n met)

/-- The search finds out whether the merges nested in one have an end. -/
theorem ends_iff : m.ends g = true ↔ ¬m.Endless g := by
  rw [endless_iff, not_not, ends, beq_iff_eq]
  constructor
  · exact acc_of_endsWithin
  · intro acc
    exact endsWithin_of_acc acc fun n met => by cases met

/-- A mapping holds an item. -/
def Holds (g : Yaml.Graph) (item owner : Yaml.Item) : Prop :=
  ∃ fields key, g.fields? owner = some fields ∧ (key, item) ∈ fields

theorem holds_source_of_nested (inner : n ∈ m.nested g) : Holds g n.source m.source := by
  obtain ⟨fields, key, source, mem, -⟩ := exists_of_nested inner
  exact ⟨fields, key, source, mem⟩

/-- Merges go down the source, so only a source that comes to contain itself can make them endless. -/
theorem not_endless_of_acc_source (acc : Acc (Holds g) m.source) : ¬m.Endless g := by
  rw [endless_iff, not_not]
  have sources : Acc (InvImage (Holds g) Merge.source) m := InvImage.accessible _ acc
  exact Subrelation.accessible (fun inner => holds_source_of_nested inner) sources

end Merge

namespace Target

/-- The item that a mapping names as its ancestor. -/
def ancestor? (g : Yaml.Graph) (item : Yaml.Item) : Option Yaml.Item :=
  (g.fields? item).bind (·.lookup Value.ancestorKey)

/-- There are fewer ancestors of ancestors than so many. -/
def Tops (g : Yaml.Graph) : Nat → Yaml.Item → Prop
  | 0, _ => False
  | n + 1, item => ∀ ancestor, ancestor? g item = some ancestor → Tops g n ancestor

theorem lookup_of_ancestorBefore? {fields : List (String × Yaml.Item)} {key : String}
    {ancestor : Yaml.Item} (before : ancestorBefore? fields key = some ancestor) :
    fields.lookup Value.ancestorKey = some ancestor := by
  rw [ancestorBefore?] at before
  split at before
  · cases before
  · rw [← List.takeWhile_append_dropWhile (p := fun f => f.1 != key) (l := fields),
      List.lookup_append, before]
    rfl

/-- What is inherited is the same for any number of steps with which all ancestors are reached. -/
theorem inherited?_of_tops {n : Nat} {item : Yaml.Item} (tops : Tops g n item) (key : String)
    (more : Nat) : inherited? g key (n + more) item = inherited? g key n item := by
  induction n generalizing item with
  | zero => exact tops.elim
  | succ n ih =>
      rw [Nat.add_right_comm, inherited?, inherited?]
      cases own : g.fields? item with
      | none => rfl
      | some fields =>
          have above {ancestor : Yaml.Item} (up : fields.lookup Value.ancestorKey = some ancestor) :
              inherited? g key (n + more) ancestor = inherited? g key n ancestor :=
            ih (tops ancestor (by rw [ancestor?, own, Option.bind_some, up]))
          simp only [Option.bind_some]
          cases fields.lookup key with
          | none =>
              cases up : fields.lookup Value.ancestorKey with
              | none => rfl
              | some ancestor => exact above up
          | some item =>
              cases before : ancestorBefore? fields key with
              | none => rfl
              | some ancestor =>
                  simp only [Option.bind_some, above (lookup_of_ancestorBefore? before)]

theorem cell_of_ancestor? {item ancestor : Yaml.Item} (up : ancestor? g item = some ancestor) :
    ∃ i < g.cells.size, item = .cell i := by
  obtain ⟨fields, own, named⟩ := Option.bind_eq_some_iff.1 up
  unfold Yaml.Graph.fields? at own
  split at own
  · rename_i i
    split at own
    · rename_i cell
      obtain ⟨inside, -⟩ := Array.getElem?_eq_some_iff.1 cell
      exact ⟨i, inside, rfl⟩
    · cases own
  · cases own
    cases named
  · -- The fields of a byte string are numbered.
    rename_i bytes
    cases own
    have none : List.lookup Value.ancestorKey _ = none :=
      lookup_numbered (fun byte : UInt8 => Yaml.Item.number (.ofInt byte.toNat)) (c := 'p')
        (by decide) (by decide) bytes
    cases named.symm.trans none
  · cases own

end Target

namespace Merge
open Target

theorem within_of_ancestor? {item ancestor : Yaml.Item} (up : ancestor? g item = some ancestor)
    (mapping : (g.fields? ancestor).isSome = true) : Within g ⟨.empty, ancestor⟩ ⟨.empty, item⟩ := by
  obtain ⟨fields, own, named⟩ := Option.bind_eq_some_iff.1 up
  rw [Within, nested, own]
  refine List.mem_filterMap.2 ⟨(Value.ancestorKey, ancestor), mem_of_lookup named, ?_⟩
  simp [Target.found?, Target.own?, Target.isMapping, mapping]

/-- Where the merge of an item has an end, no ancestor of it comes again among its own ancestors, so
there are no more of them than cells; `below` are those that have come. -/
theorem tops_of_acc {n : Nat} {item : Yaml.Item} (acc : Acc (Within g) ⟨.empty, item⟩)
    {below : Finset Nat} (cells : below ⊆ Finset.range g.cells.size)
    (way : ∀ i ∈ below, Relation.TransGen (Within g) ⟨.empty, item⟩ ⟨.empty, .cell i⟩)
    (left : g.cells.size < below.card + n) : Tops g n item := by
  induction n generalizing item below with
  | zero =>
      have := Finset.card_le_card cells
      rw [Finset.card_range] at this
      omega
  | succ n ih =>
      intro ancestor up
      obtain ⟨i, inside, rfl⟩ := cell_of_ancestor? up
      have new : i ∉ below := fun mem =>
        not_mem_of_acc acc (fun m here => List.mem_singleton.1 here ▸ way i mem)
          (List.mem_singleton_self _)
      have cells' : insert i below ⊆ Finset.range g.cells.size :=
        Finset.insert_subset (Finset.mem_range.2 inside) cells
      have room := Finset.card_le_card cells'
      rw [Finset.card_insert_of_notMem new, Finset.card_range] at room
      by_cases mapping : (g.fields? ancestor).isSome = true
      · have within := within_of_ancestor? up mapping
        refine ih (acc.inv within) cells' (fun j mem => ?_) ?_
        · rcases Finset.mem_insert.1 mem with rfl | mem
          · exact .single within
          · exact .head within (way j mem)
        · rw [Finset.card_insert_of_notMem new]
          omega
      · obtain ⟨k, rfl⟩ : ∃ k, n = k + 1 := ⟨n - 1, by omega⟩
        intro _ above
        rw [ancestor?, Option.not_isSome_iff_eq_none.1 mapping] at above
        cases above

/-- The steps that are given to what is inherited are enough: where the merge of an item has an end,
all its ancestors are reached. -/
theorem inherited?_of_acc {item : Yaml.Item} (acc : Acc (Within g) ⟨.empty, item⟩) (key : String)
    (more : Nat) : inherited? g key (g.cells.size + 1 + more) item =
      inherited? g key (g.cells.size + 1) item :=
  inherited?_of_tops (tops_of_acc acc (Finset.empty_subset _) (by simp) (by simp)) key more

end Merge

theorem isMapping_documentOf (mapping : (g.fields? g.root).isSome = true) :
    (documentOf g).isMapping = true := by
  unfold Yaml.Graph.fields? at mapping
  rw [documentOf]
  split at mapping
  · rename_i i root
    split at mapping
    · rename_i cell
      simp only [root, Yaml.Graph.unfold, cell]
      rfl
    · cases mapping
  · rename_i root
    simp [root, Yaml.Graph.unfold, Value.isMapping, Value.entries?]
  · rename_i root
    simp [root, Yaml.Graph.unfold, Value.isMapping, Value.entries?]
  · cases mapping

theorem isConfiguration_of_invalid {label : String} {verdict : Verdict α} {fault : Fault}
    (failed : verdict.orFault label = .error fault) : fault.IsConfiguration := by
  cases verdict with
  | ok a => cases failed
  | error problems =>
      cases failed
      exact ⟨_, _, _, rfl⟩

/-- The override of an environment is merged into the document without end. -/
def EndlessMerge (g : Yaml.Graph) (env : Environment) : Prop :=
  ∃ g' m, merge? g env = some (g', m) ∧ m.Endless g'

theorem mergeEnds_iff {env : Environment} : mergeEnds g env = true ↔ ¬EndlessMerge g env := by
  simp only [mergeEnds, Option.all_eq_true, EndlessMerge, not_exists, not_and, Merge.ends_iff,
    Prod.forall]

theorem isMapping_of_endlessMerge {env : Environment} (endless : EndlessMerge g env) :
    (documentOf g).isMapping = true := by
  obtain ⟨g', m, merge, -⟩ := endless
  obtain ⟨fields, root, -⟩ := Option.bind_eq_some_iff.1 merge
  exact isMapping_documentOf (by rw [root, Option.isSome_some])

theorem ofDocument_of_endlessMerge {path : String} {env : Environment}
    (endless : EndlessMerge g env) : ofDocument path (some g) env = .error .endless := by
  have stuck : mergeEnds g env = false :=
    Bool.eq_false_iff.2 fun ends => mergeEnds_iff.1 ends endless
  simp [ofDocument, isMapping_of_endlessMerge endless, stuck]

theorem isConfiguration_of_ofDocument {path : String} {document : Option Yaml.Graph}
    {env : Environment} {e : LoadError} (failed : ofDocument path document env = .error e)
    (ends : ∀ g, document = some g → ¬EndlessMerge g env) : e.fault.IsConfiguration := by
  unfold ofDocument at failed
  split at failed
  · cases failed
    exact ⟨_, _, _, rfl⟩
  · rename_i g
    have ends : mergeEnds g env = true := mergeEnds_iff.2 (ends g rfl)
    simp only [ends, Bool.not_true, Bool.false_eq_true, if_false] at failed
    split_ifs at failed
    · cases failed
      exact ⟨_, _, _, rfl⟩
    · split at failed
      · cases failed
      · rename_i invalid
        cases failed
        exact isConfiguration_of_invalid invalid

theorem isConfiguration_of_ofContents {path : String}
    {contents : Except Files.ReadError (List UInt8)} {env : Environment} {e : LoadError}
    (failed : ofContents path contents env = .error e)
    (ends : ∀ bytes g, contents = .ok bytes → Yaml.parse (Text.Utf8.decode bytes) = .ok (some g) →
      ¬EndlessMerge g env) : e.fault.IsConfiguration := by
  unfold ofContents at failed
  split at failed
  · cases failed
    exact ⟨_, _, _, rfl⟩
  · cases failed
    exact ⟨_, _, _, rfl⟩
  · rename_i bytes
    rw [ofText] at failed
    split at failed
    · cases failed
      exact ⟨_, _, _, rfl⟩
    · rename_i document parsed
      exact isConfiguration_of_ofDocument failed fun g here => ends bytes g rfl (here ▸ parsed)

theorem not_isConfiguration_endless : ¬LoadError.endless.fault.IsConfiguration := by
  rintro ⟨message, issues, cause, here⟩
  cases here

namespace World

/-- The file holds a document into which the override of the environment is merged without end. -/
def MergesEndlessly (w : World) (source : Source) (argument : Option String) : Prop :=
  ∃ bytes g, w.read source = .ok bytes ∧ Yaml.parse (Text.Utf8.decode bytes) = .ok (some g) ∧
    EndlessMerge g (w.environment argument)

variable {w : World} {source : Source} {argument : Option String}

theorem load_of_mergesEndlessly (endless : w.MergesEndlessly source argument) :
    w.load source argument = .error .endless := by
  obtain ⟨bytes, g, read, parsed, endless⟩ := endless
  rw [load, read, ofContents, ofText, parsed]
  exact ofDocument_of_endlessMerge endless

theorem load_of_not_mergesEndlessly (ends : ¬w.MergesEndlessly source argument) :
    (∃ config, w.load source argument = .ok config) ∨
      ∃ e, w.load source argument = .error e ∧ e.fault.IsConfiguration := by
  cases result : w.load source argument with
  | ok config => exact .inl ⟨config, rfl⟩
  | error e =>
      refine .inr ⟨e, rfl, isConfiguration_of_ofContents result ?_⟩
      intro bytes g read parsed endless
      exact ends ⟨bytes, g, read, parsed, endless⟩

/-- Loading gives a configuration or fails by an error of the configuration, unless the file holds a
document into which the override of the environment is merged without end: that overflows the
stack. -/
theorem load_overflows_iff (w : World) (source : Source) (argument : Option String) :
    (((∃ config, w.load source argument = .ok config) ∨
        ∃ e, w.load source argument = .error e ∧ e.fault.IsConfiguration) ↔
      ¬w.MergesEndlessly source argument) ∧
    ((∃ e, w.load source argument = .error e ∧
        e.fault = .plain "RangeError" "Maximum call stack size exceeded") ↔
      w.MergesEndlessly source argument) := by
  refine ⟨⟨?_, load_of_not_mergesEndlessly⟩, ?_, fun endless => ?_⟩
  · rintro (⟨config, loaded⟩ | ⟨e, failed, invalid⟩) endless
    · cases loaded.symm.trans (load_of_mergesEndlessly endless)
    · cases failed.symm.trans (load_of_mergesEndlessly endless)
      exact not_isConfiguration_endless invalid
  · rintro ⟨e, failed, overflow⟩
    by_contra ends
    obtain ⟨config, loaded⟩ | ⟨e', failed', message, issues, cause, invalid⟩ :=
      load_of_not_mergesEndlessly ends
    · cases loaded.symm.trans failed
    · cases failed'.symm.trans failed
      cases invalid.symm.trans overflow
  · exact ⟨_, load_of_mergesEndlessly endless, rfl⟩

/-- A mapping that contains itself, in the document and in the override of an environment. -/
def circularText : String :=
  "x: &x\n" ++
  "  self: *x\n" ++
  "environments:\n" ++
  "  development:\n" ++
  "    x: *x\n"

def circularGraph : Yaml.Graph where
  cells := #[
    .list [], .mapping [("x", .cell 3), ("environments", .cell 5)],
    .list [], .mapping [("self", .cell 3)],
    .list [], .mapping [("development", .cell 7)],
    .list [], .mapping [("x", .cell 3)]]
  root := .cell 1

theorem endlessMerge_circular : EndlessMerge circularGraph .development := by
  let g := detached circularGraph [("x", .cell 3), ("environments", .cell 5)]
  let whole : Merge := ⟨.part (.cell 8), .cell 7⟩
  -- What stands under `x` is merged into itself, and once more in the course of that.
  let again : Merge := ⟨.part (.cell 3), .cell 3⟩
  have first : again ∈ whole.nested g := by decide +kernel
  have next : again ∈ again.nested g := by decide +kernel
  refine ⟨g, whole, rfl, fun depth => Nat.casesOn depth whole fun _ => again, rfl, fun depth => ?_⟩
  cases depth with
  | zero => exact first
  | succ depth => exact next

theorem components_yaml : Files.components "a.yaml" = ["a.yaml"] := by
  have whole : "a.yaml".splitOn "/" = ["a.yaml"] := by
    rw [String.splitOn, if_neg (by decide)]
    -- No character is the separator.
    iterate 6 rw [String.splitOnAux, if_neg (by decide +kernel), if_neg (by decide +kernel)]
    rw [String.splitOnAux, if_pos (by decide +kernel)]
    decide +kernel
  rw [Files.components, whole]
  decide +kernel

theorem read_yaml (bytes : List UInt8) :
    (({} : Files).write "a.yaml" bytes).read "a.yaml" = .ok bytes := by
  have location : Files.location "a.yaml" = ["a.yaml"] := by
    rw [Files.location, components_yaml]
    decide +kernel
  have size : Files.bytesIn "a.yaml" = 6 := by decide +kernel
  simp [Files.read, Files.entryAt, Files.walk, Files.entry?, Files.write, location,
    components_yaml, size, Files.maxPath, Files.maxName]

theorem not_always_fails_by_configuration :
    ¬∀ (w : World) (source : Source) (argument : Option String) (e : LoadError),
      w.load source argument = .error e → e.fault.IsConfiguration := by
  intro always
  let w : World := { files := ({} : Files).write "a.yaml" (Text.Utf8.encode circularText) }
  have parsed : (Yaml.parse (Text.Utf8.decode (Text.Utf8.encode circularText))).toOption =
      some (some circularGraph) := by decide +kernel
  have endless : w.MergesEndlessly (.file "a.yaml") none :=
    ⟨_, circularGraph, read_yaml _, eq_ok_of_toOption parsed, endlessMerge_circular⟩
  exact not_isConfiguration_endless (always w _ _ _ (load_of_mergesEndlessly endless))

end World
end Config
end Turnstile
