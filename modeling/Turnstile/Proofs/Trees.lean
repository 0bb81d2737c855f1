import Mathlib
import Turnstile.Proofs.Merges
import Turnstile.Proofs.Nesting

/-!
Graphs that are trees: documents of plain values and of lists and mappings of such. A part of a tree
that stands in several places may be shared. What is unfolded of a tree along an outline has the
fields that the outline names, and no mapping of a tree contains itself.
-/
namespace Turnstile

theorem lookup_map_values {α β : Type} (f : α → β) (fields : List (String × α)) (key : String) :
    (fields.map fun field => (field.1, f field.2)).lookup key = (fields.lookup key).map f := by
  induction fields with
  | nil => rfl
  | cons field rest ih =>
      obtain ⟨name, a⟩ := field
      rw [List.map_cons, lookup_cons_eq, lookup_cons_eq, ih]
      split_ifs <;> rfl

theorem lookup_filterMap_keys {α β γ : Type} (part : String → Option γ) (f : γ → α → β)
    (fields : List (String × α)) (key : String) :
    (fields.filterMap fun field => (part field.1).map fun p => (field.1, f p field.2)).lookup key =
      (part key).bind fun p => (fields.lookup key).map (f p) := by
  induction fields with
  | nil => simp
  | cons field rest ih =>
      obtain ⟨name, a⟩ := field
      rw [lookup_cons_eq]
      by_cases here : key = name
      · subst here
        cases found : part key with
        | none => simp [ih, found]
        | some p => simp [found]
      · rw [if_neg here, ← ih]
        cases found : part name with
        | none => simp [found]
        | some p => simp [found, lookup_cons_eq, here]

theorem keys_filterMap_sublist {α β γ : Type} (part : String → Option γ) (f : γ → α → β)
    (fields : List (String × α)) :
    ((fields.filterMap fun field => (part field.1).map fun p => (field.1, f p field.2)).map
      Prod.fst).Sublist (fields.map Prod.fst) := by
  induction fields with
  | nil => exact .slnil
  | cons field rest ih =>
      cases found : part field.1 with
      | none => simpa [found] using ih.cons field.1
      | some p => simpa [found] using ih.cons_cons field.1

namespace Yaml.Graph
variable {g h : Graph} {item : Item} {value seen : Value} {fuel : Nat} {outline part : Outline}
  {key : String}

/-- An item stands for a tree: a plain value, or a list or a mapping of trees, which `read` tells. -/
inductive Spells (g : Graph) : Item → Value → Prop where
  | null : Spells g .null .null
  | boolean (b : Bool) : Spells g (.boolean b) (.boolean b)
  | number (n : Number) : Spells g (.number n) (.number n)
  | text (s : String) : Spells g (.text s) (.text s)
  | list {i : Nat} {items : List Item} (read : Item → Value)
      (cell : g.cells[i]? = some (.list items)) (parts : ∀ item ∈ items, Spells g item (read item)) :
      Spells g (.cell i) (.list (items.map read))
  | mapping {i : Nat} {fields : List (String × Item)} (read : Item → Value)
      (cell : g.cells[i]? = some (.mapping fields)) (distinct : (fields.map Prod.fst).Nodup)
      (ancestorless : Value.ancestorKey ∉ fields.map Prod.fst)
      (parts : ∀ field ∈ fields, Spells g field.2 (read field.2)) :
      Spells g (.cell i) (.ofFields (fields.map fun field => (field.1, read field.2)))

theorem Spells.defined (spelled : g.Spells item value) : value ≠ .undefined := by
  cases spelled <;> simp [Value.ofFields]

/-- A tree has no other parts than trees. -/
theorem Spells.inside {fields : List (String × Item)} {inner : Item}
    (spelled : g.Spells item value) (own : g.fields? item = some fields)
    (found : fields.lookup key = some inner) : ∃ value, g.Spells inner value := by
  cases spelled with
  | null | boolean | number | text => cases own
  | list read cell => simp [fields?, cell] at own
  | mapping read cell distinct ancestorless parts =>
      simp only [fields?, cell, Option.some.injEq] at own
      subst own
      exact ⟨_, parts _ (mem_of_lookup found)⟩

/-- No tree contains itself, also not in a graph that has more cells. -/
theorem Spells.acc (spelled : g.Spells item value)
    (more : ∀ (i : Nat) (cell : Cell), g.cells[i]? = some cell → h.cells[i]? = some cell) :
    Acc (Config.Merge.Holds h) item := by
  induction spelled with
  | null | boolean | number | text =>
      refine ⟨_, ?_⟩
      rintro inner ⟨fields, key, own, -⟩
      cases own
  | list read cell =>
      refine ⟨_, ?_⟩
      rintro inner ⟨fields, key, own, -⟩
      simp [fields?, more _ _ cell] at own
  | mapping read cell distinct ancestorless parts ih =>
      refine ⟨_, ?_⟩
      rintro inner ⟨own, key, held, mem⟩
      simp only [fields?, more _ _ cell, Option.some.injEq] at held
      subst held
      exact ih _ mem

/-- A graph as a value with all that it contains. -/
def whole (g : Graph) : Nat → Item → Value
  | _, .null => .null
  | _, .boolean b => .boolean b
  | _, .number n => .number n
  | _, .text s => .text s
  | fuel + 1, .cell i =>
    match g.cells[i]? with
    | some (.list items) => .list (items.map (g.whole fuel))
    | some (.mapping fields) => .ofFields (fields.map fun field => (field.1, g.whole fuel field.2))
    | none => .undefined
  | _, _ => .undefined

/-- Whether an item is a tree of a depth that `fuel` bounds. -/
def isTree (g : Graph) : Nat → Item → Bool
  | _, .null => true
  | _, .boolean _ => true
  | _, .number _ => true
  | _, .text _ => true
  | fuel + 1, .cell i =>
    match g.cells[i]? with
    | some (.list items) => items.all (g.isTree fuel)
    | some (.mapping fields) =>
      decide (fields.map Prod.fst).Nodup && !(fields.map Prod.fst).contains Value.ancestorKey &&
        fields.all fun field => g.isTree fuel field.2
    | none => false
  | _, _ => false

theorem spells_of_isTree (tree : g.isTree fuel item = true) : g.Spells item (g.whole fuel item) := by
  induction fuel generalizing item with
  | zero =>
      cases item with
      | null => exact .null
      | boolean b => exact .boolean b
      | number n => exact .number n
      | text s => exact .text s
      | _ => cases tree
  | succ fuel ih =>
      cases item with
      | null => exact .null
      | boolean b => exact .boolean b
      | number n => exact .number n
      | text s => exact .text s
      | instant | binary => cases tree
      | cell i =>
          rw [isTree] at tree
          cases cell : g.cells[i]? with
          | none => simp [cell] at tree
          | some contents =>
              rw [cell] at tree
              cases contents with
              | list items =>
                  rw [whole, cell]
                  exact .list _ cell fun item mem => ih (List.all_eq_true.1 tree item mem)
              | mapping fields =>
                  simp only [Bool.and_eq_true, decide_eq_true_eq, List.all_eq_true] at tree
                  obtain ⟨⟨distinct, ancestorless⟩, parts⟩ := tree
                  rw [whole, cell]
                  refine .mapping _ cell distinct ?_ fun field mem => ih (parts field mem)
                  simpa using ancestorless

/-- What is wanted under a key: of an ancestor the same as of the mapping itself. -/
def wanted (outline : Outline) (key : String) : Option Outline :=
  if key = Value.ancestorKey then some outline else outline.names.lookup key

/-- The fields of a mapping that an outline names. -/
def taken (g : Graph) (fuel : Nat) (outline : Outline) (fields : List (String × Item)) : Fields :=
  fields.filterMap fun field =>
    (wanted outline field.1).map fun part =>
      (field.1, g.unfold Value.ancestorKey fuel part field.2)

theorem unfold_mapping {i : Nat} {fields : List (String × Item)}
    (cell : g.cells[i]? = some (.mapping fields)) :
    g.unfold Value.ancestorKey (fuel + 1) outline (.cell i) =
      .ofFields (g.taken fuel outline fields) := by
  simp only [unfold, cell, taken, wanted, Value.ofFields]
  congr 2
  funext field
  split_ifs <;> rfl

theorem unfold_defined : g.unfold Value.ancestorKey fuel outline item ≠ .undefined := by
  cases item with
  | cell i =>
      cases fuel <;> rw [unfold] <;> split <;> simp
  | _ => simp [unfold]

theorem shape_unfold (spelled : g.Spells item value) :
    (g.unfold Value.ancestorKey fuel outline item).shape = value.shape := by
  cases spelled with
  | null | boolean | number | text => rw [unfold]
  | list read cell => cases fuel <;> simp [unfold, cell, Value.shape]
  | mapping read cell => cases fuel <;> simp [unfold, cell, Value.shape, Value.ofFields]

theorem plain_taken {fields : List (String × Item)} (distinct : (fields.map Prod.fst).Nodup)
    (ancestorless : Value.ancestorKey ∉ fields.map Prod.fst) :
    (g.taken fuel outline fields).Plain := by
  have keys : ((g.taken fuel outline fields).map Prod.fst).Sublist (fields.map Prod.fst) :=
    keys_filterMap_sublist (wanted outline) (g.unfold Value.ancestorKey fuel) fields
  refine ⟨distinct.sublist keys, fun mem => ancestorless (keys.subset mem), ?_⟩
  intro entry mem
  obtain ⟨field, -, here⟩ := List.mem_filterMap.1 mem
  obtain ⟨part, -, rfl⟩ := Option.map_eq_some_iff.1 here
  exact unfold_defined

theorem plain_read {fields : List (String × Item)} {read : Item → Value}
    (distinct : (fields.map Prod.fst).Nodup)
    (ancestorless : Value.ancestorKey ∉ fields.map Prod.fst)
    (parts : ∀ field ∈ fields, g.Spells field.2 (read field.2)) :
    Fields.Plain (fields.map fun field => (field.1, read field.2)) := by
  have keys : (fields.map fun field => (field.1, read field.2)).map Prod.fst =
      fields.map Prod.fst := by
    rw [List.map_map]
    rfl
  refine ⟨keys ▸ distinct, keys ▸ ancestorless, ?_⟩
  intro entry mem
  obtain ⟨field, inside, rfl⟩ := List.mem_map.1 mem
  exact (parts field inside).defined

/-- A value as far as it is seen along an outline; a missing one is not seen. -/
def Seen (g : Graph) (fuel : Nat) (outline : Outline) (value seen : Value) : Prop :=
  value = .undefined ∧ seen = .undefined ∨
    ∃ item, g.Spells item value ∧ seen = g.unfold Value.ancestorKey fuel outline item

theorem Seen.shape (view : g.Seen fuel outline value seen) : seen.shape = value.shape := by
  obtain ⟨rfl, rfl⟩ | ⟨item, spelled, rfl⟩ := view
  · rfl
  · exact shape_unfold spelled

theorem Seen.field (view : g.Seen (fuel + 1) outline value seen)
    (named : outline.names.lookup key = some part) (own : key ≠ Value.ancestorKey) :
    g.Seen fuel part (value.field key) (seen.field key) := by
  obtain ⟨rfl, rfl⟩ | ⟨item, spelled, rfl⟩ := view
  · exact .inl ⟨rfl, rfl⟩
  cases spelled with
  | null | boolean | number | text => exact .inl ⟨rfl, rfl⟩
  | list read cell =>
      refine .inl ⟨rfl, ?_⟩
      simp [unfold, cell, Value.field, Value.visible, Value.entries?]
  | mapping read cell distinct ancestorless parts =>
      rename_i i fields
      rw [unfold_mapping cell, Value.field_ofFields, Value.field_ofFields, lookup_map_values, taken,
        lookup_filterMap_keys, wanted, if_neg own, named, Option.bind_some]
      cases found : fields.lookup key with
      | none => exact .inl ⟨rfl, rfl⟩
      | some item => exact .inr ⟨item, parts _ (mem_of_lookup found), rfl⟩

theorem Seen.undefined_iff (view : g.Seen fuel outline value seen) :
    seen = .undefined ↔ value = .undefined := by
  obtain ⟨rfl, rfl⟩ | ⟨item, spelled, rfl⟩ := view
  · exact Iff.rfl
  · exact iff_of_false unfold_defined spelled.defined

/-- Of a mapping, a mapping is seen. -/
theorem Seen.mapping (view : g.Seen (fuel + 1) outline value seen)
    (mapping : value.isMapping = true) :
    ∃ entries own : Fields, (value = .ofFields entries ∧ entries.Plain) ∧
      (seen = .ofFields own ∧ own.Plain) := by
  obtain ⟨rfl, rfl⟩ | ⟨item, spelled, rfl⟩ := view
  · cases mapping
  cases spelled with
  | null | boolean | number | text => cases mapping
  | list => cases mapping
  | mapping read cell distinct ancestorless parts =>
      exact ⟨_, _, ⟨rfl, plain_read distinct ancestorless parts⟩, unfold_mapping cell,
        plain_taken distinct ancestorless⟩

theorem Seen.isMapping (view : g.Seen fuel outline value seen) :
    seen.isMapping = value.isMapping := by
  rw [← Value.isMapping_shape, view.shape, Value.isMapping_shape]

/-- What is merged in from a tree takes its own shape. -/
theorem Seen.shape_merge (view : g.Seen fuel outline value seen) (present : value ≠ .undefined)
    (target : Value) : (target.merge seen).shape = value.shape := by
  obtain ⟨missing, -⟩ | ⟨item, spelled, rfl⟩ := view
  · exact absurd missing present
  have shape : (g.unfold Value.ancestorKey fuel outline item).shape = value.shape :=
    shape_unfold spelled
  rw [Value.shape_merge, shape]
  · intro ms here
    rw [here] at shape
    cases spelled <;> cases shape
  · intro bytes here
    rw [here] at shape
    cases spelled <;> cases shape

end Yaml.Graph
end Turnstile
