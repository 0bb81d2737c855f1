import Mathlib
import Turnstile.Value.Merge

/-!
Merging plain mappings: what stands under a key afterwards. Where only one of the two has a field,
that field is left; where both have one, the one is merged over the other.
-/
namespace Turnstile

theorem lookup_cons_eq {α : Type} (key other : String) (a : α) (fields : List (String × α)) :
    ((key, a) :: fields).lookup other = if other = key then some a else fields.lookup other := by
  rw [List.lookup_cons]
  by_cases here : other = key
  · rw [beq_iff_eq.2 here, if_pos here]
  · rw [beq_eq_false_iff_ne.2 here, if_neg here]

theorem lookup_filter_key {α : Type} (keep : String → Bool) (key : String)
    (fields : List (String × α)) :
    (fields.filter fun f => keep f.1).lookup key = if keep key then fields.lookup key else none := by
  induction fields with
  | nil => simp
  | cons field rest ih =>
      obtain ⟨name, a⟩ := field
      by_cases here : key = name
      · subst here
        by_cases kept : keep key = true <;> simp [kept, ih]
      · by_cases kept : keep name = true <;> simp [lookup_cons_eq, here, kept, ih]

theorem lookup_eq_none_of_not_mem {α : Type} {fields : List (String × α)} {key : String}
    (fresh : key ∉ fields.map Prod.fst) : fields.lookup key = none := by
  refine List.lookup_eq_none_iff.2 fun field mem => ?_
  have differs : key ≠ field.1 := fun same => fresh (List.mem_map.2 ⟨field, mem, same.symm⟩)
  simpa using differs

theorem lookup_of_mem {α : Type} {entries : List (String × α)} {entry : String × α}
    (distinct : (entries.map Prod.fst).Nodup) (mem : entry ∈ entries) :
    entries.lookup entry.1 = some entry.2 := by
  induction entries with
  | nil => cases mem
  | cons first rest ih =>
      obtain ⟨fresh, distinct⟩ := List.nodup_cons.1 distinct
      rw [lookup_cons_eq]
      obtain rfl | later := List.mem_cons.1 mem
      · rw [if_pos rfl]
      · have elsewhere : entry.1 ≠ first.1 := fun same => fresh (same ▸ List.mem_map_of_mem later)
        rw [if_neg elsewhere, ih distinct later]

theorem mem_of_lookup {α : Type} {fields : List (String × α)} {key : String} {a : α}
    (found : fields.lookup key = some a) : (key, a) ∈ fields := by
  obtain ⟨before, after, rfl, -⟩ := List.lookup_eq_some_iff.1 found
  exact List.mem_append_right _ List.mem_cons_self

/-- Among fields that are numbered there is none whose name is not a number. -/
theorem lookup_numbered {α β : Type} (f : α → β) {key : String} {c : Char} (mem : c ∈ key.toList)
    (other : c.isDigit = false) (items : List α) :
    (items.zipIdx.map fun (a, i) => (toString i, f a)).lookup key = none := by
  refine lookup_eq_none_of_not_mem fun named => ?_
  obtain ⟨field, numbered, rfl⟩ := List.mem_map.1 named
  obtain ⟨⟨a, i⟩, -, rfl⟩ := List.mem_map.1 numbered
  dsimp only at mem
  rw [Nat.toString_eq_ofList_toDigits, String.toList_ofList] at mem
  have digit := Nat.isDigit_of_mem_toDigits (by decide) (by decide) mem
  rw [digit] at other
  cases other

namespace Fields

theorem lookup_put (fields : Fields) (key : String) (value : Value) (other : String) :
    (fields.put key value).lookup other = if other = key then some value else fields.lookup other := by
  induction fields with
  | nil => rw [put, lookup_cons_eq]
  | cons field rest ih =>
      obtain ⟨name, old⟩ := field
      rw [put, lookup_cons_eq]
      by_cases first : name = key
      · subst first
        rw [if_pos rfl, lookup_cons_eq]
        by_cases here : other = name <;> simp only [here, if_true, if_false]
      · rw [if_neg first, lookup_cons_eq, ih]
        by_cases here : other = name
        · have differs : other ≠ key := fun same => first (here.symm.trans same)
          simp only [if_pos here, if_neg differs]
        · simp only [if_neg here]

/-- Fields as a document writes them: each key stands once, none names an ancestor, and under each
there is a value. -/
structure Plain (fields : Fields) : Prop where
  distinct : (fields.map Prod.fst).Nodup
  ancestorless : Value.ancestorKey ∉ fields.map Prod.fst
  defined : ∀ field ∈ fields, field.2 ≠ .undefined

theorem Plain.tail {field : String × Value} {rest : Fields} (plain : Plain (field :: rest)) :
    Plain rest where
  distinct := (List.nodup_cons.1 plain.distinct).2
  ancestorless mem := plain.ancestorless (List.mem_cons_of_mem _ mem)
  defined f mem := plain.defined f (List.mem_cons_of_mem _ mem)

end Fields

namespace Value
variable {old new : Fields} {key : String} {value : Value}

theorem mergeField_plain (ancestorless : key ≠ ancestorKey) (defined : value ≠ .undefined) :
    mergeField (key, value) ⟨old, []⟩ =
      ⟨old.put key (((old.lookup key).getD .undefined).merge value), []⟩ := by
  have held : (Merging.mk old []).held key = (old.lookup key).getD .undefined := by
    rw [Merging.held]
    cases old.lookup key <;> simp [ancestorless]
  cases value <;> simp [mergeField, Merging.store, ancestorless, held, merge] at defined ⊢

/-- Plain fields are merged in one after the other. -/
theorem mergeFields_cons {field : String × Value} {rest : Fields}
    (plain : Fields.Plain (field :: rest)) (old : Fields) :
    mergeFields (field :: rest) ⟨old, []⟩ = mergeFields rest
      ⟨old.put field.1 (((old.lookup field.1).getD .undefined).merge field.2), []⟩ := by
  have ancestorless : field.1 ≠ ancestorKey := fun same =>
    plain.ancestorless (same ▸ List.mem_cons_self)
  rw [mergeFields, mergeField_plain ancestorless (plain.defined field List.mem_cons_self)]

/-- Fields that are merged in leave the others as they were. -/
theorem lookup_mergeFields (plain : new.Plain) (old : Fields) :
    (mergeFields new ⟨old, []⟩).inherited = [] ∧
      ∀ key, (mergeFields new ⟨old, []⟩).own.lookup key =
        match new.lookup key with
        | some value => some (((old.lookup key).getD .undefined).merge value)
        | none => old.lookup key := by
  induction new generalizing old with
  | nil => simp [mergeFields]
  | cons field rest ih =>
      obtain ⟨name, value⟩ := field
      rw [mergeFields_cons plain]
      obtain ⟨inherited, own⟩ :=
        ih plain.tail (old.put name (((old.lookup name).getD .undefined).merge value))
      refine ⟨inherited, fun key => ?_⟩
      rw [own, lookup_cons_eq, Fields.lookup_put]
      by_cases here : key = name
      · have absent : rest.lookup name = none :=
          lookup_eq_none_of_not_mem (List.nodup_cons.1 plain.distinct).1
        simp [here, absent]
      · simp [here]

theorem field_ofFields (fields : Fields) (key : String) :
    (ofFields fields).field key = (fields.lookup key).getD .undefined := by
  simp [ofFields, field, visible]

theorem merge_ofFields (plain : new.Plain) (old : Fields) :
    ∃ merged, (ofFields old).merge (ofFields new) = ofFields merged ∧
      ∀ key, merged.lookup key =
        match new.lookup key with
        | some value => some (((old.lookup key).getD .undefined).merge value)
        | none => old.lookup key := by
  obtain ⟨inherited, own⟩ := lookup_mergeFields plain old
  refine ⟨(mergeFields new ⟨old, []⟩).own, ?_, own⟩
  simp [merge, ofFields, mergeOver, entries?, inherited]

/-- A field that the second mapping has is merged over that of the first one, any other field is that
of the first one. -/
theorem field_merge (plain : new.Plain) (old : Fields) (key : String) :
    ((ofFields old).merge (ofFields new)).field key =
      match new.lookup key with
      | some value => ((ofFields old).field key).merge value
      | none => (ofFields old).field key := by
  obtain ⟨merged, same, lookup⟩ := merge_ofFields plain old
  rw [same, field_ofFields, field_ofFields, lookup]
  cases new.lookup key <;> rfl

/-- A value without what it contains. -/
def shape : Value → Value
  | .list _ => .list []
  | .mapping _ _ => .mapping [] []
  | v => v

theorem isMapping_shape (v : Value) : v.shape.isMapping = v.isMapping := by
  cases v <;> rfl

/-- A value that is no mapping replaces all, and anything replaces what is no mapping. -/
theorem merge_of_not_mapping {target source : Value}
    (scalar : target.isMapping = false ∨ source.isMapping = false) :
    target.merge source = source := by
  have missing {v : Value} (scalar : v.isMapping = false) : v.entries? = none := by
    simpa [isMapping] using scalar
  obtain scalar | scalar := scalar
  · cases source <;> simp [merge, mergeOver, missing scalar]
  · cases source with
    | mapping | instant | binary => cases scalar
    | _ => simp [merge, mergeOver, entries?]

theorem shape_merge {target source : Value} (no_instant : ∀ ms, source ≠ .instant ms)
    (no_binary : ∀ bytes, source ≠ .binary bytes) : (target.merge source).shape = source.shape := by
  cases source with
  | instant ms => exact absurd rfl (no_instant ms)
  | binary bytes => exact absurd rfl (no_binary bytes)
  | mapping own inherited =>
      rw [merge, mergeOver]
      split <;> rfl
  | _ => simp [merge, mergeOver, entries?]

end Value
end Turnstile
