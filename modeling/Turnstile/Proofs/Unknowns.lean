import Turnstile.Proofs.Settings

/-!
Fields that no rule names. What such a field holds, or whether there is one, makes no difference to
the configuration that is loaded: the settings of an environment are merged from what is known of a
document just as from all of it, and checks see no more of them.

One name is different. What an override has under `__proto__` is not merged as a field but inherited
by the result, with all names that are known. Where no override names an ancestor, that field is as
good as any other.
-/
namespace Turnstile
open Yaml (Outline)

/-- What is known of the field under a key: of an ancestor, if ancestors count, the same as of the
mapping itself. -/
def Yaml.Outline.part? (outline : Outline) (ancestors : Bool) (key : String) : Option Outline :=
  if key = Value.ancestorKey then (if ancestors then some outline else none)
  else outline.names.lookup key

/-- All names of an outline are known in another one, with the same parts. -/
def Yaml.Outline.Le (a b : Outline) : Prop :=
  ∀ key part, a.names.lookup key = some part → b.names.lookup key = some part

namespace Value
variable {ancestors ancestors' : Bool} {outline outline' part : Outline} {key : String}
  {v w : Value} {fields old new : Fields}

mutual

/-- A value without the fields that an outline does not name, and without the items of lists. -/
def cut (ancestors : Bool) : Outline → Value → Value
  | _, .list _ => .list []
  | outline, .mapping own inherited =>
    .mapping (cutFields ancestors outline own) (cutFields ancestors outline inherited)
  | _, v => v

def cutFields (ancestors : Bool) : Outline → List (String × Value) → List (String × Value)
  | _, [] => []
  | outline, field :: rest => cutField ancestors outline field ++ cutFields ancestors outline rest

def cutField (ancestors : Bool) : Outline → String × Value → List (String × Value)
  | outline, (key, value) =>
    match outline.part? ancestors key with
    | some part => [(key, cut ancestors part value)]
    | none => []

end

theorem cutField_of_part (known : outline.part? ancestors key = some part) (v : Value) :
    cutField ancestors outline (key, v) = [(key, v.cut ancestors part)] := by
  rw [cutField, known]

theorem cutField_of_unknown (unknown : outline.part? ancestors key = none) (v : Value) :
    cutField ancestors outline (key, v) = [] := by
  rw [cutField, unknown]

theorem cutFields_eq (fields : Fields) :
    cutFields ancestors outline fields = fields.filterMap fun field =>
      (outline.part? ancestors field.1).map fun part => (field.1, field.2.cut ancestors part) := by
  induction fields with
  | nil => rfl
  | cons field rest ih =>
      obtain ⟨key, value⟩ := field
      rw [cutFields, ih]
      cases known : outline.part? ancestors key with
      | none => simp [cutField_of_unknown known, known]
      | some part => simp [cutField_of_part known, known]

theorem cutFields_append (first second : Fields) :
    cutFields ancestors outline (first ++ second) =
      cutFields ancestors outline first ++ cutFields ancestors outline second := by
  simp only [cutFields_eq, List.filterMap_append]

theorem lookup_cutFields (known : outline.part? ancestors key = some part) (fields : Fields) :
    (cutFields ancestors outline fields).lookup key =
      (fields.lookup key).map (cut ancestors part) := by
  rw [cutFields_eq, lookup_filterMap_keys (outline.part? ancestors)
    (fun part value => cut ancestors part value), known]
  rfl

@[simp] theorem shape_cut (ancestors : Bool) (outline : Outline) (v : Value) :
    (v.cut ancestors outline).shape = v.shape := by
  cases v <;> rfl

theorem isMapping_cut (v : Value) : (v.cut ancestors outline).isMapping = v.isMapping := by
  rw [← isMapping_shape, shape_cut, isMapping_shape]

/-- What is known of a field is the field of what is known. -/
theorem field_cut (known : outline.part? ancestors key = some part) (v : Value) :
    (v.cut ancestors outline).field key = (v.field key).cut ancestors part := by
  cases v with
  | mapping own inherited =>
      rw [cut, field, field, visible, visible, ← cutFields_append, lookup_cutFields known]
      cases (own ++ inherited).lookup key <;> rfl
  | binary bytes =>
      -- The fields of a byte string are numbers.
      change (binary bytes).field key = ((binary bytes).field key).cut ancestors part
      rw [field]
      cases found : (binary bytes).visible.lookup key with
      | none => rfl
      | some byte =>
          obtain ⟨entry, -, here⟩ := List.mem_map.1 (mem_of_lookup found)
          cases here
          rfl
  | _ => rfl

mutual

/-- What is known of what is known in more detail. -/
theorem cut_cut (fewer : ancestors = true → ancestors' = true) :
    ∀ (v : Value) {outline outline' : Outline}, outline.Le outline' →
      (v.cut ancestors' outline').cut ancestors outline = v.cut ancestors outline
  | .mapping own inherited, _, _, le => by
      rw [cut, cut, cut, cutFields_cutFields fewer own le, cutFields_cutFields fewer inherited le]
  | .undefined, _, _, _ | .null, _, _, _ | .boolean _, _, _, _ | .number _, _, _, _
  | .text _, _, _, _ | .instant _, _, _, _ | .binary _, _, _, _ | .list _, _, _, _ => rfl

theorem cutFields_cutFields (fewer : ancestors = true → ancestors' = true) :
    ∀ (fields : List (String × Value)) {outline outline' : Outline}, outline.Le outline' →
      cutFields ancestors outline (cutFields ancestors' outline' fields) =
        cutFields ancestors outline fields
  | [], _, _, _ => rfl
  | field :: rest, _, _, le => by
      rw [cutFields, cutFields_append, cutFields_cutField fewer field le,
        cutFields_cutFields fewer rest le, cutFields]

theorem cutFields_cutField (fewer : ancestors = true → ancestors' = true) :
    ∀ (field : String × Value) {outline outline' : Outline}, outline.Le outline' →
      cutFields ancestors outline (cutField ancestors' outline' field) =
        cutField ancestors outline field
  | (key, value), outline, outline', le => by
      cases known : outline.part? ancestors key with
      | none =>
          rw [cutField_of_unknown known]
          cases known' : outline'.part? ancestors' key with
          | none => rw [cutField_of_unknown known', cutFields]
          | some part =>
              rw [cutField_of_part known', cutFields, cutFields, cutField_of_unknown known]
              rfl
      | some part =>
          obtain ⟨part', known', below⟩ : ∃ part', outline'.part? ancestors' key = some part' ∧
              part.Le part' := by
            rw [Outline.part?] at known
            split_ifs at known with ancestor counts
            · cases known
              exact ⟨outline', by rw [Outline.part?, if_pos ancestor, if_pos (fewer counts)], le⟩
            · exact ⟨part, by rw [Outline.part?, if_neg ancestor, le key part known],
                fun _ _ => id⟩
          rw [cutField_of_part known', cutField_of_part known, cutFields, cutFields,
            cutField_of_part known, List.append_nil, cut_cut fewer value below]

end

theorem entries_of_cut_eq (same : v.cut ancestors outline = w.cut ancestors outline) :
    v.entries?.map (cutFields ancestors outline) = w.entries?.map (cutFields ancestors outline) := by
  have again (v : Value) : v.entries?.map (cutFields ancestors outline) =
      (v.cut ancestors outline).entries?.map (cutFields ancestors outline) := by
    cases v with
    | mapping own inherited =>
        rw [cut, entries?, entries?, Option.map_some, Option.map_some,
          cutFields_cutFields id own fun _ _ => id]
    | _ => rfl
  rw [again v, again w, same]

theorem visible_of_cut_eq (same : v.cut ancestors outline = w.cut ancestors outline) :
    cutFields ancestors outline v.visible = cutFields ancestors outline w.visible := by
  have again (v : Value) : cutFields ancestors outline v.visible =
      cutFields ancestors outline (v.cut ancestors outline).visible := by
    cases v with
    | mapping own inherited =>
        rw [cut, visible, visible, ← cutFields_append, cutFields_cutFields id _ fun _ _ => id]
    | _ => rfl
  rw [again v, again w, same]

theorem cutFields_put_of_part (known : outline.part? ancestors key = some part) (v : Value) :
    cutFields ancestors outline (fields.put key v) =
      Fields.put (cutFields ancestors outline fields) key (v.cut ancestors part) := by
  induction fields with
  | nil => simp [Fields.put, cutFields, cutField_of_part known]
  | cons field rest ih =>
      obtain ⟨name, old⟩ := field
      rw [Fields.put]
      by_cases here : name = key
      · subst here
        simp [cutFields, cutField_of_part known, Fields.put]
      · rw [if_neg here, cutFields, cutFields, ih]
        cases other : outline.part? ancestors name with
        | none => simp [cutField_of_unknown other]
        | some part => simp [cutField_of_part other, Fields.put, here]

theorem cutFields_put_of_unknown (unknown : outline.part? ancestors key = none) (v : Value) :
    cutFields ancestors outline (fields.put key v) = cutFields ancestors outline fields := by
  induction fields with
  | nil => simp [Fields.put, cutFields, cutField_of_unknown unknown]
  | cons field rest ih =>
      obtain ⟨name, old⟩ := field
      rw [Fields.put]
      by_cases here : name = key
      · subst here
        rw [if_pos rfl, cutFields, cutFields, cutField_of_unknown unknown,
          cutField_of_unknown unknown]
      · rw [if_neg here, cutFields, cutFields, ih]

theorem cutFields_puts (new : Fields) (same : cutFields ancestors outline old =
    cutFields ancestors outline fields) :
    cutFields ancestors outline (new.foldl (fun acc field => Fields.put acc field.1 field.2) old) =
      cutFields ancestors outline
        (new.foldl (fun acc field => Fields.put acc field.1 field.2) fields) := by
  induction new generalizing old fields with
  | nil => exact same
  | cons field rest ih =>
      apply ih
      cases known : outline.part? ancestors field.1 with
      | none => rw [cutFields_put_of_unknown known, cutFields_put_of_unknown known, same]
      | some part => rw [cutFields_put_of_part known, cutFields_put_of_part known, same]

namespace Merging
variable {m n : Merging}

def cut (ancestors : Bool) (outline : Outline) (m : Merging) : Merging :=
  ⟨cutFields ancestors outline m.own, cutFields ancestors outline m.inherited⟩

theorem held_cut (known : outline.part? ancestors key = some part) (m : Merging) :
    (m.cut ancestors outline).held key = (m.held key).cut ancestors part := by
  rw [held, held, cut, lookup_cutFields known, lookup_cutFields known]
  cases m.own.lookup key with
  | some value => rfl
  | none =>
      by_cases ancestor : key = ancestorKey
      · simp [ancestor, Value.cut, cutFields]
      · simp only [Option.map_none, if_neg ancestor]
        cases m.inherited.lookup key <;> rfl

theorem store_of_part (known : outline.part? ancestors key = some part)
    (same : m.cut ancestors outline = n.cut ancestors outline)
    (values : v.cut ancestors part = w.cut ancestors part) :
    (m.store key v).cut ancestors outline = (n.store key w).cut ancestors outline := by
  obtain ⟨own, inherited⟩ := Merging.mk.inj same
  have absent : (m.own.lookup key).isNone = (n.own.lookup key).isNone := by
    have found := congrArg (List.lookup key) own
    rw [lookup_cutFields known, lookup_cutFields known] at found
    simpa using congrArg Option.isNone found
  have mapping : v.isMapping = w.isMapping := by
    rw [← isMapping_cut v, values, isMapping_cut]
  rw [store, store, absent, mapping]
  by_cases ancestor : key = ancestorKey ∧ (n.own.lookup key).isNone = true
  · rw [if_pos ancestor, if_pos ancestor]
    obtain rfl : outline = part := by
      rw [Outline.part?, if_pos ancestor.1] at known
      split_ifs at known
      exact Option.some.inj known
    refine congrArg₂ Merging.mk own ?_
    split_ifs
    · exact visible_of_cut_eq values
    · exact inherited
  · rw [if_neg ancestor, if_neg ancestor]
    refine congrArg₂ Merging.mk ?_ inherited
    rw [cutFields_put_of_part known, cutFields_put_of_part known, own, values]

theorem store_of_unknown (unknown : outline.part? ancestors key = none)
    (other : key ≠ ancestorKey) (m : Merging) (v : Value) :
    (m.store key v).cut ancestors outline = m.cut ancestors outline := by
  rw [store, if_neg fun ancestor => other ancestor.1, cut, cut, cutFields_put_of_unknown unknown]

end Merging

/-- No mapping that is known of a value names an ancestor. -/
def Ancestorless (outline : Outline) (v : Value) : Prop :=
  v.cut true outline = v.cut false outline

theorem undefined_of_shape (shape : v.shape = .undefined) : v = .undefined := by
  cases v <;> first | rfl | cases shape

theorem part?_of_other (other : key ≠ ancestorKey) :
    outline.part? ancestors key = outline.names.lookup key :=
  if_neg other

/-- What is known of fields without ancestors has no ancestors, field by field. -/
theorem ancestorless_fields {field : String × Value} {rest : Fields}
    (plain : cutFields true outline (field :: rest) = cutFields false outline (field :: rest)) :
    field.1 ≠ ancestorKey ∧
      (∀ part, outline.names.lookup field.1 = some part → field.2.Ancestorless part) ∧
      cutFields true outline rest = cutFields false outline rest := by
  obtain ⟨key, value⟩ := field
  have other : key ≠ ancestorKey := by
    rintro rfl
    have known : outline.part? true ancestorKey = some outline := rfl
    have unknown : outline.part? false ancestorKey = none := rfl
    have first := congrArg (List.lookup ancestorKey) plain
    rw [cutFields, cutField_of_part known, cutFields_eq ((ancestorKey, value) :: rest),
      lookup_filterMap_keys (outline.part? false) (fun part value => cut false part value), unknown]
      at first
    simp at first
  refine ⟨other, ?_⟩
  rw [cutFields, cutFields] at plain
  cases named : outline.names.lookup key with
  | none =>
      have unknown (ancestors : Bool) : outline.part? ancestors key = none :=
        (part?_of_other other).trans named
      rw [cutField_of_unknown (unknown _), cutField_of_unknown (unknown _)] at plain
      exact ⟨fun part here => (by cases here), plain⟩
  | some part =>
      have known (ancestors : Bool) : outline.part? ancestors key = some part :=
        (part?_of_other other).trans named
      rw [cutField_of_part (known _), cutField_of_part (known _)] at plain
      obtain ⟨here, rest⟩ := List.cons.inj plain
      refine ⟨fun part' same => ?_, rest⟩
      cases same
      exact congrArg Prod.snd here

theorem mergeFields_append (first second : Fields) (m : Merging) :
    mergeFields (first ++ second) m = mergeFields second (mergeFields first m) := by
  induction first generalizing m with
  | nil => rw [List.nil_append, mergeFields]
  | cons field rest ih => rw [List.cons_append, mergeFields, mergeFields, ih]

theorem mergeField_defined (defined : v ≠ .undefined) (m : Merging) :
    mergeField (key, v) m = m.store key (mergeOver v (m.held key)) := by
  cases v with
  | undefined => exact absurd rfl defined
  | _ => rw [mergeField]; simp

theorem mergeOver_of_not_mapping (scalar : v.isMapping = false) (target : Value) :
    mergeOver v target = v :=
  merge_of_not_mapping (.inr scalar)

/-- A byte string or an instant is merged in whole. -/
theorem cut_mergeOver_of_entries {source target target' : Value}
    (other : ∀ own inherited, source ≠ .mapping own inherited) (whole : source.entries? = some new)
    (uncut : source.cut ancestors outline = source)
    (same : target.cut ancestors outline = target'.cut ancestors outline) :
    (mergeOver source target).cut ancestors outline =
      (mergeOver (source.cut ancestors outline) target').cut ancestors outline := by
  have entries := entries_of_cut_eq same
  rw [uncut, mergeOver.eq_2 _ _ other, mergeOver.eq_2 _ _ other, whole]
  cases here : target.entries? with
  | none =>
      rw [here, Option.map_none, eq_comm, Option.map_eq_none_iff] at entries
      rw [entries]
  | some fields =>
      rw [here, Option.map_some, eq_comm, Option.map_eq_some_iff] at entries
      obtain ⟨fields', there, fields_eq⟩ := entries
      rw [there]
      exact congrArg₂ Value.mapping (cutFields_puts new fields_eq.symm) rfl

/-- Merging in what is not known leaves what is known as it is. -/
theorem mergeField_of_unknown (unknown : outline.part? ancestors key = none)
    (other : key ≠ ancestorKey) (v : Value) (m : Merging) :
    (mergeField (key, v) m).cut ancestors outline = m.cut ancestors outline := by
  by_cases defined : v = .undefined
  · rw [defined, mergeField]
  · rw [mergeField_defined defined, Merging.store_of_unknown unknown other]

mutual

/-- What is known of a merge comes from what is known of both values. If ancestors are left out of
account, none may be merged in. -/
theorem cut_mergeOver (ancestors : Bool) :
    ∀ (source : Value) {outline : Outline} {target target' : Value},
      (ancestors = false → source.Ancestorless outline) →
      target.cut ancestors outline = target'.cut ancestors outline →
      (mergeOver source target).cut ancestors outline =
        (mergeOver (source.cut ancestors outline) target').cut ancestors outline
  | .mapping own inherited, outline, target, target', plain, same => by
      have entries := entries_of_cut_eq same
      rw [cut, mergeOver, mergeOver]
      cases here : target.entries? with
      | none =>
          rw [here, Option.map_none, eq_comm, Option.map_eq_none_iff] at entries
          rw [entries, cut, cut, cutFields_cutFields id own fun _ _ => id,
            cutFields_cutFields id inherited fun _ _ => id]
      | some fields =>
          rw [here, Option.map_some, eq_comm, Option.map_eq_some_iff] at entries
          obtain ⟨fields', there, fields_eq⟩ := entries
          rw [there]
          have plain' (without : ancestors = false) :
              cutFields true outline own = cutFields false outline own := by
            have plain := plain without
            rw [Ancestorless, cut, cut] at plain
            exact (Value.mapping.inj plain).1
          have merged := cut_mergeFields ancestors own (m := ⟨fields, []⟩) (n := ⟨fields', []⟩) plain'
            (congrArg₂ Merging.mk fields_eq.symm rfl)
          obtain ⟨own, inherited⟩ := Merging.mk.inj merged
          rw [cut, cut, own, inherited]
  | .instant ms, _, _, _, _, same => cut_mergeOver_of_entries (by simp) rfl rfl same
  | .binary bytes, _, _, _, _, same => cut_mergeOver_of_entries (by simp) rfl rfl same
  | .list _, _, _, _, _, _ | .undefined, _, _, _, _, _ | .null, _, _, _, _, _
  | .boolean _, _, _, _, _, _ | .number _, _, _, _, _, _ | .text _, _, _, _, _, _ => by
      rw [mergeOver_of_not_mapping rfl, mergeOver_of_not_mapping rfl]
      rfl

theorem cut_mergeFields (ancestors : Bool) :
    ∀ (fields : List (String × Value)) {outline : Outline} {m n : Merging},
      (ancestors = false → cutFields true outline fields = cutFields false outline fields) →
      m.cut ancestors outline = n.cut ancestors outline →
      (mergeFields fields m).cut ancestors outline =
        (mergeFields (cutFields ancestors outline fields) n).cut ancestors outline
  | [], _, _, _, _, same => by rw [mergeFields, cutFields, mergeFields, same]
  | field :: rest, outline, m, n, plain, same => by
      rw [mergeFields, cutFields, mergeFields_append]
      refine cut_mergeFields ancestors rest (fun without => (ancestorless_fields (plain without)).2.2) ?_
      refine cut_mergeField ancestors field (fun without => ?_) same
      exact ⟨(ancestorless_fields (plain without)).1, (ancestorless_fields (plain without)).2.1⟩

theorem cut_mergeField (ancestors : Bool) :
    ∀ (field : String × Value) {outline : Outline} {m n : Merging},
      (ancestors = false → field.1 ≠ ancestorKey ∧
        ∀ part, outline.names.lookup field.1 = some part → field.2.Ancestorless part) →
      m.cut ancestors outline = n.cut ancestors outline →
      (mergeField field m).cut ancestors outline =
        (mergeFields (cutField ancestors outline field) n).cut ancestors outline
  | (key, value), outline, m, n, plain, same => by
      cases known : outline.part? ancestors key with
      | none =>
          have other : key ≠ ancestorKey := by
            rintro rfl
            cases ancestors with
            | true => cases known
            | false => exact (plain rfl).1 rfl
          rw [cutField_of_unknown known, mergeFields, mergeField_of_unknown known other, same]
      | some part =>
          rw [cutField_of_part known, mergeFields, mergeFields]
          by_cases defined : value = .undefined
          · subst defined
            change (mergeField (key, .undefined) m).cut ancestors outline =
              (mergeField (key, .undefined) n).cut ancestors outline
            rw [mergeField, mergeField, same]
          · have defined' : value.cut ancestors part ≠ .undefined :=
              fun missing => defined (undefined_of_shape
                ((shape_cut _ _ value).symm.trans (congrArg shape missing)))
            rw [mergeField_defined defined, mergeField_defined defined']
            refine Merging.store_of_part known same (cut_mergeOver ancestors value ?_ ?_)
            · intro without
              obtain ⟨other, parts⟩ := plain without
              exact parts part ((part?_of_other other).symm.trans known)
            · rw [← Merging.held_cut known, ← Merging.held_cut known, same]

end

/-- What is known of a merge, for values of which the same is known. -/
theorem cut_merge {target target' source source' : Value}
    (plain : ancestors = false → source.Ancestorless outline ∧ source'.Ancestorless outline)
    (targets : target.cut ancestors outline = target'.cut ancestors outline)
    (sources : source.cut ancestors outline = source'.cut ancestors outline) :
    (target.merge source).cut ancestors outline = (target'.merge source').cut ancestors outline := by
  have here := cut_mergeOver ancestors source (fun without => (plain without).1) targets
  have there := cut_mergeOver ancestors source' (fun without => (plain without).2)
    (rfl : target'.cut ancestors outline = _)
  rw [merge, merge, here, there, sources]

/-- The second value has one entry more than the first one, somewhere along an outline and of a name
that is not known there. If ancestors count, their name is known everywhere. -/
inductive Edited (ancestors : Bool) : Outline → Value → Value → Prop
  | entry {outline : Outline} {key : String} (unknown : outline.part? ancestors key = none)
      (value : Value) (before after inherited : Fields) :
      Edited ancestors outline (.mapping (before ++ after) inherited)
        (.mapping (before ++ (key, value) :: after) inherited)
  | inside {outline : Outline} (part : Outline) {key : String} {value value' : Value}
      (known : outline.part? ancestors key = some part) (edited : Edited ancestors part value value')
      (before after inherited : Fields) :
      Edited ancestors outline (.mapping (before ++ (key, value) :: after) inherited)
        (.mapping (before ++ (key, value') :: after) inherited)

/-- Edits of what is not known leave what is known as it is. -/
theorem Edited.cut_eq (h : Edited ancestors outline v w) :
    v.cut ancestors outline = w.cut ancestors outline := by
  induction h with
  | entry unknown value before after inherited =>
      rw [cut, cut, cutFields_append, cutFields_append, cutFields, cutField_of_unknown unknown,
        List.nil_append]
  | inside part known edited before after inherited ih =>
      rw [cut, cut, cutFields_append, cutFields_append, cutFields, cutFields,
        cutField_of_part known, cutField_of_part known, ih]

theorem cut_eq_of_edits (edits : Relation.EqvGen (Edited ancestors outline) v w) :
    v.cut ancestors outline = w.cut ancestors outline := by
  induction edits with
  | rel v w edited => exact edited.cut_eq
  | refl v => rfl
  | symm v w _ ih => exact ih.symm
  | trans v w x _ _ ih ih' => exact ih.trans ih'

end Value

namespace Config
variable {ancestors : Bool} {v w document document' : Value} {env : Environment}

theorem sections_le : sections.Le outline := by
  intro key part named
  have whole : outline.names = sections.names ++
      (Outline.each [environmentsKey]
        (.each (Environment.all.map Environment.name) sections)).names := rfl
  rw [whole, List.lookup_append, named, Option.some_or]

/-- The overrides are no section. -/
theorem cutFields_without_environments (fields : Fields) :
    Value.cutFields ancestors sections (fields.filter fun f => f.1 != environmentsKey) =
      Value.cutFields ancestors sections fields := by
  rw [Value.cutFields_eq, Value.cutFields_eq, List.filterMap_filter]
  refine List.filterMap_congr fun field _ => ?_
  by_cases here : field.1 = environmentsKey
  · rw [here]
    rfl
  · rw [if_pos (bne_iff_ne.2 here)]

theorem base_cut (same : document.cut ancestors outline = document'.cut ancestors outline) :
    (base document).cut ancestors sections = (base document').cut ancestors sections := by
  have fields (document : Value) : (base document).cut ancestors sections =
      .mapping (Value.cutFields ancestors sections
        ((document.entries?.map (Value.cutFields ancestors outline)).getD [])) [] := by
    rw [base, Value.ofFields, Value.cut, cutFields_without_environments]
    cases document.entries? with
    | none => rfl
    | some fields =>
        rw [Option.getD_some, Option.map_some, Option.getD_some,
          Value.cutFields_cutFields id fields sections_le]
        rfl
  rw [fields, fields, Value.entries_of_cut_eq same]

theorem override_cut (same : document.cut ancestors outline = document'.cut ancestors outline)
    (env : Environment) :
    (override? document env).map (Value.cut ancestors sections) =
      (override? document' env).map (Value.cut ancestors sections) := by
  have again (document : Value) : (override? document env).map (Value.cut ancestors sections) =
      override? (document.cut ancestors outline) env := by
    have environments : outline.part? ancestors environmentsKey =
        some (.each (Environment.all.map Environment.name) sections) := rfl
    have named : (Outline.each (Environment.all.map Environment.name) sections).part? ancestors
        env.name = some sections := by cases env <;> rfl
    simp only [override?, Value.field_cut environments, Value.field_cut named, Value.isMapping_cut]
    split_ifs <;> rfl
  rw [again, again, same]

/-- What is known of the settings comes from what is known of the document. -/
theorem settings_cut (same : document.cut ancestors outline = document'.cut ancestors outline)
    (plain : ancestors = false → ∀ override,
      override? document env = some override ∨ override? document' env = some override →
        override.Ancestorless sections) :
    (settings document env).cut ancestors sections =
      (settings document' env).cut ancestors sections := by
  have overrides := override_cut same env
  rw [settings, settings]
  cases here : override? document env with
  | none =>
      rw [here, Option.map_none, eq_comm, Option.map_eq_none_iff] at overrides
      rw [overrides]
      exact base_cut same
  | some override =>
      rw [here, Option.map_some, eq_comm, Option.map_eq_some_iff] at overrides
      obtain ⟨override', there, sources⟩ := overrides
      rw [there]
      refine Value.cut_merge (fun without => ?_) (base_cut same) sources.symm
      exact ⟨plain without _ (.inl here), plain without _ (.inr there)⟩

theorem exists_settings (document : Value) (env : Environment) :
    ∃ own inherited, settings document env = .mapping own inherited := by
  rw [settings]
  cases here : override? document env with
  | none => exact ⟨_, _, rfl⟩
  | some override =>
      have mapping : override.isMapping = true := by
        simp only [override?] at here
        split_ifs at here with _ mapping
        cases here
        exact mapping
      cases override with
      | mapping | instant | binary => exact ⟨_, _, rfl⟩
      | _ => cases mapping

/-- Checks see nothing but what is known. -/
theorem check_of_cut_eq {own inherited own' inherited' : Fields}
    (same : (Value.mapping own inherited).cut ancestors sections =
      (Value.mapping own' inherited').cut ancestors sections) :
    check (.mapping own inherited) = check (.mapping own' inherited') := by
  refine check_congr fun s mem => ?_
  obtain ⟨ancestor, -, keys⟩ := section_ne mem
  have known : sections.part? ancestors s.1 = some (.each s.2 .leaf) :=
    (Value.part?_of_other ancestor).trans (lookup_sections mem)
  have field := congrArg (Value.field · s.1) same
  simp only [Value.field_cut known] at field
  refine ⟨?_, fun key mem => ?_⟩
  · rw [← Value.shape_cut ancestors (.each s.2 .leaf), field, Value.shape_cut]
  · have known : (Outline.each s.2 .leaf).part? ancestors key = some .leaf :=
      (Value.part?_of_other (keys key mem)).trans (lookup_each mem)
    have inner := congrArg (Value.field · key) field
    simp only [Value.field_cut known] at inner
    rw [← Value.shape_cut ancestors .leaf, inner, Value.shape_cut]

theorem validate_settings (same : document.cut ancestors outline = document'.cut ancestors outline)
    (plain : ancestors = false → ∀ override,
      override? document env = some override ∨ override? document' env = some override →
        override.Ancestorless sections) :
    validate (settings document env) = validate (settings document' env) := by
  have known := settings_cut same plain
  obtain ⟨own, inherited, here⟩ := exists_settings document env
  obtain ⟨own', inherited', there⟩ := exists_settings document' env
  rw [here, there] at known
  rw [here, there, validate, validate, check_of_cut_eq known]

end Config

/-- What a collection holds. -/
def Yaml.Cell.items : Yaml.Cell → List Yaml.Item
  | .list items => items
  | .mapping fields => fields.map Prod.snd

namespace Yaml.Graph
variable {g h : Graph} {item inner : Item} {outline : Outline}

/-- An item with all that it contains, down to a depth. -/
def unrolled (g : Graph) : Nat → Item → Value
  | _, .null => .null
  | _, .boolean b => .boolean b
  | _, .number n => .number n
  | _, .text s => .text s
  | _, .instant ms => .instant ms
  | _, .binary bytes => .binary bytes
  | 0, .cell i =>
    match g.cells[i]? with
    | some (.list _) => .list []
    | _ => .mapping [] []
  | depth + 1, .cell i =>
    match g.cells[i]? with
    | some (.list items) => .list (items.map (g.unrolled depth))
    | some (.mapping fields) =>
      .ofFields (fields.map fun field => (field.1, g.unrolled depth field.2))
    | none => .mapping [] []

/-- A document as a value, as deep as it can be without containing itself, and a little deeper. -/
def document (g : Graph) : Value := g.unrolled (g.cells.size + 6) g.root

/-- What is unfolded along an outline is what is known of the whole. -/
theorem unfold_eq_cut (depth : Nat) (outline : Outline) (item : Item) :
    g.unfold Value.ancestorKey depth outline item = (g.unrolled depth item).cut true outline := by
  induction depth generalizing outline item with
  | zero =>
      cases item with
      | cell i =>
          cases cell : g.cells[i]? with
          | none => simp only [unfold, unrolled, cell]; rfl
          | some contents => cases contents <;> simp only [unfold, unrolled, cell] <;> rfl
      | _ => rw [unfold, unrolled]; rfl
  | succ depth ih =>
      cases item with
      | cell i =>
          cases cell : g.cells[i]? with
          | none => simp only [unfold, unrolled, cell]; rfl
          | some contents =>
              cases contents with
              | list items => simp only [unfold, unrolled, cell]; rfl
              | mapping fields =>
                  rw [unfold_mapping cell]
                  simp only [unrolled, cell, Value.ofFields, Value.cut, taken, Value.cutFields_eq,
                    List.filterMap_map, ih]
                  rfl
      | _ => rw [unfold, unrolled]; rfl

theorem documentOf_eq (g : Graph) : Config.documentOf g = g.document.cut true Config.outline :=
  unfold_eq_cut ..

/-- An item that does not contain itself, nor anything that does. -/
inductive Finite (g : Graph) : Item → Prop
  | plain {item : Item} (plain : ∀ i, item ≠ .cell i) : Finite g item
  | cell {i : Nat} {cell : Cell} (stored : g.cells[i]? = some cell)
      (parts : ∀ item ∈ cell.items, Finite g item) : Finite g (.cell i)

/-- All that an item contains is met at this depth. -/
def isFinite (g : Graph) : Nat → Item → Bool
  | 0, .cell _ => false
  | depth + 1, .cell i =>
    match g.cells[i]? with
    | some cell => cell.items.all (isFinite g depth)
    | none => false
  | _, _ => true

theorem finite_of_isFinite {depth : Nat} (found : g.isFinite depth item = true) :
    g.Finite item := by
  induction depth generalizing item with
  | zero =>
      cases item with
      | cell i => cases found
      | _ => exact .plain (by simp)
  | succ depth ih =>
      cases item with
      | cell i =>
          rw [isFinite] at found
          split at found
          · rename_i cell stored
            exact .cell stored fun inner mem => ih (List.all_eq_true.1 found inner mem)
          · cases found
      | _ => exact .plain (by simp)

def Contains (g : Graph) (inner outer : Item) : Prop :=
  ∃ i cell, outer = .cell i ∧ g.cells[i]? = some cell ∧ inner ∈ cell.items

theorem Finite.acc_contains (finite : g.Finite item) : Acc g.Contains item := by
  induction finite with
  | plain plain =>
      refine ⟨_, ?_⟩
      rintro inner ⟨i, cell, here, -⟩
      exact absurd here (plain i)
  | cell stored parts ih =>
      refine ⟨_, ?_⟩
      rintro inner ⟨i, cell, here, stored', mem⟩
      cases here
      cases stored.symm.trans stored'
      exact ih inner mem

theorem Finite.not_inside_itself (finite : g.Finite item) :
    ¬Relation.TransGen g.Contains item item := by
  intro inside
  have acc : Acc (Relation.TransGen g.Contains) item := finite.acc_contains.transGen
  exact not_acc_iff_exists_descending_chain.2 ⟨fun _ => item, rfl, fun _ => inside⟩ acc

/-- No way down from an item meets a collection twice, so all of it is met at a depth that the
number of collections bounds. -/
theorem Finite.unrolled_congr (finite : g.Finite item) {outer : List Nat} (distinct : outer.Nodup)
    (known : ∀ i ∈ outer, i < g.cells.size)
    (way : ∀ i ∈ outer, Relation.TransGen g.Contains item (.cell i)) {m n : Nat}
    (deep : g.cells.size ≤ outer.length + m) (deep' : g.cells.size ≤ outer.length + n) :
    g.unrolled m item = g.unrolled n item := by
  induction finite generalizing outer m n with
  | @plain item plain =>
      cases item with
      | cell i => exact absurd rfl (plain i)
      | _ => rw [unrolled, unrolled]
  | @cell i cell stored parts ih =>
      have new : i ∉ outer := fun met => (Finite.cell stored parts).not_inside_itself (way i met)
      obtain ⟨bound, -⟩ := Array.getElem?_eq_some_iff.1 stored
      have distinct' : (i :: outer).Nodup := List.nodup_cons.2 ⟨new, distinct⟩
      have known' : ∀ j ∈ i :: outer, j < g.cells.size := by
        intro j mem
        exact (List.mem_cons.1 mem).elim (fun same => same ▸ bound) (known j)
      have short : (i :: outer).length ≤ g.cells.size := by
        have sub : i :: outer ⊆ List.range g.cells.size := fun j mem =>
          List.mem_range.2 (known' j mem)
        simpa using (List.subperm_of_subset distinct' sub).length_le
      rw [List.length_cons] at short
      obtain ⟨m, rfl⟩ : ∃ k, m = k + 1 := ⟨m - 1, by omega⟩
      obtain ⟨n, rfl⟩ : ∃ k, n = k + 1 := ⟨n - 1, by omega⟩
      have deeper (inner : Item) (mem : inner ∈ cell.items) :
          g.unrolled m inner = g.unrolled n inner := by
        have step : g.Contains inner (.cell i) := ⟨i, cell, rfl, stored, mem⟩
        refine ih inner mem distinct' known' (fun j met => ?_) ?_ ?_
        · exact (List.mem_cons.1 met).elim (fun same => same ▸ .single step)
            fun old => .head step (way j old)
        · rw [List.length_cons]
          omega
        · rw [List.length_cons]
          omega
      cases cell with
      | list items =>
          have each : ∀ item ∈ items, g.unrolled m item = g.unrolled n item := deeper
          simp only [unrolled, stored]
          rw [List.map_congr_left each]
      | mapping fields =>
          simp only [unrolled, stored]
          have each : ∀ field ∈ fields, (field.1, g.unrolled m field.2) =
              (field.1, g.unrolled n field.2) := fun field mem =>
            congrArg (Prod.mk field.1) (deeper field.2 (List.mem_map_of_mem mem))
          rw [List.map_congr_left each]

/-- What a finite mapping holds is finite. -/
theorem Finite.inside {fields : List (String × Item)} {key : String} (finite : g.Finite item)
    (own : g.fields? item = some fields) (mem : (key, inner) ∈ fields) : g.Finite inner := by
  cases finite with
  | @plain item plain =>
      cases item with
      | cell i => exact absurd rfl (plain i)
      | binary bytes =>
          cases own
          obtain ⟨entry, -, here⟩ := List.mem_map.1 mem
          cases here
          exact .plain (by simp)
      | instant ms =>
          cases own
          cases mem
      | _ => cases own
  | @cell i cell stored parts =>
      cases cell with
      | list items => simp [fields?, stored] at own
      | mapping own' =>
          simp only [fields?, stored, Option.some.injEq] at own
          subst own
          exact parts inner (List.mem_map.2 ⟨_, mem, rfl⟩)

/-- No finite item contains itself, also not in a graph that has more cells. -/
theorem Finite.acc_holds (finite : g.Finite item)
    (more : ∀ (i : Nat) (cell : Cell), g.cells[i]? = some cell → h.cells[i]? = some cell) :
    Acc (Config.Merge.Holds h) item := by
  induction finite with
  | @plain item plain =>
      have number (n : Number) : Acc (Config.Merge.Holds h) (.number n) := by
        refine ⟨_, ?_⟩
        rintro inner ⟨fields, key, own, -⟩
        cases own
      refine ⟨_, ?_⟩
      rintro inner ⟨fields, key, own, mem⟩
      cases item with
      | cell i => exact absurd rfl (plain i)
      | binary bytes =>
          cases own
          obtain ⟨entry, -, here⟩ := List.mem_map.1 mem
          cases here
          exact number _
      | instant ms =>
          cases own
          cases mem
      | _ => cases own
  | @cell i cell stored parts ih =>
      refine ⟨_, ?_⟩
      rintro inner ⟨fields, key, own, mem⟩
      cases cell with
      | list items => simp [fields?, more _ _ stored] at own
      | mapping own' =>
          simp only [fields?, more _ _ stored, Option.some.injEq] at own
          subst own
          exact ih inner (List.mem_map.2 ⟨_, mem, rfl⟩)

end Yaml.Graph

namespace Config

/-- A finite document is read whole, and no override is merged into it without end. -/
theorem finite_document (g : Yaml.Graph) (finite : g.Finite g.root) :
    (∀ depth, g.cells.size ≤ depth → g.unrolled depth g.root = g.document) ∧
      ∀ env, ¬EndlessMerge g env := by
  refine ⟨fun depth deep => ?_, fun env => ?_⟩
  · exact finite.unrolled_congr List.nodup_nil (by simp) (by simp) (by simpa using deep) (by simp)
  · rintro ⟨g', m, merge, endless⟩
    obtain ⟨fields, root, merge⟩ := Option.bind_eq_some_iff.1 merge
    obtain ⟨environments, held, merge⟩ := Option.bind_eq_some_iff.1 merge
    obtain ⟨override, found, merge⟩ := Option.bind_eq_some_iff.1 merge
    obtain ⟨item, here, own⟩ := Option.bind_eq_some_iff.1 held
    have source := (finite.inside root (mem_of_lookup here)).inside own (mem_of_lookup found)
    cases merge
    refine Merge.not_endless_of_acc_source (source.acc_holds fun i cell here => ?_) endless
    obtain ⟨bound, rfl⟩ := Array.getElem?_eq_some_iff.1 here
    exact Array.getElem?_push_lt bound

namespace World
variable {w w' : World} {source source' : Source} {argument argument' : Option String}
  {g h : Yaml.Graph}

/-- The file holds a document. -/
def Reads (w : World) (source : Source) (g : Yaml.Graph) : Prop :=
  ∃ bytes, w.read source = .ok bytes ∧ Yaml.parse (Text.Utf8.decode bytes) = .ok (some g)

/-- A configuration is loaded by checking the settings that all of a document makes. -/
theorem load_of_reads (reads : w.Reads source g) (mapping : g.document.isMapping = true)
    (ends : ¬w.MergesEndlessly source argument) :
    w.load source argument =
      (validate (settings g.document (w.environment argument))).mapError .invalid := by
  obtain ⟨bytes, read, parsed⟩ := reads
  have merged : mergeEnds g (w.environment argument) = true :=
    mergeEnds_iff.2 fun endless => ends ⟨bytes, g, read, parsed, endless⟩
  have known : (documentOf g).cut true outline = g.document.cut true outline := by
    rw [Yaml.Graph.documentOf_eq, Value.cut_cut id g.document fun _ _ => id]
  have mapping' : (documentOf g).isMapping = true := by
    rw [Yaml.Graph.documentOf_eq, Value.isMapping_cut, mapping]
  have settled : validate (settings (documentOf g) (w.environment argument)) =
      validate (settings g.document (w.environment argument)) :=
    validate_settings known (by simp)
  rw [World.load, read, ofContents, ofText, parsed]
  simp only [ofDocument, mapping', merged, settled]
  cases validate (settings g.document (w.environment argument)) <;> rfl

theorem load_of_cut_eq {ancestors : Bool} (reads : w.Reads source g) (reads' : w'.Reads source' h)
    (same : w.environment argument = w'.environment argument')
    (mapping : g.document.isMapping = true)
    (ends : ¬w.MergesEndlessly source argument) (ends' : ¬w'.MergesEndlessly source' argument')
    (known : g.document.cut ancestors outline = h.document.cut ancestors outline)
    (plain : ancestors = false → ∀ override,
      override? g.document (w.environment argument) = some override ∨
        override? h.document (w.environment argument) = some override →
          override.Ancestorless sections) :
    w.load source argument = w'.load source' argument' := by
  have mapping' : h.document.isMapping = true := by
    rw [← Value.isMapping_cut, ← known, Value.isMapping_cut, mapping]
  rw [load_of_reads reads mapping ends, load_of_reads reads' mapping' ends', ← same,
    validate_settings known plain]

/-- Of two documents one of which comes from the other by adding, removing and changing entries, each
at a place along the outline where its name is not known, the same is loaded in an environment: the
same configuration, or the same issues. `__proto__` counts as a name that is known everywhere. It is
like all others, though, where neither override of the environment names an ancestor. No merge is
endless in a document that does not contain itself (`finite_document`). -/
theorem unknown_entries_make_no_difference (reads : w.Reads source g)
    (reads' : w'.Reads source' h) (same : w.environment argument = w'.environment argument')
    (mapping : g.document.isMapping = true)
    (ends : ¬w.MergesEndlessly source argument) (ends' : ¬w'.MergesEndlessly source' argument') :
    (Relation.EqvGen (Value.Edited true outline) g.document h.document →
      w.load source argument = w'.load source' argument') ∧
    ((∀ override, override? g.document (w.environment argument) = some override ∨
        override? h.document (w.environment argument) = some override →
          override.Ancestorless sections) →
      Relation.EqvGen (Value.Edited false outline) g.document h.document →
        w.load source argument = w'.load source' argument') := by
  refine ⟨fun edits => ?_, fun plain edits => ?_⟩
  · exact load_of_cut_eq reads reads' same mapping ends ends' (Value.cut_eq_of_edits edits) (by simp)
  · exact load_of_cut_eq reads reads' same mapping ends ends' (Value.cut_eq_of_edits edits)
      fun _ => plain

theorem not_mergesEndlessly_of_reads (reads : w.Reads source g)
    (ends : ¬EndlessMerge g (w.environment argument)) : ¬w.MergesEndlessly source argument := by
  obtain ⟨bytes, read, parsed⟩ := reads
  rintro ⟨bytes', g', read', parsed', endless⟩
  obtain rfl := Except.ok.inj (read.symm.trans read')
  obtain rfl := Option.some.inj (Except.ok.inj (parsed.symm.trans parsed'))
  exact ends endless

theorem not_mergesEndlessly_of_finite (reads : w.Reads source g)
    (finite : g.isFinite g.cells.size g.root = true) : ¬w.MergesEndlessly source argument :=
  not_mergesEndlessly_of_reads reads ((finite_document g (g.finite_of_isFinite finite)).2 _)

/-- A world whose packaged file is a text. -/
def ofPackaged (text : String) : World := { package := { contents := .ok (Text.Utf8.encode text) } }

theorem environment_ofPackaged (text : String) (argument : Option String) :
    (ofPackaged text).environment argument = Environment.resolve argument none := rfl

theorem reads_packaged {text : String}
    (parsed : (Yaml.parse (Text.Utf8.decode (Text.Utf8.encode text))).toOption = some (some g)) :
    (ofPackaged text).Reads .packaged g := ⟨_, rfl, eq_ok_of_toOption parsed⟩

/-- A section and its override. -/
def plainText : String :=
  "logging: \x7b\x7d\n" ++
  "environments: \x7btest: \x7blogging: \x7blevel: warn\x7d\x7d\x7d\n"

def plainGraph : Yaml.Graph where
  cells := #[
    .list [], .mapping [("logging", .cell 2), ("environments", .cell 3)],
    .mapping [], .mapping [("test", .cell 4)],
    .mapping [("logging", .cell 5)], .mapping [("level", .text "warn")]]
  root := .cell 1

/-- Both have other entries as well, under names that all mappings inherit. -/
def annotatedText : String :=
  "logging: \x7btoString: x\x7d\n" ++
  "environments: \x7btest: \x7bconstructor: y, logging: \x7blevel: warn\x7d\x7d\x7d\n"

def annotatedGraph : Yaml.Graph where
  cells := #[
    .list [], .mapping [("logging", .cell 2), ("environments", .cell 3)],
    .mapping [("toString", .text "x")], .mapping [("test", .cell 4)],
    .mapping [("constructor", .text "y"), ("logging", .cell 5)],
    .mapping [("level", .text "warn")]]
  root := .cell 1

theorem edits_annotated :
    Relation.EqvGen (Value.Edited true outline) plainGraph.document annotatedGraph.document := by
  let override : Value := .ofFields [("logging", .ofFields [("level", .text "warn")])]
  let annotated : Value := .ofFields [("constructor", .text "y"),
    ("logging", .ofFields [("level", .text "warn")])]
  let whole (logging override : Value) : Value :=
    .ofFields [("logging", logging), ("environments", .ofFields [("test", override)])]
  have first : Value.Edited true outline (whole (.ofFields []) override)
      (whole (.ofFields [("toString", .text "x")]) override) :=
    .inside (.each ["level", "name"] .leaf) rfl (.entry rfl _ [] [] []) [] _ []
  have second : Value.Edited true outline (whole (.ofFields [("toString", .text "x")]) override)
      (whole (.ofFields [("toString", .text "x")]) annotated) := by
    refine .inside (.each (Environment.all.map Environment.name) sections) rfl ?_
      [("logging", _)] [] []
    exact .inside sections rfl (.entry rfl _ [] _ []) [] [] []
  exact .trans _ _ _ (.rel _ _ first) (.rel _ _ second)

theorem names_of_methods_make_no_difference :
    (ofPackaged plainText).load .packaged (some "test") =
      (ofPackaged annotatedText).load .packaged (some "test") := by
  have reads : (ofPackaged plainText).Reads .packaged plainGraph := reads_packaged (by decide +kernel)
  have reads' : (ofPackaged annotatedText).Reads .packaged annotatedGraph :=
    reads_packaged (by decide +kernel)
  have same : (ofPackaged plainText).environment (some "test") =
      (ofPackaged annotatedText).environment (some "test") := by
    rw [environment_ofPackaged, environment_ofPackaged]
  have ends : ¬(ofPackaged plainText).MergesEndlessly .packaged (some "test") :=
    not_mergesEndlessly_of_finite reads (by decide +kernel)
  have ends' : ¬(ofPackaged annotatedText).MergesEndlessly .packaged (some "test") :=
    not_mergesEndlessly_of_finite reads' (by decide +kernel)
  exact (unknown_entries_make_no_difference reads reads' same rfl ends ends').1 edits_annotated

/-- An override with an ancestor that has a section. -/
def inheritingText : String :=
  "environments:\n" ++
  "  development:\n" ++
  "    __proto__:\n" ++
  "      logging:\n" ++
  "        level: error\n"

def inheritingGraph : Yaml.Graph where
  cells := #[
    .list [], .mapping [("environments", .cell 3)],
    .list [], .mapping [("development", .cell 5)],
    .list [], .mapping [(Value.ancestorKey, .cell 7)],
    .list [], .mapping [("logging", .cell 9)],
    .list [], .mapping [("level", .text "error")]]
  root := .cell 1

/-- The same without the ancestor. -/
def bareText : String := "environments: \x7bdevelopment: \x7b\x7d\x7d\n"

def bareGraph : Yaml.Graph where
  cells := #[
    .list [], .mapping [("environments", .cell 2)], .mapping [("development", .cell 3)], .mapping []]
  root := .cell 1

/-- It is not so for all names: what an override has under `__proto__` comes to be settings. -/
theorem not_always_without_influence :
    ¬∀ (w w' : World) (source : Source) (argument : Option String) (g h : Yaml.Graph),
      w.Reads source g → w'.Reads source h →
      w.environment argument = w'.environment argument → g.document.isMapping = true →
      ¬w.MergesEndlessly source argument → ¬w'.MergesEndlessly source argument →
      Relation.EqvGen (Value.Edited false outline) g.document h.document →
        w.load source argument = w'.load source argument := by
  intro always
  have reads : (ofPackaged bareText).Reads .packaged bareGraph := reads_packaged (by decide +kernel)
  have reads' : (ofPackaged inheritingText).Reads .packaged inheritingGraph :=
    reads_packaged (by decide +kernel)
  have same : (ofPackaged bareText).environment none = (ofPackaged inheritingText).environment none := by
    rw [environment_ofPackaged, environment_ofPackaged]
  have ends : ¬(ofPackaged bareText).MergesEndlessly .packaged none :=
    not_mergesEndlessly_of_finite reads (by decide +kernel)
  have ends' : ¬(ofPackaged inheritingText).MergesEndlessly .packaged none :=
    not_mergesEndlessly_of_finite reads' (by decide +kernel)
  have edited : Value.Edited false outline bareGraph.document inheritingGraph.document := by
    refine .inside (.each (Environment.all.map Environment.name) sections) rfl ?_ [] [] []
    exact .inside sections rfl (.entry rfl _ [] [] []) [] [] []
  have loads := always _ _ .packaged none _ _ reads reads' same rfl ends ends' (.rel _ _ edited)
  have levels := congrArg (fun result => result.toOption.map Config.level) loads
  have info : ((ofPackaged bareText).load .packaged none).toOption.map Config.level =
      some (.atLeast .info) := by
    rw [load_of_reads reads rfl ends]
    decide +kernel
  have error : ((ofPackaged inheritingText).load .packaged none).toOption.map Config.level =
      some (.atLeast .error) := by
    rw [load_of_reads reads' rfl ends']
    decide +kernel
  rw [info, error] at levels
  cases levels

end World
end Config

end Turnstile
