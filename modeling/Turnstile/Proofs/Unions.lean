import Turnstile.Proofs.Rejections

/-!
Merging as a union of trees in which the second one prevails. A path of keys is followed down in both
of them as long as both hold mappings. Where it leaves one of the two, it goes on in the second one if
that has the next key, and in the first one if it has not. Merging in a tree that was merged in before
changes nothing.

Instants and byte strings are leaves of a tree, and yet they count as mappings in a merge. So the laws
of paths hold of all trees with what counts as a mapping, and with mappings proper where there are no
such leaves; and just the trees without such leaves stay as they are when merged into themselves.
-/
namespace Turnstile

namespace Fields
variable {fields : Fields} {key : String} {value : Value}

theorem put_of_lookup (held : fields.lookup key = some value) : fields.put key value = fields := by
  induction fields with
  | nil => cases held
  | cons field rest ih =>
      obtain ⟨name, old⟩ := field
      rw [lookup_cons_eq] at held
      rw [put]
      by_cases first : name = key
      · rw [if_pos first.symm] at held
        rw [if_pos first, first, Option.some.inj held]
      · rw [if_neg (Ne.symm first)] at held
        rw [if_neg first, ih held]

theorem put_of_absent (absent : fields.lookup key = none) (value : Value) :
    fields.put key value = fields ++ [(key, value)] := by
  induction fields with
  | nil => rfl
  | cons field rest ih =>
      obtain ⟨name, old⟩ := field
      rw [lookup_cons_eq] at absent
      rw [put]
      by_cases first : name = key
      · rw [if_pos first.symm] at absent
        cases absent
      · rw [if_neg (Ne.symm first)] at absent
        rw [if_neg first, ih absent, List.cons_append]

end Fields

namespace Value
variable {t s v inner : Value} {fields old new : Fields} {key : String} {path : List String}

/-- A mapping of trees in which each key stands once and none names an ancestor, or a leaf: anything
else that is there. -/
inductive Tree : Value → Prop
  | leaf {v : Value} (defined : v ≠ .undefined) (other : ∀ own inherited, v ≠ .mapping own inherited) :
      Tree v
  | mapping {fields : Fields} (distinct : (fields.map Prod.fst).Nodup)
      (ancestorless : ancestorKey ∉ fields.map Prod.fst) (parts : ∀ field ∈ fields, Tree field.2) :
      Tree (.ofFields fields)

/-- The field that a value itself has under a key. -/
def own? (v : Value) (key : String) : Option Value :=
  v.entries?.bind (·.lookup key)

/-- What a value holds at a path of keys. -/
def descend? : Value → List String → Option Value
  | v, [] => some v
  | v, key :: path => (v.own? key).bind fun inner => descend? inner path

theorem own?_of_scalar (scalar : v.isMapping = false) (key : String) : v.own? key = none := by
  have none : v.entries? = none := by simpa [isMapping] using scalar
  rw [own?, none, Option.bind_none]

theorem Tree.defined (tree : Tree v) : v ≠ .undefined := by
  cases tree with
  | leaf defined => exact defined
  | mapping => simp [ofFields]

/-- Fields with numbers for keys are as plain as those of a mapping. -/
theorem plain_bytes (bytes : List UInt8) :
    Fields.Plain (bytes.zipIdx.map fun (byte, i) => (toString i, .number (.ofInt byte.toNat))) where
  distinct := by
    have keys : (bytes.zipIdx.map fun (byte, i) =>
        (toString i, Value.number (.ofInt byte.toNat))).map Prod.fst =
          (bytes.zipIdx.map Prod.snd).map Nat.repr := by
      rw [List.map_map, List.map_map]
      rfl
    rw [keys, List.zipIdx_map_snd]
    exact List.Nodup.map (fun _ _ => Nat.repr_injective) List.nodup_range'
  ancestorless mem := by
    obtain ⟨field, numbered, here⟩ := List.mem_map.1 mem
    have score : '_' ∈ ancestorKey.toList := by decide
    have none := lookup_numbered (fun byte : UInt8 => Value.number (.ofInt byte.toNat)) score
      (by decide) bytes
    have differs := List.lookup_eq_none_iff.1 none field numbered
    rw [here] at differs
    simp at differs
  defined field mem := by
    obtain ⟨entry, -, rfl⟩ := List.mem_map.1 mem
    simp

/-- What counts as a mapping in a tree has plain fields, and each of them is a tree. -/
theorem Tree.plain (tree : Tree v) (own : v.entries? = some fields) :
    fields.Plain ∧ ∀ field ∈ fields, Tree field.2 := by
  cases tree with
  | mapping distinct ancestorless parts =>
      cases own
      exact ⟨⟨distinct, ancestorless, fun field mem => (parts field mem).defined⟩, parts⟩
  | leaf defined other =>
      cases v with
      | mapping => exact absurd rfl (other _ _)
      | instant ms =>
          cases own
          exact ⟨⟨List.nodup_nil, by simp, by simp⟩, by simp⟩
      | binary bytes =>
          cases own
          refine ⟨plain_bytes bytes, fun field mem => ?_⟩
          obtain ⟨entry, -, rfl⟩ := List.mem_map.1 mem
          exact .leaf (by simp) (by simp)
      | _ => cases own

theorem Tree.inside (tree : Tree v) (held : v.own? key = some inner) : Tree inner := by
  obtain ⟨fields, own, found⟩ := Option.bind_eq_some_iff.1 held
  exact (tree.plain own).2 _ (mem_of_lookup found)

theorem own?_ofFields (fields : Fields) (key : String) :
    (ofFields fields).own? key = fields.lookup key := rfl

theorem merge_ofFields_eq (plain : new.Plain) (own : t.entries? = some old) :
    t.merge (.ofFields new) = .ofFields (mergeFields new ⟨old, []⟩).own := by
  rw [merge, ofFields, mergeOver, own]
  exact congrArg (Value.mapping _) (lookup_mergeFields plain old).1

/-- A byte string is put into a mapping as its bytes would be merged in. -/
theorem foldl_put_eq (plain : new.Plain) (scalars : ∀ field ∈ new, field.2.isMapping = false)
    (old : Fields) :
    new.foldl (fun acc field => Fields.put acc field.1 field.2) old =
      (mergeFields new ⟨old, []⟩).own := by
  induction new generalizing old with
  | nil => rw [mergeFields, List.foldl_nil]
  | cons field rest ih =>
      have scalar := scalars field List.mem_cons_self
      rw [List.foldl_cons, mergeFields_cons plain, merge_of_not_mapping (.inr scalar)]
      exact ih plain.tail (fun field mem => scalars field (List.mem_cons_of_mem _ mem)) _

/-- Whatever counts as a mapping is merged in field by field. -/
theorem merge_eq_mergeFields (tree : Tree s) (below : t.entries? = some old)
    (above : s.entries? = some new) : t.merge s = .ofFields (mergeFields new ⟨old, []⟩).own := by
  have plain := (tree.plain above).1
  cases tree with
  | mapping =>
      cases above
      exact merge_ofFields_eq plain below
  | leaf defined other =>
      rw [merge, mergeOver.eq_2 _ _ other, below, above]
      refine congrArg ofFields (foldl_put_eq plain (fun field mem => ?_) old)
      cases s with
      | mapping => exact absurd rfl (other _ _)
      | instant ms =>
          cases above
          cases mem
      | binary bytes =>
          cases above
          obtain ⟨entry, -, rfl⟩ := List.mem_map.1 mem
          rfl
      | _ => cases above

/-- A field that the second value has is merged over that of the first one, any other field is that of
the first one. -/
theorem own?_merge (tree : Tree s) (below : t.isMapping = true) (above : s.isMapping = true)
    (key : String) :
    (t.merge s).own? key =
      ((s.own? key).map fun v => ((t.own? key).getD .undefined).merge v).or (t.own? key) := by
  obtain ⟨old, below⟩ := Option.isSome_iff_exists.1 below
  obtain ⟨new, above⟩ := Option.isSome_iff_exists.1 above
  rw [merge_eq_mergeFields tree below above, own?_ofFields,
    (lookup_mergeFields (tree.plain above).1 old).2, own?, own?, below, above]
  simp only [Option.bind_some]
  cases new.lookup key <;> rfl

theorem merge_empty (old : Fields) :
    (ofFields old).merge (.ofFields []) = .ofFields old := by
  simp [merge, ofFields, mergeOver, mergeFields, entries?]

/-- Fields under new keys are added at the end. -/
theorem mergeFields_of_absent (plain : new.Plain)
    (absent : ∀ field ∈ new, old.lookup field.1 = none) :
    mergeFields new ⟨old, []⟩ = ⟨old ++ new, []⟩ := by
  induction new generalizing old with
  | nil => rw [mergeFields, List.append_nil]
  | cons field rest ih =>
      have here : old.lookup field.1 = none := absent field List.mem_cons_self
      have whole : Value.undefined.merge field.2 = field.2 := merge_of_not_mapping (.inl rfl)
      have fresh := (List.nodup_cons.1 plain.distinct).1
      rw [mergeFields_cons plain, here, Option.getD_none, whole, Fields.put_of_absent here,
        ih plain.tail, List.append_assoc, List.singleton_append]
      intro later mem
      have differs : later.1 ≠ field.1 := fun same => fresh (List.mem_map.2 ⟨later, mem, same⟩)
      rw [List.lookup_append, absent later (List.mem_cons_of_mem _ mem), lookup_cons_eq,
        if_neg differs]
      rfl

theorem empty_merge (plain : new.Plain) :
    (ofFields []).merge (.ofFields new) = .ofFields new := by
  rw [merge_ofFields_eq plain rfl, mergeFields_of_absent plain fun field mem => rfl, List.nil_append]

/-- A mapping, and not only what counts as one. -/
def isProper : Value → Bool
  | .mapping _ _ => true
  | _ => false

/-- At no path there is a value that counts as a mapping without being one. -/
def Proper (v : Value) : Prop :=
  ∀ path inner, v.descend? path = some inner → inner.isMapping = inner.isProper

theorem proper_of_scalar (scalar : v.isMapping = false) : Proper v := by
  intro path inner held
  cases path with
  | nil =>
      cases held
      cases v with
      | mapping => cases scalar
      | _ => exact scalar
  | cons key path =>
      rw [descend?, own?_of_scalar scalar] at held
      cases held

theorem proper_ofFields (parts : ∀ field ∈ fields, Proper field.2) : Proper (.ofFields fields) := by
  intro path inner held
  cases path with
  | nil =>
      cases held
      rfl
  | cons key path =>
      rw [descend?, own?_ofFields] at held
      obtain ⟨v, found, held⟩ := Option.bind_eq_some_iff.1 held
      exact parts _ (mem_of_lookup found) path inner held

theorem Proper.inside (proper : Proper v) (held : v.own? key = some inner) : Proper inner := by
  intro path innermost below
  apply proper (key :: path)
  rw [descend?, held, Option.bind_some, below]

/-- Fields that a merge leaves as they are. -/
theorem merge_of_absorbed (plain : new.Plain) (absorbed : ∀ field ∈ new,
    ∃ held, old.lookup field.1 = some held ∧ held.merge field.2 = held) :
    (ofFields old).merge (.ofFields new) = .ofFields old := by
  have same : mergeFields new ⟨old, []⟩ = ⟨old, []⟩ := by
    induction new with
    | nil => rw [mergeFields]
    | cons field rest ih =>
        obtain ⟨held, found, here⟩ := absorbed field List.mem_cons_self
        rw [mergeFields_cons plain, found, Option.getD_some, here, Fields.put_of_lookup found]
        exact ih plain.tail fun field mem => absorbed field (List.mem_cons_of_mem _ mem)
  rw [merge_ofFields_eq plain rfl, same]

/-- Under each key of a mapping that is merged in, there is the merge of what stands there. -/
theorem lookup_of_merged (plain : new.Plain) (t : Value) :
    ∃ merged, t.merge (.ofFields new) = .ofFields merged ∧
      ∀ field ∈ new, ∃ x : Value, merged.lookup field.1 = some (x.merge field.2) := by
  cases own : t.entries? with
  | none =>
      have scalar : t.isMapping = false := by rw [isMapping, own, Option.isSome_none]
      refine ⟨new, merge_of_not_mapping (.inl scalar), fun field mem => ⟨.undefined, ?_⟩⟩
      rw [merge_of_not_mapping (.inl rfl), lookup_of_mem plain.distinct mem]
  | some old =>
      refine ⟨_, merge_ofFields_eq plain own, fun field mem => ?_⟩
      exact ⟨_, by rw [(lookup_mergeFields plain old).2, lookup_of_mem plain.distinct mem]⟩

/-- A tree that was merged in is not merged in again. -/
theorem merge_merge (tree : Tree s) (proper : Proper s) (t : Value) :
    (t.merge s).merge s = t.merge s := by
  induction tree generalizing t with
  | @leaf s defined other =>
      have scalar : s.isMapping = false := by
        rw [proper [] s rfl]
        cases s with
        | mapping => exact absurd rfl (other _ _)
        | _ => rfl
      rw [merge_of_not_mapping (.inr scalar), merge_of_not_mapping (.inr scalar)]
  | @mapping fields distinct ancestorless parts ih =>
      have plain : fields.Plain := ⟨distinct, ancestorless, fun field mem => (parts field mem).defined⟩
      obtain ⟨merged, same, lookups⟩ := lookup_of_merged plain t
      -- Under each key there is a merge with the part that comes in again, which leaves it as it is.
      rw [same]
      refine merge_of_absorbed plain fun field mem => ?_
      obtain ⟨x, found⟩ := lookups field mem
      have held : (ofFields fields).own? field.1 = some field.2 := lookup_of_mem distinct mem
      exact ⟨_, found, ih field mem (proper.inside held) x⟩

/-- What counts as a mapping without being one becomes a mapping when it is merged into itself. -/
theorem isMapping_of_merge_self (other : ∀ own inherited, s ≠ .mapping own inherited)
    (same : s.merge s = s) : s.isMapping = false := by
  rw [isMapping, Option.isSome_eq_false_iff, Option.isNone_iff_eq_none]
  cases own : s.entries? with
  | none => rfl
  | some fields =>
      rw [merge, mergeOver.eq_2 _ _ other, own] at same
      exact absurd same.symm (other _ _)

/-- A tree is the same after it was merged into itself just if it is proper. -/
theorem merge_self_iff (tree : Tree s) : s.merge s = s ↔ Proper s := by
  constructor
  · intro same
    induction tree with
    | leaf defined other => exact proper_of_scalar (isMapping_of_merge_self other same)
    | @mapping fields distinct ancestorless parts ih =>
        refine proper_ofFields fun field mem => ih field mem ?_
        have held : (ofFields fields).own? field.1 = some field.2 := lookup_of_mem distinct mem
        have merged := own?_merge (.mapping distinct ancestorless parts)
          (rfl : (ofFields fields).isMapping = true) rfl field.1
        rw [same, held, Option.map_some, Option.some_or] at merged
        exact (Option.some.inj merged).symm
  · intro proper
    have whole : Value.undefined.merge s = s := merge_of_not_mapping (.inl rfl)
    have again := merge_merge tree proper .undefined
    rwa [whole] at again

/-- Both values hold mappings at a path, where `counts` tells what a mapping is. -/
def Meet (counts : Value → Bool) (t s : Value) (path : List String) : Prop :=
  (t.descend? path).any counts = true ∧ (s.descend? path).any counts = true

/-- The path leads through `shared`, its longest beginning at which both hold mappings, and goes on
with `rest`. -/
structure Parts (counts : Value → Bool) (t s : Value) (path shared rest : List String) : Prop where
  whole : path = shared ++ rest
  meet : Meet counts t s shared
  longest : ∀ more after, path = more ++ after → Meet counts t s more → more.length ≤ shared.length

/-- What the merge holds at a path. Where both hold mappings it is the merge of these. Elsewhere it is
what the second one holds there, if anything, provided that it has the key after the mappings that both
hold, and what the first one holds there otherwise. -/
def Unites (counts : Value → Bool) (t s : Value) (path : List String) : Prop :=
  ∃ shared rest, Parts counts t s path shared rest ∧
    match rest with
    | [] => ∃ a b, t.descend? path = some a ∧ s.descend? path = some b ∧
        (t.merge s).descend? path = some (a.merge b)
    | key :: _ => (t.merge s).descend? path =
        if (s.descend? (shared ++ [key])).isSome then s.descend? path else t.descend? path

theorem descend?_key (v : Value) (key : String) : v.descend? [key] = v.own? key := by
  cases held : v.own? key <;> simp [descend?, held]

theorem isMapping_of_own? (held : v.own? key = some inner) : v.isMapping = true := by
  obtain ⟨fields, own, -⟩ := Option.bind_eq_some_iff.1 held
  rw [isMapping, own, Option.isSome_some]

/-- What holds a mapping somewhere inside counts as one. -/
theorem isMapping_of_descend? (held : (v.descend? path).any isMapping = true) :
    v.isMapping = true := by
  cases path with
  | nil => exact held
  | cons key path =>
      obtain ⟨inner, here, -⟩ := (Option.any_eq_true _ _).1 held
      rw [descend?] at here
      obtain ⟨next, own, -⟩ := Option.bind_eq_some_iff.1 here
      exact isMapping_of_own? own

/-- Both hold mappings further down just if they do so from the next key on. -/
theorem meet_cons :
    Meet isMapping t s (key :: path) ↔
      ∃ x v, t.own? key = some x ∧ s.own? key = some v ∧ Meet isMapping x v path := by
  simp only [Meet, descend?]
  cases t.own? key <;> cases s.own? key <;> simp

theorem Parts.cons {x : Value} {shared rest : List String}
    (parts : Parts isMapping x v path shared rest) (below : t.own? key = some x)
    (above : s.own? key = some v) : Parts isMapping t s (key :: path) (key :: shared) rest where
  whole := congrArg (key :: ·) parts.whole
  meet := meet_cons.2 ⟨x, v, below, above, parts.meet⟩
  longest more after whole meet := by
    cases more with
    | nil => exact Nat.zero_le _
    | cons first more =>
        obtain ⟨rfl, further⟩ := List.cons.inj whole
        obtain ⟨x', v', below', above', meet⟩ := meet_cons.1 meet
        cases below.symm.trans below'
        cases above.symm.trans above'
        exact Nat.succ_le_succ (parts.longest more after further meet)

/-- A path parts the two at once if under its first key they do not both hold mappings. -/
theorem parts_at_once (below : t.isMapping = true) (above : s.isMapping = true)
    (apart : ∀ x v, t.own? key = some x → s.own? key = some v →
      ¬(x.isMapping = true ∧ v.isMapping = true)) :
    Parts isMapping t s (key :: path) [] (key :: path) where
  whole := rfl
  meet := ⟨below, above⟩
  longest more after whole meet := by
    cases more with
    | nil => exact Nat.le_refl _
    | cons first more =>
        obtain ⟨rfl, -⟩ := List.cons.inj whole
        obtain ⟨x, v, below, above, meet⟩ := meet_cons.1 meet
        exact absurd ⟨isMapping_of_descend? meet.1, isMapping_of_descend? meet.2⟩
          (apart x v below above)

/-- Where both hold mappings under a key, the merge is followed down into the merge of these. -/
theorem Unites.cons {x : Value} (unites : Unites isMapping x v path) (below : t.own? key = some x)
    (above : s.own? key = some v) (merged : (t.merge s).own? key = some (x.merge v)) :
    Unites isMapping t s (key :: path) := by
  obtain ⟨shared, rest, parts, law⟩ := unites
  refine ⟨key :: shared, rest, parts.cons below above, ?_⟩
  simp only [List.cons_append, descend?, below, above, merged, Option.bind_some]
  exact law

theorem merge_unites (tree : Tree s) (below : t.isMapping = true) (above : s.isMapping = true)
    (path : List String) : Unites isMapping t s path := by
  induction path generalizing t s with
  | nil =>
      refine ⟨[], [], ⟨rfl, ⟨below, above⟩, fun more after whole _ => ?_⟩, t, s, rfl, rfl, rfl⟩
      rw [(List.append_eq_nil_iff.1 whole.symm).1]
  | cons key path ih =>
      have merged := own?_merge tree below above key
      -- If both hold mappings under the first key, the path goes on in these. If not, it parts here.
      by_cases deeper : ∃ x v, t.own? key = some x ∧ s.own? key = some v ∧
          x.isMapping = true ∧ v.isMapping = true
      · obtain ⟨x, v, first, second, mapping, mapping'⟩ := deeper
        rw [first, second] at merged
        exact (ih (tree.inside second) mapping mapping').cons first second merged
      · have parts : Parts isMapping t s (key :: path) [] (key :: path) :=
          parts_at_once below above fun x v first second mappings =>
            deeper ⟨x, v, first, second, mappings⟩
        refine ⟨[], key :: path, parts, ?_⟩
        simp only [List.nil_append, descend?_key, descend?]
        cases second : s.own? key with
        | none => simp [merged, second]
        | some v =>
            have scalar : ((t.own? key).getD .undefined).isMapping = false ∨ v.isMapping = false := by
              cases first : t.own? key with
              | none => exact .inl rfl
              | some x =>
                  by_contra mappings
                  simp only [Option.getD_some, not_or, Bool.not_eq_false] at mappings
                  exact deeper ⟨x, v, first, second, mappings⟩
            simp [merged, second, merge_of_not_mapping scalar]

theorem meet_isProper (first : Proper t) (second : Proper s) (path : List String) :
    Meet isProper t s path ↔ Meet isMapping t s path := by
  have same {v : Value} (proper : Proper v) :
      (v.descend? path).any isProper = (v.descend? path).any isMapping := by
    cases held : v.descend? path with
    | none => rfl
    | some inner => exact (proper path inner held).symm
  rw [Meet, Meet, same first, same second]

theorem Unites.proper (unites : Unites isMapping t s path) (first : Proper t) (second : Proper s) :
    Unites isProper t s path := by
  obtain ⟨shared, rest, parts, law⟩ := unites
  have meet := meet_isProper first second
  exact ⟨shared, rest, ⟨parts.whole, (meet shared).2 parts.meet,
    fun more after whole here => parts.longest more after whole ((meet more).1 here)⟩, law⟩

/-- The laws of a union of trees in which the second one prevails. -/
structure IsUnion (t s : Value) : Prop where
  merge_empty : t.merge (.ofFields []) = t
  empty_merge : (ofFields []).merge s = s
  merge_self : s.merge s = s
  merge_merge : (t.merge s).merge s = t.merge s
  unites : ∀ path, Unites isProper t s path

/-- A merge with an empty mapping has nothing to do, whichever of the two is empty. At every path the
merge holds what comes of that path in both, as far as values count as mappings. A tree stays as it is
when it is merged into itself just if it is proper, and a proper mapping with a proper tree merged into
it is a union of the two. -/
theorem merge_is_union (tree : Tree (.ofFields new)) (old : Fields) :
    (ofFields old).merge (.ofFields []) = .ofFields old ∧
    (ofFields []).merge (.ofFields new) = .ofFields new ∧
    (∀ path, Unites isMapping (.ofFields old) (.ofFields new) path) ∧
    ((ofFields new).merge (.ofFields new) = .ofFields new ↔ Proper (.ofFields new)) ∧
    (Proper (.ofFields old) → Proper (.ofFields new) → IsUnion (.ofFields old) (.ofFields new)) := by
  have plain : new.Plain := (tree.plain rfl).1
  have unites := merge_unites (t := .ofFields old) tree rfl rfl
  refine ⟨merge_empty old, empty_merge plain, unites, merge_self_iff tree, fun proper proper' => ?_⟩
  exact {
    merge_empty := merge_empty old
    empty_merge := empty_merge plain
    merge_self := (merge_self_iff tree).2 proper'
    merge_merge := merge_merge tree proper' _
    unites := fun path => (unites path).proper proper proper' }

/-- Sections of which an override changes one and replaces another. -/
def sectionsBelow : Fields := [
  ("logging", .ofFields [("level", .text "info"), ("name", .text "app")]),
  ("limit", .text "none"),
  ("tags", .list [.text "a", .null])]

def sectionsAbove : Fields := [
  ("logging", .ofFields [("level", .null), ("target", .ofFields [("path", .text "log")])]),
  ("limit", .ofFields [("max", .boolean true)])]

theorem overridden_sections_are_united :
    IsUnion (.ofFields sectionsBelow) (.ofFields sectionsAbove) := by
  have tree : Tree (.ofFields sectionsAbove) := by
    have target : Tree (.ofFields [("path", .text "log")]) :=
      .mapping (by decide) (by decide) (by simp [Tree.leaf])
    have logging : Tree (.ofFields
        [("level", .null), ("target", .ofFields [("path", .text "log")])]) :=
      .mapping (by decide) (by decide) (by simp [Tree.leaf, target])
    have limit : Tree (.ofFields [("max", .boolean true)]) :=
      .mapping (by decide) (by decide) (by simp [Tree.leaf])
    exact .mapping (by decide) (by decide) (by simp [sectionsAbove, logging, limit])
  have text (s : String) : Proper (.text s) := proper_of_scalar rfl
  have below : Proper (.ofFields sectionsBelow) := by
    have logging : Proper (.ofFields [("level", .text "info"), ("name", .text "app")]) :=
      proper_ofFields (by simp [text])
    have tags : Proper (.list [.text "a", .null]) := proper_of_scalar rfl
    exact proper_ofFields (by simp [sectionsBelow, logging, text, tags])
  have above : Proper (.ofFields sectionsAbove) := by
    have level : Proper .null := proper_of_scalar rfl
    have target : Proper (.ofFields [("path", .text "log")]) := proper_ofFields (by simp [text])
    have logging : Proper (.ofFields
        [("level", .null), ("target", .ofFields [("path", .text "log")])]) :=
      proper_ofFields (by simp [level, target])
    have max : Proper (.boolean true) := proper_of_scalar rfl
    have limit : Proper (.ofFields [("max", .boolean true)]) := proper_ofFields (by simp [max])
    exact proper_ofFields (by simp [sectionsAbove, logging, limit])
  exact (merge_is_union tree sectionsBelow).2.2.2.2 below above

/-- A section, and a date that an override has in its place. -/
def leveled : Fields := [("logging", .ofFields [("level", .text "warn")])]

def dated : Fields := [("logging", .instant 1704067200000)]

/-- With a date among the leaves the merge is no union: the date does not replace a mapping. -/
theorem not_always_union :
    ¬∀ old new : Fields, Tree (.ofFields old) → Tree (.ofFields new) →
      IsUnion (.ofFields old) (.ofFields new) := by
  intro always
  have below : Tree (.ofFields leveled) := by
    have logging : Tree (.ofFields [("level", .text "warn")]) :=
      .mapping (by decide) (by decide) (by simp [Tree.leaf])
    exact .mapping (by decide) (by decide) (by simp [leveled, logging])
  have above : Tree (.ofFields dated) :=
    .mapping (by decide) (by decide) (by simp [dated, Tree.leaf])
  obtain ⟨shared, rest, parts, law⟩ := (always leveled dated below above).unites ["logging"]
  have date : (ofFields dated).descend? ["logging"] = some (.instant 1704067200000) := rfl
  -- Both hold mappings at the root alone, so the path leads into the second one.
  obtain rfl : shared = [] := by
    cases shared with
    | nil => rfl
    | cons key shared =>
        obtain ⟨rfl, further⟩ := List.cons.inj parts.whole
        obtain ⟨rfl, -⟩ := List.append_eq_nil_iff.1 further.symm
        have meet := parts.meet.2
        rw [date] at meet
        cases meet
  obtain rfl : rest = ["logging"] := parts.whole.symm
  have merged : ((ofFields leveled).merge (.ofFields dated)).descend? ["logging"] =
      some (.instant 1704067200000) := law
  rw [descend?_key, own?_merge above rfl rfl] at merged
  cases merged

end Value
end Turnstile
