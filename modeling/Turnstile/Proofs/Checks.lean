import Mathlib
import Turnstile.Config.Schema
import Turnstile.Proofs.Merges

/-!
What the checks of a configuration accept, said of the values and not of the checks: sections are
missing or mappings, and each of the five fields is missing, which stands for its default, or holds a
value of its own kind. A check looks at a value and not into it, apart from the fields of sections.
-/
namespace Turnstile

namespace Number

theorem eq_ofInt_of_isInteger {n : Number} (integer : n.isInteger = true) : ∃ k : Int, n = .ofInt k := by
  cases n with
  | nan | infinite => cases integer
  | finite q =>
      have whole : q.den = 1 := of_decide_eq_true integer
      exact ⟨q.num, congrArg Number.finite ((Rat.den_eq_one_iff q).1 whole).symm⟩

theorem isInteger_ofInt (k : Int) : (ofInt k).isInteger = true := by
  simp [ofInt, isInteger]

theorem toInt?_ofInt (k : Int) : (ofInt k).toInt? = some k := by
  simp [ofInt, toInt?]

end Number

namespace Logging.Threshold

theorem ofText?_eq_some {s : String} {t : Threshold} : ofText? s = some t ↔ s = t.text := by
  constructor
  · intro found
    have here := List.find?_some found
    exact (beq_iff_eq.1 here).symm
  · rintro rfl
    cases t with
    | atLeast level => cases level <;> decide
    | silent => decide

end Logging.Threshold

namespace Config
variable {v w : Value} {n : Nat}

/-- A value that is a whole number from `least` on. -/
def IsCount (least : Nat) (v : Value) (n : Nat) : Prop := v = .number (.ofInt n) ∧ least ≤ n

namespace CountRule
variable {rule : CountRule}

theorem check_ofInt (k : Int) :
    rule.check (.number (.ofInt k)) =
      if rule.tooSmall (.ofInt k) then .error [⟨[], rule.boundMessage⟩] else .ok k.toNat := by
  have violations : rule.violations (.ofInt k) =
      if rule.tooSmall (.ofInt k) then [⟨[], rule.boundMessage⟩] else [] := by
    simp [violations, Number.isInteger_ofInt]
  unfold check
  split
  · rename_i none
    simp [Number.ofInt] at none
  · rename_i here
    cases here
    rw [violations, Number.toInt?_ofInt]
    by_cases small : rule.tooSmall (.ofInt k) = true <;> simp [small]
  · rename_i other
    exact absurd rfl (other _)

/-- What a rule accepts is a whole number. -/
theorem whole_of_check (accepted : rule.check v = .ok n) : ∃ k : Int, v = .number (.ofInt k) := by
  unfold check at accepted
  split at accepted
  · cases accepted
  · rename_i m _
    split at accepted
    · rename_i none
      have integer : m.isInteger = true := by
        by_contra fraction
        simp [violations, fraction] at none
      obtain ⟨k, rfl⟩ := Number.eq_ofInt_of_isInteger integer
      exact ⟨k, rfl⟩
    · cases accepted
  · cases accepted

theorem check_eq_ok :
    rule.check v = .ok n ↔
      ∃ k : Int, v = .number (.ofInt k) ∧ rule.tooSmall (.ofInt k) = false ∧ k.toNat = n := by
  constructor
  · intro accepted
    obtain ⟨k, rfl⟩ := whole_of_check accepted
    rw [check_ofInt] at accepted
    split_ifs at accepted with small
    exact ⟨k, rfl, Bool.eq_false_iff.2 small, Except.ok.inj accepted⟩
  · rintro ⟨k, rfl, large, rfl⟩
    simp [check_ofInt, large]

/-- A rule whose bound is the least number that it lets pass. -/
theorem check_eq_ok_iff_isCount {least : Nat}
    (bound : ∀ k : Int, rule.tooSmall (.ofInt k) = false ↔ (least : Int) ≤ k) :
    rule.check v = .ok n ↔ IsCount least v n := by
  rw [check_eq_ok]
  constructor
  · rintro ⟨k, rfl, large, rfl⟩
    have large := (bound k).1 large
    rw [IsCount, Int.toNat_of_nonneg (by omega)]
    exact ⟨rfl, by omega⟩
  · rintro ⟨rfl, large⟩
    exact ⟨n, rfl, (bound n).2 (by omega), Int.toNat_natCast n⟩

theorem atLeast_eq_ok {least : Nat} : (atLeast least).check v = .ok n ↔ IsCount least v n := by
  refine check_eq_ok_iff_isCount fun k => ?_
  simp only [atLeast, Number.lt, Number.ofInt, decide_eq_false_iff_not, not_lt]
  norm_cast

theorem positive_eq_ok : positive.check v = .ok n ↔ IsCount 1 v n := by
  refine check_eq_ok_iff_isCount fun k => ?_
  simp only [positive, Number.le, Number.ofInt, decide_eq_false_iff_not, not_le]
  norm_cast

end CountRule

def IsLevel (v : Value) (t : Logging.Threshold) : Prop := v = .text t.text

def IsName (v : Value) (s : String) : Prop := v = .text s ∧ s ≠ ""

theorem checkLevel_eq_ok {t : Logging.Threshold} : checkLevel v = .ok t ↔ IsLevel v t := by
  cases v with
  | text s =>
      rw [checkLevel, IsLevel, Value.text.injEq, ← Logging.Threshold.ofText?_eq_some]
      cases Logging.Threshold.ofText? s <;> simp [Verdict.fail]
  | _ => simp [checkLevel, IsLevel, Verdict.fail]

theorem checkName_eq_ok {s : String} : checkName v = .ok s ↔ IsName v s := by
  cases v with
  | text given =>
      rw [checkName, IsName, Value.text.injEq]
      by_cases empty : given.isEmpty = true
      · rw [if_pos empty]
        constructor
        · intro accepted
          cases accepted
        · rintro ⟨rfl, named⟩
          exact absurd (String.isEmpty_iff.1 empty) named
      · rw [if_neg empty, Except.ok.injEq]
        constructor
        · rintro rfl
          exact ⟨rfl, fun same => empty (String.isEmpty_iff.2 same)⟩
        · exact And.left
  | _ => simp [checkName, IsName, Verdict.fail]

namespace Verdict

theorem under_eq_ok {key : String} {verdict : Verdict α} {a : α} :
    verdict.under key = .ok a ↔ verdict = .ok a := by
  cases verdict <;> simp [under]

theorem and_eq_ok {p : Verdict α} {q : Verdict β} {a : α} {b : β} :
    p.and q = .ok (a, b) ↔ p = .ok a ∧ q = .ok b := by
  cases p <;> cases q <;> simp [Verdict.and]

end Verdict

/-- A value that states a setting, as `reads` tells; a missing one states the default. -/
def States (reads : Value → α → Prop) (fallback : α) (v : Value) (a : α) : Prop :=
  v = .undefined ∧ a = fallback ∨ reads v a

theorem checkField_eq_ok {key : String} {fallback a : α} {check : Value → Verdict α}
    {reads : Value → α → Prop} (accepts : ∀ v a, check v = .ok a ↔ reads v a)
    (defined : ∀ a, ¬reads .undefined a) :
    checkField v key fallback check = .ok a ↔ States reads fallback (v.field key) a := by
  rw [checkField, Verdict.under_eq_ok, States]
  cases v.field key with
  | undefined => simp [orDefault, defined, eq_comm]
  | _ => simp [orDefault, accepts]

/-- A section is missing or a mapping. -/
def IsSection (v : Value) : Prop := v = .undefined ∨ v.kind = "object"

theorem checkSection_eq_ok {fields : Value → Verdict α} {states : Value → Prop} {a : α}
    (accepts : ∀ v, fields v = .ok a ↔ states v)
    (missing : states (.ofFields []) ↔ states .undefined) :
    checkSection fields v = .ok a ↔ IsSection v ∧ states v := by
  cases v with
  | undefined => simp [checkSection, IsSection, accepts, missing]
  | mapping | binary => simp [checkSection, checkMapping, IsSection, Value.kind, accepts]
  | number n => cases n <;> simp [checkSection, checkMapping, IsSection, Value.kind, Verdict.fail]
  | _ => simp [checkSection, checkMapping, IsSection, Value.kind, Verdict.fail]

/-- The five settings that the sections of a mapping state. -/
structure Stated (sections : Value) (c : Config) : Prop where
  limiterSection : IsSection (sections.field "tagged_limiter")
  runnerSection : IsSection (sections.field "task_runner")
  loggingSection : IsSection (sections.field "logging")
  maxConcurrentPerTag :
    States (IsCount 0) Defaults.maxConcurrentPerTag
      ((sections.field "tagged_limiter").field "max_concurrent_per_tag") c.maxConcurrentPerTag
  concurrency :
    States (IsCount 1) Defaults.concurrency
      ((sections.field "task_runner").field "concurrency") c.concurrency
  terminationTimeoutMs :
    States (IsCount 1) Defaults.terminationTimeoutMs
      ((sections.field "task_runner").field "termination_timeout_ms") c.terminationTimeoutMs
  level : States IsLevel Defaults.level ((sections.field "logging").field "level") c.level
  name : States IsName Defaults.name ((sections.field "logging").field "name") c.name

theorem checkLimiterSection_eq_ok :
    checkLimiterSection v = .ok n ↔
      IsSection v ∧
        States (IsCount 0) Defaults.maxConcurrentPerTag (v.field "max_concurrent_per_tag") n :=
  checkSection_eq_ok
    (fun v => checkField_eq_ok (fun v n => CountRule.atLeast_eq_ok) (by simp [IsCount])) Iff.rfl

theorem checkRunnerSection_eq_ok {ms : Nat} :
    checkRunnerSection v = .ok (n, ms) ↔
      IsSection v ∧
        (States (IsCount 1) Defaults.concurrency (v.field "concurrency") n ∧
          States (IsCount 1) Defaults.terminationTimeoutMs (v.field "termination_timeout_ms") ms) :=
  checkSection_eq_ok
    (fun v => Verdict.and_eq_ok.trans (and_congr
      (checkField_eq_ok (fun v n => CountRule.atLeast_eq_ok) (by simp [IsCount]))
      (checkField_eq_ok (fun v n => CountRule.positive_eq_ok) (by simp [IsCount])))) Iff.rfl

theorem checkLoggingSection_eq_ok {t : Logging.Threshold} {s : String} :
    checkLoggingSection v = .ok (t, s) ↔
      IsSection v ∧
        (States IsLevel Defaults.level (v.field "level") t ∧
          States IsName Defaults.name (v.field "name") s) :=
  checkSection_eq_ok
    (fun v => Verdict.and_eq_ok.trans (and_congr
      (checkField_eq_ok (fun v t => checkLevel_eq_ok) (by simp [IsLevel]))
      (checkField_eq_ok (fun v s => checkName_eq_ok) (by simp [IsName])))) Iff.rfl

theorem map_and_eq_ok {p : Verdict α} {q : Verdict β} {r : Verdict γ} {f : α × β × γ → δ} {d : δ} :
    ((p.and (q.and r)).map f) = .ok d ↔
      ∃ a b c, p = .ok a ∧ q = .ok b ∧ r = .ok c ∧ f (a, b, c) = d := by
  cases p <;> cases q <;> cases r <;> simp [Verdict.and, Except.map]

theorem checkMapping_of_object {fields : Value → Verdict α} (object : v.kind = "object") :
    checkMapping fields v = fields v := by
  cases v with
  | mapping | binary => rfl
  | number n => cases n <;> simp [Value.kind] at object
  | _ => simp [Value.kind] at object

theorem checkMapping_of_other {fields : Value → Verdict α} (other : v.kind ≠ "object") :
    checkMapping fields v = Verdict.fail (expected "object" v) := by
  cases v with
  | mapping | binary => exact absurd rfl other
  | _ => rfl

theorem checkMapping_eq_ok {fields : Value → Verdict α} {a : α} :
    checkMapping fields v = .ok a ↔ v.kind = "object" ∧ fields v = .ok a := by
  by_cases object : v.kind = "object"
  · simp [checkMapping_of_object object, object]
  · simp [checkMapping_of_other object, object, Verdict.fail]

/-- A configuration is accepted exactly if it is the one that the sections of a mapping state. -/
theorem check_eq_ok {c : Config} : check v = .ok c ↔ v.kind = "object" ∧ Stated v c := by
  rw [check, checkMapping_eq_ok, map_and_eq_ok]
  simp only [Verdict.under_eq_ok, Prod.exists, checkLimiterSection_eq_ok, checkRunnerSection_eq_ok,
    checkLoggingSection_eq_ok]
  refine and_congr_right fun _ => ?_
  constructor
  · rintro ⟨limit, lanes, ms, level, name, ⟨limiter, a⟩, ⟨runner, b, d⟩, ⟨logging, e, f⟩, rfl⟩
    exact ⟨limiter, runner, logging, a, b, d, e, f⟩
  · rintro ⟨limiter, runner, logging, a, b, d, e, f⟩
    exact ⟨_, _, _, _, _, ⟨limiter, a⟩, ⟨runner, b, d⟩, ⟨logging, e, f⟩, rfl⟩

theorem validate_eq_ok {c : Config} :
    validate v = .ok c ↔ v.kind = "object" ∧ Stated v c := by
  rw [validate, ← check_eq_ok]
  cases check v <;> simp [Verdict.orFault]

/-- A check that looks at a value and not into it. -/
def Shallow (check : Value → Verdict α) : Prop := ∀ v, check v.shape = check v

theorem Shallow.congr {check : Value → Verdict α} (shallow : Shallow check)
    (same : v.shape = w.shape) : check v = check w := by
  rw [← shallow v, same, shallow w]

theorem Shallow.orDefault {fallback : α} {check : Value → Verdict α} (shallow : Shallow check) :
    Shallow (orDefault fallback check) := by
  intro v
  cases v with
  | list | mapping => exact shallow _
  | _ => rfl

theorem expected_shape (wanted : String) (v : Value) :
    expected wanted v.shape = expected wanted v := by
  cases v <;> rfl

theorem CountRule.shallow {rule : CountRule}
    (messages : ∀ v, rule.kindMessage v.shape = rule.kindMessage v) : Shallow rule.check := by
  intro v
  cases v with
  | list | mapping => exact congrArg Verdict.fail (messages _)
  | _ => rfl

theorem shallow_atLeast (least : Nat) : Shallow (CountRule.atLeast least).check :=
  CountRule.shallow fun v => by cases v <;> rfl

theorem shallow_checkConcurrency : Shallow checkConcurrency := shallow_atLeast 1

theorem shallow_checkTimeout : Shallow checkTimeout := CountRule.shallow (expected_shape "number")

theorem shallow_checkLevel : Shallow checkLevel := by
  intro v
  cases v <;> rfl

theorem shallow_checkName : Shallow checkName := by
  intro v
  cases v <;> rfl

theorem checkField_congr {key : String} {fallback : α} {check : Value → Verdict α}
    (shallow : Shallow check) (same : (v.field key).shape = (w.field key).shape) :
    checkField v key fallback check = checkField w key fallback check := by
  rw [checkField, checkField, shallow.orDefault.congr same]

/-- Two sections that differ in nothing that a check sees. -/
structure SameSection (keys : List String) (v w : Value) : Prop where
  shape : v.shape = w.shape
  field : ∀ key ∈ keys, (v.field key).shape = (w.field key).shape

theorem checkSection_congr {keys : List String} {fields : Value → Verdict α}
    (reads : ∀ v w : Value, (∀ key ∈ keys, (v.field key).shape = (w.field key).shape) →
      fields v = fields w) (same : SameSection keys v w) :
    checkSection fields v = checkSection fields w := by
  obtain ⟨shape, field⟩ := same
  cases v with
  | mapping own inherited =>
      cases w with
      | mapping own' inherited' => exact reads _ _ field
      | _ => cases shape
  | list items =>
      cases w with
      | list items' => rfl
      | _ => cases shape
  | _ =>
      cases w with
      | list | mapping => cases shape
      | _ =>
          cases shape
          try rfl

theorem checkLimiterSection_congr (same : SameSection ["max_concurrent_per_tag"] v w) :
    checkLimiterSection v = checkLimiterSection w :=
  checkSection_congr (fun v w fields => checkField_congr (shallow_atLeast 0) (fields _ (by simp)))
    same

theorem checkRunnerSection_congr
    (same : SameSection ["concurrency", "termination_timeout_ms"] v w) :
    checkRunnerSection v = checkRunnerSection w := by
  refine checkSection_congr (fun v w fields => ?_) same
  rw [checkField_congr shallow_checkConcurrency (fields "concurrency" (by simp)),
    checkField_congr shallow_checkTimeout (fields "termination_timeout_ms" (by simp))]

theorem checkLoggingSection_congr (same : SameSection ["level", "name"] v w) :
    checkLoggingSection v = checkLoggingSection w := by
  refine checkSection_congr (fun v w fields => ?_) same
  rw [checkField_congr shallow_checkLevel (fields "level" (by simp)),
    checkField_congr shallow_checkName (fields "name" (by simp))]

/-- The sections of a configuration with the fields of each. -/
def sectionFields : List (String × List String) :=
  [("tagged_limiter", ["max_concurrent_per_tag"]),
    ("task_runner", ["concurrency", "termination_timeout_ms"]),
    ("logging", ["level", "name"])]

/-- Of a mapping, a check sees the fields of sections and nothing else. -/
theorem check_congr {own inherited own' inherited' : Fields}
    (same : ∀ s ∈ sectionFields, SameSection s.2 ((Value.mapping own inherited).field s.1)
      ((Value.mapping own' inherited').field s.1)) :
    check (.mapping own inherited) = check (.mapping own' inherited') := by
  have limiter := same ("tagged_limiter", ["max_concurrent_per_tag"]) (by simp [sectionFields])
  have runner := same ("task_runner", ["concurrency", "termination_timeout_ms"])
    (by simp [sectionFields])
  have logging := same ("logging", ["level", "name"]) (by simp [sectionFields])
  rw [check, checkMapping, checkMapping, checkLimiterSection_congr limiter,
    checkRunnerSection_congr runner, checkLoggingSection_congr logging]

end Config
end Turnstile
