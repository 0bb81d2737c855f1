import Mathlib
import Turnstile.Fault

/-!
What a stack lists: an error and all of its causes, from the outermost one inwards, each once and by
its header. A configuration error with a cause stands there under the name of the general class, as
its stack is put together before it has its own; all others stand there under their own names.

Call sites are not covered.
-/
namespace Turnstile.Fault
variable {f cause : Fault}

/-- An error, its cause, the cause of that, and so on. -/
def chain : Fault → List Fault
  | .limiter message code (some cause) => .limiter message code (some cause) :: chain cause
  | .configuration message issues (some cause) =>
    .configuration message issues (some cause) :: chain cause
  | fault => [fault]

/-- What introduces a cause on a stack. -/
def introduction : String := "\nCaused by: "

/-- Whether the stack was put together before the error had its own name. -/
def misnamed : Fault → Bool
  | .configuration _ _ (some _) => true
  | _ => false

/-- The header of an error on a stack. -/
def headline (f : Fault) : String := headed (if f.misnamed then "LimiterError" else f.name) f.message

theorem chain_of_cause (caused : f.cause? = some cause) : f.chain = f :: cause.chain := by
  cases f with
  | plain | shutdown => cases caused
  | limiter message code inner | configuration message issues inner =>
      obtain rfl : inner = some cause := caused
      rfl

theorem chain_of_no_cause (alone : f.cause? = none) : f.chain = [f] := by
  cases f with
  | plain | shutdown => rfl
  | limiter message code inner | configuration message issues inner =>
      obtain rfl : inner = none := alone
      rfl

/-- What holds of errors without a cause, and of an error if it holds of its cause, holds of all. -/
theorem cause_induction {P : Fault → Prop} (alone : ∀ f, f.cause? = none → P f)
    (caused : ∀ f cause, f.cause? = some cause → P cause → P f) (f : Fault) : P f := by
  induction f using chain.induct with
  | case1 message code cause ih => exact caused _ cause rfl ih
  | case2 message issues cause ih => exact caused _ cause rfl ih
  | case3 f general special =>
      refine alone f ?_
      cases f with
      | plain | shutdown => rfl
      | limiter message code inner =>
          cases inner with
          | none => rfl
          | some cause => exact absurd rfl (general message code cause)
      | configuration message issues inner =>
          cases inner with
          | none => rfl
          | some cause => exact absurd rfl (special message issues cause)

theorem stack_of_cause (caused : f.cause? = some cause) :
    f.stack = f.headline ++ introduction ++ cause.stack := by
  cases f with
  | plain | shutdown => cases caused
  | limiter message code inner | configuration message issues inner =>
      obtain rfl : inner = some cause := caused
      rfl

theorem stack_of_no_cause (alone : f.cause? = none) : f.stack = f.headline := by
  cases f with
  | plain | shutdown => rfl
  | limiter message code inner | configuration message issues inner =>
      obtain rfl : inner = none := alone
      rfl

theorem chain_ne_nil (f : Fault) : f.chain ≠ [] := by
  cases caused : f.cause? with
  | none => simp [chain_of_no_cause caused]
  | some cause => simp [chain_of_cause caused]

/-- One header for each error of a chain. -/
theorem intercalate_chain_of_cause (header : Fault → String) (caused : f.cause? = some cause) :
    introduction.intercalate (f.chain.map header) =
      header f ++ introduction ++ introduction.intercalate (cause.chain.map header) := by
  have more : cause.chain.map header ≠ [] := fun none =>
    cause.chain_ne_nil (List.map_eq_nil_iff.1 none)
  rw [chain_of_cause caused, List.map_cons, String.intercalate_cons_of_ne_nil more]

theorem stack_eq_headlines (f : Fault) :
    f.stack = introduction.intercalate (f.chain.map headline) := by
  induction f using cause_induction with
  | alone f alone =>
      rw [stack_of_no_cause alone, chain_of_no_cause alone, List.map_singleton,
        String.intercalate_singleton]
  | caused f cause caused ih =>
      rw [stack_of_cause caused, intercalate_chain_of_cause headline caused, ih]

theorem headline_of_named (named : f.misnamed = false) : f.headline = f.text := by
  rw [headline, named]
  rfl

theorem toList_headed (name message : String) :
    ∃ rest, (headed name message).toList = name.toList ++ rest := by
  rw [headed]
  split
  · exact ⟨[], (List.append_nil _).symm⟩
  · exact ⟨(": " ++ message).toList, by rw [String.append_assoc, String.toList_append]⟩

/-- The two names differ in their first letters. -/
theorem headline_append_ne (misnamed : f.misnamed = true) (s t : String) :
    f.headline ++ s ≠ f.text ++ t := by
  cases f with
  | plain | limiter | shutdown => cases misnamed
  | configuration message issues cause =>
      intro same
      obtain ⟨general, here⟩ := toList_headed "LimiterError" message
      obtain ⟨own, there⟩ := toList_headed "ConfigurationError" message
      have lists := congrArg String.toList same
      rw [String.toList_append, String.toList_append, headline, if_pos misnamed] at lists
      change (headed "LimiterError" message).toList ++ _ =
        (headed "ConfigurationError" message).toList ++ _ at lists
      rw [here, there] at lists
      exact absurd (congrArg List.head? lists) (by simp)

theorem stack_eq_texts_iff (f : Fault) :
    f.stack = introduction.intercalate (f.chain.map text) ↔ ∀ e ∈ f.chain, e.misnamed = false := by
  induction f using cause_induction with
  | alone f alone =>
      have named : f.misnamed = false := by
        cases f with
        | configuration message issues inner =>
            obtain rfl : inner = none := alone
            rfl
        | _ => rfl
      simp [chain_of_no_cause alone, stack_of_no_cause alone, headline_of_named named, named]
  | caused f cause caused ih =>
      rw [stack_of_cause caused, intercalate_chain_of_cause text caused, chain_of_cause caused,
        List.forall_mem_cons, ← ih]
      cases misnamed : f.misnamed with
      | true =>
          rw [String.append_assoc, String.append_assoc]
          exact iff_of_false (headline_append_ne misnamed _ _) (by simp)
      | false =>
          rw [headline_of_named misnamed]
          simp

/-- A stack lists an error and its causes from the outermost one inwards, each once and by its
header. These headers are names and messages of the errors just if no configuration error among
them has a cause; one that has stands there under the name of the general class. -/
theorem stack_lists_causes (f : Fault) :
    f.stack = "\nCaused by: ".intercalate (f.chain.map fun e =>
      headed (if e.misnamed then "LimiterError" else e.name) e.message) ∧
    (f.stack = "\nCaused by: ".intercalate (f.chain.map fun e => headed e.name e.message) ↔
      ∀ e ∈ f.chain, ∀ message issues cause, e ≠ .configuration message issues (some cause)) := by
  refine ⟨stack_eq_headlines f, (stack_eq_texts_iff f).trans (forall₂_congr fun e mem => ?_)⟩
  constructor
  · rintro named message issues cause rfl
    cases named
  · intro other
    unfold misnamed
    split
    · exact absurd rfl (other _ _ _)
    · rfl

theorem not_always_named :
    ¬∀ f : Fault, f.stack =
      "\nCaused by: ".intercalate (f.chain.map fun e => headed e.name e.message) := by
  intro always
  let f : Fault := .configuration "outer" [] (some (.plain "Error" "inner"))
  have named : f.misnamed = false := (stack_eq_texts_iff f).1 (always f) f List.mem_cons_self
  cases named

end Turnstile.Fault
