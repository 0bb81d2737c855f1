import Mathlib
import Turnstile.Config.Cache

/-!
The shared configuration along a history of requests: it is the one that was made last since the last
reset. A request that fails changes nothing, and what is not asked to share or to reset leaves the
shared configuration alone.
-/
namespace Turnstile.Config.World

namespace Request

def isReset : Request → Bool
  | .reset => true
  | _ => false

/-- A request that is not about the shared configuration. -/
def isAside : Request → Bool
  | .load .. | .validate _ | .setAmbient _ | .write .. | .remove _ | .install _ => true
  | _ => false

end Request

variable {w start : World} {request : Request} {x : Loaded}

def next (w : World) (request : Request) : World := (w.perform request).1

def after (w : World) (requests : List Request) : World := requests.foldl next w

/-- Each request together with the world in which it is made. -/
def history (w : World) : List Request → List (World × Request)
  | [] => []
  | request :: rest => (w, request) :: history (w.next request) rest

def made? (w : World) (source : Source) (argument : Option String) : Option Loaded :=
  (w.load source argument).toOption.map fun config => { config, number := w.loads }

/-- The configuration that a request makes to be shared: from the source that it names or, if it asks
for the shared one and there is none, from the packaged file. -/
def makes? (w : World) : Request → Option Loaded
  | .share source argument => w.made? source argument
  | .get | .limiterSettings => if w.shared.isNone then w.made? .packaged none else none
  | _ => none

/-- The configurations that requests make, in their order. -/
def makings (w : World) (requests : List Request) : List Loaded :=
  (w.history requests).filterMap fun e => e.1.makes? e.2

/-- The configuration that was made last since the last reset. -/
def latest (w : World) (requests : List Request) : Option Loaded :=
  ((w.history requests).reverse.takeWhile fun e => !e.2.isReset).findSome? fun e => e.1.makes? e.2

theorem share_eq (w : World) (source : Source) (argument : Option String) :
    w.share source argument =
      match w.load source argument with
      | .ok config =>
        ({ w with shared := some ⟨config, w.loads⟩, loads := w.loads + 1 }, .ok ⟨config, w.loads⟩)
      | .error e => (w, .error e) := rfl

/-- What is made becomes the shared one and counts as a load. -/
theorem share_makes (w : World) (source : Source) (argument : Option String) :
    (w.share source argument).1.shared = (w.made? source argument).or w.shared ∧
      (w.share source argument).1.loads =
        w.loads + (w.made? source argument).toList.length := by
  rw [share_eq, made?]
  cases w.load source argument <;> exact ⟨rfl, rfl⟩

theorem get_of_shared (shared : w.shared = some x) : w.get = (w, .ok x) := by
  rw [get, shared]

theorem get_of_not_shared (missing : w.shared = none) : w.get = w.share .packaged none := by
  rw [get, missing]

theorem get_makes (w : World) :
    w.get.1.shared = (w.makes? .get).or w.shared ∧
      w.get.1.loads = w.loads + (w.makes? .get).toList.length := by
  rw [makes?]
  cases here : w.shared with
  | some x =>
      rw [get_of_shared here]
      exact ⟨here, rfl⟩
  | none =>
      have made := share_makes w .packaged none
      rw [here] at made
      rw [get_of_not_shared here]
      exact made

theorem respond_fst {answer : α → Response} (result : World × Except LoadError α) :
    (respond answer result).1 = result.1 := by
  obtain ⟨w, outcome⟩ := result
  cases outcome <;> rfl

theorem next_share (w : World) (source : Source) (argument : Option String) :
    w.next (.share source argument) = (w.share source argument).1 := respond_fst _

theorem next_get (w : World) : w.next .get = w.get.1 := respond_fst _

theorem next_limiterSettings (w : World) : w.next .limiterSettings = w.get.1 := respond_fst _

theorem next_load (w : World) (source : Source) (argument : Option String) :
    w.next (.load source argument) = w := respond_fst _

theorem next_validate (w : World) (value : Value) : w.next (.validate value) = w := by
  rw [next, perform]
  split <;> rfl

/-- A reset leaves nothing shared; any other request leaves what it makes or, if it makes nothing,
what there was. -/
theorem next_makes (w : World) (request : Request) :
    (w.next request).shared = (if request.isReset then none else (w.makes? request).or w.shared) ∧
      (w.next request).loads = w.loads + (w.makes? request).toList.length := by
  cases request with
  | share source argument => rw [next_share]; exact share_makes w source argument
  | get => rw [next_get]; exact get_makes w
  | limiterSettings => rw [next_limiterSettings]; exact get_makes w
  | load source argument => rw [next_load]; exact ⟨rfl, rfl⟩
  | validate value => rw [next_validate]; exact ⟨rfl, rfl⟩
  | _ => exact ⟨rfl, rfl⟩

theorem number_of_made {source : Source} {argument : Option String}
    (made : w.made? source argument = some x) : x.number = w.loads := by
  obtain ⟨config, -, rfl⟩ := Option.map_eq_some_iff.1 made
  rfl

theorem number_of_makes (makes : w.makes? request = some x) : x.number = w.loads := by
  cases request with
  | share source argument => exact number_of_made makes
  | get | limiterSettings =>
      rw [makes?] at makes
      split_ifs at makes
      exact number_of_made makes
  | _ => cases makes

theorem error_of_respond {answer : α → Response} {result : World × Except LoadError α}
    {fault : Fault} (answers : ∀ a, answer a ≠ .failed fault)
    (failed : (respond answer result).2 = .failed fault) : ∃ e, result.2 = .error e := by
  obtain ⟨w, outcome⟩ := result
  cases outcome with
  | ok a => exact absurd failed (answers a)
  | error e => exact ⟨e, rfl⟩

theorem share_of_error {source : Source} {argument : Option String} {e : LoadError}
    (failed : (w.share source argument).2 = .error e) : (w.share source argument).1 = w := by
  rw [share_eq] at failed ⊢
  cases loaded : w.load source argument with
  | ok config =>
      rw [loaded] at failed
      cases failed
  | error e => rfl

theorem get_of_error {e : LoadError} (failed : w.get.2 = .error e) : w.get.1 = w := by
  cases here : w.shared with
  | some x => rw [get_of_shared here]
  | none =>
      rw [get_of_not_shared here] at failed ⊢
      exact share_of_error failed

/-- A request that fails changes nothing. -/
theorem next_of_failed {fault : Fault} (failed : (w.perform request).2 = .failed fault) :
    w.next request = w := by
  cases request with
  | share source argument =>
      obtain ⟨e, failed⟩ := error_of_respond (by simp) failed
      exact (next_share ..).trans (share_of_error failed)
  | get | limiterSettings =>
      obtain ⟨e, failed⟩ := error_of_respond (by simp) failed
      exact (respond_fst _).trans (get_of_error failed)
  | load source argument => exact next_load ..
  | validate value => exact next_validate ..
  | _ => cases failed

theorem history_append (w : World) (requests : List Request) (request : Request) :
    w.history (requests ++ [request]) = w.history requests ++ [(w.after requests, request)] := by
  induction requests generalizing w with
  | nil => rfl
  | cons first rest ih => rw [List.cons_append, history, ih, history]; rfl

theorem after_append (w : World) (requests : List Request) (request : Request) :
    w.after (requests ++ [request]) = (w.after requests).next request := by
  rw [after, List.foldl_append]
  rfl

theorem run_eq (w : World) (requests : List Request) :
    w.run requests = (w.history requests).map fun e => (e.1.perform e.2).2 := by
  induction requests generalizing w with
  | nil => rfl
  | cons request rest ih =>
      rw [history, List.map_cons, ← ih]
      rfl

theorem latest_append (w : World) (requests : List Request) (request : Request) :
    w.latest (requests ++ [request]) =
      if request.isReset then none
      else ((w.after requests).makes? request).or (w.latest requests) := by
  rw [latest, history_append, List.reverse_concat, List.takeWhile_cons]
  cases request.isReset with
  | true => rfl
  | false =>
      simp only [Bool.not_false, if_true, List.findSome?_cons, Bool.false_eq_true, if_false]
      cases (w.after requests).makes? request <;> rfl

theorem shared_after (empty : start.shared = none) (requests : List Request) :
    (start.after requests).shared = start.latest requests := by
  induction requests using List.reverseRecOn with
  | nil => exact empty
  | append_singleton requests request ih => rw [after_append, (next_makes ..).1, latest_append, ih]

/-- No two configurations that are made have one number. -/
theorem numbers_makings (w : World) (requests : List Request) :
    (w.makings requests).map Loaded.number =
      List.range' w.loads (w.makings requests).length := by
  induction requests generalizing w with
  | nil => rfl
  | cons request rest ih =>
      have later := ih (w.next request)
      rw [(next_makes ..).2] at later
      cases made : w.makes? request with
      | none => simpa [makings, history, made] using later
      | some x => simpa [makings, history, made, List.range'_succ, number_of_makes made] using later

/-- What the requests that are about the shared configuration answer and leave, in any one world. -/
structure Atomic (w : World) : Prop where
  /-- Sharing a configuration that can be loaded answers it and makes it the shared one. -/
  share : ∀ source argument config, w.load source argument = .ok config →
    w.perform (.share source argument) =
      ({ w with shared := some ⟨config, w.loads⟩, loads := w.loads + 1 },
        .loaded ⟨config, w.loads⟩)
  /-- The one that is shared is the answer. -/
  kept : ∀ x, w.shared = some x →
    w.perform .get = (w, .loaded x) ∧ w.perform .limiterSettings = (w, .settings x.config)
  /-- If none is shared, the packaged file is loaded for the environment of the moment. -/
  loaded : w.shared = none → ∀ config,
    ofContents w.package.path w.package.contents (Environment.resolve none w.ambient) =
        .ok config →
      w.perform .get =
        ({ w with shared := some ⟨config, w.loads⟩, loads := w.loads + 1 },
          .loaded ⟨config, w.loads⟩) ∧
      w.perform .limiterSettings =
        ({ w with shared := some ⟨config, w.loads⟩, loads := w.loads + 1 }, .settings config)
  unloaded : w.shared = none → ∀ e,
    ofContents w.package.path w.package.contents (Environment.resolve none w.ambient) =
        .error e →
      w.perform .get = (w, .failed e.fault) ∧ w.perform .limiterSettings = (w, .failed e.fault)
  /-- What fails changes nothing. -/
  failed : ∀ request fault, (w.perform request).2 = .failed fault → (w.perform request).1 = w
  /-- All else leaves the shared one alone. -/
  aside : ∀ request, request.isAside = true → (w.perform request).1.shared = w.shared

theorem atomic (w : World) : w.Atomic where
  share source argument config loaded := by
    rw [perform, share_eq, loaded]
    rfl
  kept x shared := by
    rw [perform, perform, get_of_shared shared]
    exact ⟨rfl, rfl⟩
  loaded missing config loaded := by
    have loaded : w.load .packaged none = .ok config := loaded
    rw [perform, perform, get_of_not_shared missing, share_eq, loaded]
    exact ⟨rfl, rfl⟩
  unloaded missing e failed := by
    have failed : w.load .packaged none = .error e := failed
    rw [perform, perform, get_of_not_shared missing, share_eq, failed]
    exact ⟨rfl, rfl⟩
  failed request fault failed := next_of_failed failed
  aside request aside := by
    have shared := (next_makes w request).1
    cases request with
    | share | get | limiterSettings | reset => cases aside
    | _ => exact shared

/-- Along every history the shared configuration is the one that was made last since the last reset,
no two of those that are made are the same one, and each request is answered as this one says. -/
theorem shared_is_latest (start : World) (empty : start.shared = none) (requests : List Request) :
    (start.after requests).shared = start.latest requests ∧
    ((start.makings requests).map Loaded.number).Nodup ∧
    (start.after requests).Atomic ∧
    ∀ request, start.run (requests ++ [request]) =
      start.run requests ++ [((start.after requests).perform request).2] := by
  refine ⟨shared_after empty requests, ?_, atomic _, fun request => ?_⟩
  · rw [numbers_makings]
    exact List.nodup_range'
  · rw [run_eq, history_append, List.map_append, ← run_eq]
    rfl

/-- A world whose packaged file has no settings. -/
def plain : World := { package := { contents := .ok (Text.Utf8.encode "\x7b\x7d") } }

theorem shared_outlives_a_failed_load :
    plain.shared = none ∧
      (plain.after [.get, .install (.error .isDirectory), .share .packaged none]).shared =
        some ⟨{}, 0⟩ := by
  refine ⟨rfl, (shared_is_latest plain rfl _).1.trans ?_⟩
  decide +kernel

end Turnstile.Config.World
