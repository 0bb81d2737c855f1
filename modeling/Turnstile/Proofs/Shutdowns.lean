import Turnstile.Proofs.Clock
import Turnstile.Proofs.Guises
import Turnstile.Proofs.Tallies
import Turnstile.Proofs.Termination

/-!
What a shutdown does: it refuses all work that comes later, and nothing else. Whether a pool is shut
down matters only where it is asked to accept work. So a run goes on after a shutdown as it would have
gone on without, up to the calls that are refused.
-/
namespace Turnstile

def Pool.withEntry (p : Pool) (isShutdown : Bool) : Pool := { p with isShutdown }

/-- The same system with another way in: whether its pool is shut down, and the number of the next
submission. -/
def System.withEntry (s : System) (isShutdown : Bool) (tickets : Ticket) : System :=
  { s with pool := s.pool.map (Pool.withEntry · isShutdown), tickets }

def Reaction.withEntry (r : Reaction) (isShutdown : Bool) (tickets : Ticket) : Reaction :=
  { r with system := r.system.withEntry isShutdown tickets }

namespace System
variable (s : System) (down : Bool) (next : Ticket)

theorem withEntry_withEntry (down' : Bool) (next' : Ticket) :
    (s.withEntry down next).withEntry down' next' = s.withEntry down' next' := by
  simp only [withEntry, Option.map_map]
  rfl

theorem withEntry_own {s : System} {pool : Pool} (own : s.pool = some pool) :
    s.withEntry pool.isShutdown s.tickets = s := by
  cases s
  cases own
  rfl

theorem guise_entry : ({ entry := some (down, next) } : Guise).system s = s.withEntry down next :=
  Guise.system_of_remembers rfl s

theorem guise_reaction_entry (r : Reaction) :
    ({ entry := some (down, next) } : Guise).reaction r = r.withEntry down next := by
  have keeps : ({ entry := some (down, next) } : Guise).keeps = fun _ => true := by
    funext note
    cases note <;> rfl
  rw [Guise.reaction, Reaction.withEntry, guise_entry, Guise.notes_of_remembers rfl, keeps,
    List.filter_true]

/-- Where no task is offered to the runner, it makes no difference whether the pool is shut down. -/
theorem react_withEntry {m : Move} (outside : m.staysOutside = true)
    (keeps : (s.react m).offersTask = false) :
    (s.withEntry down next).react m = (s.react m).withEntry down next := by
  let v : Guise := { entry := some (down, next) }
  have bare : v.base.system s = s := Guise.system_bare s
  have lets : v.Lets ((v.base.system s).react m) := .inr (by rwa [bare])
  rw [← guise_entry, s.react_of_remembers rfl (.inr outside) lets, bare, guise_reaction_entry]

end System

/-- What each of a list of moves comes to. -/
def System.reactions (s : System) : List Move → List (Move × Reaction)
  | [] => []
  | m :: ms => (m, s.react m) :: (s.react m).system.reactions ms

/-- A call that a pool refuses has no effect but that a number was used. -/
theorem System.react_execute_of_isShutdown {s : System} {pool : Pool} (own : s.pool = some pool)
    (down : pool.isShutdown = true) :
    s.react .execute = {
      system := { s with tickets := s.tickets + 1 }
      notes := [.offered (.plain s.tickets)]
      signal := .refused (.fault (.shutdown Fault.shutdownMessage)) } := by
  simp only [react, execute, own, Pool.accept_of_isShutdown down]
  rfl

theorem System.react_shutdown {s : System} {pool : Pool} (own : s.pool = some pool) :
    s.react .shutdown =
      (s.withEntry true s.tickets).returned.afterRecords pool.shutdown.2 := by
  have flag : pool.shutdown.1 = pool.withEntry true := by
    rw [Pool.shutdown]
    split
    · rename_i down
      rw [Pool.withEntry, ← down]
    · rfl
  simp only [react, shutdown, own, flag, withEntry, setPool, Option.map_some]

namespace Traffic
variable {t t' : Traffic} {concurrency : Nat}

/-- The pool is shut down and has nothing left. -/
def Finished (t : Traffic) : Prop := t.pool.isShutdown = true ∧ t.pool.isIdle = true

theorem Step.finished (h : Step t t') (counted : t.Counted concurrency 0) (done : t.Finished) :
    t'.Finished :=
  ⟨h.isShutdown done.1, h.isIdle counted done.1 done.2⟩

end Traffic

namespace History
variable {s : System} {p : Pool}

theorem idle_plays {h : History} {pool : Pool} {concurrency : Nat}
    (hp : h.system.pool = some pool) (lawful : (h.traffic pool).Lawful)
    (lanes : (h.traffic pool).Lanes concurrency) (down : pool.isShutdown = true)
    (idle : pool.isIdle = true) (ms : List Move) : (h.plays ms).system.idle = true := by
  obtain ⟨later, own, -, -, done⟩ := passes_induction
    (P := fun t => t.Lanes concurrency ∧ t.Finished)
    (fun _ _ _ held step => ⟨step.lanes held.1, step.finished held.1.counted held.2⟩) ms hp lawful
    ⟨lanes, down, idle⟩
  exact (System.idle_of_pool own).trans done.2

/-- From a pool that is shut down a run goes on as from one that is not, without the calls that are
refused. -/
theorem reactions_withEntry {h : History} {pool : Pool} (hp : h.system.pool = some pool)
    (lawful : (h.traffic pool).Lawful) (down : pool.isShutdown = true) {ms : List Move}
    (unsubmitted : ∀ tag, .submit tag ∉ ms)
    (keeps : ∀ e ∈ h.system.reactions ms, e.2.offersTask = false) (open_ : Bool) (next : Ticket) :
    (h.system.withEntry open_ next).reactions (ms.filter Move.staysOutside) =
      ((h.system.reactions ms).filter (·.1.staysOutside)).map fun e =>
        (e.1, e.2.withEntry open_ next) := by
  induction ms generalizing h pool with
  | nil => rfl
  | cons m ms ih =>
      obtain ⟨later, own, steps, -⟩ := play_passes hp lawful m
      obtain ⟨lawful', down'⟩ := steps.keep
        (P := fun t => t.Lawful ∧ t.pool.isShutdown = true)
        (fun _ _ held step => ⟨step.lawful held.1, step.isShutdown held.2⟩) ⟨lawful, down⟩
      have rest := ih own lawful' down' (fun tag mem => unsubmitted tag (List.mem_cons_of_mem _ mem))
        fun e mem => keeps e (List.mem_cons_of_mem _ mem)
      by_cases outside : m.staysOutside = true
      · have same := h.system.react_withEntry open_ next outside (keeps _ List.mem_cons_self)
        rw [List.filter_cons_of_pos outside, System.reactions, System.reactions,
          List.filter_cons_of_pos (a := (m, h.system.react m)) outside, same, List.map_cons]
        exact congrArg _ rest
      · -- The move is left out on both sides, and comes to nothing but another way in.
        have entry : (h.play m).system.withEntry open_ next = h.system.withEntry open_ next := by
          cases m with
          | submit tag => exact absurd List.mem_cons_self (unsubmitted tag)
          | execute =>
              rw [play, System.react_execute_of_isShutdown hp down]
              rfl
          | shutdown =>
              rw [play, System.react_shutdown hp]
              exact System.withEntry_withEntry ..
          | _ => exact absurd rfl outside
        rw [entry] at rest
        rw [List.filter_cons_of_neg outside, System.reactions,
          List.filter_cons_of_neg (a := (m, h.system.react m)) outside]
        exact rest

theorem mem_notes_of_reactions {h : History} {ms : List Move} {e : Move × Reaction} {note : Note}
    (mem : e ∈ h.system.reactions ms) (told : note ∈ e.2.notes) : note ∈ (h.plays ms).notes := by
  induction ms generalizing h with
  | nil => cases mem
  | cons m ms ih =>
      rcases List.mem_cons.1 mem with rfl | later
      · obtain ⟨more, notes⟩ := notes_plays (h.play m) ms
        rw [plays_cons, notes]
        exact List.mem_append_left _ (List.mem_append_right _ told)
      · exact ih (h := h.play m) later

/-- Where nothing is submitted to a limiter, no slot offers anything to the runner. -/
theorem offersTask_of_unsubmitted (begins : s.Begins) {before after : List Move}
    (unsubmitted : ∀ tag, .submit tag ∉ before ++ after) :
    ∀ e ∈ ((⟨s, []⟩ : History).plays before).system.reactions after, e.2.offersTask = false := by
  let h := (⟨s, []⟩ : History).plays (before ++ after)
  have none : (before ++ after).countP Move.isSubmit = 0 := by
    rw [List.countP_eq_zero]
    intro m mem isSubmit
    cases m with
    | submit tag => exact unsubmitted tag mem
    | _ => cases isSubmit
  have submissions : h.admission.submissions = 0 := by
    rw [submissions_plays, none]
    rfl
  have unoffered (tag : Tag) (t : Ticket) : .offered (.limited tag t) ∉ h.notes := by
    intro told
    have offered : 0 < h.admission.times (.offered tag t) :=
      List.count_pos_iff.2 (List.mem_flatMap.2 ⟨_, told, List.mem_singleton_self _⟩)
    have untold : h.admission.times (.submitted tag t) = 0 :=
      List.count_eq_zero.2 fun mem => absurd rfl (List.countP_eq_zero.1 submissions _ mem)
    have balanced : h.admission.Balanced [] := balanced begins (before ++ after)
    have course := balanced.course tag t
    have offers := balanced.offers tag t
    have carried : h.admission.offering tag t ≤ h.admission.carrying tag t :=
      Admission.Balanced.offering_le_carrying tag t
    omega
  intro e mem
  rw [Reaction.offersTask, List.any_eq_false]
  intro note told offers
  unfold Note.offersTask at offers
  split at offers
  · rename_i tag t
    refine unoffered tag t ?_
    rw [show h = _ from plays_append ..]
    exact mem_notes_of_reactions mem told
  · cases offers

/-- A shutdown changes nothing but that the pool is shut down, and writes a record. From then on all
works are refused, which leaves everything as it is. Once the pool is idle as well it stays idle,
whatever happens. If no slot hands over a task any more, the run goes on move by move just as it would
have gone on without the shutdown and without the works that are refused: with the same notes and the
same signals, and with systems that differ in nothing but what they let in. -/
theorem shutdown_only_refuses (begins : s.Begins) (own : s.pool = some p)
    (before after : List Move) :
    let now := (⟨s, []⟩ : History).plays before
    let h := now.plays (.shutdown :: after)
    ∃ earlier pool, now.system.pool = some earlier ∧ h.system.pool = some pool ∧
      now.system.react .shutdown =
        (now.system.withEntry true now.system.tickets).returned.afterRecords earlier.shutdown.2 ∧
      (∀ work, pool.accept work = .error (.shutdown Fault.shutdownMessage)) ∧
      h.system.react .execute = {
        system := { h.system with tickets := h.system.tickets + 1 }
        notes := [.offered (.plain h.system.tickets)]
        signal := .refused (.fault (.shutdown Fault.shutdownMessage)) } ∧
      (pool.isIdle = true → ∀ more, (h.plays more).system.idle = true) ∧
      ((∀ tag, .submit tag ∉ after) →
        (∀ e ∈ now.system.reactions (.shutdown :: after), e.2.offersTask = false) →
        now.system.reactions (after.filter Move.staysOutside) =
          ((now.system.reactions (.shutdown :: after)).filter (·.1.staysOutside)).map fun e =>
            (e.1, e.2.withEntry earlier.isShutdown now.system.tickets)) := by
  intro now h
  obtain ⟨earlier, hp, lawful, lanes⟩ := lanes begins own before
  obtain ⟨shut, hs, steps, -⟩ := play_passes hp lawful .shutdown
  obtain ⟨lawful', lanes'⟩ := steps.keep (P := fun t => t.Lawful ∧ t.Lanes p.concurrency)
    (fun _ _ held step => ⟨step.lawful held.1, step.lanes held.2⟩) ⟨lawful, lanes⟩
  have down : shut.isShutdown = true := by
    rw [(play_shutdown hp).1] at hs
    cases hs
    exact Pool.shutdown_isShutdown _
  obtain ⟨pool, hl, last, lanes''⟩ := passes_induction
    (P := fun t => t.Lanes p.concurrency ∧ t.pool.isShutdown = true)
    (fun _ _ _ held step => ⟨step.lanes held.1, step.isShutdown held.2⟩) after hs lawful'
    ⟨lanes', down⟩
  refine ⟨earlier, pool, hp, hl, System.react_shutdown hp,
    fun work => Pool.accept_of_isShutdown lanes''.2,
    System.react_execute_of_isShutdown hl lanes''.2,
    idle_plays hl last lanes''.1 lanes''.2, fun unsubmitted keeps => ?_⟩
  have rest := reactions_withEntry hs lawful' down unsubmitted
    (fun e mem => keeps e (List.mem_cons_of_mem _ mem)) earlier.isShutdown now.system.tickets
  have entry : (now.play .shutdown).system.withEntry earlier.isShutdown now.system.tickets =
      now.system := by
    rw [play, System.react_shutdown hp]
    exact (System.withEntry_withEntry ..).trans (System.withEntry_own hp)
  rw [entry] at rest
  rw [rest, System.reactions, List.filter_cons_of_neg Bool.false_ne_true]
  rfl

/-- Works are handed to a pool that is shut down, while it works off what it has. -/
def lateWorks : List Move :=
  [.execute, .awaitTermination (.ofInt 100), .settle 0 .fulfilled, .job, .execute,
    .settle 1 (.rejected (.value .undefined)), .job, .reply (.heard none), .immediate, .execute,
    .reply (.task (.settled .fulfilled)), .job, .reply (.heard none)]

theorem late_works_change_nothing :
    let now := (⟨twoLanes, []⟩ : History).plays fourWorks
    let h := now.plays (.shutdown :: lateWorks)
    h.system.idle = true ∧ (h.plays [.execute, .immediate]).system.idle = true ∧
      h.started = [.plain 0, .plain 1, .plain 2, .plain 3] ∧ h.told = [(0, true)] ∧
      (now.system.reactions (lateWorks.filter Move.staysOutside)).map (fun e => e.2.notes) =
        ((now.system.reactions (.shutdown :: lateWorks)).filter (·.1.staysOutside)).map
          fun e => e.2.notes := by
  intro now h
  have idle : h.system.idle = true := by decide +kernel
  obtain ⟨earlier, pool, -, own, -, -, -, rests, same⟩ :=
    shutdown_only_refuses twoLanes_begins rfl fourWorks lateWorks
  have unsubmitted : ∀ tag, .submit tag ∉ fourWorks ++ .shutdown :: lateWorks := by
    simp [fourWorks, lateWorks]
  refine ⟨idle, rests ((System.idle_of_pool own).symm.trans idle) _, ?_, ?_, ?_⟩
  · decide +kernel
  · decide +kernel
  · rw [same (by simp [lateWorks]) (offersTask_of_unsubmitted twoLanes_begins unsubmitted),
      List.map_map]
    rfl

end History
end Turnstile
