import Turnstile.Proofs.Admission

/-!
Everything that can happen to the limiter's side of a history, as one relation. That every reaction
of a system is a chain of such steps is proved elsewhere; an invariant needs one case for each.
-/
namespace Turnstile.Admission

/-- The submission was offered just now, and nothing has come of it. -/
def Prompt (a : Admission) (tag : Tag) (ticket : Ticket) : Prop :=
  a.marks.getLast? = some (.offered tag ticket)

theorem Prompt.earlier {a a' : Admission} {tag : Tag} {ticket : Ticket} {marks : List Mark}
    (prompt : a'.Prompt tag ticket) (more : a'.marks = a.marks ++ marks)
    (quiet : .offered tag ticket ∉ marks) : a.Prompt tag ticket := by
  rw [Prompt, more, List.getLast?_append] at prompt
  cases hm : marks.getLast? with
  | none => rwa [hm, Option.none_or] at prompt
  | some m =>
      rw [hm, Option.some_or, Option.some_inj] at prompt
      exact absurd (prompt ▸ List.mem_of_getLast? hm) quiet

/-- A submission in hand waits, or is offered to the runner. -/
inductive Places (tag : Tag) (ticket : Ticket) (purpose : Purpose) (a : Admission) :
    Admission → Prop
  | wait (reached : a.limiter.limit.isReached (a.slot tag).running = true) :
      Places tag ticket purpose a
        (a.tell tag purpose { a.slot tag with pending := some ticket }
          (.queued ticket (a.slot tag).pending) (.answer true))
  | offer (room : a.limiter.limit.isReached (a.slot tag).running = false) :
      Places tag ticket purpose a
        (a.ask tag purpose
          { a.slot tag with running := (a.slot tag).running.plus 1 } ticket)

/-- A submission in hand enters its slot. -/
inductive Enters (tag : Tag) (ticket : Ticket) (purpose : Purpose) (a : Admission) :
    Admission → Prop
  | overflow (exceeded : a.limiter.limit.isExceeded (a.slot tag).running = true) :
      Enters tag ticket purpose a
        (a.tell tag purpose (a.slot tag) (.anomaly .overflow (a.slot tag).running) (.place ticket))
  | place {a' : Admission} (kept : a.limiter.limit.isExceeded (a.slot tag).running = false)
      (placed : Places tag ticket purpose a a') : Enters tag ticket purpose a a'

section Touch
variable {tag : Tag} {ticket : Ticket} {purpose : Purpose} {a a' : Admission}

/-- Setting a slot to what it is makes no difference to what is placed there. -/
theorem Places.of_setSlot (h : Places tag ticket purpose (a.setSlot tag (a.slot tag)) a') :
    Places tag ticket purpose a a' := by
  have here : (a.setSlot tag (a.slot tag)).slot tag = a.slot tag := by simp [slot_setSlot]
  cases h with
  | wait reached =>
      rw [here] at reached ⊢
      simpa [tell, setSlot] using Places.wait reached
  | offer room =>
      rw [here] at room ⊢
      simpa [ask, setSlot] using Places.offer room

theorem Enters.of_setSlot (h : Enters tag ticket purpose (a.setSlot tag (a.slot tag)) a') :
    Enters tag ticket purpose a a' := by
  have here : (a.setSlot tag (a.slot tag)).slot tag = a.slot tag := by simp [slot_setSlot]
  cases h with
  | overflow exceeded =>
      rw [here] at exceeded ⊢
      simpa [tell, setSlot] using Enters.overflow exceeded
  | place kept placed =>
      rw [here] at kept
      exact .place kept placed.of_setSlot

end Touch

/-- One task less runs. -/
def finish (a : Admission) (tag : Tag) (purpose : Purpose) : Admission :=
  let running := (a.slot tag).running.plus (-1)
  a.tell tag purpose { a.slot tag with running } (.finished running) .handOver

/-- A slot is told that a task of its tag has ended. -/
inductive Ends (tag : Tag) (purpose : Purpose) (a : Admission) : Admission → Prop
  | underflow (idle : (a.slot tag).running.le 0 = true) :
      Ends tag purpose a
        (a.tell tag purpose (a.slot tag) (.anomaly .underflow (a.slot tag).running) .release)
  | finish (busy : (a.slot tag).running.le 0 = false) : Ends tag purpose a (a.finish tag purpose)

/-- Everything that can happen. The first five are what surroundings do; a runner that is a pool
refuses, takes and starts of its own accord, and answers an offer promptly. -/
inductive Step (c : Conduct) (a : Admission) : Admission → Prop
  | submit {tag a'} (may : c a (.submit tag))
      (enters : Enters tag a.tickets (.submit a.tickets)
        ({ a with tickets := a.tickets + 1 }.mark [.submitted tag a.tickets]) a') :
      Step c a a'
  | complete {tag a'} (may : c a (.complete tag)) (ends : Ends tag .complete a a') : Step c a a'
  | overwrite {tag running} (may : c a (.overwrite tag running)) :
      Step c a (a.setSlot tag { a.slot tag with running })
  | start {tag ticket} (may : c a (.start tag ticket)) (outside : a.backlog = 0) :
      Step c a ({ a with inFlight := (tag, ticket) ::ₘ a.inFlight }.mark [.started tag ticket])
  | refuse {tag ticket purpose rest} (e : Thrown)
      (may : c a (.refuse tag ticket) ∨ a.Prompt tag ticket)
      (top : a.pauses = ⟨tag, purpose, .offer ticket⟩ :: rest) :
      Step c a ((a.back rest).tell tag purpose
        { a.slot tag with running := (a.slot tag).running.plus (-1) } (.rejected ticket e)
        (.answer true))
  | accept {tag ticket purpose rest} (top : a.pauses = ⟨tag, purpose, .offer ticket⟩ :: rest) :
      Step c a (((a.back rest).mark [.accepted tag ticket]).tell tag purpose (a.slot tag)
        (.dispatched ticket (a.slot tag).running) (.answer false))
  | take {tag ticket purpose rest} (prompt : a.Prompt tag ticket)
      (top : a.pauses = ⟨tag, purpose, .offer ticket⟩ :: rest) :
      Step c a ((({ a with backlog := (tag, ticket) ::ₘ a.backlog }.back rest).mark
        [.accepted tag ticket]).tell tag purpose (a.slot tag)
        (.dispatched ticket (a.slot tag).running) (.answer false))
  | pump {tag ticket backlog} (next : a.backlog = (tag, ticket) ::ₘ backlog) :
      Step c a ({ a with backlog, inFlight := (tag, ticket) ::ₘ a.inFlight }.mark
        [.started tag ticket])
  | conclude {tag ticket starter outcome inCall inFlight a'}
      (next : a.inFlight = (tag, ticket) ::ₘ inFlight)
      (ends : Ends tag (.conclude { work := .limited tag ticket, starter } outcome inCall)
        ({ a with inFlight }.mark [.concluded tag ticket]) a') :
      Step c a a'
  | place {tag ticket purpose rest a'}
      (top : a.pauses = ⟨tag, purpose, .heard (.place ticket)⟩ :: rest)
      (places : Places tag ticket purpose ((a.back rest).setSlot tag
        { a.slot tag with running := a.limiter.limit.clamp (a.slot tag).running }) a') :
      Step c a a'
  | release {tag purpose rest} (top : a.pauses = ⟨tag, purpose, .heard .release⟩ :: rest) :
      Step c a (((a.back rest).setSlot tag { a.slot tag with running := 1 }).finish tag purpose)
  | handOver {tag ticket purpose rest a'}
      (top : a.pauses = ⟨tag, purpose, .heard .handOver⟩ :: rest)
      (waiting : (a.slot tag).pending = some ticket)
      (enters : Enters tag ticket purpose
        ((a.back rest).setSlot tag { a.slot tag with pending := none }) a') :
      Step c a a'
  | rest {tag purpose rest} (top : a.pauses = ⟨tag, purpose, .heard .handOver⟩ :: rest)
      (free : (a.slot tag).pending = none) :
      Step c a (((a.back rest).mark (purpose.marks tag false)).setSlot tag (a.slot tag))
  | answer {tag purpose queued rest}
      (top : a.pauses = ⟨tag, purpose, .heard (.answer queued)⟩ :: rest) :
      Step c a (((a.back rest).mark (purpose.marks tag queued)).setSlot tag (a.slot tag))
  /-- Plain work takes a number. -/
  | number : Step c a { a with tickets := a.tickets + 1 }

/-- Surroundings that allow themselves less do nothing else. -/
theorem Step.mono {c c' : Conduct} {a a' : Admission} (h : Step c a a')
    (sub : ∀ a d, c a d → c' a d) : Step c' a a' := by
  cases h with
  | submit may enters => exact .submit (sub _ _ may) enters
  | complete may ends => exact .complete (sub _ _ may) ends
  | overwrite may => exact .overwrite (sub _ _ may)
  | start may outside => exact .start (sub _ _ may) outside
  | refuse e may top => exact .refuse e (may.imp (sub _ _) id) top
  | accept top => exact .accept top
  | take prompt top => exact .take prompt top
  | pump next => exact .pump next
  | conclude next ends => exact .conclude next ends
  | place top places => exact .place top places
  | release top => exact .release top
  | handOver top waiting enters => exact .handOver top waiting enters
  | rest top free => exact .rest top free
  | answer top => exact .answer top
  | number => exact .number

section Constants
variable {c : Conduct} {tag : Tag} {ticket : Ticket} {purpose : Purpose} {a a' : Admission}

theorem Places.limit (h : Places tag ticket purpose a a') :
    a'.limiter.limit = a.limiter.limit ∧ a'.tickets = a.tickets := by
  cases h <;> exact ⟨rfl, rfl⟩

theorem Enters.limit (h : Enters tag ticket purpose a a') :
    a'.limiter.limit = a.limiter.limit ∧ a'.tickets = a.tickets := by
  cases h with
  | overflow exceeded => exact ⟨rfl, rfl⟩
  | place kept placed => exact placed.limit

theorem Ends.limit (h : Ends tag purpose a a') :
    a'.limiter.limit = a.limiter.limit ∧ a'.tickets = a.tickets := by
  cases h <;> exact ⟨rfl, rfl⟩

/-- The limit stays, and tickets are only ever taken. -/
theorem Step.limit (h : Step c a a') :
    a'.limiter.limit = a.limiter.limit ∧ a.tickets ≤ a'.tickets := by
  cases h with
  | submit may enters => exact ⟨enters.limit.1, (Nat.le_succ _).trans enters.limit.2.ge⟩
  | complete may ends => exact ⟨ends.limit.1, ends.limit.2.ge⟩
  | conclude next ends => exact ⟨ends.limit.1, ends.limit.2.ge⟩
  | place top places => exact ⟨places.limit.1, places.limit.2.ge⟩
  | handOver top waiting enters => exact ⟨enters.limit.1, enters.limit.2.ge⟩
  | number => exact ⟨rfl, Nat.le_succ _⟩
  | overwrite | start | refuse | accept | take | pump | release | rest | answer =>
      exact ⟨rfl, Nat.le_refl _⟩

theorem Places.marks (h : Places tag ticket purpose a a') : a.marks <+: a'.marks := by
  cases h <;> exact List.prefix_append ..

theorem Enters.marks (h : Enters tag ticket purpose a a') : a.marks <+: a'.marks := by
  cases h with
  | overflow exceeded => exact List.prefix_append ..
  | place kept placed => exact placed.marks

theorem Ends.marks (h : Ends tag purpose a a') : a.marks <+: a'.marks := by
  cases h <;> exact List.prefix_append ..

/-- Marks are only ever added. -/
theorem Step.marks (h : Step c a a') : a.marks <+: a'.marks := by
  cases h with
  | submit may enters => exact (List.prefix_append ..).trans enters.marks
  | complete may ends => exact ends.marks
  | conclude next ends => exact (List.prefix_append ..).trans ends.marks
  | place top places => exact places.marks
  | handOver top waiting enters => exact enters.marks
  | accept | take => exact (List.prefix_append ..).trans (List.prefix_append ..)
  | overwrite | number => exact List.prefix_rfl
  | start | refuse | pump | release | rest | answer => exact List.prefix_append ..

end Constants

abbrev Steps (c : Conduct) : Admission → Admission → Prop := Relation.ReflTransGen (Step c)

theorem Step.steps {c : Conduct} {a b b' : Admission} (h : Step c a b) (eq : b' = b) :
    Steps c a b' :=
  eq ▸ .single h

theorem Steps.of_eq {c : Conduct} {a b : Admission} (eq : b = a) : Steps c a b :=
  eq ▸ .refl

theorem Steps.marks {c : Conduct} {a b : Admission} (steps : Steps c a b) :
    a.marks <+: b.marks := by
  induction steps with
  | refl => exact List.prefix_rfl
  | tail _ step more => exact more.trans step.marks

theorem Steps.keep {c : Conduct} {P : Admission → Prop} {a b : Admission}
    (keep : ∀ a a', P a → Step c a a' → P a') (steps : Steps c a b) (start : P a) : P b := by
  induction steps with
  | refl => exact start
  | tail _ step held => exact keep _ _ held step

end Turnstile.Admission
