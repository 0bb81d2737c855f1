import Turnstile.Proofs.Calls
import Turnstile.Proofs.Limits
import Turnstile.Proofs.Recency

/-!
The count of a slot after an end that never was. A slot that counts no task when it is told of an end
reports that first, and then goes on as if one task had been running. What its listeners submit
meanwhile is started and counted, and the count is overwritten all the same: from then on it is short
by the works that were outstanding when the report had been heard.
-/
namespace Turnstile

/-- Slots may be told of ends that never were. Counts are left alone, and a runner outside starts and
refuses as it should. -/
def Conduct.misled : Conduct := fun a d => Conduct.once a d ∧ Conduct.fair a d

instance (a : Admission) (d : Deed) : Decidable (Conduct.misled a d) :=
  inferInstanceAs (Decidable (Conduct.once a d ∧ Conduct.fair a d))

theorem Conduct.careful_misled {a : Admission} {d : Deed} (h : careful a d) : misled a d := by
  refine ⟨careful_once h, ?_⟩
  cases d with
  | overwrite => exact h
  | submit | complete | start | refuse => trivial

/-- The step has found that a slot of the tag counts no task, and is to mend that. -/
def Pause.releasesOf (tag : Tag) : Pause → Bool
  | ⟨own, _, .heard .release⟩ => own == tag
  | _ => false

/-- What the slot of a tag counts, and what it should. -/
@[ext]
structure Load where
  running : Number
  outstanding : Finset Ticket
  /-- How often an end was reported that found no task counted. -/
  underflows : Nat
  /-- Steps that are to mend the count because of such an end. -/
  mending : Nat

/-- All that can happen to the load of a tag. -/
inductive Load.Shift (c : Conduct) (tag : Tag) (l : Load) : Load → Prop
  | still : Shift c tag l l
  | offered {ticket} (new : ticket ∉ l.outstanding) :
      Shift c tag l { l with
        running := l.running.plus 1, outstanding := insert ticket l.outstanding }
  /-- It was refused, or its task has ended. -/
  | gone {ticket} (was : ticket ∈ l.outstanding) :
      Shift c tag l { l with
        running := l.running.plus (-1), outstanding := l.outstanding.erase ticket }
  | miscounted (may : ∃ a, c a (.complete tag)) :
      Shift c tag l { l with running := l.running.plus (-1) }
  /-- An end finds no task counted. -/
  | underflow {outstanding} (idle : l.running.le 0 = true)
      (less : outstanding = l.outstanding ∧ (∃ a, c a (.complete tag)) ∨
        ∃ ticket ∈ l.outstanding, outstanding = l.outstanding.erase ticket) :
      Shift c tag l { l with
        outstanding, underflows := l.underflows + 1, mending := l.mending + 1 }
  | mended {mending} (next : l.mending = mending + 1) :
      Shift c tag l { l with running := (1 : Number).plus (-1), mending }

namespace Admission
variable {c : Conduct} {a a' : Admission} {limit : Nat} {tag own : Tag} {ticket : Ticket}
  {purpose : Purpose}

def load (a : Admission) (tag : Tag) : Load where
  running := (a.slot tag).running
  outstanding := a.outstanding tag
  underflows := a.times (.anomaly tag .underflow)
  mending := a.pauses.countP (Pause.releasesOf tag)

/-- What holds whatever slots are told of ends, as long as counts are left alone. -/
structure Sound (limit : Nat) (a : Admission) : Prop where
  balanced : a.Balanced []
  ran : a.Ran
  shared : a.Shared
  bounded : a.Bounded limit

theorem Sound.at_start (limit : Nat) (logger : Option Logging.Threshold) :
    (initial limit logger).Sound limit where
  balanced := .at_start limit logger
  ran := .at_start limit logger
  shared := .at_start limit logger
  bounded := .at_start limit logger

theorem Step.sound (h : Step .misled a a') (sound : a.Sound limit) : a'.Sound limit where
  balanced := h.balanced sound.balanced
  ran := (h.mono fun _ _ may => Conduct.once_honest may.1).ran sound.ran sound.balanced
  shared := (h.mono fun _ _ may => may.1).shared sound.shared sound.ran sound.balanced
  bounded := (h.mono fun _ _ may => may.2).bounded sound.bounded

/-- The load is the same where no work comes or goes and the slot counts as before. -/
theorem load_eq {hand hand' : List Submission} (balanced : a.Balanced hand)
    (balanced' : a'.Balanced hand') {marks : List Mark} (more : a'.marks = a.marks ++ marks)
    (quiet : ∀ m ∈ marks, m.ofHolding = false ∧ m.isAnomaly = false)
    (running : (a'.slot tag).running = (a.slot tag).running)
    (mending : a'.pauses.countP (Pause.releasesOf tag) = a.pauses.countP (Pause.releasesOf tag)) :
    a'.load tag = a.load tag := by
  ext1
  · exact running
  · exact outstanding_eq balanced balanced' fun m work =>
      times_of_quiet more (fun m mem => (quiet m mem).1) work
  · exact times_of_quiet (p := Mark.isAnomaly) more (fun m mem => (quiet m mem).2) rfl
  · exact mending

theorem load_ask (balanced : a.Balanced [(tag, ticket)]) {slot : Slot}
    (balanced' : (a.ask tag purpose slot ticket).Balanced []) (shared : a.Shared) (own : Tag) :
    (a.ask tag purpose slot ticket).load own = if own = tag then { a.load tag with
      running := slot.running, outstanding := insert ticket (a.outstanding tag) } else a.load own := by
  have works := outstanding_ask balanced balanced' shared own
  have silent : (a.ask tag purpose slot ticket).times (.anomaly own .underflow) =
      a.times (.anomaly own .underflow) := by simp
  have mending : (a.ask tag purpose slot ticket).pauses.countP (Pause.releasesOf own) =
      a.pauses.countP (Pause.releasesOf own) := by
    simp [Pause.releasesOf]
  split
  · rename_i here
    subst here
    rw [if_pos rfl] at works
    ext1
    · exact congrArg Slot.running ((slot_ask ..).trans (if_pos rfl))
    · exact works
    · exact silent
    · exact mending
  · rename_i elsewhere
    rw [if_neg elsewhere] at works
    ext1
    · exact congrArg Slot.running ((slot_ask ..).trans (if_neg elsewhere))
    · exact works
    · exact silent
    · exact mending

/-- A work of the tag is refused, or its task has ended. -/
theorem load_erase (balanced : a.Balanced []) (balanced' : a'.Balanced []) {m : Mark}
    (ended : m = .rejected tag ticket ∨ m = .concluded tag ticket) (more : a'.marks = a.marks ++ [m])
    (running : Number)
    (counts : ∀ own, (a'.slot own).running = if own = tag then running else (a.slot own).running)
    (own : Tag)
    (mending : a'.pauses.countP (Pause.releasesOf own) = a.pauses.countP (Pause.releasesOf own)) :
    a'.load own = if own = tag then { a.load tag with
      running, outstanding := (a.outstanding tag).erase ticket } else a.load own := by
  have works := outstanding_erase balanced balanced' ended more (by simp) own
  have silent : a'.times (.anomaly own .underflow) = a.times (.anomaly own .underflow) :=
    times_of_quiet (p := Mark.isAnomaly) more
      (by rcases ended with rfl | rfl <;> simp [Mark.isAnomaly]) rfl
  split
  · rename_i here
    subst here
    rw [if_pos rfl] at works
    ext1
    · exact (counts own).trans (if_pos rfl)
    · exact works
    · exact silent
    · exact mending
  · rename_i elsewhere
    rw [if_neg elsewhere] at works
    ext1
    · exact (counts own).trans (if_neg elsewhere)
    · exact works
    · exact silent
    · exact mending

theorem Places.shift (h : Places tag ticket purpose a a') (balanced : a.Balanced [(tag, ticket)])
    (shared : a.Shared) (own : Tag) : Load.Shift c own (a.load own) (a'.load own) := by
  have balanced' := h.balanced balanced
  cases h with
  | wait reached =>
      have same : Admission.load _ own = a.load own := load_eq balanced balanced' rfl
        (by cases (a.slot tag).pending <;> simp [Slot.Notice.marks, Mark.ofHolding, Mark.isAnomaly])
        (running_tell (by rfl) own) (List.countP_cons_of_neg (by simp [Pause.releasesOf]))
      exact same ▸ .still
  | offer room =>
      have fresh : ticket ∉ a.outstanding tag := by
        rw [mem_outstanding balanced, balanced.offered_in_hand]
        omega
      rw [load_ask balanced balanced' shared]
      split
      · rename_i here
        subst here
        exact .offered fresh
      · exact .still

/-- What the slot makes of an end. -/
theorem Ends.load (h : Ends tag purpose a a') (balanced : a.Balanced []) (own : Tag) :
    own ≠ tag ∧ a'.load own = a.load own ∨
    own = tag ∧ (a.load own).running.le 0 = true ∧ a'.load own = { a.load own with
      underflows := (a.load own).underflows + 1, mending := (a.load own).mending + 1 } ∨
    own = tag ∧ a'.load own = { a.load own with running := (a.load own).running.plus (-1) } := by
  have balanced' := h.alike.balanced balanced
  cases h with
  | underflow idle =>
      have works : ∀ m, m.ofHolding = true → (a.tell tag purpose (a.slot tag)
          (.anomaly .underflow (a.slot tag).running) .release).times m = a.times m :=
        fun m work => times_of_quiet rfl (by simp [Slot.Notice.marks, Mark.ofHolding]) work
      by_cases here : own = tag
      · subst here
        refine .inr (.inl ⟨rfl, idle, ?_⟩)
        ext1
        · exact running_tell rfl own
        · exact outstanding_eq balanced balanced' works
        · simp [Admission.load, Slot.Notice.marks]
        · exact List.countP_cons_of_pos (by simp [Pause.releasesOf])
      · refine .inl ⟨here, ?_⟩
        ext1
        · exact running_tell rfl own
        · exact outstanding_eq balanced balanced' works
        · simp [Admission.load, Slot.Notice.marks, Ne.symm here]
        · exact List.countP_cons_of_neg (by simp [Pause.releasesOf, Ne.symm here])
  | finish busy =>
      have works : ∀ m, m.ofHolding = true → (a.finish tag purpose).times m = a.times m :=
        fun m work => times_of_quiet rfl (by simp [Slot.Notice.marks, Mark.ofHolding]) work
      have silent : (a.finish tag purpose).times (.anomaly own .underflow) =
          a.times (.anomaly own .underflow) := by
        simp [Admission.finish, Slot.Notice.marks]
      have mending : (a.finish tag purpose).pauses.countP (Pause.releasesOf own) =
          a.pauses.countP (Pause.releasesOf own) := by
        simp [Admission.finish, Pause.releasesOf]
      by_cases here : own = tag
      · subst here
        refine .inr (.inr ⟨rfl, ?_⟩)
        ext1
        · exact congrArg Slot.running ((slot_tell ..).trans (if_pos rfl))
        · exact outstanding_eq balanced balanced' works
        · exact silent
        · exact mending
      · refine .inl ⟨here, ?_⟩
        ext1
        · exact congrArg Slot.running ((slot_tell ..).trans (if_neg here))
        · exact outstanding_eq balanced balanced' works
        · exact silent
        · exact mending

/-- The count is overwritten, and the end is counted. -/
theorem load_release {rest : List Pause} (balanced : a.Balanced [])
    (top : a.pauses = ⟨tag, purpose, .heard .release⟩ :: rest) :
    (((a.back rest).setSlot tag { a.slot tag with running := 1 }).finish tag purpose).load tag =
      { a.load tag with
        running := (1 : Number).plus (-1), mending := rest.countP (Pause.releasesOf tag) } := by
  have balanced' := (Step.release (c := fun _ _ => True) top).balanced balanced
  ext1
  · simp only [load, finish, slot_tell, slot_setSlot, if_true]
  · exact outstanding_eq balanced balanced' fun m work =>
      times_of_quiet rfl (by simp [Slot.Notice.marks, Mark.ofHolding]) work
  · simp [load, finish, Slot.Notice.marks, times]
  · simp [load, finish, Pause.releasesOf]

/-- All that a step can do to the load of a tag. -/
theorem Step.shift (h : Step c a a') (misled : ∀ a d, c a d → Conduct.misled a d)
    (sound : a.Sound limit) (own : Tag) : Load.Shift c own (a.load own) (a'.load own) := by
  have balanced := sound.balanced
  have balanced' := h.balanced balanced
  have still {marks : List Mark} (more : a'.marks = a.marks ++ marks)
      (quiet : ∀ m ∈ marks, m.ofHolding = false ∧ m.isAnomaly = false)
      (running : (a'.slot own).running = (a.slot own).running)
      (mending : a'.pauses.countP (Pause.releasesOf own) = a.pauses.countP (Pause.releasesOf own)) :
      Load.Shift c own (a.load own) (a'.load own) :=
    load_eq balanced balanced' more quiet running mending ▸ .still
  cases h with
  | @submit tag a' may enters =>
      have same : ({ a with tickets := a.tickets + 1 }.mark [.submitted tag a.tickets]).load own =
          a.load own :=
        load_eq balanced balanced.submitted rfl (by simp [Mark.ofHolding, Mark.isAnomaly]) rfl rfl
      have places := enters.places (sound.bounded.next rfl rfl)
      have shift := places.shift (c := c) balanced.submitted
        (sound.shared.next rfl (by simp [Mark.ofWork]) rfl rfl) own
      rwa [same] at shift
  | @complete tag a' may ends =>
      rcases ends.load balanced own with ⟨-, same⟩ | ⟨rfl, idle, same⟩ | ⟨rfl, same⟩
      · exact same ▸ .still
      · rw [same]
        exact .underflow idle (.inl ⟨rfl, a, may⟩)
      · rw [same]
        exact .miscounted ⟨a, may⟩
  | overwrite may => exact (misled _ _ may).2.elim
  | start may outside =>
      exact still rfl (by simp [Mark.ofHolding, Mark.isAnomaly]) rfl rfl
  | pump next =>
      exact still rfl (by simp [Mark.ofHolding, Mark.isAnomaly]) rfl rfl
  | @refuse tag ticket purpose rest e may top =>
      have idle : a.times (.started tag ticket) = 0 :=
        may.elim (misled _ _ · |>.1) (sound.ran.prompt tag ticket)
      have alone := offered_alone balanced sound.ran top idle
      have flight := sound.shared.flight tag ticket
      have was : ticket ∈ a.outstanding tag := by
        rw [mem_outstanding balanced]
        omega
      rw [load_erase balanced balanced' (.inl rfl) rfl _
        (fun own => by rw [slot_tell]; split <;> rfl) own (by simp [top, Pause.releasesOf])]
      split
      · rename_i here
        subst here
        exact .gone was
      · exact .still
  | @accept tag ticket purpose rest top =>
      have more : (((a.back rest).mark [.accepted tag ticket]).tell tag purpose (a.slot tag)
          (.dispatched ticket (a.slot tag).running) (.answer false)).marks =
            a.marks ++ [.accepted tag ticket] := by
        simp [Slot.Notice.marks]
      exact still more (by simp [Mark.ofHolding, Mark.isAnomaly]) (running_tell (by rfl) own)
        (by simp [top, Pause.releasesOf])
  | @take tag ticket purpose rest prompt top =>
      have more : ((({ a with backlog := (tag, ticket) ::ₘ a.backlog }.back rest).mark
          [.accepted tag ticket]).tell tag purpose (a.slot tag)
            (.dispatched ticket (a.slot tag).running) (.answer false)).marks =
              a.marks ++ [.accepted tag ticket] := by
        simp [Slot.Notice.marks]
      exact still more (by simp [Mark.ofHolding, Mark.isAnomaly]) (running_tell (by rfl) own)
        (by simp [top, Pause.releasesOf])
  | @conclude tag ticket starter outcome inCall inFlight a' next ends =>
      have less : Alike a { a with inFlight } := alike_of_eq rfl rfl rfl (Nat.le_refl _)
      have same : Alike a ({ a with inFlight }.mark [.concluded tag ticket]) :=
        less.trans (alike_mark (by simp [Mark.ofCourse]))
      have told := same.balanced balanced
      have was := outstanding_of_inFlight balanced sound.shared next
      have ended := load_erase balanced told (.inr rfl) rfl (a.slot tag).running
        (fun own => by split <;> simp_all [Admission.slot]) own rfl
      rcases ends.load told own with ⟨other, load⟩ | ⟨rfl, idle, load⟩ | ⟨rfl, load⟩
      · rw [load, ended, if_neg other]
        exact .still
      · rw [if_pos rfl] at ended
        rw [load, ended]
        rw [ended] at idle
        exact .underflow idle (.inr ⟨ticket, was, rfl⟩)
      · rw [if_pos rfl] at ended
        rw [load, ended]
        exact .gone was
  | place top places =>
      exact absurd (sound.bounded.kept _ (top ▸ List.mem_cons_self ..)) (by simp [Pause.places])
  | @release tag purpose rest top =>
      by_cases here : own = tag
      · subst here
        rw [load_release balanced top]
        refine .mended ?_
        rw [load, top]
        exact List.countP_cons_of_pos (by simp [Pause.releasesOf])
      · refine still rfl (by simp [Slot.Notice.marks, Mark.ofHolding, Mark.isAnomaly]) ?_ ?_
        · rw [finish, slot_tell, if_neg here, slot_setSlot, if_neg here, slot_back]
        · simp [finish, top, Pause.releasesOf, Ne.symm here]
  | @handOver tag ticket purpose rest a' top waiting enters =>
      have left := (alike_back top rfl).balanced balanced
      have taken := left.taken waiting
      have same : ((a.back rest).setSlot tag { a.slot tag with pending := none }).load own =
          a.load own :=
        load_eq balanced taken (List.append_nil _).symm (by simp)
          (running_setSlot (by rfl) own) (by simp [top, Pause.releasesOf])
      have places := enters.places ((sound.bounded.back top).setSlot (sound.bounded.within tag))
      have shift := places.shift (c := c) taken ⟨sound.shared.flight, sound.shared.share⟩ own
      rwa [same] at shift
  | @rest tag purpose rest top free =>
      exact still rfl (by cases purpose <;> simp [Purpose.marks, Mark.ofHolding, Mark.isAnomaly])
        (running_setSlot (by rfl) own) (by simp [top, Pause.releasesOf])
  | @answer tag purpose queued rest top =>
      exact still rfl (by cases purpose <;> simp [Purpose.marks, Mark.ofHolding, Mark.isAnomaly])
        (running_setSlot (by rfl) own) (by simp [top, Pause.releasesOf])
  | number => exact still (List.append_nil _).symm (by simp) rfl rfl

end Admission
namespace Load
variable {c : Conduct} {tag : Tag} {l l' : Load}

/-- Where no work is outstanding a slot counts no task, whatever it was told of ends. -/
theorem Shift.low (h : Shift c tag l l') (low : l.running.Whole l.outstanding.card) :
    l'.running.Whole l'.outstanding.card := by
  have none : ((1 : Number).plus (-1)) = .ofInt (0 : Nat) :=
    Number.ofInt_plus_neg_one (k := 1) (by decide) Nat.one_pos
  cases h with
  | still => exact low
  | offered new =>
      have more := low.plus_one
      rwa [← Nat.cast_add_one, ← Finset.card_insert_of_notMem new] at more
  | @gone ticket was =>
      have fewer : ((l.outstanding.erase ticket).card : Int) + 1 = l.outstanding.card := by
        exact_mod_cast Finset.card_erase_add_one was
      exact Number.Whole.plus_neg_one_of_succ (fewer ▸ low) (Int.natCast_nonneg _)
  | miscounted may => exact low.plus_neg_one
  | underflow idle less =>
      obtain ⟨k, counted, -, few⟩ := low
      refine ⟨k, counted, ?_, few⟩
      rw [counted] at idle
      have none : k ≤ 0 := by simpa [Number.ofInt, Number.le] using idle
      omega
  | mended next => exact ⟨0, none, Int.natCast_nonneg _, Nat.zero_le _⟩

/-- The count is short by so many works. -/
def Lacks (lost : Nat) (l : Load) : Prop := l.running = .ofInt (l.outstanding.card - lost)

theorem Lacks.offered {lost : Nat} {ticket : Ticket} (lacks : l.Lacks lost)
    (new : ticket ∉ l.outstanding)
    (few : (insert ticket l.outstanding).card ≤ Number.lastCount) (fewer : lost ≤ Number.lastCount) :
    l.running.plus 1 = .ofInt ((insert ticket l.outstanding).card - lost) := by
  have more := Finset.card_insert_of_notMem new
  rw [lacks, Number.ofInt_plus (by omega), more]
  congr 1
  omega

theorem Lacks.gone {lost : Nat} {ticket : Ticket} (lacks : l.Lacks lost)
    (was : ticket ∈ l.outstanding)
    (few : (l.outstanding.erase ticket).card ≤ Number.lastCount) (fewer : lost ≤ Number.lastCount) :
    l.running.plus (-1) = .ofInt ((l.outstanding.erase ticket).card - lost) := by
  have less := Finset.card_erase_add_one was
  rw [lacks, Number.ofInt_plus (by omega)]
  congr 1
  omega

/-- The count is short by so many works, as long as no end finds no task counted and no step mends. -/
structure Short (lost underflows mending : Nat) (l : Load) : Prop where
  reported : underflows ≤ l.underflows
  still : l.underflows = underflows → l.mending ≤ mending
  lacks : l.underflows = underflows → l.mending = mending → l.Lacks lost

theorem Shift.short {lost underflows mending : Nat} (h : Shift c tag l l')
    (careful : ∀ a, ¬c a (.complete tag)) (few : l'.outstanding.card ≤ Number.lastCount)
    (fewer : lost ≤ Number.lastCount) (short : l.Short lost underflows mending) :
    l'.Short lost underflows mending := by
  cases h with
  | still => exact short
  | offered new =>
      exact ⟨short.reported, short.still, fun same still =>
        (short.lacks same still).offered new few fewer⟩
  | gone was =>
      exact ⟨short.reported, short.still, fun same still =>
        (short.lacks same still).gone was few fewer⟩
  | miscounted may =>
      obtain ⟨a, may⟩ := may
      exact absurd may (careful a)
  | underflow idle less =>
      have more : underflows < l.underflows + 1 := Nat.lt_succ_of_le short.reported
      exact ⟨Nat.le_of_lt more, fun same => absurd same (Nat.ne_of_gt more),
        fun same => absurd same (Nat.ne_of_gt more)⟩
  | @mended rest next =>
      have fewer (same : l.underflows = underflows) : rest < mending :=
        Nat.lt_of_lt_of_le (next ▸ Nat.lt_succ_self rest) (short.still same)
      exact ⟨short.reported, fun same => Nat.le_of_lt (fewer same),
        fun same still => absurd still (Nat.ne_of_lt (fewer same))⟩

/-- The count is right, and no step is to mend it. -/
structure Right (l : Load) : Prop where
  exact : l.Lacks 0
  still : l.mending = 0

theorem Shift.right (h : Shift c tag l l') (careful : ∀ a, ¬c a (.complete tag))
    (few : l'.outstanding.card ≤ Number.lastCount) (right : l.Right) : l'.Right := by
  cases h with
  | still => exact right
  | offered new => exact ⟨right.exact.offered new few (Nat.zero_le _), right.still⟩
  | gone was => exact ⟨right.exact.gone was few (Nat.zero_le _), right.still⟩
  | miscounted may =>
      obtain ⟨a, may⟩ := may
      exact absurd may (careful a)
  | underflow idle less =>
      rcases less with ⟨-, a, may⟩ | ⟨ticket, was, -⟩
      · exact absurd may (careful a)
      · have counted : l.running = .ofInt (l.outstanding.card : Nat) := by
          simpa [Lacks] using right.exact
        rw [counted, Number.ofInt_le_zero] at idle
        exact absurd idle (Finset.card_ne_zero_of_mem was)
  | mended next => exact absurd (right.still.symm.trans next) (Nat.succ_ne_zero _).symm

end Load
namespace System
variable {s : System} {tag : Tag}

/-- A slot that counts no task tells of an end first, and is to mend its count. -/
theorem complete_underflows (idle : (s.limiter.slot tag).running.le 0 = true) (purpose : Purpose) :
    ∃ current, (s.complete tag purpose).system.stack =
      .message tag current [] .release purpose :: s.stack := by
  let notice : Slot.Notice := .anomaly .underflow (s.limiter.slot tag).running
  have alone : (s.messages tag notice).2 = [] := by
    rw [messages]
    cases s.audience <;> rfl
  refine ⟨(s.messages tag notice).1, ?_⟩
  rw [complete, Slot.complete, if_pos idle, ← alone]
  rfl

end System

namespace History
open Admission
variable {h : History} {limit : Nat} {tag : Tag}

/-- Once the report was heard the count is overwritten. -/
theorem admission_release {current : Message} {purpose : Purpose} {below : List Frame}
    (thrown : Option Thrown)
    (stack : h.system.stack = .message tag current [] .release purpose :: below) :
    (h.play (.reply (.heard thrown))).admission =
      ((h.admission.back (below.filterMap Frame.pause?)).setSlot tag
        { h.admission.slot tag with running := 1 }).finish tag purpose := by
  rw [admission_play, System.react_heard thrown stack, Reaction.admission_afterRecords]
  have release : ({ h.system with stack := below } : System).resumeStep tag .release purpose =
      ({ h.system with stack := below } : System).announce tag purpose
        (Slot.finish (h.system.limiter.setting tag) { h.system.limiter.slot tag with running := 1 }) :=
    rfl
  rw [release, System.admission_announce]
  simp [Admission.finish, Admission.tell, Admission.setSlot, System.admission, History.admission,
    Slot.finish, Admission.slot, System.inFlight, stack, Frame.inFlight?, List.filterMap_cons, System.backlog]

theorem sound_plays (ms : List Move) (sound : h.admission.Sound limit)
    (kept : Conduct.careful.Keeps h ms) : (h.plays ms).admission.Sound limit :=
  plays_induction (P := fun a => a.Sound limit)
    (fun _ _ held step => (step.mono fun _ _ => Conduct.careful_misled).sound held) kept sound

/-- What every shift of a load keeps holds after every careful run. -/
theorem load_induction {P : Load → Prop} {ms : List Move}
    (keep : ∀ l l', Load.Shift .careful tag l l' → l'.outstanding.card ≤ Number.lastCount →
      P l → P l')
    (sound : h.admission.Sound limit) (kept : Conduct.careful.Keeps h ms)
    (few : (h.plays ms).system.tickets ≤ Number.lastCount) (start : P (h.admission.load tag)) :
    P ((h.plays ms).admission.load tag) := by
  have held := plays_induction
    (P := fun a => a.Sound limit ∧ (a.tickets ≤ Number.lastCount → P (a.load tag)))
    (fun a a' held step => by
      refine ⟨(step.mono fun _ _ => Conduct.careful_misled).sound held.1, fun few => ?_⟩
      have shift := step.shift (fun _ _ => Conduct.careful_misled) held.1 tag
      exact keep _ _ shift ((outstanding_card_le a' tag).trans few)
        (held.2 (step.limit.2.trans few))) kept ⟨sound, fun _ => start⟩
  exact held.2 few

theorem sound {s : System} (begins : s.Begins) {ms : List Move}
    (kept : Conduct.misled.Keeps ⟨s, []⟩ ms) (tag : Tag) :
    ∃ limit : Nat, s.limiter.limit = some (.ofInt limit) ∧
      ((⟨s, []⟩ : History).plays ms).admission.Sound limit ∧
      (((⟨s, []⟩ : History).plays ms).admission.slot tag).running.Whole
        (((⟨s, []⟩ : History).plays ms).admission.outstanding tag).card := by
  obtain ⟨limit, logger, start⟩ := begins.admission
  have held := plays_induction
    (P := fun a => a.Sound limit ∧ (a.load tag).running.Whole (a.load tag).outstanding.card)
    (fun a a' held step =>
      ⟨step.sound held.1, (step.shift (fun _ _ => id) held.1 tag).low held.2⟩) kept
    (start ▸ ⟨.at_start limit logger, 0, rfl, Int.natCast_nonneg _, Nat.zero_le _⟩)
  exact ⟨limit, congrArg (fun a : Admission => a.limiter.limit) start, held⟩

/-- With its count overwritten a slot counts no task, whatever is outstanding. -/
theorem load_release_reply {current : Message} {purpose : Purpose} {below : List Frame}
    (thrown : Option Thrown) (balanced : h.admission.Balanced [])
    (stack : h.system.stack = .message tag current [] .release purpose :: below) :
    (h.play (.reply (.heard thrown))).admission.load tag =
      { h.admission.load tag with
        running := .ofInt 0
        mending := (below.filterMap Frame.pause?).countP (Pause.releasesOf tag) } := by
  have top : h.admission.pauses =
      ⟨tag, purpose, .heard .release⟩ :: below.filterMap Frame.pause? := by
    simp [History.admission, System.admission, stack, Frame.pause?]
  have none : (1 : Number).plus (-1) = .ofInt 0 :=
    Number.ofInt_plus (n := 1) (k := -1) (by decide)
  rw [admission_release thrown stack, load_release balanced top, none]

section Released
variable {told : History} {thrown : Option Thrown} {current : Message} {purpose : Purpose}
  {below : List Frame} {rest : List Move}
  (sound : told.admission.Sound limit)
  (stack : told.system.stack = .message tag current [] .release purpose :: below)
  (careful : Conduct.careful.Keeps told (.reply (.heard thrown) :: rest))
  (few : (told.plays (.reply (.heard thrown) :: rest)).system.tickets ≤ Number.lastCount)
include sound stack careful few

/-- The count stays short by the works that were outstanding when it was overwritten. -/
theorem short_after_release :
    ((told.plays (.reply (.heard thrown) :: rest)).admission.load tag).Short
      (told.admission.outstanding tag).card (told.admission.times (.anomaly tag .underflow))
      ((below.filterMap Frame.pause?).countP (Pause.releasesOf tag)) := by
  have fewTold := (tickets_le_plays told _).trans few
  have fewer := (outstanding_card_le told.admission tag).trans fewTold
  have released := load_release_reply thrown sound.balanced stack
  have soundNext : (told.play (.reply (.heard thrown))).admission.Sound limit :=
    sound_plays [.reply (.heard thrown)] sound ⟨careful.1, trivial⟩
  refine load_induction (h := told.play (.reply (.heard thrown)))
    (fun l l' shift few => shift.short (fun _ => id) few fewer) soundNext careful.2 few ?_
  rw [released]
  exact ⟨Nat.le_refl _, fun _ => Nat.le_refl _, fun _ _ => by
    show Number.ofInt 0 = .ofInt ((told.admission.outstanding tag).card -
      (told.admission.outstanding tag).card)
    rw [Int.sub_self]⟩

/-- Where nothing was outstanding and no other step is to mend the count, it stays right. -/
theorem right_after_release (none : told.admission.outstanding tag = ∅)
    (alone : (below.filterMap Frame.pause?).countP (Pause.releasesOf tag) = 0) :
    ((told.plays (.reply (.heard thrown) :: rest)).admission.load tag).Right := by
  have released := load_release_reply thrown sound.balanced stack
  have soundNext : (told.play (.reply (.heard thrown))).admission.Sound limit :=
    sound_plays [.reply (.heard thrown)] sound ⟨careful.1, trivial⟩
  refine load_induction (h := told.play (.reply (.heard thrown)))
    (fun l l' shift few => shift.right (fun _ => id) few) soundNext careful.2 few ?_
  rw [released]
  refine ⟨?_, alone⟩
  show Number.ofInt 0 = .ofInt ((told.admission.outstanding tag).card - (0 : Nat))
  rw [none]
  rfl

end Released

/-- The call of an end that finds no task counted. -/
theorem opened_by_spurious_end (made : (h.system.limiter.slot? tag).isSome = true)
    (idle : (h.system.limiter.slot tag).running.le 0 = true) :
    ∃ current, (h.play (.complete tag)).system.stack =
      .message tag current [] .release .complete :: h.system.stack := by
  obtain ⟨current, stack⟩ := System.complete_underflows idle .complete
  refine ⟨current, ?_⟩
  rw [← stack]
  simp only [play, System.react]
  rw [if_pos made]

/-- A slot without outstanding works is told of an end that never was. When the call is over, the count
is short by the works that were outstanding when its report had been heard, unless one more end was
reported since. So it is right just where listeners of the report have started nothing that has not
ended; then, if no other such call is open, it stays right, and the limit is kept. -/
theorem count_after_spurious_end {s : System} (begins : s.Begins) (before more : List Move) (tag : Tag)
    (misled : Conduct.misled.Keeps ⟨s, []⟩ before)
    (made : (((⟨s, []⟩ : History).plays before).system.limiter.slot? tag).isSome = true)
    (none : ((⟨s, []⟩ : History).plays before).admission.outstanding tag = ∅)
    (careful : Conduct.careful.Keeps (((⟨s, []⟩ : History).plays before).play (.complete tag)) more)
    (unwinds : (((⟨s, []⟩ : History).plays before).play (.complete tag)).Unwinds
      ((⟨s, []⟩ : History).plays before).system.openSteps more)
    (few : ((((⟨s, []⟩ : History).plays before).play (.complete tag)).plays more).system.tickets ≤
      Number.lastCount) :
    let h := (⟨s, []⟩ : History).plays before
    let called := h.play (.complete tag)
    let after := called.plays more
    ∃ limit : Nat, s.limiter.limit = some (.ofInt limit) ∧
      (∃ heard thrown rest, more = heard ++ .reply (.heard thrown) :: rest ∧
        (called.plays heard).system.stack = called.system.stack) ∧
      ∀ heard thrown rest, more = heard ++ .reply (.heard thrown) :: rest →
        (called.plays heard).system.stack = called.system.stack →
        let told := (called.plays heard).admission
        (after.admission.times (.anomaly tag .underflow) = told.times (.anomaly tag .underflow) →
          (after.system.limiter.slot tag).running =
            .ofInt ((after.admission.outstanding tag).card - (told.outstanding tag).card)) ∧
        (told.outstanding tag = ∅ → (∀ p ∈ h.admission.pauses, p.releasesOf tag = false) →
          ∀ later, Conduct.careful.Keeps after later →
            (after.plays later).system.tickets ≤ Number.lastCount →
            let last := after.plays later
            (last.system.limiter.slot tag).running = .ofInt (last.admission.outstanding tag).card ∧
              (last.admission.outstanding tag).card ≤ limit) := by
  intro h called after
  obtain ⟨limit, bound, sound, low⟩ := sound begins misled tag
  have idle : (h.system.limiter.slot tag).running.le 0 = true := by
    obtain ⟨k, counted, low, -⟩ := none ▸ low
    have running : (h.system.limiter.slot tag).running = .ofInt k := counted
    rw [running]
    simpa [Number.ofInt, Number.le] using low
  obtain ⟨current, opened⟩ := opened_by_spurious_end made idle
  have soundCalled : called.admission.Sound limit :=
    plays_induction (c := .misled) (P := fun a => a.Sound limit) (h := h)
      (fun _ _ held step => step.sound held)
      (show Conduct.misled.Keeps h [.complete tag] from
        ⟨fun d mem => by cases mem; exact ⟨trivial, trivial⟩, trivial⟩) sound
  refine ⟨limit, bound, ?_, ?_⟩
  · obtain ⟨heard, reply, rest, split, top, answered, -⟩ :=
      unwinds.answered (show _ = [] ++ _ from opened) rfl rfl
    cases reply with
    | heard thrown => exact ⟨heard, thrown, rest, split, top.trans opened.symm⟩
    | accept | refuse | task => cases answered
  · rintro heard thrown rest rfl top told
    have stack := top.trans opened
    have soundTold := sound_plays heard soundCalled careful.of_append
    have closed : after.admission.pauses = h.admission.pauses := by
      obtain ⟨upper, stack, still⟩ := unwinds.stack (show _ = [_] ++ _ from opened) rfl
      have none : upper.filterMap Frame.pause? = [] := by
        rw [List.filterMap_eq_nil_iff]
        intro frame mem
        exact Option.isNone_iff_eq_none.1 (by simpa [Frame.isStep] using still frame mem)
      have pauses : after.system.stack.filterMap Frame.pause? =
          h.system.stack.filterMap Frame.pause? := by
        rw [stack, List.filterMap_append, none, List.nil_append]
      exact pauses
    have last := plays_append called heard (.reply (.heard thrown) :: rest)
    constructor
    · intro same
      have short := short_after_release soundTold stack careful.rest (last ▸ few)
      rw [← last] at short
      exact short.lacks same (congrArg (List.countP (Pause.releasesOf tag)) closed)
    · intro started alone later careful' few' final
      have apart : (h.system.stack.filterMap Frame.pause?).countP (Pause.releasesOf tag) = 0 :=
        List.countP_eq_zero.2 fun p mem => Bool.not_eq_true _ ▸ alone p mem
      have right := right_after_release soundTold stack careful.rest (last ▸ few) started apart
      rw [← last] at right
      have soundAfter := sound_plays _ soundCalled careful
      have right' := load_induction (fun l l' shift few => shift.right (fun _ => id) few)
        soundAfter careful' few' right
      have counted : (final.system.limiter.slot tag).running =
          .ofInt ((final.admission.outstanding tag).card - (0 : Nat)) := right'.exact
      obtain ⟨k, same, within, -⟩ := (sound_plays later soundAfter careful').bounded.within tag
      have same' : (final.system.limiter.slot tag).running = .ofInt k := same
      rw [Nat.cast_zero, Int.sub_zero] at counted
      refine ⟨counted, ?_⟩
      rw [counted, Number.ofInt_inj] at same'
      omega

/-- A task of the tag was called and has ended. -/
def oneEnded : List Move :=
  [.submit "t", .reply .accept, .reply (.heard none), .start (.limited "t" 0),
    .reply (.task (.settled .fulfilled)), .job, .reply (.heard none)]

/-- A listener submits one task where it hears of an end that never was. -/
def submitsOnReport : List Move :=
  [.submit "t", .reply .accept, .reply (.heard none), .reply (.heard none), .reply (.heard none)]

theorem task_submitted_on_report_is_not_counted :
    let after := (((⟨.oneAtATime, []⟩ : History).plays oneEnded).play (.complete "t")).plays
      submitsOnReport
    (after.admission.outstanding "t").card = 1 ∧
      (after.system.limiter.slot "t").running = .ofInt 0 := by
  intro after
  obtain ⟨limit, -, -, short⟩ := count_after_spurious_end
    System.oneAtATime_begins oneEnded submitsOnReport "t" (by decide +kernel) (by decide +kernel)
    (by decide +kernel) (by decide +kernel) (by decide +kernel) (by decide +kernel)
  obtain ⟨counted, -⟩ := short [.submit "t", .reply .accept, .reply (.heard none)] none
    [.reply (.heard none)] rfl (by with_unfolding_all rfl)
  have one : (after.admission.outstanding "t").card = 1 := by decide +kernel
  have told : ((((⟨.oneAtATime, []⟩ : History).plays oneEnded).play (.complete "t")).plays
      [.submit "t", .reply .accept, .reply (.heard none)]).admission.outstanding "t" = {1} := by
    decide +kernel
  refine ⟨one, (counted (by decide +kernel)).trans ?_⟩
  rw [told]
  have same : ((after.admission.outstanding "t").card : Int) - (Finset.card {1} : Nat) = 0 := by
    rw [one]
    rfl
  exact congrArg Number.ofInt same

/-- A task that was submitted on the report is out with the runner, and the slot counts none. -/
theorem not_always_counted_after_spurious_end :
    ¬∀ {s : System} (_ : s.Begins) (before more : List Move) (tag : Tag),
      let h := (⟨s, []⟩ : History).plays before
      let after := (h.play (.complete tag)).plays more
      Conduct.misled.Keeps ⟨s, []⟩ before → (h.system.limiter.slot? tag).isSome = true →
        h.admission.outstanding tag = ∅ → Conduct.careful.Keeps (h.play (.complete tag)) more →
        (h.play (.complete tag)).Unwinds h.system.openSteps more →
        (after.system.limiter.slot tag).running = .ofInt (after.admission.outstanding tag).card := by
  intro counted
  have same := counted System.oneAtATime_begins oneEnded submitsOnReport "t" (by decide +kernel)
    (by decide +kernel) (by decide +kernel) (by decide +kernel) (by decide +kernel)
  revert same
  decide +kernel

end History
end Turnstile
