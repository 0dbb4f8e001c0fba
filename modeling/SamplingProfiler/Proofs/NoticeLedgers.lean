import SamplingProfiler.Proofs.NoticeQueues
import SamplingProfiler.Proofs.Totals

/-!
# Ledgers of the queues

A ledger is kept beside each queue, from what its senders and its reader get to see: which
notices entered the queue and which did not, what was delivered, what was reported as lost,
and whether the reader was handed out and dropped. The queues do not know of it.

`entered_effect` says once what an event does to a queue and its ledger. That the two agree is
kept by each of these effects, and so by every run, whatever is done to the queues and in
whatever order.
-/

namespace SamplingProfiler

/-- What can be done from the side of a reader. -/
inductive ReaderAct where
  /-- The reader is asked for. -/
  | taken
  | readAll
  | readFirst
  | lossTaken
  | dropped
deriving DecidableEq, Repr

/-- What can happen to the queues. -/
inductive QueueEvent where
  | sent (cpu : UInt32) (notice : Notice)
  | acted (cpu : UInt32) (act : ReaderAct)
deriving DecidableEq, Repr

/-- What was seen of a queue from outside. -/
structure QueueLedger where
  /-- The notices that entered the queue, in the order in which they were sent. -/
  accepted : List Notice
  /-- The notices that were sent to the queue and did not enter it. -/
  refused : List Notice
  /-- The notices that the reader got, in the order in which it got them. -/
  delivered : List Notice
  /-- The notices that waited when the reader was dropped. -/
  discarded : List Notice
  /-- How many notices were reported as lost, report by report. -/
  reported : List UInt64
  /-- How often the reader was handed out. -/
  openings : Nat
  /-- Whether the reader was dropped. -/
  isDropped : Bool
deriving DecidableEq, Repr

namespace QueueLedger

/-- The ledger of a queue with which nothing has happened. -/
def empty : QueueLedger :=
  ⟨[], [], [], [], [], 0, false⟩

/-- Enter what the reader's side got for an act. -/
def enterAct (ledger : QueueLedger) (all : NoticeBuffers) (cpu : UInt32) :
    ReaderAct → QueueLedger
  | .taken =>
    match (all.openReader cpu).1 with
    | .ok () => { ledger with openings := ledger.openings + 1 }
    | .error _ => ledger
  | .readAll =>
    match (all.read cpu).1 with
    | some (queued, lost) =>
      { ledger with
        delivered := ledger.delivered ++ queued
        reported := ledger.reported ++ [lost] }
    | none => ledger
  | .readFirst =>
    match (all.next cpu).1 with
    | some (some notice) => { ledger with delivered := ledger.delivered ++ [notice] }
    | _ => ledger
  | .lossTaken =>
    match (all.takeLost cpu).1 with
    | some lost => { ledger with reported := ledger.reported ++ [lost] }
    | none => ledger
  | .dropped =>
    match (all.dropReader cpu).1 with
    | some () =>
      { ledger with
        discarded := ledger.discarded ++ all.queueAt cpu.toNat
        isDropped := true }
    | none => ledger

/-- Enter an event into the ledger of a queue. A notice was accepted if it waits behind those
that waited before. -/
def enter (ledger : QueueLedger) (queue : Nat) (all : NoticeBuffers) :
    QueueEvent → QueueLedger
  | .sent cpu notice =>
    if all.queueOf cpu ≠ queue then ledger
    else if (all.send cpu notice).queueAt queue = all.queueAt queue ++ [notice] then
      { ledger with accepted := ledger.accepted ++ [notice] }
    else { ledger with refused := ledger.refused ++ [notice] }
  | .acted cpu act => if cpu.toNat ≠ queue then ledger else ledger.enterAct all cpu act

end QueueLedger

namespace NoticeBuffers

/-- The queues after something was done from the side of a reader. -/
def act (all : NoticeBuffers) (cpu : UInt32) : ReaderAct → NoticeBuffers
  | .taken => (all.openReader cpu).2
  | .readAll => (all.read cpu).2
  | .readFirst => (all.next cpu).2
  | .lossTaken => (all.takeLost cpu).2
  | .dropped => (all.dropReader cpu).2

/-- The queues after an event. -/
def step (all : NoticeBuffers) : QueueEvent → NoticeBuffers
  | .sent cpu notice => all.send cpu notice
  | .acted cpu done => all.act cpu done

/-- The queues after a list of events. -/
def after (all : NoticeBuffers) (events : List QueueEvent) : NoticeBuffers :=
  events.foldl step all

/-- What the ledger of a queue says after a list of events. -/
def ledgerAfter (all : NoticeBuffers) (queue : Nat) (ledger : QueueLedger) :
    List QueueEvent → QueueLedger
  | [] => ledger
  | event :: rest => (all.step event).ledgerAfter queue (ledger.enter queue all event) rest

/-- The queue that an event is about. -/
def target (all : NoticeBuffers) : QueueEvent → Nat
  | .sent cpu _ => all.queueOf cpu
  | .acted cpu _ => cpu.toNat

/-- The notices that a list of events sends to a queue. -/
def outputs (all : NoticeBuffers) (queue : Nat) (events : List QueueEvent) : List Notice :=
  events.filterMap fun
    | .sent cpu notice => if all.queueOf cpu = queue then some notice else none
    | .acted _ _ => none

/-- How many lost notices of a queue were not reported; none where there is no queue. -/
def lostAt (all : NoticeBuffers) (queue : Nat) : UInt64 :=
  (all.buffers[queue]?.map NoticeBuffer.lost).getD 0

end NoticeBuffers

/-- What an event does to a queue and its ledger. -/
inductive Entered (capacity : UInt64) (buffer : NoticeBuffer) (ledger : QueueLedger) :
    NoticeBuffer → QueueLedger → Prop where
  | untouched : Entered capacity buffer ledger buffer ledger
  | accepted (notice : Notice) (room : buffer.accepts capacity = true) :
      Entered capacity buffer ledger { buffer with queue := buffer.queue ++ [notice] }
        { ledger with accepted := ledger.accepted ++ [notice] }
  | refused (notice : Notice) (closed : buffer.accepts capacity = false) :
      Entered capacity buffer ledger { buffer with lost := buffer.lost + 1 }
        { ledger with refused := ledger.refused ++ [notice] }
  | opened (waiting : buffer.reader = .waiting) :
      Entered capacity buffer ledger { buffer with reader := .taken }
        { ledger with openings := ledger.openings + 1 }
  | readAll (held : buffer.reader = .taken) :
      Entered capacity buffer ledger { buffer with queue := [], lost := 0 }
        { ledger with
          delivered := ledger.delivered ++ buffer.queue
          reported := ledger.reported ++ [buffer.lost] }
  | readFirst (held : buffer.reader = .taken) (first : Notice) (rest : List Notice)
      (queued : buffer.queue = first :: rest) :
      Entered capacity buffer ledger { buffer with queue := rest }
        { ledger with delivered := ledger.delivered ++ [first] }
  | lossTaken (held : buffer.reader = .taken) :
      Entered capacity buffer ledger { buffer with lost := 0 }
        { ledger with reported := ledger.reported ++ [buffer.lost] }
  | dropped (held : buffer.reader = .taken) :
      Entered capacity buffer ledger { buffer with queue := [], reader := .dropped }
        { ledger with discarded := ledger.discarded ++ buffer.queue, isDropped := true }

/-- A queue and its ledger agree. -/
structure NoticeBuffer.Accounted (buffer : NoticeBuffer) (ledger : QueueLedger) : Prop where
  ordered : ledger.delivered ++ ledger.discarded ++ buffer.queue = ledger.accepted
  /-- The counter of lost notices may have wrapped around between two reports. -/
  losses : ∃ wraps, sumOf UInt64.toNat ledger.reported + buffer.lost.toNat +
    wraps * UInt64.size = ledger.refused.length
  unopened : buffer.reader = .waiting ↔ ledger.openings = 0
  openedOnce : ledger.openings ≤ 1
  dropped : buffer.reader = .dropped ↔ ledger.isDropped = true
  emptied : ledger.isDropped = true → buffer.queue = []
  kept : ledger.isDropped = false → ledger.discarded = []

/-- A queue before its first notice agrees with the empty ledger. -/
theorem NoticeBuffer.accounted_empty : NoticeBuffer.empty.Accounted QueueLedger.empty where
  ordered := rfl
  losses := ⟨0, rfl⟩
  unopened := by simp [NoticeBuffer.empty, QueueLedger.empty]
  openedOnce := Nat.zero_le 1
  dropped := by simp [NoticeBuffer.empty, QueueLedger.empty]
  emptied := fun _ => rfl
  kept := fun _ => rfl

/-- Whatever happens to a queue, it goes on agreeing with its ledger. -/
theorem Entered.accounted {capacity : UInt64} {buffer next : NoticeBuffer}
    {ledger later : QueueLedger} (entered : Entered capacity buffer ledger next later)
    (accounted : buffer.Accounted ledger) : next.Accounted later := by
  obtain ⟨ordered, ⟨wraps, losses⟩, unopened, openedOnce, dropped, emptied, kept⟩ := accounted
  cases entered with
  | untouched => exact ⟨ordered, ⟨wraps, losses⟩, unopened, openedOnce, dropped, emptied, kept⟩
  | accepted notice room =>
    refine ⟨?_, ⟨wraps, losses⟩, unopened, openedOnce, dropped, ?_, kept⟩
    · simp only [← ordered, List.append_assoc]
    · intro gone
      simp [NoticeBuffer.accepts, dropped.mpr gone] at room
  | refused notice closed =>
    refine ⟨ordered, ?_, unopened, openedOnce, dropped, emptied, kept⟩
    simp only [List.length_append, List.length_singleton, UInt64.toNat_add,
      UInt64.reduceToNat, UInt64.size] at losses ⊢
    by_cases last : buffer.lost.toNat = 2 ^ 64 - 1
    · exact ⟨wraps + 1, by omega⟩
    · have small := buffer.lost.toNat_lt
      exact ⟨wraps, by omega⟩
  | opened waiting =>
    have untaken := unopened.mp waiting
    refine ⟨ordered, ⟨wraps, losses⟩, ?_, ?_, ?_, emptied, kept⟩
    · simp
    · simp [untaken]
    · simpa [waiting] using dropped
  | readAll held =>
    have undropped : ledger.isDropped = false := by simpa [held] using dropped
    refine ⟨?_, ⟨wraps, ?_⟩, unopened, openedOnce, dropped, fun _ => rfl, kept⟩
    · simpa [kept undropped] using ordered
    · simpa [sumOf_append] using losses
  | readFirst held first rest queued =>
    have undropped : ledger.isDropped = false := by simpa [held] using dropped
    refine ⟨?_, ⟨wraps, losses⟩, unopened, openedOnce, dropped, ?_, kept⟩
    · simpa [kept undropped, queued] using ordered
    · simp [undropped]
  | lossTaken held =>
    refine ⟨ordered, ⟨wraps, ?_⟩, unopened, openedOnce, dropped, emptied, kept⟩
    simpa [sumOf_append] using losses
  | dropped held =>
    refine ⟨?_, ⟨wraps, losses⟩, ?_, openedOnce, ?_, fun _ => rfl, ?_⟩
    · simpa using ordered
    · simpa [held] using unopened
    · simp
    · simp

/-- By its ledger, a queue takes another notice if its reader was not dropped and there is
room. -/
theorem NoticeBuffer.Accounted.accepts_iff {buffer : NoticeBuffer} {ledger : QueueLedger}
    (accounted : buffer.Accounted ledger) (capacity : UInt64) :
    buffer.accepts capacity = true ↔
      ledger.isDropped = false ∧ buffer.queue.length < capacity.toNat := by
  rw [NoticeBuffer.accepts, Bool.and_eq_true, decide_eq_true_iff, decide_eq_true_iff, Ne,
    accounted.dropped, Bool.not_eq_true]

/-- The reports and what was not reported say how many notices were refused, as far as 64 bits
can. -/
theorem NoticeBuffer.Accounted.reports_mod {buffer : NoticeBuffer} {ledger : QueueLedger}
    (accounted : buffer.Accounted ledger) :
    (sumOf UInt64.toNat ledger.reported + buffer.lost.toNat) % UInt64.size =
      ledger.refused.length % UInt64.size := by
  obtain ⟨wraps, losses⟩ := accounted.losses
  rw [← losses]
  exact (Nat.add_mul_mod_self_right ..).symm

/-- As long as 64 bits hold their number, the reports and what was not reported say how many
notices were refused. -/
theorem NoticeBuffer.Accounted.reports_exact {buffer : NoticeBuffer} {ledger : QueueLedger}
    (accounted : buffer.Accounted ledger) (small : ledger.refused.length < UInt64.size) :
    sumOf UInt64.toNat ledger.reported + buffer.lost.toNat = ledger.refused.length := by
  obtain ⟨wraps, losses⟩ := accounted.losses
  have unwrapped : wraps = 0 := by
    rcases Nat.eq_zero_or_pos wraps with never | wrapping
    · exact never
    · have large := Nat.le_mul_of_pos_left UInt64.size wrapping
      omega
  simpa [unwrapped] using losses

namespace NoticeBuffers

variable (all : NoticeBuffers) (cpu : UInt32) (queue : Nat)

@[simp] theorem after_nil : all.after [] = all := rfl

@[simp] theorem after_cons (event : QueueEvent) (events : List QueueEvent) :
    all.after (event :: events) = (all.step event).after events := rfl

@[simp] theorem ledgerAfter_nil (ledger : QueueLedger) :
    all.ledgerAfter queue ledger [] = ledger := rfl

@[simp] theorem ledgerAfter_cons (ledger : QueueLedger) (event : QueueEvent)
    (events : List QueueEvent) :
    all.ledgerAfter queue ledger (event :: events) =
      (all.step event).ledgerAfter queue (ledger.enter queue all event) events := rfl

/-- An event changes no queue but its own. -/
theorem getElem?_step_other (event : QueueEvent) (other : all.target event ≠ queue) :
    (all.step event).buffers[queue]? = all.buffers[queue]? := by
  cases event with
  | sent cpu notice => exact (all.getElem?_send cpu queue notice).trans (if_neg other)
  | acted cpu done =>
    cases done with
    | taken => exact (all.getElem?_openReader cpu queue).trans (if_neg other)
    | readAll => exact (all.getElem?_withReader cpu queue _).trans (if_neg other)
    | readFirst => exact (all.getElem?_withReader cpu queue _).trans (if_neg other)
    | lossTaken => exact (all.getElem?_withReader cpu queue _).trans (if_neg other)
    | dropped => exact (all.getElem?_withReader cpu queue _).trans (if_neg other)

/-- An event leaves the ledgers of other queues alone. -/
theorem enter_other (ledger : QueueLedger) (event : QueueEvent)
    (other : all.target event ≠ queue) : ledger.enter queue all event = ledger := by
  cases event with
  | sent cpu notice => exact if_pos other
  | acted cpu done => exact if_pos other

/-- A notice enters its queue exactly if the queue takes another one. -/
theorem queueAt_send_append_iff (notice : Notice) (buffer : NoticeBuffer)
    (found : all.buffers[all.queueOf cpu]? = some buffer) :
    (all.send cpu notice).queueAt (all.queueOf cpu) =
        all.queueAt (all.queueOf cpu) ++ [notice] ↔ buffer.accepts all.capacity = true := by
  rw [queueAt_send]
  by_cases room : buffer.accepts all.capacity = true
  · simp [takes, found, room]
  · simp [takes, found, room]

/-- What a reader's side gets, and what becomes of the queue, where there is one. -/
theorem withReader_found {Result : Type} (deed : NoticeBuffer → Result × NoticeBuffer)
    (buffer : NoticeBuffer) (found : all.buffers[cpu.toNat]? = some buffer) :
    (all.withReader cpu deed).1 =
        (if buffer.reader = .taken then some (deed buffer).1 else none) ∧
      (all.withReader cpu deed).2.buffers[cpu.toNat]? =
        some (if buffer.reader = .taken then (deed buffer).2 else buffer) := by
  constructor
  · rw [withReader_fst, found]
    by_cases held : buffer.reader = .taken <;> simp [held, Option.filter]
  · rw [getElem?_withReader, if_pos rfl, found]
    rfl

/-- What a notice does to the queue to which it is sent, and to the ledger of that queue. -/
theorem entered_sent (ledger : QueueLedger) (notice : Notice) (buffer : NoticeBuffer)
    (found : all.buffers[all.queueOf cpu]? = some buffer) :
    ∃ next, (all.send cpu notice).buffers[all.queueOf cpu]? = some next ∧
      Entered all.capacity buffer ledger next
        (ledger.enter (all.queueOf cpu) all (.sent cpu notice)) := by
  have enters := all.queueAt_send_append_iff cpu notice buffer found
  refine ⟨buffer.send all.capacity notice, ?_, ?_⟩
  · rw [getElem?_send, if_pos rfl, found]
    rfl
  · simp only [QueueLedger.enter, ne_eq, not_true_eq_false, if_false, enters]
    cases room : buffer.accepts all.capacity with
    | true =>
      simp only [NoticeBuffer.send, room, if_true]
      exact .accepted notice room
    | false =>
      simp only [NoticeBuffer.send, room, Bool.false_eq_true, if_false]
      exact .refused notice room

/-- What is done from the side of a reader does to the queue and to its ledger what the holder
of the reader may do, or nothing. -/
theorem entered_acted (ledger : QueueLedger) (done : ReaderAct) (buffer : NoticeBuffer)
    (found : all.buffers[cpu.toNat]? = some buffer) :
    ∃ next, (all.act cpu done).buffers[cpu.toNat]? = some next ∧
      Entered all.capacity buffer ledger next (ledger.enterAct all cpu done) := by
  cases done with
  | taken =>
    refine ⟨_, (all.getElem?_openReader cpu cpu.toNat).trans ((if_pos rfl).trans
      (congrArg _ found)), ?_⟩
    by_cases waiting : buffer.reader = .waiting
    · simp only [QueueLedger.enterAct, openReader, found, NoticeBuffer.take?, waiting, if_true,
        Option.getD_some]
      exact .opened waiting
    · simp only [QueueLedger.enterAct, openReader, found, NoticeBuffer.take?, waiting, if_false,
        Option.getD_none]
      exact .untouched
  | readAll =>
    obtain ⟨replied, changed⟩ := all.withReader_found cpu NoticeBuffer.read buffer found
    refine ⟨_, changed, ?_⟩
    simp only [QueueLedger.enterAct, read, replied]
    split
    · next held => exact .readAll held
    · exact .untouched
  | readFirst =>
    obtain ⟨replied, changed⟩ := all.withReader_found cpu NoticeBuffer.next buffer found
    refine ⟨_, changed, ?_⟩
    simp only [QueueLedger.enterAct, next, replied]
    by_cases held : buffer.reader = .taken
    · obtain ⟨queue, lost, reader⟩ := buffer
      cases queue with
      | nil =>
        simp only [if_pos held, NoticeBuffer.next, List.head?_nil, List.tail_nil]
        exact .untouched
      | cons first rest =>
        simp only [if_pos held, NoticeBuffer.next, List.head?_cons, List.tail_cons]
        exact .readFirst held first rest rfl
    · simp only [held, if_false]
      exact .untouched
  | lossTaken =>
    obtain ⟨replied, changed⟩ := all.withReader_found cpu NoticeBuffer.takeLost buffer found
    refine ⟨_, changed, ?_⟩
    simp only [QueueLedger.enterAct, takeLost, replied]
    split
    · next held => exact .lossTaken held
    · exact .untouched
  | dropped =>
    obtain ⟨replied, changed⟩ :=
      all.withReader_found cpu (fun buffer => ((), buffer.dropReader)) buffer found
    have waits : all.queueAt cpu.toNat = buffer.queue := by
      simp [queueAt, found]
    refine ⟨_, changed, ?_⟩
    simp only [QueueLedger.enterAct, dropReader, replied, waits]
    split
    · next held => exact .dropped held
    · exact .untouched

/-- What an event does to a queue and its ledger. -/
theorem entered_effect (ledger : QueueLedger) (event : QueueEvent) (buffer : NoticeBuffer)
    (found : all.buffers[queue]? = some buffer) :
    ∃ next, (all.step event).buffers[queue]? = some next ∧
      Entered all.capacity buffer ledger next (ledger.enter queue all event) := by
  by_cases here : all.target event = queue
  · subst here
    cases event with
    | sent cpu notice => exact all.entered_sent cpu ledger notice buffer found
    | acted cpu done =>
      obtain ⟨next, reached, entered⟩ := all.entered_acted cpu ledger done buffer found
      refine ⟨next, reached, ?_⟩
      rw [QueueLedger.enter, target, if_neg (not_not_intro rfl)]
      exact entered
  · refine ⟨buffer, (all.getElem?_step_other queue event here).trans found, ?_⟩
    rw [all.enter_other queue ledger event here]
    exact .untouched

/-- What the holder of a reader does leaves the size of the queues and their number as they
are. -/
theorem withReader_shape {Result : Type} (deed : NoticeBuffer → Result × NoticeBuffer) :
    (all.withReader cpu deed).2.capacity = all.capacity ∧
      (all.withReader cpu deed).2.buffers.length = all.buffers.length := by
  unfold withReader
  cases all.buffers[cpu.toNat]? with
  | none => exact ⟨rfl, rfl⟩
  | some buffer => by_cases held : buffer.reader = .taken <;> simp [held]

/-- No event changes how much a queue holds, or how many queues there are. -/
theorem step_shape (event : QueueEvent) :
    (all.step event).capacity = all.capacity ∧
      (all.step event).buffers.length = all.buffers.length := by
  cases event with
  | sent cpu notice => simp [step, send]
  | acted cpu done =>
    cases done with
    | taken =>
      simp only [step, act, openReader]
      cases all.buffers[cpu.toNat]? with
      | none => exact ⟨rfl, rfl⟩
      | some buffer => cases taken : buffer.take? <;> simp [taken]
    | readAll => exact all.withReader_shape cpu _
    | readFirst => exact all.withReader_shape cpu _
    | lossTaken => exact all.withReader_shape cpu _
    | dropped => exact all.withReader_shape cpu _

/-- No run changes how much a queue holds, or how many queues there are. -/
theorem after_shape (events : List QueueEvent) :
    (all.after events).capacity = all.capacity ∧
      (all.after events).buffers.length = all.buffers.length := by
  induction events generalizing all with
  | nil => exact ⟨rfl, rfl⟩
  | cons event rest inductionHypothesis =>
    obtain ⟨capacity, length⟩ := all.step_shape event
    obtain ⟨capacityLast, lengthLast⟩ := inductionHypothesis (all.step event)
    exact ⟨capacityLast.trans capacity, lengthLast.trans length⟩

/-- A queue that agrees with its ledger agrees with it after every run. -/
theorem accounted_after (ledger : QueueLedger) (events : List QueueEvent) (buffer : NoticeBuffer)
    (found : all.buffers[queue]? = some buffer) (accounted : buffer.Accounted ledger) :
    ∃ last, (all.after events).buffers[queue]? = some last ∧
      last.Accounted (all.ledgerAfter queue ledger events) := by
  induction events generalizing all ledger buffer with
  | nil => exact ⟨buffer, found, accounted⟩
  | cons event rest inductionHypothesis =>
    obtain ⟨next, reached, entered⟩ := all.entered_effect queue ledger event buffer found
    exact inductionHypothesis (all.step event) _ next reached (entered.accounted accounted)

/-- An event enters the notice that it sends among the accepted ones or among the refused
ones. -/
theorem enter_outputs (ledger : QueueLedger) (event : QueueEvent) :
    ∃ entered barred, (ledger.enter queue all event).accepted = ledger.accepted ++ entered ∧
      (ledger.enter queue all event).refused = ledger.refused ++ barred ∧
      entered.Sublist (all.outputs queue [event]) ∧
      (entered ++ barred).Perm (all.outputs queue [event]) := by
  cases event with
  | sent cpu notice =>
    by_cases here : all.queueOf cpu = queue
    · by_cases grown : (all.send cpu notice).queueAt queue = all.queueAt queue ++ [notice]
      · exact ⟨[notice], [], by simp [QueueLedger.enter, here, grown, outputs]⟩
      · exact ⟨[], [notice], by simp [QueueLedger.enter, here, grown, outputs]⟩
    · exact ⟨[], [], by simp [QueueLedger.enter, here, outputs]⟩
  | acted cpu done =>
    have unsent : (ledger.enter queue all (.acted cpu done)).accepted = ledger.accepted ∧
        (ledger.enter queue all (.acted cpu done)).refused = ledger.refused := by
      simp only [QueueLedger.enter]
      split
      · exact ⟨rfl, rfl⟩
      · cases done <;> simp only [QueueLedger.enterAct] <;> split <;> exact ⟨rfl, rfl⟩
    exact ⟨[], [], by simp [unsent, outputs]⟩

/-- A run enters each notice that it sends to a queue once, the accepted ones in the order in
which they were sent. -/
theorem ledgerAfter_outputs (ledger : QueueLedger) (events : List QueueEvent) :
    ∃ entered barred,
      (all.ledgerAfter queue ledger events).accepted = ledger.accepted ++ entered ∧
      (all.ledgerAfter queue ledger events).refused = ledger.refused ++ barred ∧
      entered.Sublist (all.outputs queue events) ∧
      (entered ++ barred).Perm (all.outputs queue events) := by
  induction events generalizing all ledger with
  | nil => exact ⟨[], [], by simp [outputs]⟩
  | cons event rest inductionHypothesis =>
    obtain ⟨entered, barred, accepted, refused, among, all_first⟩ :=
      all.enter_outputs queue ledger event
    obtain ⟨enteredLater, barredLater, acceptedLater, refusedLater, amongLater, all_later⟩ :=
      inductionHypothesis (all.step event) (ledger.enter queue all event)
    have sameQueues : ∀ sender, (all.step event).queueOf sender = all.queueOf sender := by
      intro sender
      simp only [queueOf, (all.step_shape event).2]
    have split : all.outputs queue (event :: rest) =
        all.outputs queue [event] ++ (all.step event).outputs queue rest := by
      simp only [outputs, sameQueues]
      exact List.filterMap_append (l := [event])
    refine ⟨entered ++ enteredLater, barred ++ barredLater, ?_, ?_, ?_, ?_⟩
    · rw [ledgerAfter_cons, acceptedLater, accepted, List.append_assoc]
    · rw [ledgerAfter_cons, refusedLater, refused, List.append_assoc]
    · rw [split]
      exact among.append amongLater
    · rw [split]
      refine List.Perm.trans ?_ (all_first.append all_later)
      simp only [List.append_assoc]
      refine List.Perm.append_left entered ?_
      rw [← List.append_assoc, ← List.append_assoc]
      exact List.perm_append_comm.append_right barredLater

/-- The notices that a run sends to a queue are the accepted ones and the refused ones of a
ledger that was empty before. -/
theorem outputs_entered (events : List QueueEvent) :
    let ledger := all.ledgerAfter queue QueueLedger.empty events
    ledger.accepted.Sublist (all.outputs queue events) ∧
      (ledger.accepted ++ ledger.refused).Perm (all.outputs queue events) := by
  obtain ⟨entered, barred, accepted, refused, among, allSent⟩ :=
    all.ledgerAfter_outputs queue QueueLedger.empty events
  intro ledger
  simp only [ledger, accepted, refused]
  exact ⟨among, allSent⟩

/-- Every queue of a fresh array is one before its first notice. -/
theorem getElem?_ofCpus (cpus : UInt32) (capacity : UInt64) (inside : queue < max cpus.toNat 1) :
    (ofCpus cpus capacity).buffers[queue]? = some NoticeBuffer.empty := by
  simp [ofCpus, inside]

/-- The larger of two numbers is the larger one by value. -/
theorem toNat_max (first second : UInt64) :
    (max first second).toNat = max first.toNat second.toNat := by
  simp only [max, UInt64.le_iff_toNat_le]
  split <;> rfl

/-- A reader is handed out where there is a queue whose reader waits. -/
theorem openReader_ok_iff :
    (all.openReader cpu).1 = .ok () ↔
      ∃ buffer, all.buffers[cpu.toNat]? = some buffer ∧ buffer.reader = .waiting := by
  unfold openReader
  cases found : all.buffers[cpu.toNat]? with
  | none => simp
  | some buffer =>
    by_cases waiting : buffer.reader = .waiting <;> simp [NoticeBuffer.take?, waiting]

/-- After a run from the start the queues are as many and as large as at the start. -/
theorem after_ofCpus_shape (cpus : UInt32) (capacity : UInt64) (events : List QueueEvent) :
    ((ofCpus cpus capacity).after events).capacity.toNat = max capacity.toNat 1 ∧
      ((ofCpus cpus capacity).after events).buffers.length = max cpus.toNat 1 := by
  obtain ⟨sameCapacity, sameLength⟩ := after_shape (ofCpus cpus capacity) events
  constructor
  · rw [sameCapacity]
    exact toNat_max capacity 1
  · rw [sameLength]
    exact List.length_replicate ..

/-- After a run from the start there is a queue for every processor, and it agrees with its
ledger. -/
theorem accounted_ofCpus (cpus : UInt32) (capacity : UInt64) (events : List QueueEvent)
    (inside : queue < max cpus.toNat 1) :
    ∃ last, ((ofCpus cpus capacity).after events).buffers[queue]? = some last ∧
      last.Accounted ((ofCpus cpus capacity).ledgerAfter queue QueueLedger.empty events) :=
  accounted_after _ queue _ events _ (getElem?_ofCpus queue cpus capacity inside)
    NoticeBuffer.accounted_empty

/-- After a run from the start a reader is handed out where there is a queue whose reader was
not handed out in the run. -/
theorem openReader_ok_after_iff (cpus : UInt32) (capacity : UInt64) (events : List QueueEvent) :
    (((ofCpus cpus capacity).after events).openReader cpu).1 = .ok () ↔
      cpu.toNat < max cpus.toNat 1 ∧
        ((ofCpus cpus capacity).ledgerAfter cpu.toNat QueueLedger.empty events).openings = 0 := by
  rw [openReader_ok_iff]
  constructor
  · rintro ⟨buffer, found, waits⟩
    have inside : cpu.toNat < max cpus.toNat 1 := by
      rw [← (after_ofCpus_shape cpus capacity events).2]
      exact (List.getElem?_eq_some_iff.mp found).1
    obtain ⟨same, reached, accounted⟩ := accounted_ofCpus cpu.toNat cpus capacity events inside
    cases Option.some.inj (found.symm.trans reached)
    exact ⟨inside, accounted.unopened.mp waits⟩
  · rintro ⟨inside, unopened⟩
    obtain ⟨buffer, found, accounted⟩ := accounted_ofCpus cpu.toNat cpus capacity events inside
    exact ⟨buffer, found, accounted.unopened.mpr unopened⟩

/-- Notices keep their order in their queue, and none disappears in silence. After whatever was
done to fresh queues, a processor's notice is accepted if the reader was not dropped and there
is room, and a reader is handed out only if it never was before. Each notice that was sent is
among the accepted ones or among the refused ones. The accepted ones are those that were
delivered, followed by those that wait or that went with the reader; and the reports of lost
notices, with what was not reported, say how many were refused, as far as 64 bits can. What
happens to other queues changes nothing here. -/
theorem notices_delivered_or_reported_lost (cpus : UInt32) (capacity : UInt64)
    (events : List QueueEvent) (cpu : UInt32) :
    let fresh := ofCpus cpus capacity
    let last := fresh.after events
    let queue := cpu.toNat % max cpus.toNat 1
    let waiting := last.queueAt queue
    let ledger := fresh.ledgerAfter queue QueueLedger.empty events
    (∀ sender, last.queueOf sender = sender.toNat % max cpus.toNat 1) ∧
    (∀ notice, (last.send cpu notice).queueAt queue = waiting ++ [notice] ↔
      ledger.isDropped = false ∧ waiting.length < max capacity.toNat 1) ∧
    ((last.openReader cpu).1 = .ok () ↔
      cpu.toNat < max cpus.toNat 1 ∧ ledger.openings = 0) ∧
    ledger.openings ≤ 1 ∧
    ledger.accepted.Sublist (fresh.outputs queue events) ∧
    (ledger.accepted ++ ledger.refused).Perm (fresh.outputs queue events) ∧
    ledger.delivered ++ ledger.discarded ++ waiting = ledger.accepted ∧
    (ledger.isDropped = false → ledger.discarded = []) ∧
    (ledger.isDropped = true → waiting = []) ∧
    (sumOf UInt64.toNat ledger.reported + (last.lostAt queue).toNat) % UInt64.size =
      ledger.refused.length % UInt64.size ∧
    (ledger.refused.length < UInt64.size →
      sumOf UInt64.toNat ledger.reported + (last.lostAt queue).toNat = ledger.refused.length) ∧
    (∀ event, last.target event ≠ queue →
      (last.step event).buffers[queue]? = last.buffers[queue]?) := by
  intro fresh last queue waiting ledger
  have positive : 0 < max cpus.toNat 1 := by omega
  obtain ⟨size, count⟩ : last.capacity.toNat = max capacity.toNat 1 ∧
      last.buffers.length = max cpus.toNat 1 :=
    after_ofCpus_shape cpus capacity events
  have turns : ∀ sender, last.queueOf sender = sender.toNat % max cpus.toNat 1 := by
    intro sender
    rw [queueOf, count]
  obtain ⟨buffer, found, accounted⟩ : ∃ buffer, last.buffers[queue]? = some buffer ∧
      buffer.Accounted ledger :=
    accounted_ofCpus queue cpus capacity events (Nat.mod_lt cpu.toNat positive)
  have queued : waiting = buffer.queue := by
    simp only [waiting, queueAt, found, Option.map_some, Option.getD_some]
  have outstanding : last.lostAt queue = buffer.lost := by
    simp only [lostAt, found, Option.map_some, Option.getD_some]
  obtain ⟨among, allSent⟩ := fresh.outputs_entered queue events
  rw [queued, outstanding]
  refine ⟨turns, ?_, ?_, accounted.openedOnce, among, allSent, accounted.ordered, accounted.kept,
    accounted.emptied, accounted.reports_mod, accounted.reports_exact, ?_⟩
  · intro notice
    have here : last.queueOf cpu = queue := turns cpu
    have enters := last.queueAt_send_append_iff cpu notice buffer (here ▸ found)
    rw [here, accounted.accepts_iff, size] at enters
    exact queued ▸ enters
  · rw [openReader_ok_after_iff]
    refine and_congr_right ?_
    intro inside
    have here : queue = cpu.toNat := Nat.mod_eq_of_lt inside
    rw [← here]
  · intro event other
    exact last.getElem?_step_other queue event other

/-- A queue of one notice is filled from a processor beyond the last one, overflows, is read
at once and then notice by notice, and loses its reader while a notice waits. -/
def eventfulRun : List QueueEvent :=
  [.sent 2 (.ofKind .firstSeen 7), .sent 0 (.ofKind .exited 7), .acted 0 .taken,
    .acted 0 .readAll, .sent 0 (.ofKind .firstSeen 8), .acted 0 .readFirst, .acted 0 .taken,
    .sent 0 (.ofKind .exited 8), .sent 1 (.ofKind .firstSeen 9), .acted 0 .dropped,
    .sent 0 (.ofKind .firstSeen 10), .acted 0 .taken]

/-- Two notices are delivered, one goes with the reader, and two are refused: one is reported,
and nobody is left to ask for the other. -/
theorem eventful_run_accounted :
    let fresh := ofCpus 2 1
    let last := fresh.after eventfulRun
    fresh.ledgerAfter 0 QueueLedger.empty eventfulRun =
        { accepted := [.ofKind .firstSeen 7, .ofKind .firstSeen 8, .ofKind .exited 8]
          refused := [.ofKind .exited 7, .ofKind .firstSeen 10]
          delivered := [.ofKind .firstSeen 7, .ofKind .firstSeen 8]
          discarded := [.ofKind .exited 8]
          reported := [1]
          openings := 1
          isDropped := true } ∧
      (last.lostAt 0).toNat = 1 ∧ last.queueAt 0 = [] ∧ (last.openReader 0).1 ≠ .ok () ∧
      (last.act 0 .readAll).buffers[1]? = last.buffers[1]? := by
  intro fresh last
  have ledger : fresh.ledgerAfter 0 QueueLedger.empty eventfulRun =
      ⟨[.ofKind .firstSeen 7, .ofKind .firstSeen 8, .ofKind .exited 8],
        [.ofKind .exited 7, .ofKind .firstSeen 10],
        [.ofKind .firstSeen 7, .ofKind .firstSeen 8], [.ofKind .exited 8], [1], 1, true⟩ := by
    decide +kernel
  have first : UInt32.toNat 0 % max (UInt32.toNat 2) 1 = 0 := by decide
  have second : UInt32.toNat 1 % max (UInt32.toNat 2) 1 = 1 := by decide
  have ofFirst := notices_delivered_or_reported_lost 2 1 eventfulRun 0
  have ofSecond := notices_delivered_or_reported_lost 2 1 eventfulRun 1
  simp only [first, second] at ofFirst ofSecond
  obtain ⟨-, -, opens, -, -, -, -, -, emptied, -, exact, -⟩ := ofFirst
  obtain ⟨-, -, -, -, -, -, -, -, -, -, -, frame⟩ := ofSecond
  refine ⟨ledger, ?_, emptied (by rw [ledger]), ?_, frame (.acted 0 .readAll) (by decide +kernel)⟩
  · rw [ledger] at exact
    exact Nat.add_left_cancel (exact (by decide))
  · rw [Ne, opens, ledger]
    decide

end NoticeBuffers
end SamplingProfiler
