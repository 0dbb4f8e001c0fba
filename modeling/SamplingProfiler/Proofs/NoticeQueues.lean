import SamplingProfiler.Tables.NoticeBuffers

/-!
# What waits in the queues

A notice enters the queue of its processor at the end, or is lost. Only the reader of a
queue takes notices out of it, from the front, and only while it is held. So the operations
on the buffers are described here by what waits in each queue afterwards: a sending appends
to one queue, what a reader does shortens one queue, and no other queue changes.

`Posted` says what comes of a sending without the sending itself, with the room that a queue
must have and the counter that is raised where it has none. Whoever sends notices is described
by it.
-/

namespace SamplingProfiler

/-- What a queue makes of a notice that is sent to it. It gains the notice at the end, or if its
reader was dropped or it is full, it counts one more notice as lost. -/
inductive NoticeBuffer.Gets (capacity : UInt64) (notice : Notice) (buffer : NoticeBuffer) :
    NoticeBuffer → Prop where
  | queued (readable : buffer.reader ≠ .dropped)
      (room : buffer.queue.length < capacity.toNat) :
      Gets capacity notice buffer { buffer with queue := buffer.queue ++ [notice] }
  | lost (refused : buffer.reader = .dropped ∨ capacity.toNat ≤ buffer.queue.length) :
      Gets capacity notice buffer { buffer with lost := buffer.lost + 1 }

/-- A queue gets what is sent to it. -/
theorem NoticeBuffer.gets_send (capacity : UInt64) (notice : Notice) (buffer : NoticeBuffer) :
    buffer.Gets capacity notice (buffer.send capacity notice) := by
  unfold send
  split
  · next accepted =>
    simp only [accepts, Bool.and_eq_true, decide_eq_true_eq] at accepted
    exact .queued accepted.1 accepted.2
  · next refused =>
    refine .lost ?_
    by_cases readable : buffer.reader = .dropped
    · exact .inl readable
    · exact .inr (by simpa [accepts, readable] using refused)

namespace NoticeBuffers

/-- What comes of a notice that a processor sends. The queue of the processor gets it, where
processors beyond the last queue wrap around. No other queue changes. -/
structure Posted (before : NoticeBuffers) (cpu : UInt32) (notice : Notice)
    (after : NoticeBuffers) : Prop where
  capacity : after.capacity = before.capacity
  size : after.buffers.length = before.buffers.length
  own : ∀ buffer, before.buffers[cpu.toNat % before.buffers.length]? = some buffer →
    ∃ next, after.buffers[cpu.toNat % before.buffers.length]? = some next ∧
      buffer.Gets before.capacity notice next
  others : ∀ queue, queue ≠ cpu.toNat % before.buffers.length →
    after.buffers[queue]? = before.buffers[queue]?

/-- What comes of notices that a processor sends one after the other. -/
inductive Posts (cpu : UInt32) : NoticeBuffers → List Notice → NoticeBuffers → Prop where
  | none (all : NoticeBuffers) : Posts cpu all [] all
  | more (before next after : NoticeBuffers) (notice : Notice) (rest : List Notice)
      (posted : before.Posted cpu notice next) (further : Posts cpu next rest after) :
      Posts cpu before (notice :: rest) after

variable (all : NoticeBuffers) (cpu : UInt32) (queue : Nat)

/-- What waits in a queue; nothing where there is no queue. -/
def queueAt : List Notice :=
  (all.buffers[queue]?.map NoticeBuffer.queue).getD []

/-- Whether the reader of a queue is held. -/
def isHeld : Bool :=
  all.buffers[queue]?.any fun buffer => buffer.reader = .taken

/-- Whether a notice from a processor would be queued. It is lost where the queue is full
or its reader was dropped. -/
def takes : Bool :=
  all.buffers[all.queueOf cpu]?.any fun buffer => buffer.accepts all.capacity

/-- A sending changes the queue of its processor. -/
theorem getElem?_send (notice : Notice) :
    (all.send cpu notice).buffers[queue]? =
      if all.queueOf cpu = queue then
        all.buffers[queue]?.map fun buffer => buffer.send all.capacity notice
      else all.buffers[queue]? := by
  simp only [send, List.getElem?_modify]
  by_cases here : all.queueOf cpu = queue <;> simp [here]

/-- A sending posts its notice. -/
theorem posted_send (notice : Notice) : all.Posted cpu notice (all.send cpu notice) where
  capacity := rfl
  size := List.length_modify ..
  own buffer found := by
    refine ⟨buffer.send all.capacity notice, ?_, buffer.gets_send all.capacity notice⟩
    rw [getElem?_send, queueOf, if_pos rfl, found]
    rfl
  others queue elsewhere := by
    rw [getElem?_send, queueOf, if_neg (Ne.symm elsewhere)]

/-- Another notice is sent after those sent before. -/
theorem Posts.concat {cpu : UInt32} {before next after : NoticeBuffers} {sent : List Notice}
    {notice : Notice} (posts : Posts cpu before sent next) (posted : next.Posted cpu notice after) :
    Posts cpu before (sent ++ [notice]) after := by
  induction posts with
  | none all => exact .more all after after notice [] posted (.none after)
  | more before _ _ earlier rest first further inductionHypothesis =>
    exact .more before _ after earlier _ first (inductionHypothesis posted)

/-- Handing out a reader changes its queue. -/
theorem getElem?_openReader :
    (all.openReader cpu).2.buffers[queue]? =
      if cpu.toNat = queue then
        all.buffers[queue]?.map fun buffer => buffer.take?.getD buffer
      else all.buffers[queue]? := by
  unfold openReader
  by_cases here : cpu.toNat = queue
  · subst here
    cases found : all.buffers[cpu.toNat]? with
    | none => simp [found]
    | some buffer =>
      obtain ⟨inside, same⟩ := List.getElem?_eq_some_iff.mp found
      cases taken : buffer.take? <;> simp [taken, inside, same]
  · cases found : all.buffers[cpu.toNat]? with
    | none => simp [here]
    | some buffer => cases taken : buffer.take? <;> simp [taken, here]

/-- What the holder of a reader does changes its queue. -/
theorem getElem?_withReader {Result : Type} (act : NoticeBuffer → Result × NoticeBuffer) :
    (all.withReader cpu act).2.buffers[queue]? =
      if cpu.toNat = queue then
        all.buffers[queue]?.map fun buffer =>
          if buffer.reader = .taken then (act buffer).2 else buffer
      else all.buffers[queue]? := by
  unfold withReader
  by_cases here : cpu.toNat = queue
  · subst here
    cases found : all.buffers[cpu.toNat]? with
    | none => simp [found]
    | some buffer =>
      obtain ⟨inside, same⟩ := List.getElem?_eq_some_iff.mp found
      by_cases held : buffer.reader = .taken <;> simp [held, inside, same]
  · cases found : all.buffers[cpu.toNat]? with
    | none => simp [here]
    | some buffer => by_cases held : buffer.reader = .taken <;> simp [held, here]

/-- A notice that is taken waits behind all others of its queue, and one that is lost
waits nowhere. -/
theorem queueAt_send (notice : Notice) :
    (all.send cpu notice).queueAt queue =
      if queue = all.queueOf cpu ∧ all.takes cpu = true then all.queueAt queue ++ [notice]
      else all.queueAt queue := by
  unfold queueAt takes
  rw [getElem?_send]
  by_cases here : queue = all.queueOf cpu
  · subst here
    cases found : all.buffers[all.queueOf cpu]? with
    | none => simp
    | some buffer =>
      cases accepted : buffer.accepts all.capacity <;> simp [NoticeBuffer.send, accepted]
  · simp [here, Ne.symm here]

/-- Taking a reader leaves every queue as it is. -/
theorem queueAt_openReader : (all.openReader cpu).2.queueAt queue = all.queueAt queue := by
  unfold queueAt
  rw [getElem?_openReader]
  split
  · cases all.buffers[queue]? with
    | none => rfl
    | some buffer =>
      by_cases waiting : buffer.reader = .waiting <;> simp [NoticeBuffer.take?, waiting]
  · rfl

/-- What the holder of a reader does to its buffer shows in that queue alone, and nothing
happens where the reader is not held. -/
theorem queueAt_withReader {Result : Type} (act : NoticeBuffer → Result × NoticeBuffer)
    (shorten : List Notice → List Notice)
    (shortens : ∀ buffer, (act buffer).2.queue = shorten buffer.queue) :
    (all.withReader cpu act).2.queueAt queue =
      if queue = cpu.toNat ∧ all.isHeld queue = true then shorten (all.queueAt queue)
      else all.queueAt queue := by
  unfold queueAt isHeld
  rw [getElem?_withReader]
  by_cases here : queue = cpu.toNat
  · subst here
    cases all.buffers[cpu.toNat]? with
    | none => simp
    | some buffer => by_cases held : buffer.reader = .taken <;> simp [held, shortens]
  · simp [here, Ne.symm here]

/-- Reading a queue empties it. -/
theorem queueAt_read :
    (all.read cpu).2.queueAt queue =
      if queue = cpu.toNat ∧ all.isHeld queue = true then [] else all.queueAt queue :=
  all.queueAt_withReader cpu queue _ (fun _ => []) fun _ => rfl

/-- Reading the first notice of a queue takes it out. -/
theorem queueAt_next :
    (all.next cpu).2.queueAt queue =
      if queue = cpu.toNat ∧ all.isHeld queue = true then (all.queueAt queue).tail
      else all.queueAt queue :=
  all.queueAt_withReader cpu queue _ List.tail fun _ => rfl

/-- Asking what was lost leaves every queue as it is. -/
theorem queueAt_takeLost : (all.takeLost cpu).2.queueAt queue = all.queueAt queue :=
  (all.queueAt_withReader cpu queue _ id fun _ => rfl).trans (ite_self _)

/-- A reader that is dropped takes its queue along. -/
theorem queueAt_dropReader :
    (all.dropReader cpu).2.queueAt queue =
      if queue = cpu.toNat ∧ all.isHeld queue = true then [] else all.queueAt queue :=
  all.queueAt_withReader cpu queue _ (fun _ => []) fun _ => rfl

/-- Where the holder of a reader only takes notices out, no queue gains any. -/
theorem queueAt_withReader_subset {Result : Type} (act : NoticeBuffer → Result × NoticeBuffer)
    (shorten : List Notice → List Notice)
    (shortens : ∀ buffer, (act buffer).2.queue = shorten buffer.queue)
    (shorter : ∀ queued, shorten queued ⊆ queued) :
    (all.withReader cpu act).2.queueAt queue ⊆ all.queueAt queue := by
  rw [all.queueAt_withReader cpu queue act shorten shortens]
  split
  · exact shorter _
  · exact List.Subset.refl _

/-- The holder of a reader gets what its action makes of the buffer, and nobody else gets
anything. -/
theorem withReader_fst {Result : Type} (act : NoticeBuffer → Result × NoticeBuffer) :
    (all.withReader cpu act).1 =
      (all.buffers[cpu.toNat]?.filter fun buffer => buffer.reader = .taken).map
        fun buffer => (act buffer).1 := by
  unfold withReader
  cases found : all.buffers[cpu.toNat]? with
  | none => rfl
  | some buffer => by_cases held : buffer.reader = .taken <;> simp [held, Option.filter]

/-- Who does not hold the reader of a queue changes nothing. -/
theorem withReader_unheld {Result : Type} (act : NoticeBuffer → Result × NoticeBuffer)
    (unheld : (all.withReader cpu act).1 = none) : (all.withReader cpu act).2 = all := by
  unfold withReader at unheld ⊢
  cases found : all.buffers[cpu.toNat]? with
  | none => rfl
  | some buffer =>
    by_cases held : buffer.reader = .taken
    · simp [found, held] at unheld
    · simp [held]

/-- Reading a queue delivers all that waits there. -/
theorem read_fst :
    ((all.read cpu).1.map Prod.fst) =
      if all.isHeld cpu.toNat then some (all.queueAt cpu.toNat) else none := by
  rw [read, withReader_fst]
  unfold isHeld queueAt
  cases found : all.buffers[cpu.toNat]? with
  | none => simp
  | some buffer =>
    by_cases held : buffer.reader = .taken <;> simp [held, Option.filter, NoticeBuffer.read]

/-- Reading the first notice of a queue delivers it, if one waits. -/
theorem next_fst :
    (all.next cpu).1 =
      if all.isHeld cpu.toNat then some (all.queueAt cpu.toNat).head? else none := by
  rw [next, withReader_fst]
  unfold isHeld queueAt
  cases found : all.buffers[cpu.toNat]? with
  | none => simp
  | some buffer =>
    by_cases held : buffer.reader = .taken <;> simp [held, Option.filter, NoticeBuffer.next]

end NoticeBuffers
end SamplingProfiler
