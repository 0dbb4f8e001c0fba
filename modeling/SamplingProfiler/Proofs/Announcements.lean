import SamplingProfiler.Proofs.Collections
import SamplingProfiler.Proofs.NoticeQueues
import SamplingProfiler.Proofs.Ticks

/-!
# Announcements

Of all that happens in a session only a tick writes to the table of processes, and only a
process that is absent: it is written as undecided and announced by a notice. The
lifecycle probes send at most a notice about their own process, and a collection neither
writes nor sends.
-/

namespace SamplingProfiler

namespace NoticeBuffers

/-- The queues after notices about one process were sent: behind what waited before there
may wait notices about that process, and no others. -/
def SentAbout (pid : UInt32) (before after : NoticeBuffers) : Prop :=
  ∀ queue, ∃ more, after.queueAt queue = before.queueAt queue ++ more ∧
    ∀ notice ∈ more, notice.pid = pid

/-- Queues to which nothing was sent. -/
theorem sentAbout_of_same (pid : UInt32) {before after : NoticeBuffers}
    (same : ∀ queue, after.queueAt queue = before.queueAt queue) :
    SentAbout pid before after :=
  fun queue => ⟨[], (same queue).trans (List.append_nil _).symm, by simp⟩

/-- A notice that was sent is about its process. -/
theorem sentAbout_send (all : NoticeBuffers) (cpu : UInt32) (notice : Notice) :
    SentAbout notice.pid all (all.send cpu notice) := by
  intro queue
  rw [queueAt_send]
  split
  · exact ⟨[notice], rfl, by simp⟩
  · exact ⟨[], (List.append_nil _).symm, by simp⟩

/-- What waited before notices were sent waits at the same place. -/
theorem SentAbout.waits {pid : UInt32} {before after : NoticeBuffers}
    (sent : SentAbout pid before after) {queue position : Nat} {notice : Notice}
    (waits : (before.queueAt queue)[position]? = some notice) :
    (after.queueAt queue)[position]? = some notice := by
  obtain ⟨more, appended, -⟩ := sent queue
  obtain ⟨inside, -⟩ := List.getElem?_eq_some_iff.mp waits
  rw [appended, List.getElem?_append_left inside, waits]

/-- Where nothing about a process waited and nothing was sent about it, nothing about it
waits. -/
theorem SentAbout.spares {pid tested : UInt32} {before after : NoticeBuffers}
    (sent : SentAbout pid before after) (other : pid ≠ tested) {queue : Nat}
    (spared : ∀ notice ∈ before.queueAt queue, notice.pid ≠ tested) :
    ∀ notice ∈ after.queueAt queue, notice.pid ≠ tested := by
  obtain ⟨more, appended, about⟩ := sent queue
  intro notice member
  rw [appended, List.mem_append] at member
  rcases member with waited | sent
  · exact spared notice waited
  · exact about notice sent ▸ other

end NoticeBuffers

namespace Session

/-- What a tick does to the table of processes and to the notices: it writes a process
that was absent and announces it, or it leaves both alone. -/
inductive Announced (session : Session) (task : Task) : Outcome → Session → Prop where
  | newProcess (policies : BoundedMap UInt32 Policy) (next : Session)
      (absent : session.policies.get? task.pid = none)
      (inserted : session.policies.insert task.pid Policy.undecided UpdateFlags.onlyNew =
        (.ok (), policies))
      (written : next.policies = policies)
      (sent : next.notices = session.notices.send task.cpu (.ofKind .firstSeen task.pid)) :
      Announced session task .newProcess next
  | silent (outcome : Outcome) (next : Session) (other : outcome ≠ .newProcess)
      (unwritten : next.policies = session.policies) (unsent : next.notices = session.notices) :
      Announced session task outcome next

variable (session : Session) (task : Task)

/-- A notice that a tick sends is about its process. -/
theorem Announced.sentAbout {session : Session} {task : Task} {outcome : Outcome} {next : Session}
    (announced : Announced session task outcome next) :
    NoticeBuffers.SentAbout task.pid session.notices next.notices := by
  cases announced with
  | newProcess policies _ absent inserted written sent =>
    rw [sent]
    exact NoticeBuffers.sentAbout_send _ _ (.ofKind .firstSeen task.pid)
  | silent _ _ other unwritten unsent =>
    rw [unsent]
    exact NoticeBuffers.sentAbout_of_same _ fun _ => rfl

/-- A process that is in the table is not announced. -/
theorem Announced.unsent_of_present {session : Session} {task : Task} {outcome : Outcome}
    {next : Session} (announced : Announced session task outcome next)
    (present : (session.policies.get? task.pid).isSome = true) :
    next.notices = session.notices := by
  cases announced with
  | newProcess policies _ absent inserted written sent => simp [absent] at present
  | silent _ _ other unwritten unsent => exact unsent

/-- Counting a key does not announce a process. -/
theorem countKey_outcome (key : SampleKey) : (session.countKey key).1 ≠ .newProcess := by
  rw [countKey_eq]
  cases session.counts.get? key with
  | some count => simp
  | none =>
    dsimp only
    split <;> simp

/-- A tick that is counted does not announce a process. -/
theorem countTick_announced (policy : Policy) (outcome : Outcome) :
    Announced session task (session.countTick task policy).1
      ((session.countTick task policy).2.record outcome) := by
  refine .silent _ _ (countKey_outcome _ _) ?_ ?_
  · rw [countTick, countKey_frame, afterCaptures_frame]
    rfl
  · rw [countTick, countKey_frame, afterCaptures_frame]
    rfl

/-- Every tick announces a new process, or leaves the table of processes and the notices
alone. -/
theorem sample_announced : Announced session task (session.sample task).1
    (session.sample task).2 := by
  obtain ⟨next, recorded, ticked⟩ := session.sample_ticked task
  rw [recorded]
  generalize (session.sample task).1 = outcome at ticked
  cases ticked with
  | refused _ reason =>
    have other : ∀ refusal ∈ Sampler.refusals, refusal ≠ .newProcess := by decide
    exact .silent _ _ (other _ (Sampler.refusal_mem task.toSubject _ reason)) rfl rfl
  | newProcess admitted absent room =>
    refine .newProcess _ _ absent ?_ rfl rfl
    simp [BoundedMap.insert_onlyNew, absent, room, record]
  | processesFull => exact .silent _ _ (by simp) rfl rfl
  | unprofiled policy _ admitted known reason =>
    refine .silent _ _ ?_ rfl rfl
    obtain ⟨-, rfl⟩ | ⟨-, rfl⟩ | ⟨-, rfl⟩ := reason <;> simp
  | handedOver => exact .silent _ _ (by simp) rfl rfl
  | notHandedOver => exact .silent _ _ (by simp) rfl rfl
  | counted policy => exact session.countTick_announced task policy _

/-- A probe writes nothing, and sends at most a notice about its own process. -/
theorem report_announced (kind : NoticeKind) (outcome : Outcome) :
    (session.decide task (Sampler.report task.toSubject kind outcome)).2.policies =
        session.policies ∧
      NoticeBuffers.SentAbout task.pid session.notices
        (session.decide task (Sampler.report task.toSubject kind outcome)).2.notices := by
  rw [report_eq]
  split
  · exact ⟨rfl, NoticeBuffers.sentAbout_of_same _ fun _ => rfl⟩
  · exact ⟨rfl, NoticeBuffers.sentAbout_send _ _ (.ofKind kind task.pid)⟩

/-- A task that lets go of its terminal is not written, and a notice is at most about its
process. -/
theorem terminalReleased_announced (onExit : Bool) :
    (session.terminalReleased task onExit).2.policies = session.policies ∧
      NoticeBuffers.SentAbout task.pid session.notices
        (session.terminalReleased task onExit).2.notices := by
  cases onExit with
  | false => exact ⟨rfl, NoticeBuffers.sentAbout_of_same _ fun _ => rfl⟩
  | true => exact session.report_announced task .exited .processExited

/-- A task that replaced its image is not written, and a notice is at most about its
process. -/
theorem imageReplaced_announced :
    (session.imageReplaced task).2.policies = session.policies ∧
      NoticeBuffers.SentAbout task.pid session.notices (session.imageReplaced task).2.notices :=
  session.report_announced task .replaced .imageReplaced

/-- A collection leaves the processes and the notices alone. -/
theorem collect_announced :
    session.collect.2.policies = session.policies ∧
      session.collect.2.notices = session.notices := by
  rw [collect_eq]
  exact ⟨rfl, rfl⟩

end Session
end SamplingProfiler
