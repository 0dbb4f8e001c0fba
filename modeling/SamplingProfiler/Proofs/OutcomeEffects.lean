import SamplingProfiler.Proofs.Exchanges

/-!
# What an outcome says about its decision

A decision ends with one outcome, and the outcome is all that is counted of it. So it has to
say what the decision did: whether a notice was sent and of which kind, and whether the sample
was handed over to an unwinder. Whatever the replies, it says so truthfully.
-/

namespace SamplingProfiler

namespace Outcome

/-- The kind of the notice of which an outcome speaks, if it speaks of one. -/
def noticeKind? : Outcome → Option NoticeKind
  | .newProcess => some .firstSeen
  | .processExited => some .exited
  | .imageReplaced => some .replaced
  | _ => none

/-- The outcome that speaks of a notice of a kind. -/
def ofNoticeKind : NoticeKind → Outcome
  | .firstSeen => .newProcess
  | .exited => .processExited
  | .replaced => .imageReplaced

/-- There is one outcome for each kind of notices. -/
theorem noticeKind?_eq_some_iff (outcome : Outcome) (kind : NoticeKind) :
    outcome.noticeKind? = some kind ↔ outcome = ofNoticeKind kind := by
  cases kind <;> cases outcome <;> decide

/-- Whether an outcome speaks neither of a notice nor of an unwinder. -/
def isQuiet (outcome : Outcome) : Bool :=
  outcome.noticeKind?.isNone && outcome != .tailCall && outcome != .limit

end Outcome

namespace Sampler

open Dialogue (Finally finally_some finally_none)

/-- The notice that an exchange sends. -/
def sent? : Exchange → Option Notice
  | ⟨.send notice, _⟩ => some notice
  | _ => none

/-- The slot of the unwinder to which an exchange hands over. -/
def handedOver? : Exchange → Option UInt32
  | ⟨.tailCall slot, .ok ()⟩ => some slot
  | _ => none

/-- The outcome says what was done for a subject: it speaks of a notice exactly if one was
sent, which is then about the subject's process, and of an unwinder exactly if the sample was
handed over. -/
structure Truthful (subject : Subject) (made : List Exchange) (outcome : Outcome) : Prop where
  sends : made.filterMap sent? =
    (outcome.noticeKind?.map fun kind => Notice.ofKind kind subject.pid).toList
  named : outcome.noticeKind?.isSome = true → subject.pid ≠ 0
  handsOver : (made.filterMap handedOver?).length = if outcome = .tailCall then 1 else 0
  possible : outcome ≠ .limit

/-- Exchanges that neither send a notice nor hand the sample over. -/
structure Quiet (made : List Exchange) : Prop where
  unsent : made.filterMap sent? = []
  unmoved : made.filterMap handedOver? = []

/-- Where nothing was done, an outcome that speaks of nothing is truthful. -/
theorem Quiet.truthful {made : List Exchange} (quiet : Quiet made) (subject : Subject)
    {outcome : Outcome} (unspoken : outcome.isQuiet = true) : Truthful subject made outcome := by
  simp only [Outcome.isQuiet, Bool.and_eq_true, Option.isNone_iff_eq_none, bne_iff_ne] at unspoken
  obtain ⟨⟨silent, unmoved⟩, possible⟩ := unspoken
  refine ⟨?_, ?_, ?_, possible⟩
  · rw [quiet.unsent, silent]
    rfl
  · simp [silent]
  · rw [quiet.unmoved, if_neg unmoved]
    rfl

/-- Quiet exchanges may follow each other. -/
theorem Quiet.append {earlier later : List Exchange} (first : Quiet earlier)
    (second : Quiet later) : Quiet (earlier ++ later) where
  unsent := by rw [List.filterMap_append, first.unsent, second.unsent, List.append_nil]
  unmoved := by rw [List.filterMap_append, first.unmoved, second.unmoved, List.append_nil]

/-- Capturing a side is quiet. -/
theorem captureSide_quiet (wanted : Bool) (flags : UInt64) :
    (captureSide wanted flags).Along (Finally fun made _ => Quiet made) := by
  cases wanted with
  | false => exact finally_some ⟨rfl, rfl⟩
  | true =>
    refine ⟨finally_none _ _, ?_⟩
    rintro id captured ⟨⟩
    exact ⟨rfl, rfl⟩

variable (subject : Subject)

/-- Counting a sample is quiet, and its outcome says so. -/
theorem countSample_truthful (pid : UInt32) (policy : Policy) :
    (countSample pid policy).Along (Finally (Truthful subject)) := by
  refine (captureSide_quiet policy.collectsKernel _).bindFinally ?_
  intro kernelMade kernelStack kernelQuiet
  refine (captureSide_quiet policy.collectsUser _).bindFinally ?_
  intro userMade userStack userQuiet
  have captured (later : List Exchange) (quiet : Quiet later) :
      Quiet (kernelMade ++ (userMade ++ later)) :=
    kernelQuiet.append (userQuiet.append quiet)
  refine ⟨finally_none _ _, ?_⟩
  intro raised
  cases raised with
  | true => exact finally_some ((captured _ ⟨rfl, rfl⟩).truthful subject rfl)
  | false =>
    refine ⟨finally_none _ _, ?_⟩
    intro written
    cases written with
    | ok accepted => exact finally_some ((captured _ ⟨rfl, rfl⟩).truthful subject rfl)
    | error number => exact finally_some ((captured _ ⟨rfl, rfl⟩).truthful subject rfl)

/-- What the policy of a process makes of a sample is what its outcome says. -/
theorem followPolicy_truthful (pid : UInt32) (policy : Policy) :
    (followPolicy pid policy).Along (Finally (Truthful subject)) := by
  have idle : Quiet [] := ⟨rfl, rfl⟩
  simp only [followPolicy]
  cases policy.kind? with
  | none => exact finally_some (idle.truthful subject rfl)
  | some kind =>
    cases kind with
    | unknown => exact finally_some (idle.truthful subject rfl)
    | error => exact finally_some (idle.truthful subject rfl)
    | framePointers => exact countSample_truthful subject pid policy
    | python =>
      refine ⟨finally_none _ _, ?_⟩
      intro taken
      cases taken with
      | ok accepted => exact finally_some ⟨rfl, by simp [Outcome.noticeKind?], rfl, by simp⟩
      | error number =>
        have refused : Quiet [⟨.tailCall Limits.pythonSlot, .error number⟩] := ⟨rfl, rfl⟩
        exact finally_some (refused.truthful subject rfl)

/-- A process is announced exactly if the outcome says that it is new. -/
theorem reportNewProcess_truthful (named : subject.pid ≠ 0) :
    (reportNewProcess subject.pid).Along (Finally (Truthful subject)) := by
  refine ⟨finally_none _ _, ?_⟩
  intro written
  cases written with
  | ok accepted =>
    refine ⟨finally_none _ _, ?_⟩
    intro sent
    exact finally_some ⟨rfl, fun _ => named, rfl, by simp⟩
  | error number =>
    have refused : Quiet [⟨.insertPolicy subject.pid Policy.undecided, .error number⟩] :=
      ⟨rfl, rfl⟩
    refine finally_some (refused.truthful subject ?_)
    split <;> rfl

/-- A reason not to sample a subject speaks of nothing. -/
theorem refusal_quiet {outcome : Outcome} (refused : refusal? subject = some outcome) :
    outcome.isQuiet = true := by
  have quiet : ∀ reason ∈ refusals, reason.isQuiet = true := by decide
  exact quiet outcome (refusal_mem subject outcome refused)

/-- A subject that is not refused has a process. -/
theorem pid_of_unrefused {subject : Subject} (unrefused : refusal? subject = none) :
    subject.pid ≠ 0 := by
  intro idle
  simp [refusal?, idle] at unrefused

/-- The outcome of a sampling interrupt is truthful. -/
theorem sample_truthful : (sample subject).Along (Finally (Truthful subject)) := by
  have idle : Quiet [] := ⟨rfl, rfl⟩
  simp only [sample]
  cases refused : refusal? subject with
  | some outcome => exact finally_some (idle.truthful subject (refusal_quiet subject refused))
  | none =>
    -- looking the process up neither sends nor hands over
    have looked {later : List Exchange} {outcome : Outcome} (known : Option Policy)
        (truthful : Truthful subject later outcome) :
        Truthful subject (⟨.findPolicy subject.pid, known⟩ :: later) outcome :=
      ⟨truthful.sends, truthful.named, truthful.handsOver, truthful.possible⟩
    refine ⟨finally_none _ _, ?_⟩
    intro known
    cases known with
    | some policy =>
      refine (followPolicy_truthful subject subject.pid policy).imp ?_
      intro later outcome? truthful outcome given
      exact looked _ (truthful outcome given)
    | none =>
      refine (reportNewProcess_truthful subject (pid_of_unrefused refused)).imp ?_
      intro later outcome? truthful outcome given
      exact looked _ (truthful outcome given)

/-- The outcome of a probe is truthful if it is the one for the kind of its notice. -/
theorem report_truthful (kind : NoticeKind) :
    (report subject kind (Outcome.ofNoticeKind kind)).Along (Finally (Truthful subject)) := by
  have idle : Quiet [] := ⟨rfl, rfl⟩
  simp only [report]
  split
  · exact finally_some (idle.truthful subject rfl)
  · next named =>
    refine ⟨finally_none _ _, ?_⟩
    intro sent
    refine finally_some ⟨?_, fun _ => named, ?_, ?_⟩
    · rw [(Outcome.noticeKind?_eq_some_iff _ kind).mpr rfl]
      rfl
    · cases kind <;> rfl
    · cases kind <;> simp [Outcome.ofNoticeKind]

/-- The outcome of a task that lets go of its terminal is truthful. -/
theorem terminalReleased_truthful (onExit : Bool) :
    (terminalReleased subject onExit).Along (Finally (Truthful subject)) := by
  have idle : Quiet [] := ⟨rfl, rfl⟩
  cases onExit with
  | false => exact finally_some (idle.truthful subject rfl)
  | true => exact report_truthful subject .exited

/-- The outcome of a task that replaces its image is truthful. -/
theorem imageReplaced_truthful :
    (imageReplaced subject).Along (Finally (Truthful subject)) :=
  report_truthful subject .replaced

/-- A probe ends with the outcome that it was given, or finds no process. -/
theorem report_ends (kind : NoticeKind) (outcome : Outcome) :
    (report subject kind outcome).Along
      (Finally fun _ last => last = outcome ∨ last = .lifecycleNoProcess) := by
  simp only [report]
  split
  · exact finally_some (.inr rfl)
  · refine ⟨finally_none _ _, ?_⟩
    rintro sent last ⟨⟩
    exact .inl rfl

end Sampler
end SamplingProfiler
