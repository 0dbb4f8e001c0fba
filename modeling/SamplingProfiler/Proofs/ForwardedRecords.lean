import SamplingProfiler.Loader.Reader
import SamplingProfiler.Proofs.Exchanges

/-!
# Forwarded records

What a reader forwards is determined by what was written: the notices of a batch in their
order, after the number of records that were lost. Records that are too short carry no notice,
and what an earlier batch left in the buffers is not read again.

Serving a batch is the same dialogue as offering a list of deliveries one after the other
until one of them is refused. So all that remains to be said of a reader is where a list of
lists breaks off.
-/

namespace SamplingProfiler.Loader

/-- A record as it is written: a notice, whatever padding follows it, or something too short
to be one. -/
inductive WrittenRecord where
  | complete (notice : Notice) (padding : List UInt8)
  | short (bytes : List UInt8) (isShort : bytes.length < Notice.recordSize)

namespace WrittenRecord

/-- The bytes of a record. -/
def bytes : WrittenRecord → List UInt8
  | .complete notice padding => notice.toBytes ++ padding
  | .short bytes _ => bytes

/-- The notice of a record, unless it is too short. -/
def notice? : WrittenRecord → Option Notice
  | .complete notice _ => some notice
  | .short _ _ => none

/-- The notice that is read from a record is the one that was written. -/
theorem ofBytes?_bytes (record : WrittenRecord) :
    Notice.ofBytes? record.bytes = record.notice? := by
  cases record with
  | complete notice padding => exact Notice.ofBytes?_toBytes_append notice padding
  | short bytes isShort => exact (Notice.ofBytes?_eq_none_iff bytes).mpr isShort

end WrittenRecord

/-- Records that come in together. -/
structure WrittenBatch where
  records : List WrittenRecord
  /-- There is a buffer for each of them. -/
  fits : records.length ≤ Reader.bufferCount
  /-- What is in the buffers that they do not fill. -/
  stale : List (List UInt8)
  /-- How many records were lost before them. -/
  lost : Nat

namespace WrittenBatch

/-- How the reader wakes up to a batch. -/
def wake (batch : WrittenBatch) : Wake :=
  .batch (batch.records.map WrittenRecord.bytes ++ batch.stale) batch.records.length batch.lost

/-- What is to be forwarded of a batch: how many records were lost, if any were, and then its
notices. -/
def script (cpu : UInt32) (batch : WrittenBatch) : List Delivery :=
  (if 0 < batch.lost then [.lost cpu batch.lost] else []) ++
    (batch.records.filterMap WrittenRecord.notice?).map .notice

end WrittenBatch

/-- How a reader ends once all batches are served. -/
inductive ReaderEnding where
  /-- It goes on waiting. -/
  | waiting
  /-- A read fails, whatever would have come later. -/
  | failed (later : List Wake)
  /-- It is told to stop, whatever would have come later. -/
  | stopped (later : List Wake)

namespace ReaderEnding

/-- How the reader wakes up after all batches. -/
def wakes : ReaderEnding → List Wake
  | .waiting => []
  | .failed later => .failed :: later
  | .stopped later => .stopped :: later

/-- Whether the reader goes on, and which wakes it does not come to. -/
def result : ReaderEnding → Bool × List Wake
  | .waiting => (true, [])
  | .failed later => (false, later)
  | .stopped later => (false, later)

end ReaderEnding

namespace Reader

open Dialogue (Finally finally_some finally_none)

/-- A call of a reader with its reply. -/
abbrev Exchange : Type :=
  Dialogue.Exchange Call Reply

/-- The delivery that an exchange offers. -/
def offered : Exchange → Delivery
  | ⟨.send delivery, _⟩ => delivery

/-- The delivery of an exchange, if it was taken. -/
def taken? : Exchange → Option Delivery
  | ⟨.send delivery, true⟩ => some delivery
  | ⟨.send _, false⟩ => none

/-- A delivery that was taken. -/
def accepted (delivery : Delivery) : Exchange :=
  ⟨.send delivery, true⟩

/-- A delivery that was not taken. -/
def declined (delivery : Delivery) : Exchange :=
  ⟨.send delivery, false⟩

/-- Offer deliveries one after the other until one is refused; the result says whether all of
them were taken. -/
def offer : List Delivery → Step Bool
  | [] => return true
  | delivery :: rest => do
    if ← send delivery then offer rest else return false

/-- Offering one delivery is sending it. -/
theorem offer_singleton (delivery : Delivery) : offer [delivery] = send delivery := by
  simp only [offer, send, Dialogue.request_bind]
  unfold Dialogue.request
  congr 1
  funext reply
  cases reply <;> rfl

/-- Offering two lists is offering the second one if all of the first was taken. -/
theorem offer_append (first second : List Delivery) :
    offer (first ++ second) = do
      if ← offer first then offer second else return false := by
  induction first with
  | nil => rfl
  | cons delivery rest inductionHypothesis =>
    simp only [List.cons_append, offer, send, Dialogue.request_bind, Dialogue.ask_bind]
    congr 1
    funext reply
    cases reply with
    | true => exact inductionHypothesis
    | false => rfl

/-- Forwarding records is offering their notices. -/
theorem forwardRecords_written (records : List WrittenRecord) :
    forwardRecords (records.map WrittenRecord.bytes) =
      offer ((records.filterMap WrittenRecord.notice?).map .notice) := by
  induction records with
  | nil => rfl
  | cons record rest inductionHypothesis =>
    simp only [List.map_cons, forwardRecords, record.ofBytes?_bytes, inductionHypothesis]
    cases written : record.notice? with
    | none => rw [List.filterMap_cons_none written]
    | some notice =>
      rw [List.filterMap_cons_some written]
      rfl

/-- Serving a batch is offering what is to be forwarded of it. -/
theorem serve_batch (cpu : UInt32) (batch : WrittenBatch) :
    serve cpu batch.wake = offer (batch.script cpu) := by
  have filled : (batch.records.map WrittenRecord.bytes ++ batch.stale).take batch.records.length =
      batch.records.map WrittenRecord.bytes := by
    rw [← List.length_map WrittenRecord.bytes, List.take_left]
  rw [WrittenBatch.script, offer_append, WrittenBatch.wake, serve, filled, forwardRecords_written]
  congr 1
  unfold forwardLost
  split
  · exact (offer_singleton _).symm
  · rfl

/-- What is exchanged when deliveries are offered: all of them are taken, or those before the
first one that is not. -/
inductive Offered (deliveries : List Delivery) : List Exchange → Bool → Prop where
  | throughout : Offered deliveries (deliveries.map accepted) true
  | brokenOff (before : List Delivery) (delivery : Delivery) (rest : List Delivery)
      (split : deliveries = before ++ delivery :: rest) :
      Offered deliveries (before.map accepted ++ [declined delivery]) false

/-- Offering deliveries goes so, whatever the replies.

Induct over the deliveries: each reply lets the offer go on or breaks it off. -/
theorem offer_along (deliveries : List Delivery) :
    (offer deliveries).Along (Finally (Offered deliveries)) := by
  induction deliveries with
  | nil => exact finally_some .throughout
  | cons delivery rest inductionHypothesis =>
    refine ⟨finally_none _ _, ?_⟩
    intro reply
    cases reply with
    | false => exact finally_some (.brokenOff [] delivery rest rfl)
    | true =>
      refine inductionHypothesis.imp ?_
      intro made result? offered result given
      cases offered result given with
      | throughout => exact .throughout
      | brokenOff before declinedOne later split =>
        exact .brokenOff (delivery :: before) declinedOne later (by rw [split, List.cons_append])

/-- What is to be forwarded of batches. -/
def scriptOf (cpu : UInt32) (batches : List WrittenBatch) : List Delivery :=
  batches.flatMap (WrittenBatch.script cpu)

/-- What is exchanged when batches are served, and how it ends: every delivery is taken and the
reader ends as it would anyway, or a delivery of some batch is refused and the reader comes to
no other wake. -/
inductive Forwarded (cpu : UInt32) (batches : List WrittenBatch) (ending : ReaderEnding) :
    List Exchange → Bool × List Wake → Prop where
  | throughout : Forwarded cpu batches ending ((scriptOf cpu batches).map accepted) ending.result
  | brokenOff (completed : List WrittenBatch) (current : WrittenBatch) (rest : List WrittenBatch)
      (served : batches = completed ++ current :: rest) (before : List Delivery)
      (delivery : Delivery) (left : List Delivery)
      (split : current.script cpu = before ++ delivery :: left) :
      Forwarded cpu batches ending
        ((scriptOf cpu completed ++ before).map accepted ++ [declined delivery])
        (false, rest.map WrittenBatch.wake ++ ending.wakes)

/-- A batch of which everything was taken comes before what is forwarded of the others. -/
theorem Forwarded.cons {cpu : UInt32} {batches : List WrittenBatch} {ending : ReaderEnding}
    {made : List Exchange} {result : Bool × List Wake}
    (forwarded : Forwarded cpu batches ending made result) (batch : WrittenBatch) :
    Forwarded cpu (batch :: batches) ending ((batch.script cpu).map accepted ++ made) result := by
  cases forwarded with
  | throughout =>
    rw [← List.map_append]
    exact .throughout
  | brokenOff completed current rest served before delivery left split =>
    rw [← List.append_assoc, ← List.map_append, ← List.append_assoc]
    exact .brokenOff (batch :: completed) current rest (by rw [served, List.cons_append]) before
      delivery left split

/-- After all batches the reader ends without another call. -/
theorem serveAll_ending (cpu : UInt32) (ending : ReaderEnding) :
    serveAll cpu ending.wakes = .done ending.result := by
  cases ending <;> rfl

/-- Batches are served so, whatever the replies. -/
theorem serveAll_along (cpu : UInt32) (batches : List WrittenBatch) (ending : ReaderEnding) :
    (serveAll cpu (batches.map WrittenBatch.wake ++ ending.wakes)).Along
      (Finally (Forwarded cpu batches ending)) := by
  induction batches with
  | nil =>
    rw [List.map_nil, List.nil_append, serveAll_ending]
    exact finally_some .throughout
  | cons batch rest inductionHypothesis =>
    rw [List.map_cons, List.cons_append, serveAll, serve_batch]
    refine (offer_along (batch.script cpu)).bindFinally ?_
    intro made goesOn offered
    cases offered with
    | throughout =>
      refine inductionHypothesis.imp ?_
      intro later result? forwarded result given
      exact (forwarded result given).cons batch
    | brokenOff before delivery left split =>
      refine finally_some ?_
      rw [List.append_nil]
      exact .brokenOff [] batch rest rfl before delivery left split

/-- The exchanges in which deliveries were taken are theirs. -/
theorem filterMap_accepted (deliveries : List Delivery) :
    (deliveries.map accepted).filterMap taken? = deliveries := by
  rw [List.filterMap_map]
  exact List.filterMap_some

/-- The exchanges in which deliveries were taken offer them. -/
theorem map_accepted (deliveries : List Delivery) :
    (deliveries.map accepted).map offered = deliveries := by
  rw [List.map_map]
  exact List.map_id _

/-- A reader forwards faithfully what was written. Whatever batches come in, with whatever the
buffers held before and whatever was lost, however the reader ends, and whoever takes what it
forwards for how long: what is taken is the front part of what is to be forwarded, which is for
one batch after the other the number of lost records, if any were lost, and then the notices
that were written, as they were written.

Either all of it is taken and the reader ends only if its read failed or it was told to stop,
or it ends in the middle of a batch at the first delivery that is not taken, and all batches
before that one were forwarded completely. Nothing is offered after that. -/
theorem written_notices_forwarded_in_order {State : Type}
    (answer : (call : Call) → State → Reply call × State) (state : State) (cpu : UInt32)
    (batches : List WrittenBatch) (ending : ReaderEnding) :
    let reader := serveAll cpu (batches.map WrittenBatch.wake ++ ending.wakes)
    let made := reader.exchanges answer state
    let result := (reader.run answer state).1
    let taken := made.filterMap taken?
    taken <+: scriptOf cpu batches ∧
    ((taken = scriptOf cpu batches ∧ made.map offered = taken ∧ result = ending.result) ∨
      ∃ completed current rest delivery, batches = completed ++ current :: rest ∧
        scriptOf cpu completed <+: taken ∧
        taken ++ [delivery] <+: scriptOf cpu (completed ++ [current]) ∧
        made.map offered = taken ++ [delivery] ∧
        result = (false, rest.map WrittenBatch.wake ++ ending.wakes)) := by
  intro reader made result taken
  have forwarded : Forwarded cpu batches ending made result :=
    (serveAll_along cpu batches ending).ended answer state
  clear_value made result
  cases forwarded with
  | throughout =>
    have all : taken = scriptOf cpu batches := filterMap_accepted _
    refine ⟨all ▸ List.prefix_refl _, .inl ⟨all, ?_, rfl⟩⟩
    rw [map_accepted, all]
  | brokenOff completed current rest served before delivery left split =>
    have reached : taken = scriptOf cpu completed ++ before := by
      simp only [taken, List.filterMap_append, filterMap_accepted]
      exact List.append_nil _
    have within : taken ++ [delivery] <+: scriptOf cpu (completed ++ [current]) := by
      refine ⟨left, ?_⟩
      simp [reached, scriptOf, split]
    have among : scriptOf cpu (completed ++ [current]) <+: scriptOf cpu batches := by
      refine ⟨scriptOf cpu rest, ?_⟩
      simp [served, scriptOf]
    refine ⟨((List.prefix_append _ _).trans within).trans among, .inr ⟨completed, current, rest,
      delivery, served, reached ▸ List.prefix_append _ _, within, ?_, rfl⟩⟩
    rw [List.map_append, map_accepted, reached]
    rfl

/-- Two records were lost, and a short one stands between two notices; a buffer that is not
filled holds an old notice. -/
def interruptedBatch : WrittenBatch where
  records := [.complete (.ofKind .exited 7) [0, 0], .short [2, 0, 0] (by decide),
    .complete (.ofKind .firstSeen 8) []]
  fits := by decide
  stale := [(Notice.ofKind .exited 9).toBytes]
  lost := 2

-- What comes after the reader was told to stop is not read any more.
example :
    (serveAll 3 [interruptedBatch.wake, .stopped, interruptedBatch.wake]).transcript
        (fun | .send _ => true) =
      ((false, [interruptedBatch.wake]),
        [.send (.lost 3 2), .send (.notice (.ofKind .exited 7)),
          .send (.notice (.ofKind .firstSeen 8))]) := by
  decide

end Reader
end SamplingProfiler.Loader
