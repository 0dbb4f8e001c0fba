import Mathlib.Data.Finmap
import SamplingProfiler.Proofs.TendedTables

/-!
# Bounded maps as finite maps

A finite map knows neither an order of its keys nor a counter of them. What a bounded map
answers can be read off the finite map of its contents and its capacity: the four refusals of
an insertion and their precedence, every look-up and listing, and what a drain returns. So the
counter that is kept beside the entries never shows.

The square of one request commutes for a map whose counter is right (`answer_contents`); from
there it is one induction over the requests for any two machines of which one is a view of the
other (`serveEach_view`).

At the greatest capacity a claim of a place that is refused takes the counter past the end of
the word and back within the one step. No state that a request leaves shows this.

Main statement: `bounded_maps_refine_finite_maps`.
-/

namespace SamplingProfiler

section Serving

variable {State View Request Answer : Type}

/-- Answer requests one after the other. -/
def serveEach (serve : State → Request → Answer × State) :
    State → List Request → List Answer × State
  | state, [] => ([], state)
  | state, request :: rest =>
    let (answer, next) := serve state request
    let (answers, last) := serveEach serve next rest
    (answer :: answers, last)

/-- Of two machines of which one is a view of the other in every step, it is a view in every
run, with the same answers.

Induct over the requests; the invariant holds where the next one begins. -/
theorem serveEach_view (serve : State → Request → Answer × State)
    (specify : View → Request → Answer × View) (view : State → View) (invariant : State → Prop)
    (step : ∀ state request, invariant state → invariant (serve state request).2 ∧
      specify (view state) request = ((serve state request).1, view (serve state request).2))
    (requests : List Request) (state : State) (initial : invariant state) :
    invariant (serveEach serve state requests).2 ∧
      serveEach specify (view state) requests =
        ((serveEach serve state requests).1, view (serveEach serve state requests).2) := by
  induction requests generalizing state with
  | nil => exact ⟨initial, rfl⟩
  | cons request rest inductionHypothesis =>
    obtain ⟨kept, same⟩ := step state request initial
    obtain ⟨last, answers⟩ := inductionHypothesis (serve state request).2 kept
    constructor
    · exact last
    · simp only [serveEach, same, answers]

end Serving

/-- A finite map from keys to values. -/
abbrev FiniteMap (Key Value : Type) : Type :=
  Finmap fun _ : Key => Value

/-- What can be asked of a map. -/
inductive MapRequest (Key Value Result : Type) where
  | insert (key : Key) (value : Value) (flags : UInt64)
  | get (key : Key)
  | getWith (key : Key) (read : Value → Result)
  | update (key : Key) (change : Value → Value)
  | contains (key : Key)
  | remove (key : Key)
  | size
  | keys
  | pairs
  | drain

/-- What a map answers. The order of a listing is not part of the answer. -/
inductive MapAnswer (Key Value Result : Type) where
  | written (result : Except TableError Unit)
  | value (found : Option Value)
  | read (result : Option Result)
  | truth (answer : Bool)
  | number (count : Nat)
  | keys (listed : Multiset Key)
  | pairs (listed : Multiset (Key × Value))

namespace Entries

variable {Key Value : Type}

/-- A pair as a finite map lists it. -/
def asSigma (pair : Key × Value) : Σ _ : Key, Value :=
  ⟨pair.1, pair.2⟩

/-- The contents of a table as a finite map. -/
def contents (entries : Entries Key Value) : FiniteMap Key Value where
  entries := ↑(entries.pairs.map asSigma)
  nodupKeys := by
    have keys : (entries.pairs.map asSigma).keys = entries.pairs.map Prod.fst := by
      simp [List.keys, asSigma, Function.comp_def]
    rw [Multiset.coe_nodupKeys, List.NodupKeys, keys]
    exact entries.distinct

/-- The keys of the contents are those that the table lists. -/
theorem keys_contents (entries : Entries Key Value) :
    entries.contents.keys.val = ↑entries.keys := by
  simp [Finmap.keys, contents, keys, List.keys, asSigma, Function.comp_def]

/-- The contents have as many keys as the table has entries. -/
theorem card_contents (entries : Entries Key Value) :
    entries.contents.keys.card = entries.size := by
  rw [Finset.card, keys_contents, Multiset.coe_card, length_keys]

variable [DecidableEq Key]

/-- A key has the same value in the contents. -/
theorem lookup_contents (entries : Entries Key Value) (key : Key) :
    entries.contents.lookup key = entries.lookup key := by
  apply Option.ext
  intro value
  rw [Finmap.lookup_eq_some_iff, lookup_eq_some_iff]
  simp [contents, asSigma]

/-- A key is in the contents exactly if it has a value. -/
theorem mem_contents (entries : Entries Key Value) (key : Key) :
    key ∈ entries.contents ↔ (entries.lookup key).isSome = true := by
  rw [← Finmap.lookup_isSome, lookup_contents]

/-- Writing a key of a table writes it in the contents. -/
theorem contents_set (entries : Entries Key Value) (key : Key) (value : Value) :
    (entries.set key value).contents = entries.contents.insert key value := by
  apply Finmap.ext_lookup
  intro tested
  rw [lookup_contents, lookup_set]
  by_cases same : tested = key
  · subst same
    rw [if_pos rfl, Finmap.lookup_insert]
  · rw [if_neg same, Finmap.lookup_insert_of_ne _ same, lookup_contents]

/-- Erasing a key of a table erases it in the contents. -/
theorem contents_erase (entries : Entries Key Value) (key : Key) :
    (entries.erase key).contents = entries.contents.erase key := by
  apply Finmap.ext_lookup
  intro tested
  rw [lookup_contents, lookup_erase]
  by_cases same : tested = key
  · subst same
    rw [if_pos rfl, Finmap.lookup_erase]
  · rw [if_neg same, Finmap.lookup_erase_ne same, lookup_contents]

/-- Erasing a key that has no value changes nothing in the contents. -/
theorem contents_erase_absent (entries : Entries Key Value) (key : Key)
    (absent : entries.lookup key = none) : entries.contents.erase key = entries.contents := by
  apply Finmap.ext_lookup
  intro tested
  rw [← contents_erase, lookup_contents, lookup_contents, lookup_erase]
  by_cases same : tested = key
  · rw [if_pos same, same, absent]
  · rw [if_neg same]

omit [DecidableEq Key] in
/-- The contents of the empty table. -/
theorem contents_empty : (empty : Entries Key Value).contents = ∅ := rfl

end Entries

namespace FiniteMap

variable {Key Value Result : Type}

/-- The pairs of a finite map. -/
def pairs (table : FiniteMap Key Value) : Multiset (Key × Value) :=
  table.entries.map fun entry => (entry.1, entry.2)

variable [DecidableEq Key]

/-- Write a key of a finite map that may have so many keys. Unknown flags are refused before
anything else; then a key that is present and must not be, or is absent and must be present;
and last a new key beyond the capacity. -/
def write (capacity : UInt32) (table : FiniteMap Key Value) (key : Key) (value : Value)
    (flags : UInt64) : Except TableError Unit × FiniteMap Key Value :=
  if UpdateFlags.onlyPresent < flags then (.error (.invalidFlags flags), table)
  else if key ∈ table ∧ flags = UpdateFlags.onlyNew then (.error .keyExists, table)
  else if key ∉ table ∧ flags = UpdateFlags.onlyPresent then (.error .keyNotFound, table)
  else if key ∉ table ∧ table.keys.card = capacity.toNat then (.error (.full capacity), table)
  else (.ok (), table.insert key value)

/-- The answer of a finite map that may have so many keys, and the map afterwards. -/
def answer (capacity : UInt32) (table : FiniteMap Key Value) :
    MapRequest Key Value Result → MapAnswer Key Value Result × FiniteMap Key Value
  | .insert key value flags =>
    (.written (write capacity table key value flags).1,
      (write capacity table key value flags).2)
  | .get key => (.value (table.lookup key), table)
  | .getWith key read => (.read ((table.lookup key).map read), table)
  | .update key change =>
    match table.lookup key with
    | some value => (.truth true, table.insert key (change value))
    | none => (.truth false, table)
  | .contains key => (.truth (decide (key ∈ table)), table)
  | .remove key => (.value (table.lookup key), table.erase key)
  | .size => (.number table.keys.card, table)
  | .keys => (.keys table.keys.val, table)
  | .pairs => (.pairs table.pairs, table)
  | .drain => (.pairs table.pairs, ∅)

end FiniteMap

namespace BoundedMap

variable {Key Value Result : Type} [DecidableEq Key]

/-- The answer of a bounded map, and the map afterwards. -/
def answer (map : BoundedMap Key Value) :
    MapRequest Key Value Result → MapAnswer Key Value Result × BoundedMap Key Value
  | .insert key value flags =>
    (.written (map.insert key value flags).1, (map.insert key value flags).2)
  | .get key => (.value (map.get? key), map)
  | .getWith key read => (.read (map.getWith key read), map)
  | .update key change => (.truth (map.update key change).1, (map.update key change).2)
  | .contains key => (.truth (map.contains key), map)
  | .remove key => (.value (map.remove key).1, (map.remove key).2)
  | .size => (.number map.size, map)
  | .keys => (.keys ↑map.keys, map)
  | .pairs => (.pairs ↑map.pairs, map)
  | .drain => (.pairs ↑map.drain.1, map.drain.2)

/-- What it means that a bounded map reflects a finite map. It has its contents, and its counter
is the number of the keys, of which there are no more than the capacity says. A refusal leaves
it as it is. Its listing has every key once. A drain returns every pair once, and leaves the
map without entries. -/
structure Reflects (map : BoundedMap Key Value) (capacity : UInt32)
    (table : FiniteMap Key Value) : Prop where
  contents : map.entries.contents = table
  sized : map.capacity = capacity
  counted : map.count.toNat = table.keys.card
  bounded : table.keys.card ≤ capacity.toNat
  refusing : ∀ key value flags refusal, (map.insert key value flags).1 = .error refusal →
    (map.insert key value flags).2 = map
  listed : map.keys.Nodup ∧ ∀ key, key ∈ map.keys ↔ key ∈ table
  drained : (map.drain.1.map Prod.fst).Nodup ∧
    (∀ key value, (key, value) ∈ map.drain.1 ↔ table.lookup key = some value) ∧
    map.drain.2 = ofCapacity capacity

section Answering

/-- A map has this capacity, and its counter is right. -/
structure Fits (map : BoundedMap Key Value) (capacity : UInt32) : Prop where
  consistent : map.Consistent
  sized : map.capacity = capacity

variable {map : BoundedMap Key Value} {capacity : UInt32}

omit [DecidableEq Key] in
/-- A map without entries fits its capacity. -/
theorem fits_ofCapacity (capacity : UInt32) :
    (ofCapacity capacity : BoundedMap Key Value).Fits capacity :=
  ⟨consistent_ofCapacity capacity, rfl⟩

/-- An insertion leaves a map that fits. -/
theorem Fits.insert (fits : map.Fits capacity) (key : Key) (value : Value) (flags : UInt64) :
    (map.insert key value flags).2.Fits capacity where
  consistent := map.consistent_insert fits.consistent key value flags
  sized := (map.capacity_insert key value flags).trans fits.sized

/-- An update leaves a map that fits. -/
theorem Fits.update (fits : map.Fits capacity) (key : Key) (change : Value → Value) :
    (map.update key change).2.Fits capacity where
  consistent := map.consistent_update fits.consistent key change
  sized := by
    rw [← fits.sized]
    simp only [BoundedMap.update]
    split <;> rfl

/-- A removal leaves a map that fits. -/
theorem Fits.remove (fits : map.Fits capacity) (key : Key) :
    (map.remove key).2.Fits capacity where
  consistent := map.consistent_remove fits.consistent key
  sized := (map.capacity_remove key).trans fits.sized

/-- Draining a map that fits returns its pairs and leaves a new map. -/
theorem Fits.drain_eq (fits : map.Fits capacity) :
    map.drain = (map.pairs, ofCapacity capacity) := by
  rw [fits.consistent.drain_eq, fits.sized]

/-- A drain leaves a map that fits. -/
theorem Fits.drain (fits : map.Fits capacity) : map.drain.2.Fits capacity := by
  rw [fits.drain_eq]
  exact fits_ofCapacity capacity

/-- Every request leaves a map that fits. -/
theorem Fits.answer (fits : map.Fits capacity) (request : MapRequest Key Value Result) :
    (map.answer request).2.Fits capacity := by
  cases request with
  | insert key value flags => exact fits.insert key value flags
  | update key change => exact fits.update key change
  | remove key => exact fits.remove key
  | drain => exact fits.drain
  | get | getWith | contains | size | keys | pairs => exact fits

omit [DecidableEq Key] in
/-- The pairs of the contents are those that the map lists. -/
theorem pairs_contents (map : BoundedMap Key Value) :
    map.entries.contents.pairs = ↑map.pairs := by
  simp [FiniteMap.pairs, Entries.contents, Entries.asSigma, pairs, Function.comp_def]

/-- An insertion does to the contents what the finite map says, and answers the same.

The cases are those of the finite map: flags, a key that is present, a key that must be, and
room. Only the last looks at the counter, which is the number of keys. -/
theorem Fits.insert_contents (fits : map.Fits capacity) (key : Key) (value : Value)
    (flags : UInt64) :
    FiniteMap.write capacity map.entries.contents key value flags =
      ((map.insert key value flags).1, (map.insert key value flags).2.entries.contents) := by
  have full : map.entries.size = map.capacity.toNat ↔ map.capacity ≤ map.count :=
    fits.consistent.full_iff.symm
  simp only [← fits.sized, FiniteMap.write, Entries.mem_contents, Entries.card_contents, full,
    BoundedMap.insert, contains, Entries.contains]
  by_cases unknown : UpdateFlags.onlyPresent < flags
  · simp only [unknown, if_true]
  · simp only [unknown, if_false]
    by_cases present : (map.entries.lookup key).isSome = true
    · by_cases demandsNew : flags = UpdateFlags.onlyNew
      · simp [present, demandsNew]
      · simp [present, demandsNew, Entries.contents_set]
    · by_cases demandsPresent : flags = UpdateFlags.onlyPresent
      · simp [present, demandsPresent]
      · by_cases noRoom : map.capacity ≤ map.count
        · simp [present, demandsPresent, noRoom]
        · simp [present, demandsPresent, noRoom, Entries.contents_set]

/-- A request does to the contents what the finite map says, and is answered the same. -/
theorem Fits.answer_contents (fits : map.Fits capacity) (request : MapRequest Key Value Result) :
    FiniteMap.answer capacity map.entries.contents request =
      ((map.answer request).1, (map.answer request).2.entries.contents) := by
  cases request with
  | insert key value flags =>
    simp only [FiniteMap.answer, BoundedMap.answer, fits.insert_contents]
  | get key => simp only [FiniteMap.answer, BoundedMap.answer, Entries.lookup_contents, get?]
  | getWith key read =>
    simp only [FiniteMap.answer, BoundedMap.answer, Entries.lookup_contents, getWith, get?]
  | update key change =>
    simp only [FiniteMap.answer, BoundedMap.answer, Entries.lookup_contents, BoundedMap.update,
      get?]
    cases map.entries.lookup key with
    | none => rfl
    | some value => simp only [Entries.contents_set]
  | contains key =>
    simp [FiniteMap.answer, BoundedMap.answer, Entries.mem_contents, contains, Entries.contains]
  | remove key =>
    simp only [FiniteMap.answer, BoundedMap.answer, Entries.lookup_contents, BoundedMap.remove,
      get?]
    cases found : map.entries.lookup key with
    | none => rw [map.entries.contents_erase_absent key found]
    | some value => rw [Entries.contents_erase]
  | size =>
    simp only [FiniteMap.answer, BoundedMap.answer, Entries.card_contents, size,
      fits.consistent.counted]
  | keys => simp only [FiniteMap.answer, BoundedMap.answer, Entries.keys_contents, keys]
  | pairs => simp only [FiniteMap.answer, BoundedMap.answer, pairs_contents]
  | drain =>
    simp only [FiniteMap.answer, BoundedMap.answer, pairs_contents, fits.drain_eq, ofCapacity,
      Entries.contents_empty]

/-- A map that fits its capacity reflects its contents. -/
theorem Fits.reflects (fits : map.Fits capacity) : map.Reflects capacity map.entries.contents := by
  constructor
  · rfl
  · exact fits.sized
  · rw [Entries.card_contents, fits.consistent.counted]
  · rw [Entries.card_contents, ← fits.sized]
    exact fits.consistent.bounded
  · intro key value flags refusal refused
    exact map.insert_error key value flags refusal refused
  · constructor
    · exact map.entries.distinct
    · intro key
      rw [Entries.mem_contents]
      exact (Entries.lookup_isSome_iff map.entries key).symm
  · rw [fits.drain_eq]
    refine ⟨map.entries.distinct, ?_, rfl⟩
    intro key value
    rw [Entries.lookup_contents]
    exact (Entries.lookup_eq_some_iff map.entries key value).symm

end Answering

/-- Bounded maps refine finite maps. Whatever the capacity, and whatever is asked one after the
other, every answer is that of a finite map with this many places, and the bounded map at the
end reflects the finite one. -/
theorem bounded_maps_refine_finite_maps (capacity : UInt32)
    (requests : List (MapRequest Key Value Result)) :
    let served := serveEach answer (ofCapacity capacity : BoundedMap Key Value) requests
    let specified := serveEach (FiniteMap.answer capacity) ∅ requests
    served.1 = specified.1 ∧ served.2.Reflects capacity specified.2 := by
  intro served specified
  obtain ⟨fits, same⟩ := serveEach_view answer (FiniteMap.answer capacity)
    (fun map : BoundedMap Key Value => map.entries.contents) (fun map => map.Fits capacity)
    (fun map request fits => ⟨fits.answer request, fits.answer_contents request⟩)
    requests (ofCapacity capacity) (fits_ofCapacity capacity)
  have agreed : specified = (served.1, served.2.entries.contents) := same
  rw [agreed]
  constructor
  · rfl
  · exact fits.reflects

end BoundedMap

end SamplingProfiler
