import SamplingProfiler.Entries

/-!
# Totals over finite tables

A weighted total of a table's pairs. Writing a key replaces the weight of its old
pair by that of the new one; nothing else of the table is looked at. The law is stated
as sums on both sides, so that no subtraction of natural numbers occurs in it.
-/

namespace SamplingProfiler

/-- A measure of the elements of a list, added up. -/
def sumOf {Element : Type} (measure : Element → Nat) : List Element → Nat
  | [] => 0
  | element :: rest => measure element + sumOf measure rest

section Sums

variable {Element : Type} (measure : Element → Nat)

@[simp] theorem sumOf_nil : sumOf measure [] = 0 := rfl

@[simp] theorem sumOf_cons (element : Element) (rest : List Element) :
    sumOf measure (element :: rest) = measure element + sumOf measure rest := rfl

/-- The sum over a joined list is that over its parts. -/
theorem sumOf_append (first second : List Element) :
    sumOf measure (first ++ second) = sumOf measure first + sumOf measure second := by
  induction first with
  | nil => simp
  | cons element rest inductionHypothesis =>
    simp only [List.cons_append, sumOf_cons, inductionHypothesis, Nat.add_assoc]

/-- The sum over the images of elements is the sum of their measures. -/
theorem sumOf_map {Source : Type} (image : Source → Element) (list : List Source) :
    sumOf measure (list.map image) = sumOf (fun element => measure (image element)) list := by
  induction list with
  | nil => rfl
  | cons element rest inductionHypothesis =>
    simp only [List.map_cons, sumOf_cons, inductionHypothesis]

/-- Two measures taken together add up to their two sums. -/
theorem sumOf_add (other : Element → Nat) (list : List Element) :
    sumOf (fun element => measure element + other element) list =
      sumOf measure list + sumOf other list := by
  induction list with
  | nil => rfl
  | cons element rest inductionHypothesis =>
    simp only [sumOf_cons, inductionHypothesis]
    omega

/-- Remainders add up to the sum, up to multiples. -/
theorem sumOf_mod (modulus : Nat) (list : List Element) :
    sumOf (fun element => measure element % modulus) list % modulus =
      sumOf measure list % modulus := by
  induction list with
  | nil => rfl
  | cons element rest inductionHypothesis =>
    simp only [sumOf_cons]
    rw [Nat.add_mod, inductionHypothesis, Nat.mod_mod, ← Nat.add_mod]

end Sums

namespace Entries

variable {Key Value : Type}

/-- The weights of all pairs together. -/
def total (weight : Key → Value → Nat) (entries : Entries Key Value) : Nat :=
  sumOf (fun pair => weight pair.1 pair.2) entries.pairs

@[simp] theorem total_empty (weight : Key → Value → Nat) :
    (empty : Entries Key Value).total weight = 0 := rfl

variable [DecidableEq Key]

/-- The weight of the pair of a key, and nothing for an absent key. -/
def weightAt (weight : Key → Value → Nat) (entries : Entries Key Value) (key : Key) : Nat :=
  ((entries.lookup key).map (weight key)).getD 0

/-- A write exchanges the weight of the key's pair for that of the written one. -/
theorem total_set (weight : Key → Value → Nat) (entries : Entries Key Value) (key : Key)
    (value : Value) :
    (entries.set key value).total weight + entries.weightAt weight key =
      entries.total weight + weight key value := by
  obtain ⟨pairs, distinct⟩ := entries
  simp only [total, weightAt, lookup, set]
  clear distinct
  induction pairs with
  | nil => simp [put, find]
  | cons pair rest remaining =>
    obtain ⟨other, old⟩ := pair
    by_cases same : other = key
    · subst same
      simp only [put, find, if_true, sumOf_cons, Option.map_some,
        Option.getD_some]
      omega
    · simp only [put, find, same, if_false, sumOf_cons]
      omega

/-- Writing a present key leaves the number of keys as it is. -/
theorem size_set_present (entries : Entries Key Value) (key : Key) (value : Value)
    (present : (entries.lookup key).isSome = true) :
    (entries.set key value).size = entries.size := by
  rw [size_set, if_pos present]

/-- The first key of a table is erased by dropping its pair. -/
theorem erase_first (key : Key) (value : Value) (rest : List (Key × Value))
    (distinct : (((key, value) :: rest).map Prod.fst).Nodup) :
    (⟨(key, value) :: rest, distinct⟩ : Entries Key Value).erase key =
      ⟨rest, (List.nodup_cons.mp distinct).2⟩ := by
  simp [erase, leave]

end Entries
end SamplingProfiler
