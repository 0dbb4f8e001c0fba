/-!
# Notices

A notice tells the controller what happened to a process. On its way it is a
record of eight bytes: the word for what happened and the word for the process,
the low byte of each first. A record may be longer, and it may carry a word that
stands for nothing; both are read, the second without a meaning.
-/

namespace SamplingProfiler

/-- What can happen to a process. -/
inductive NoticeKind where
  /-- It was sampled for the first time. -/
  | firstSeen
  /-- It has exited. -/
  | exited
  /-- It has replaced its image. -/
  | replaced
deriving DecidableEq, Repr

namespace NoticeKind

/-- The word for a kind. -/
def code : NoticeKind → UInt32
  | .firstSeen => 1
  | .exited => 2
  | .replaced => 3

/-- Every kind, by ascending code. -/
def all : List NoticeKind :=
  [.firstSeen, .exited, .replaced]

/-- The kind that a word stands for. -/
def ofCode? (word : UInt32) : Option NoticeKind :=
  all.find? fun kind => kind.code == word

/-- The written name of a kind. -/
def name : NoticeKind → String
  | .firstSeen => "RequestUnknownProcessInfo"
  | .exited => "Dead"
  | .replaced => "RequestExecProcessInfo"

/-- Reading a code gives its kind back. -/
@[simp] theorem ofCode?_code (kind : NoticeKind) : ofCode? kind.code = some kind := by
  cases kind <;> rfl

end NoticeKind

/-- What happened, as a word, to which process. -/
structure Notice where
  code : UInt32
  pid : UInt32
deriving DecidableEq, Repr

namespace Notice

/-- The notice that something happened to a process. -/
def ofKind (kind : NoticeKind) (pid : UInt32) : Notice :=
  ⟨kind.code, pid⟩

/-- What a notice is about, unless its word stands for nothing. -/
def kind? (notice : Notice) : Option NoticeKind :=
  NoticeKind.ofCode? notice.code

@[simp] theorem kind?_ofKind (kind : NoticeKind) (pid : UInt32) :
    (ofKind kind pid).kind? = some kind :=
  NoticeKind.ofCode?_code kind

/-- The number of bytes of a record. -/
def recordSize : Nat := 8

/-- The four bytes of a word, the low byte first. -/
def wordBytes (word : UInt32) : List UInt8 :=
  [word.toUInt8, (word >>> 8).toUInt8, (word >>> 16).toUInt8, (word >>> 24).toUInt8]

/-- The word of four bytes, the low byte first. -/
def wordOfBytes (first second third fourth : UInt8) : UInt32 :=
  first.toUInt32 ||| (second.toUInt32 <<< 8) ||| (third.toUInt32 <<< 16) |||
    (fourth.toUInt32 <<< 24)

/-- The record of a notice. -/
def toBytes (notice : Notice) : List UInt8 :=
  wordBytes notice.code ++ wordBytes notice.pid

/-- Read a record; what follows its eight bytes is padding, and a shorter one is
    no record. -/
def ofBytes? : List UInt8 → Option Notice
  | a :: b :: c :: d :: e :: f :: g :: h :: _ =>
    some ⟨wordOfBytes a b c d, wordOfBytes e f g h⟩
  | _ => none

/-- Splitting a word into bytes loses nothing. -/
theorem wordOfBytes_wordBytes (word : UInt32) :
    wordOfBytes word.toUInt8 (word >>> 8).toUInt8 (word >>> 16).toUInt8 (word >>> 24).toUInt8 =
      word := by
  apply UInt32.toNat_inj.mp
  simp only [wordOfBytes, UInt32.toNat_or, UInt32.toNat_shiftLeft, UInt8.toNat_toUInt32,
    UInt32.toNat_toUInt8, UInt32.toNat_shiftRight]
  apply Nat.eq_of_testBit_eq
  intro position
  have bounded : word.toNat < 2 ^ 32 := word.toNat_lt
  have high : 32 ≤ position → word.toNat.testBit position = false := fun above =>
    Nat.testBit_lt_two_pow (Nat.lt_of_lt_of_le bounded (Nat.pow_le_pow_right (by decide) above))
  simp only [Nat.testBit_or, Nat.testBit_mod_two_pow, Nat.testBit_shiftLeft,
    Nat.testBit_shiftRight, show UInt32.toNat 8 % 32 = 8 from rfl,
    show UInt32.toNat 16 % 32 = 16 from rfl, show UInt32.toNat 24 % 32 = 24 from rfl]
  rcases Nat.lt_or_ge position 8 with first | first
  · simp [first, show position < 32 by omega, show ¬ 8 ≤ position by omega,
      show ¬ 16 ≤ position by omega, show ¬ 24 ≤ position by omega]
  rcases Nat.lt_or_ge position 16 with second | second
  · simp [show ¬ position < 8 by omega, first, show 8 + (position - 8) = position by omega,
      show position < 32 by omega, show position - 8 < 8 by omega,
      show ¬ 16 ≤ position by omega, show ¬ 24 ≤ position by omega]
  rcases Nat.lt_or_ge position 24 with third | third
  · simp [show ¬ position < 8 by omega, second, show 16 + (position - 16) = position by omega,
      show position < 32 by omega, show ¬ position - 8 < 8 by omega,
      show position - 16 < 8 by omega, show ¬ 24 ≤ position by omega]
  rcases Nat.lt_or_ge position 32 with fourth | fourth
  · simp [show ¬ position < 8 by omega, third, fourth,
      show 24 + (position - 24) = position by omega, show ¬ position - 8 < 8 by omega,
      show ¬ position - 16 < 8 by omega, show position - 24 < 8 by omega]
  · simp [high fourth, show ¬ position < 8 by omega, show ¬ position < 32 by omega]

/-- A record is read back as the notice it was written for, whatever follows it. -/
theorem ofBytes?_toBytes_append (notice : Notice) (padding : List UInt8) :
    ofBytes? (notice.toBytes ++ padding) = some notice := by
  simp [toBytes, wordBytes, ofBytes?, wordOfBytes_wordBytes]

/-- Exactly the texts of eight bytes and more are records. -/
theorem ofBytes?_eq_none_iff (bytes : List UInt8) :
    ofBytes? bytes = none ↔ bytes.length < recordSize := by
  simp only [recordSize]
  constructor
  · intro missing
    unfold ofBytes? at missing
    split at missing
    · simp at missing
    · rename_i short
      match bytes with
      | [] | [_] | [_, _] | [_, _, _] | [_, _, _, _] | [_, _, _, _, _]
      | [_, _, _, _, _, _] | [_, _, _, _, _, _, _] => simp
      | a :: b :: c :: d :: e :: f :: g :: h :: rest =>
        exact absurd rfl (short a b c d e f g h rest)
  · intro short
    unfold ofBytes?
    split
    · simp at short
      omega
    · rfl

end Notice
end SamplingProfiler
