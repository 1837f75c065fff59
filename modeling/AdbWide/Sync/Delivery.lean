import AdbWide.Sync.Protocol

/-!
# Files in messages

A file is delivered by messages with data that are ended by `DONE`, in both directions.  This file
compares this with reading the messages one after the other, and says what becomes of a message that
was cut.
-/

namespace AdbWide
namespace Sync

/-- Messages with data, ended by `DONE`, deliver the content of a file. -/
inductive Delivers : List UInt8 → List UInt8 → Prop where
  | done (size : UInt32) (rest : List UInt8) : Delivers (pair idDone size ++ rest) []
  | data (payload : List UInt8) {rest content : List UInt8} (short : payload.length ≤ syncDataMax)
      (later : Delivers rest content) :
      Delivers (message idData payload ++ rest) (payload ++ content)

/-- How an answer ends. -/
inductive Ending where
  | done
  /-- With `FAIL` and its text, or with anything else. -/
  | refused
  /-- It is cut off, or a message is too long. -/
  | broken
  deriving DecidableEq, Repr

/-- The data of an answer, and how it ends. -/
def transfer : Nat → List UInt8 → List UInt8 × Ending
  | 0, _ => ([], .broken)
  | fuel + 1, stream =>
      let size := (wordOf (stream.drop 4)).toNat
      if stream.length < 8 then ([], .broken)
      else if wordOf stream = idDone then ([], .done)
      else if wordOf stream = idData then
        if size ≤ syncDataMax ∧ 8 + size ≤ stream.length then
          ((stream.drop 8).take size ++ (transfer fuel (stream.drop (8 + size))).1,
            (transfer fuel (stream.drop (8 + size))).2)
        else ([], .broken)
      else if wordOf stream = idFail ∧ stream.length < 8 + min size 256 then ([], .broken)
      else ([], .refused)

/-- The answer to `sync_recv`. -/
def pulled (stream : List UInt8) : List UInt8 × Ending := transfer (stream.length - 7) stream

section Transfer

variable {fuel : Nat} {stream content : List UInt8}

theorem transfer_done (enough : 8 ≤ stream.length) (isDone : wordOf stream = idDone) :
    transfer (fuel + 1) stream = ([], .done) := by
  rw [transfer, if_neg (by omega), if_pos isDone]

theorem transfer_data (isData : wordOf stream = idData)
    (short : (wordOf (stream.drop 4)).toNat ≤ syncDataMax)
    (carried : 8 + (wordOf (stream.drop 4)).toNat ≤ stream.length) :
    transfer (fuel + 1) stream =
      ((stream.drop 8).take (wordOf (stream.drop 4)).toNat ++
          (transfer fuel (stream.drop (8 + (wordOf (stream.drop 4)).toNat))).1,
        (transfer fuel (stream.drop (8 + (wordOf (stream.drop 4)).toNat))).2) := by
  rw [transfer, if_neg (by omega), isData, if_neg (by decide), if_pos rfl, if_pos ⟨short, carried⟩]

theorem transfer_other (enough : 8 ≤ stream.length) (notDone : wordOf stream ≠ idDone)
    (notData : wordOf stream ≠ idData) :
    transfer (fuel + 1) stream =
      if wordOf stream = idFail ∧ stream.length < 8 + min (wordOf (stream.drop 4)).toNat 256 then
        ([], .broken)
      else ([], .refused) := by
  rw [transfer, if_neg (by omega), if_neg notDone, if_neg notData]

/-- What is not broken begins with one of three kinds of message. -/
theorem transfer_cases (whole : (transfer fuel stream).2 ≠ .broken) :
    8 ≤ stream.length ∧ ∃ later, fuel = later + 1 ∧
      (wordOf stream = idDone ∨
        wordOf stream = idData ∧ (wordOf (stream.drop 4)).toNat ≤ syncDataMax ∧
          8 + (wordOf (stream.drop 4)).toNat ≤ stream.length ∧
          (transfer later (stream.drop (8 + (wordOf (stream.drop 4)).toNat))).2 ≠ .broken ∨
        wordOf stream ≠ idDone ∧ wordOf stream ≠ idData ∧
          (wordOf stream = idFail → 8 + min (wordOf (stream.drop 4)).toNat 256 ≤ stream.length) ∧
          (transfer fuel stream).2 = .refused) := by
  cases fuel with
  | zero => exact absurd rfl whole
  | succ later =>
      by_cases enough : 8 ≤ stream.length
      · refine ⟨enough, later, rfl, ?_⟩
        by_cases isDone : wordOf stream = idDone
        · exact .inl isDone
        refine .inr ?_
        by_cases isData : wordOf stream = idData
        · refine .inl ⟨isData, ?_⟩
          rw [transfer, if_neg (by omega), if_neg isDone, if_pos isData] at whole
          split at whole
          · next fits => exact ⟨fits.1, fits.2, whole⟩
          · exact absurd rfl whole
        · refine .inr ⟨isDone, isData, ?_⟩
          rw [transfer_other enough isDone isData] at whole ⊢
          split at whole
          · exact absurd rfl whole
          · next fits =>
              rw [if_neg fits]
              exact ⟨fun failed => Nat.not_lt.mp fun cut => fits ⟨failed, cut⟩, rfl⟩
      · rw [transfer, if_pos (by omega)] at whole
        exact absurd rfl whole

end Transfer

theorem lt_of_le_syncDataMax {len : Nat} (short : len ≤ syncDataMax) : len < 2 ^ 32 :=
  Nat.lt_of_le_of_lt short (by decide)

theorem transfer_of_delivers {stream content : List UInt8} (delivers : Delivers stream content)
    {fuel : Nat} (enough : stream.length - 7 ≤ fuel) :
    transfer fuel stream = (content, .done) := by
  induction delivers generalizing fuel with
  | done size rest =>
      have length : (pair idDone size ++ rest).length = 8 + rest.length := by simp
      obtain ⟨fuel, rfl⟩ := Nat.exists_eq_succ_of_ne_zero (n := fuel) (by omega)
      exact transfer_done (by omega) (wordOf_pair_append _ _ _)
  | @data payload rest content short later induction =>
      have length : (message idData payload ++ rest).length = 8 + payload.length + rest.length := by
        rw [List.length_append, length_message]
      have size := size_message_append idData rest (lt_of_le_syncDataMax short)
      obtain ⟨fuel, rfl⟩ := Nat.exists_eq_succ_of_ne_zero (n := fuel) (by omega)
      rw [transfer_data (wordOf_message_append _ _ _) (by omega) (by omega), size,
        ← List.drop_drop, drop_message_append, List.take_left, List.drop_left,
        induction (by omega)]

section Delivers

variable {stream content : List UInt8}

theorem Delivers.of_done (enough : 8 ≤ stream.length) (isDone : wordOf stream = idDone) :
    Delivers stream [] := by
  have split := eq_pair_append enough
  rw [isDone] at split
  rw [split]
  exact .done _ _

theorem Delivers.of_data (isData : wordOf stream = idData)
    (short : (wordOf (stream.drop 4)).toNat ≤ syncDataMax)
    (carried : 8 + (wordOf (stream.drop 4)).toNat ≤ stream.length)
    (later : Delivers (stream.drop (8 + (wordOf (stream.drop 4)).toNat)) content) :
    Delivers stream ((stream.drop 8).take (wordOf (stream.drop 4)).toNat ++ content) := by
  have length : ((stream.drop 8).take (wordOf (stream.drop 4)).toNat).length =
      (wordOf (stream.drop 4)).toNat := by
    rw [List.length_take, List.length_drop]
    omega
  have split : stream = message idData ((stream.drop 8).take (wordOf (stream.drop 4)).toNat) ++
      stream.drop (8 + (wordOf (stream.drop 4)).toNat) := by
    rw [message_append, length, UInt32.ofNat_toNat, ← isData, ← List.drop_drop,
      List.take_append_drop]
    exact eq_pair_append (by omega)
  have delivers := Delivers.data ((stream.drop 8).take (wordOf (stream.drop 4)).toNat)
    (by omega) later
  rw [← split] at delivers
  exact delivers

end Delivers

theorem delivers_of_transfer {fuel : Nat} {stream : List UInt8}
    (done : (transfer fuel stream).2 = .done) : Delivers stream (transfer fuel stream).1 := by
  induction fuel generalizing stream with
  | zero => cases done
  | succ fuel induction =>
      obtain ⟨enough, later, fuel_eq, kind⟩ := transfer_cases (by rw [done]; decide)
      obtain rfl := Nat.succ.inj fuel_eq
      rcases kind with isDone | ⟨isData, short, carried, -⟩ | ⟨-, -, -, refused⟩
      · rw [transfer_done enough isDone]
        exact .of_done enough isDone
      · rw [transfer_data isData short carried] at done ⊢
        exact .of_data isData short carried (induction done)
      · rw [refused] at done
        cases done

/-- An answer delivers a file exactly if it ends with `DONE`. -/
theorem delivers_iff {stream content : List UInt8} :
    Delivers stream content ↔ pulled stream = (content, .done) := by
  refine ⟨fun delivers => transfer_of_delivers delivers (Nat.le_refl _), fun done => ?_⟩
  have delivers := delivers_of_transfer (congrArg Prod.snd done)
  rwa [← pulled, done] at delivers

/-! ## Taking a delivery apart -/

section Parts

variable {stream content payload rest : List UInt8}

theorem Delivers.enough (delivers : Delivers stream content) : 8 ≤ stream.length := by
  cases delivers with
  | done size rest =>
      rw [List.length_append, length_pair]
      omega
  | @data payload rest content short later =>
      rw [List.length_append, length_message]
      omega

theorem Delivers.after_message (delivers : Delivers (message idData payload ++ rest) content)
    (short : payload.length ≤ syncDataMax) :
    ∃ later, content = payload ++ later ∧ Delivers rest later := by
  have done := delivers_iff.mp delivers
  have size := size_message_append idData rest (lt_of_le_syncDataMax short)
  have length : (message idData payload ++ rest).length = 8 + payload.length + rest.length := by
    rw [List.length_append, length_message]
  rw [pulled, length, show 8 + payload.length + rest.length - 7 =
    payload.length + rest.length + 1 by omega,
    transfer_data (wordOf_message_append _ _ _) (by omega) (by omega), size,
    ← List.drop_drop, drop_message_append, List.take_left, List.drop_left] at done
  refine ⟨_, (congrArg Prod.fst done).symm, delivers_of_transfer (congrArg Prod.snd done)⟩

theorem Delivers.after_done {size : UInt32}
    (delivers : Delivers (pair idDone size ++ rest) content) : content = [] := by
  have enough := delivers.enough
  have done := transfer_of_delivers delivers (Nat.le_succ_of_le (Nat.le_refl _))
  rw [transfer_done enough (wordOf_pair_append _ _ _)] at done
  exact (congrArg Prod.fst done).symm

/-- Messages with data come first. -/
theorem Delivers.after_messages {chunks : List (List UInt8)}
    (short : ∀ chunk ∈ chunks, chunk.length ≤ syncDataMax)
    (delivers : Delivers (chunks.flatMap (message idData) ++ rest) content) :
    ∃ later, content = chunks.flatten ++ later ∧ Delivers rest later := by
  induction chunks generalizing content with
  | nil => exact ⟨content, rfl, delivers⟩
  | cons chunk chunks induction =>
      rw [List.forall_mem_cons] at short
      rw [List.flatMap_cons, List.append_assoc] at delivers
      obtain ⟨middle, rfl, delivers'⟩ := delivers.after_message short.1
      obtain ⟨later, rfl, delivers''⟩ := induction short.2 delivers'
      exact ⟨later, by rw [List.flatten_cons, List.append_assoc], delivers''⟩

theorem Delivers.messages {chunks : List (List UInt8)}
    (short : ∀ chunk ∈ chunks, chunk.length ≤ syncDataMax) (later : Delivers rest content) :
    Delivers (chunks.flatMap (message idData) ++ rest) (chunks.flatten ++ content) := by
  induction chunks with
  | nil => exact later
  | cons chunk chunks induction =>
      rw [List.forall_mem_cons] at short
      rw [List.flatMap_cons, List.flatten_cons, List.append_assoc, List.append_assoc]
      exact .data chunk short.1 (induction short.2)

end Parts

/-- A delivery begins with one of two words. -/
theorem Delivers.word {stream content : List UInt8} (delivers : Delivers stream content) :
    wordOf stream = idDone ∨ wordOf stream = idData ∧
      (wordOf (stream.drop 4)).toNat ≤ syncDataMax ∧
      8 + (wordOf (stream.drop 4)).toNat + 8 ≤ stream.length := by
  cases delivers with
  | done size rest => exact .inl (wordOf_pair_append _ _ _)
  | @data payload rest content short later =>
      have size := size_message_append idData rest (lt_of_le_syncDataMax short)
      have enough := later.enough
      refine .inr ⟨wordOf_message_append _ _ _, by omega, ?_⟩
      rw [size, List.length_append, length_message]
      omega

theorem lt_wordOf {a b c d : UInt8}
    (large : 65536 < a.toNat + 256 * b.toNat + 65536 * c.toNat + 16777216 * d.toNat)
    (rest : List UInt8) : syncDataMax < (wordOf (a :: b :: c :: d :: rest)).toNat := by
  have bound_a : a.toNat < 256 := a.toNat_lt
  have bound_b : b.toNat < 256 := b.toNat_lt
  have bound_c : c.toNat < 256 := c.toNat_lt
  have bound_d : d.toNat < 256 := d.toNat_lt
  rw [wordOf, UInt32.toNat_ofNat', syncDataMax]
  omega

/-- The bytes of `DATA` and of a length, cut off by those of `DONE`: the first word is another one,
or the second is too large. -/
theorem mixed_words (a b c d : UInt8) (rest : List UInt8) {count : Nat} (some_out : 0 < count)
    (header : count < 8) {stream : List UInt8}
    (mixed : stream = [68, 65, 84, 65, a, b, c, d].take count ++ 68 :: 79 :: 78 :: 69 :: rest) :
    wordOf stream ≠ idDone ∧
      (wordOf stream = idData → syncDataMax < (wordOf (stream.drop 4)).toNat) := by
  have other (front : List UInt8) (begins : stream.take 4 = front)
      (differs : wordOf front ≠ idDone ∧ wordOf front ≠ idData) : wordOf stream ≠ idDone ∧
        (wordOf stream = idData → syncDataMax < (wordOf (stream.drop 4)).toNat) := by
    rw [← wordOf_take (Nat.le_refl 4) stream, begins]
    exact ⟨differs.1, fun isData => absurd isData differs.2⟩
  have data (begins : stream.take 4 = [68, 65, 84, 65])
      (large : syncDataMax < (wordOf (stream.drop 4)).toNat) : wordOf stream ≠ idDone ∧
        (wordOf stream = idData → syncDataMax < (wordOf (stream.drop 4)).toNat) := by
    refine ⟨?_, fun _ => large⟩
    rw [← wordOf_take (Nat.le_refl 4) stream, begins]
    decide
  have codes : (68 : UInt8).toNat = 68 ∧ (78 : UInt8).toNat = 78 ∧ (79 : UInt8).toNat = 79 := by
    decide
  subst mixed
  match count, some_out, header with
  | 1, _, _ => exact other [68, 68, 79, 78] rfl (by decide)
  | 2, _, _ => exact other [68, 65, 68, 79] rfl (by decide)
  | 3, _, _ => exact other [68, 65, 84, 68] rfl (by decide)
  | 4, _, _ => exact data rfl (lt_wordOf (by decide) rest)
  | 5, _, _ => exact data rfl (lt_wordOf (by omega) _)
  | 6, _, _ => exact data rfl (lt_wordOf (by omega) _)
  | 7, _, _ => exact data rfl (lt_wordOf (by omega) _)

/-- A message that was cut after its first byte swallows what follows: the end is not seen. -/
theorem not_delivers_cut {payload content : List UInt8} (short : payload.length ≤ syncDataMax)
    {count : Nat} (some_out : 0 < count) (cut : count < 8 + payload.length) (size : UInt32) :
    ¬Delivers ((message idData payload).take count ++ pair idDone size) content := by
  intro delivers
  by_cases header : count < 8
  · have taken : (message idData payload).take count =
        (pair idData (.ofNat payload.length)).take count := by
      rw [message, List.take_append_of_le_length (by rw [length_pair]; omega)]
    have bytes : wordBytes idData = [68, 65, 84, 65] ∧ wordBytes idDone = [68, 79, 78, 69] := by
      decide
    rw [taken, pair, pair, bytes.1, bytes.2] at delivers
    obtain ⟨notDone, oversize⟩ := mixed_words _ _ _ _ (wordBytes size) some_out header rfl
    rcases delivers.word with isDone | ⟨isData, fits, -⟩
    · exact notDone isDone
    · exact Nat.not_lt.mpr fits (oversize isData)
  · have taken : (message idData payload).take count ++ pair idDone size =
        pair idData (.ofNat payload.length) ++
          (payload.take (count - 8) ++ pair idDone size) := by
      rw [message, List.take_append, List.take_of_length_le (by rw [length_pair]; omega),
        length_pair, List.append_assoc]
    rw [taken] at delivers
    rcases delivers.word with isDone | ⟨-, -, long⟩
    · rw [wordOf_pair_append] at isDone
      exact absurd isDone (by decide)
    · rw [wordOf_drop_pair_append, UInt32.toNat_ofNat',
        Nat.mod_eq_of_lt (lt_of_le_syncDataMax short)] at long
      simp only [List.length_append, length_pair, List.length_take] at long
      omega

end Sync
end AdbWide
