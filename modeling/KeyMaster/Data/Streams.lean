import Mathlib.Data.List.Basic

namespace KeyMaster.Data.Streams

/-! Readers that take one message from the front of a stream. -/

variable {α β γ : Type}

/-- What a reader returns when it is called this often, and what it leaves. -/
def readTimes (read : List β → γ × List β) : Nat → List β → List γ × List β
  | 0, stream => ([], stream)
  | count + 1, stream =>
      let (result, rest) := read stream
      let (results, last) := readTimes read count rest
      (result :: results, last)

variable {read : List β → γ × List β} {write : α → List β} {result : α → γ}

theorem readTimes_add (read : List β → γ × List β) (first second : Nat) (stream : List β) :
    readTimes read (first + second) stream =
      ((readTimes read first stream).1 ++ (readTimes read second (readTimes read first stream).2).1,
        (readTimes read second (readTimes read first stream).2).2) := by
  induction first generalizing stream with
  | zero => simp [readTimes]
  | succ first ih =>
      simp only [Nat.succ_add, readTimes, ih, List.cons_append]

/-- Messages that are read one by one are read as a whole. -/
theorem readTimes_flatMap {items : List α}
    (reads : ∀ item ∈ items, ∀ rest, read (write item ++ rest) = (result item, rest))
    (rest : List β) :
    readTimes read items.length (items.flatMap write ++ rest) = (items.map result, rest) := by
  induction items with
  | nil => rfl
  | cons item items ih =>
      rw [List.length_cons, readTimes, List.flatMap_cons, List.append_assoc,
        reads item List.mem_cons_self]
      simp only [ih fun other member => reads other (List.mem_cons_of_mem _ member), List.map_cons]

/-- A reader that stays where it is returns the same over and over. -/
theorem readTimes_stuck {stream : List β} {final : γ} (stuck : read stream = (final, stream))
    (count : Nat) : readTimes read count stream = (List.replicate count final, stream) := by
  induction count with
  | zero => rfl
  | succ count ih =>
      rw [readTimes, stuck]
      simp only [ih, List.replicate_succ]

/-- A proper prefix of a sequence of messages ends within one of them. -/
theorem eq_flatMap_append_of_prefix (write : α → List β) {items : List α} {start : List β}
    (isPrefix : start <+: items.flatMap write) (proper : start ≠ items.flatMap write) :
    ∃ before item after cut, items = before ++ item :: after ∧ start = before.flatMap write ++ cut ∧
      cut <+: write item ∧ cut ≠ write item := by
  induction items generalizing start with
  | nil => exact absurd (List.prefix_nil.mp isPrefix) proper
  | cons item items ih =>
      rw [List.flatMap_cons] at isPrefix proper
      rcases Nat.lt_or_ge start.length (write item).length with short | long
      · refine ⟨[], item, items, start, rfl, rfl, ?_, ?_⟩
        · exact List.prefix_of_prefix_length_le isPrefix (List.prefix_append _ _) (Nat.le_of_lt short)
        · intro same
          rw [same] at short
          exact absurd short (Nat.lt_irrefl _)
      · obtain ⟨later, rfl⟩ := List.prefix_of_prefix_length_le (List.prefix_append _ _) isPrefix long
        obtain ⟨before, next, after, cut, split, isStart, isCut, short⟩ :=
          ih ((List.prefix_append_right_inj _).mp isPrefix) fun same => proper (by rw [same])
        refine ⟨item :: before, next, after, cut, by rw [split]; rfl, ?_, isCut, short⟩
        rw [isStart, List.flatMap_cons, List.append_assoc]

/-- The messages are read back in order. A stream that breaks off within one of
them yields those before it, and from then on the failure. -/
def Delivers (read : List β → γ × List β) (write : α → List β) (result : α → γ) (failure : γ)
    (items : List α) : Prop :=
  readTimes read items.length (items.flatMap write) = (items.map result, []) ∧
    ∀ start, start <+: items.flatMap write → start ≠ items.flatMap write →
      ∃ before item after cut, items = before ++ item :: after ∧ start = before.flatMap write ++ cut ∧
        cut <+: write item ∧ cut ≠ write item ∧
        ∀ count, readTimes read (before.length + (count + 1)) start =
          (before.map result ++ List.replicate (count + 1) failure, [])

theorem delivers_of_cuts {failure : γ} {items : List α}
    (reads : ∀ item ∈ items, ∀ rest, read (write item ++ rest) = (result item, rest))
    (cuts : ∀ item ∈ items, ∀ cut, cut <+: write item → cut ≠ write item → read cut = (failure, []))
    (ended : read [] = (failure, [])) : Delivers read write result failure items := by
  constructor
  · have whole := readTimes_flatMap reads []
    rw [List.append_nil] at whole
    exact whole
  · intro start isPrefix proper
    obtain ⟨before, item, after, cut, split, isStart, isCut, short⟩ :=
      eq_flatMap_append_of_prefix write isPrefix proper
    refine ⟨before, item, after, cut, split, isStart, isCut, short, fun count => ?_⟩
    have complete := readTimes_flatMap (fun other member => reads other (by
      rw [split]
      exact List.mem_append_left _ member)) cut
    have broken := cuts item (by rw [split]; simp) cut isCut short
    rw [isStart, readTimes_add, complete, readTimes, broken]
    simp only [readTimes_stuck ended, List.replicate_succ]

/-! ### Streams of any bytes -/

/-- Messages from the front of a stream, and a rest with none at its front. -/
structure Splits (read : List β → Option (α × List β)) (write : α → List β) (stream : List β)
    (items : List α) (rest : List β) : Prop where
  whole : stream = items.flatMap write ++ rest
  reads : ∀ item ∈ items, ∀ after, read (write item ++ after) = some (item, after)
  ended : read rest = none

section Splits

variable {read : List β → Option (α × List β)} {write : α → List β} {stream rest : List β}
  {item : α} {items : List α}

theorem Splits.cons (splits : Splits read write rest items stream)
    (reads : ∀ after, read (write item ++ after) = some (item, after)) :
    Splits read write (write item ++ rest) (item :: items) stream where
  whole := by rw [splits.whole, List.flatMap_cons, List.append_assoc]
  reads := List.forall_mem_cons.mpr ⟨reads, splits.reads⟩
  ended := splits.ended

theorem Splits.first (splits : Splits read write stream (item :: items) rest) :
    read stream = some (item, items.flatMap write ++ rest) := by
  rw [splits.whole, List.flatMap_cons, List.append_assoc, splits.reads item List.mem_cons_self]

theorem Splits.tail (splits : Splits read write stream (item :: items) rest) :
    Splits read write (items.flatMap write ++ rest) items rest where
  whole := rfl
  reads other member := splits.reads other (List.mem_cons_of_mem _ member)
  ended := splits.ended

theorem Splits.unique {others : List α} {last : List β} (splits : Splits read write stream items rest)
    (also : Splits read write stream others last) : items = others ∧ rest = last := by
  induction items generalizing stream others with
  | nil =>
      cases others with
      | nil => exact ⟨rfl, splits.whole.symm.trans also.whole⟩
      | cons other others =>
          have ended := splits.ended
          rw [show rest = stream from splits.whole.symm, also.first] at ended
          cases ended
  | cons item items ih =>
      cases others with
      | nil =>
          have ended := also.ended
          rw [show last = stream from also.whole.symm, splits.first] at ended
          cases ended
      | cons other others =>
          obtain ⟨sameItem, sameRest⟩ := Prod.mk.inj (Option.some.inj (splits.first.symm.trans also.first))
          have later := splits.tail
          rw [sameRest] at later
          obtain ⟨sameItems, same⟩ := ih later also.tail
          exact ⟨by rw [sameItem, sameItems], same⟩

/-- Every stream splits, if the reader only takes what a writer wrote. -/
theorem exists_splits (sound : ∀ stream item rest, read stream = some (item, rest) →
      stream = write item ++ rest ∧ write item ≠ [] ∧
        ∀ after, read (write item ++ after) = some (item, after)) (stream : List β) :
    ∃ items rest, Splits read write stream items rest := by
  cases isRead : read stream with
  | none => exact ⟨[], stream, rfl, by simp, isRead⟩
  | some found =>
      obtain ⟨whole, nonempty, reads⟩ := sound stream found.1 found.2 isRead
      have shorter : found.2.length < stream.length := by
        rw [whole, List.length_append]
        have := List.length_pos_of_ne_nil nonempty
        omega
      obtain ⟨items, rest, splits⟩ := exists_splits sound found.2
      exact ⟨found.1 :: items, rest, whole ▸ splits.cons reads⟩
termination_by stream.length

end Splits

end KeyMaster.Data.Streams
