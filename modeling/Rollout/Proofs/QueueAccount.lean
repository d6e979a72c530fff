import Mathlib.Data.List.Basic
import Mathlib.Data.List.Induction
import Rollout.EventQueue
import Rollout.Feed

/-!
# The account of an event queue

A run of an event queue is a list of moves, in the order in which callers, worker, timer and
destination make them (`EventQueue.run`). After every run the events accepted so far are a processed
part followed by the queue; of the processed part, what was not handed over in batches was dropped
and counted (`Books.Balanced`, `balanced_run`). Each move does one of three things to the books
(`books_cases`): nothing, one event accepted, or one batch taken.
-/

namespace Rollout

namespace EventQueue

variable {α : Type}

/-! ### Moves -/

/-- What can happen to a queue at one time. -/
inductive Move (α : Type) where
  | enqueue (e : α)
  /-- A caller asks for a flush. It may have looked whether the queue is closed some time ago. -/
  | flush
  | shutdown
  /-- The timer of the worker runs out. -/
  | tick
  /-- The worker makes its next step, which may take a batch. -/
  | work
  /-- The destination is done with the batch that is handed over. -/
  | answer (a : HostAnswer)

namespace Move

/-- The queue after a move; a move that cannot be made changes nothing. However the destination
answers, the batch is gone. -/
def perform (q : EventQueue α) : Move α → EventQueue α
  | .enqueue e => q.enqueue e
  | .flush => q.sendFlush.2
  | .shutdown => if q.isClosed then q else q.sendShutdown.2
  | .tick => q.tick?.getD q
  | .work => q.advance?.getD q
  | .answer _ => q.complete?.getD q

def isShutdown : Move α → Bool
  | .shutdown => true
  | _ => false

def event? : Move α → Option α
  | .enqueue e => some e
  | _ => none

end Move

/-- The queue after a run. -/
abbrev run (q : EventQueue α) (moves : List (Move α)) : EventQueue α := moves.foldl Move.perform q

/-- The events that a run accepts: those enqueued before shutdown begins. -/
def accepted (moves : List (Move α)) : List α :=
  (moves.takeWhile fun m => !m.isShutdown).filterMap Move.event?

/-! ### The books -/

/-- The batch that is being handed over, if there is one. -/
def inFlight : FlushWorker α → List (List α)
  | .delivering batch _ _ => [batch]
  | _ => []

/-- What a queue is accountable for. -/
structure Books (α : Type) where
  capacity : Nat
  batchSize : Nat
  queued : List α
  dropped : Nat
  /-- The batches handed over so far, with the one that the destination has not answered yet. -/
  handedOver : List (List α)

def books (q : EventQueue α) : Books α :=
  { capacity := q.capacity, batchSize := q.batchSize, queued := q.queued, dropped := q.dropped,
    handedOver := q.delivered ++ inFlight q.worker }

/-- The books after the oldest events have been taken as a batch. -/
def Books.take (b : Books α) : Books α :=
  { b with queued := b.queued.drop b.batchSize
           handedOver := b.handedOver ++ [b.queued.take b.batchSize] }

theorem books_finish {q : EventQueue α} {n : Nat} {cause : Option FlushCommand}
    (h : q.worker = .flushing n cause) : (q.finish cause).books = q.books := by
  rcases cause with _ | ⟨_ | t⟩ | t <;> simp [finish, books, h, inFlight]

/-- A step of the worker leaves the books alone or takes a batch. -/
theorem books_advance? {q q' : EventQueue α} (h : q.advance? = some q') :
    q'.books = q.books ∨ q.queued ≠ [] ∧ q'.books = q.books.take := by
  unfold advance? at h
  split at h
  · next hw =>
    split at h
    · cases h
    · cases h
      exact .inl (by simp [books, hw, inFlight])
  · next hw =>
    cases h
    exact .inl (by simp [books, hw, inFlight])
  · next hw =>
    cases h
    exact .inl (by simp [books, hw, inFlight])
  · next hw =>
    cases h
    exact .inl (by simp [books, hw, inFlight])
  · next hw =>
    cases h
    exact .inl (books_finish hw)
  · next hw =>
    split at h
    · cases h
      exact .inl (books_finish hw)
    · next he =>
      cases h
      exact .inr ⟨fun hnil => he (by simp [hnil]), by simp [books, Books.take, hw, inFlight]⟩
  · cases h
  · cases h

theorem books_complete? {q q' : EventQueue α} (h : q.complete? = some q') :
    q'.books = q.books := by
  unfold complete? at h
  split at h
  · next hw =>
    cases h
    simp [books, hw, inFlight]
  · cases h

theorem books_tick? {q q' : EventQueue α} (h : q.tick? = some q') : q'.books = q.books := by
  unfold tick? at h
  split at h
  · next hw =>
    cases h
    simp [books, hw, inFlight]
  · cases h

theorem enqueue_of_isClosed {q : EventQueue α} (h : q.isClosed = true) (e : α) :
    q.enqueue e = q := by
  unfold enqueue
  rw [if_pos h]

theorem books_enqueue_of_open {q : EventQueue α} (h : q.isClosed = false) (e : α) :
    (q.enqueue e).books = (q.push e).books := by
  unfold enqueue
  rw [if_neg (by simp [h])]
  dsimp only [request]
  split
  · split <;> rfl
  · rfl

/-- A move that enqueues nothing leaves the books alone or takes a batch. -/
theorem books_perform {m : Move α} (hm : m.event? = none) (q : EventQueue α) :
    (m.perform q).books = q.books ∨ q.queued ≠ [] ∧ (m.perform q).books = q.books.take := by
  cases m with
  | enqueue e => cases hm
  | flush => exact .inl rfl
  | shutdown =>
    refine .inl ?_
    show (if q.isClosed then q else q.sendShutdown.2).books = q.books
    split <;> rfl
  | tick =>
    show (q.tick?.getD q).books = q.books ∨ _
    cases h : q.tick? with
    | none => exact .inl rfl
    | some q' => exact .inl (books_tick? h)
  | work =>
    show (q.advance?.getD q).books = q.books ∨ _ ∧ (q.advance?.getD q).books = q.books.take
    cases h : q.advance? with
    | none => exact .inl rfl
    | some q' => exact books_advance? h
  | answer a =>
    show (q.complete?.getD q).books = q.books ∨ _
    cases h : q.complete? with
    | none => exact .inl rfl
    | some q' => exact .inl (books_complete? h)

/-- What a move does to the books: nothing, unless the worker takes a batch or an event comes to an
open queue. -/
theorem books_cases (m : Move α) (q : EventQueue α) :
    ((m.event? = none ∨ q.isClosed = true) ∧ (m.perform q).books = q.books) ∨
    (m.event? = none ∧ q.queued ≠ [] ∧ (m.perform q).books = q.books.take) ∨
    ∃ e, m.event? = some e ∧ q.isClosed = false ∧ (m.perform q).books = (q.push e).books := by
  cases hm : m.event? with
  | none =>
    rcases books_perform hm q with hb | ⟨hne, hb⟩
    · exact .inl ⟨.inl rfl, hb⟩
    · exact .inr (.inl ⟨rfl, hne, hb⟩)
  | some e =>
    obtain rfl : m = .enqueue e := by
      cases m <;> cases hm
      rfl
    cases hc : q.isClosed with
    | true => exact .inl ⟨.inr rfl, congrArg books (enqueue_of_isClosed hc e)⟩
    | false => exact .inr (.inr ⟨e, rfl, rfl, books_enqueue_of_open hc e⟩)

/-! ### Closing -/

theorem isClosed_finish (q : EventQueue α) (cause : Option FlushCommand) :
    (q.finish cause).isClosed = q.isClosed := by
  rcases cause with _ | ⟨_ | t⟩ | t <;> rfl

theorem isClosed_advance? {q q' : EventQueue α} (h : q.advance? = some q') :
    q'.isClosed = q.isClosed := by
  unfold advance? at h
  split at h
  · split at h <;> cases h
    rfl
  · cases h; rfl
  · cases h; rfl
  · cases h; rfl
  · cases h
    exact isClosed_finish q _
  · split at h <;> cases h
    · exact isClosed_finish q _
    · rfl
  · cases h
  · cases h

theorem isClosed_enqueue (q : EventQueue α) (e : α) : (q.enqueue e).isClosed = q.isClosed := by
  cases hc : q.isClosed with
  | true => rw [enqueue_of_isClosed hc, hc]
  | false =>
    have hp : (q.push e).isClosed = false := by
      unfold push
      split <;> exact hc
    unfold enqueue
    rw [if_neg (by simp [hc])]
    dsimp only [request]
    split
    · split <;> exact hp
    · exact hp

/-- Only shutdown closes a queue, and nothing opens it again. -/
theorem isClosed_perform (m : Move α) (q : EventQueue α) :
    (m.perform q).isClosed = (q.isClosed || m.isShutdown) := by
  cases m with
  | enqueue e => exact (isClosed_enqueue q e).trans (Bool.or_false _).symm
  | flush => simp [Move.perform, Move.isShutdown, sendFlush, send]
  | shutdown =>
    show (if q.isClosed then q else q.sendShutdown.2).isClosed = _
    split
    · next hc => simp [hc]
    · simp [Move.isShutdown, sendShutdown, send]
  | tick =>
    show (q.tick?.getD q).isClosed = _
    unfold tick?
    split <;> simp [Move.isShutdown]
  | work =>
    show (q.advance?.getD q).isClosed = _
    cases h : q.advance? with
    | none => simp [Move.isShutdown]
    | some q' => simpa [Move.isShutdown] using isClosed_advance? h
  | answer a =>
    show (q.complete?.getD q).isClosed = _
    unfold complete?
    split <;> simp [Move.isShutdown]

theorem isClosed_run (q : EventQueue α) (moves : List (Move α)) :
    (q.run moves).isClosed = (q.isClosed || moves.any Move.isShutdown) := by
  induction moves using List.reverseRecOn with
  | nil => simp [run]
  | append_singleton moves m ih =>
    rw [run, List.foldl_concat, isClosed_perform, ih]
    simp [Bool.or_assoc]

theorem accepted_concat (moves : List (Move α)) (m : Move α) :
    accepted (moves ++ [m]) =
      accepted moves ++ if moves.any Move.isShutdown then [] else m.event?.toList := by
  unfold accepted
  induction moves with
  | nil => cases m <;> rfl
  | cons m' moves ih =>
    cases hs : m'.isShutdown with
    | true => simp [hs]
    | false =>
      simp only [List.cons_append, List.takeWhile_cons, hs, Bool.not_false, if_true,
        List.any_cons, Bool.false_or]
      rw [List.filterMap_cons, List.filterMap_cons, ih]
      cases m'.event? <;> rfl

/-! ### The account -/

/-- The books agree with the events accepted so far: these are a processed part followed by the
queue, and what was processed was handed over in order or dropped. -/
structure Books.Balanced (b : Books α) (accepted : List α) : Prop where
  within : b.queued.length ≤ b.capacity
  batches : ∀ x ∈ b.handedOver, 0 < x.length ∧ x.length ≤ b.batchSize
  conserved : ∃ processed, accepted = processed ++ b.queued ∧
    b.handedOver.flatten.Sublist processed ∧
    b.dropped + b.handedOver.flatten.length = processed.length

theorem Books.Balanced.take {b : Books α} {l : List α} (h : b.Balanced l) (hne : b.queued ≠ [])
    (hpos : 0 < b.batchSize) : b.take.Balanced l := by
  obtain ⟨hw, hb, processed, rfl, hs, hn⟩ := h
  refine ⟨?_, fun x hx => ?_, processed ++ b.queued.take b.batchSize, ?_, ?_, ?_⟩
  · exact Nat.le_trans (List.drop_sublist _ _).length_le hw
  · rcases List.mem_append.1 hx with hx | hx
    · exact hb x hx
    · obtain rfl := List.mem_singleton.1 hx
      have hq := List.length_pos_iff.2 hne
      show 0 < (b.queued.take b.batchSize).length ∧ (b.queued.take b.batchSize).length ≤ b.batchSize
      rw [List.length_take]
      omega
  · show processed ++ b.queued = processed ++ b.queued.take b.batchSize ++ b.queued.drop b.batchSize
    rw [List.append_assoc, List.take_append_drop]
  · show (b.handedOver ++ [b.queued.take b.batchSize]).flatten.Sublist _
    rw [List.flatten_concat]
    exact hs.append (List.Sublist.refl _)
  · show b.dropped + (b.handedOver ++ [b.queued.take b.batchSize]).flatten.length = _
    rw [List.flatten_concat, List.length_append, List.length_append]
    omega

theorem balanced_push {q : EventQueue α} {l : List α} (h : q.books.Balanced l) (e : α) :
    (q.push e).books.Balanced (l ++ [e]) := by
  obtain ⟨hw, hb, processed, rfl, hs, hn⟩ := h
  have hcap := q.capacity_pos
  unfold push
  split
  · next hfull =>
    -- the queue is full: its oldest event joins the processed part and is counted
    obtain ⟨x, rest, hq⟩ : ∃ x rest, q.queued = x :: rest :=
      List.exists_cons_of_length_pos (Nat.lt_of_lt_of_le hcap hfull)
    refine ⟨?_, hb, processed ++ [x], ?_, ?_, ?_⟩
    · change q.queued.length ≤ q.capacity at hw
      show (q.queued.drop 1 ++ [e]).length ≤ q.capacity
      rw [hq] at hw ⊢
      simpa using hw
    · show processed ++ q.queued ++ [e] = processed ++ [x] ++ (q.queued.drop 1 ++ [e])
      rw [hq]
      simp
    · exact hs.trans (List.sublist_append_left _ _)
    · show q.dropped + 1 + _ = _
      change q.dropped + _ = _ at hn
      rw [List.length_append, List.length_singleton, ← hn]
      show q.dropped + 1 + q.books.handedOver.flatten.length = _
      omega
  · next hfree =>
    refine ⟨?_, hb, processed, ?_, hs, hn⟩
    · show (q.queued ++ [e]).length ≤ q.capacity
      rw [List.length_append, List.length_singleton]
      omega
    · exact List.append_assoc _ _ _

/-- After every run the books are balanced. -/
theorem balanced_run {q : EventQueue α} (h : q.books.Balanced []) (hopen : q.isClosed = false)
    (moves : List (Move α)) : (q.run moves).books.Balanced (accepted moves) := by
  induction moves using List.reverseRecOn with
  | nil => exact h
  | append_singleton moves m ih =>
    have hclosed := isClosed_run q moves
    rw [hopen, Bool.false_or] at hclosed
    rw [run, List.foldl_concat, accepted_concat, ← hclosed]
    rcases books_cases m (q.run moves) with ⟨hm, hb⟩ | ⟨hm, hne, hb⟩ | ⟨e, hm, hc, hb⟩
    · have hnil : (if (q.run moves).isClosed then [] else m.event?.toList) = [] := by
        rcases hm with hm | hc
        · rw [hm]
          split <;> rfl
        · rw [if_pos hc]
      rw [hb, hnil, List.append_nil]
      exact ih
    · have hnil : (if (q.run moves).isClosed then [] else m.event?.toList) = [] := by
        rw [hm]
        split <;> rfl
      rw [hb, hnil, List.append_nil]
      exact ih.take hne (q.run moves).batchSize_pos
    · rw [hb, hm, if_neg (by simp [hc])]
      exact balanced_push ih e

theorem books_push_sizes (q : EventQueue α) (e : α) :
    (q.push e).books.capacity = q.capacity ∧ (q.push e).books.batchSize = q.batchSize := by
  unfold push
  split <;> exact ⟨rfl, rfl⟩

/-- The sizes of a queue never change. -/
theorem sizes_run (q : EventQueue α) (moves : List (Move α)) :
    (q.run moves).books.capacity = q.capacity ∧ (q.run moves).books.batchSize = q.batchSize := by
  induction moves using List.reverseRecOn with
  | nil => exact ⟨rfl, rfl⟩
  | append_singleton moves m ih =>
    rw [run, List.foldl_concat]
    rcases books_cases m (q.run moves) with ⟨-, hb⟩ | ⟨-, -, hb⟩ | ⟨e, -, -, hb⟩
    · rw [hb]
      exact ih
    · rw [hb]
      exact ih
    · obtain ⟨hcap, hbatch⟩ := books_push_sizes (q.run moves) e
      rw [hb, hcap, hbatch]
      exact ih

/-- In every run of callers, worker, timer and destination, whatever the destination answers, the
queue stays within its capacity, batches are never empty and never too large, and no event is lost
uncounted: the events accepted so far are a processed part followed by the queue, and of the
processed part those handed over, in order and once, and those counted as dropped are all. A size of
zero counts as one. Once shutdown has begun nothing is accepted. -/
theorem run_conserves_events (maxQueueSize batchSize : Nat) (moves : List (Move α)) :
    ((make maxQueueSize batchSize).run moves).queued.length ≤ max maxQueueSize 1 ∧
    (∀ b ∈ ((make maxQueueSize batchSize).run moves).books.handedOver,
      1 ≤ b.length ∧ b.length ≤ max 1 (min batchSize (max maxQueueSize 1))) ∧
    (∃ processed,
      accepted moves = processed ++ ((make maxQueueSize batchSize).run moves).queued ∧
      ((make maxQueueSize batchSize).run moves).books.handedOver.flatten.Sublist processed ∧
      ((make maxQueueSize batchSize).run moves).dropped +
        ((make maxQueueSize batchSize).run moves).books.handedOver.flatten.length =
          processed.length) ∧
    (Move.shutdown ∈ moves → ∀ e,
      ((make maxQueueSize batchSize).run moves).enqueue e =
        (make maxQueueSize batchSize).run moves) := by
  have hinit : (make maxQueueSize batchSize : EventQueue α).books.Balanced [] :=
    ⟨Nat.zero_le _, by simp [make, books, inFlight], [], rfl, by simp [make, books, inFlight],
      by simp [make, books, inFlight]⟩
  obtain ⟨hw, hb, hc⟩ := balanced_run hinit rfl moves
  obtain ⟨hcap, hbatch⟩ := sizes_run (make maxQueueSize batchSize : EventQueue α) moves
  rw [hcap] at hw
  rw [hbatch] at hb
  refine ⟨hw, hb, hc, fun hs e => enqueue_of_isClosed ?_ e⟩
  rw [isClosed_run]
  exact Bool.or_eq_true_iff.2 (.inr (List.any_eq_true.2 ⟨_, hs, rfl⟩))

end EventQueue

end Rollout
