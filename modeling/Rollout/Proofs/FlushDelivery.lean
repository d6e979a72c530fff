import Rollout.Proofs.QueueAccount
import Rollout.Proofs.Runs

/-!
# What an acknowledged flush has handed over

Callers that enqueue events, ask for a flush or shut the queue down make their steps one after
another, and anything may come between them (`EventQueue.Act`). A flush takes no more batches than
it takes to hold what is queued when it starts, while events come and old ones are dropped. What was
pushed before the flush was asked for stands before all that, so with each batch the flush owes less
of it (`EventQueue.Owes`). When it is acknowledged, all of it has been handed over or dropped
(`EventQueue.Settled`), and stays so.
-/

namespace Rollout

/-- The ticket under which a command is acknowledged. -/
def FlushCommand.ticket? : FlushCommand → Option Nat
  | .flush ticket => ticket
  | .shutdown ticket => some ticket

/-- The command that a worker is carrying out. -/
def FlushWorker.command? {α : Type} : FlushWorker α → Option FlushCommand
  | .received command => some command
  | .starting cause | .flushing _ cause | .delivering _ _ cause => cause
  | .idle | .finished => none

/-- How many batches a flush may still take, and its cause. -/
def FlushWorker.rounds? {α : Type} : FlushWorker α → Option (Nat × Option FlushCommand)
  | .flushing n cause | .delivering _ n cause => some (n, cause)
  | .idle | .received _ | .starting _ | .finished => none

namespace EventQueue

variable {α : Type}

/-! ### Steps of callers -/

/-- What anybody does at one time. -/
inductive Act (α : Type) where
  /-- A caller that has found the queue open puts an event at its end. -/
  | push (e : α)
  /-- A caller that has found the queue due notes that a flush is asked for. -/
  | request
  /-- A caller that was the first to note this sends the command. -/
  | demand
  /-- A caller sends a command to flush and waits until it is acknowledged. -/
  | flush
  /-- A caller closes the queue. -/
  | close
  /-- A caller that has closed the queue asks for a last flush. -/
  | shutdown
  /-- The timer of the worker runs out. -/
  | tick
  /-- The worker makes its next step, which may take a batch. -/
  | work
  /-- The destination is done with the batch that is handed over. -/
  | answer (a : HostAnswer)

namespace Act

/-- The queue after a step; a step that cannot be made changes nothing. -/
def perform (q : EventQueue α) : Act α → EventQueue α
  | .push e => q.push e
  | .request => q.request.2
  | .demand => q.send (.flush none)
  | .flush => q.sendFlush.2
  | .close => { q with isClosed := true }
  | .shutdown => q.sendShutdown.2
  | .tick => q.tick?.getD q
  | .work => q.advance?.getD q
  | .answer _ => q.complete?.getD q

def event? : Act α → Option α
  | .push e => some e
  | _ => none

end Act

/-- The queue after steps of anybody. -/
abbrev play (q : EventQueue α) (acts : List (Act α)) : EventQueue α := acts.foldl Act.perform q

/-- The events that come to the queue. -/
def pushed (acts : List (Act α)) : List α := acts.filterMap Act.event?

theorem pushed_concat (acts : List (Act α)) (a : Act α) :
    pushed (acts ++ [a]) = pushed acts ++ a.event?.toList :=
  filterMap_concat ..

/-- Who enqueues an event and is left alone makes these steps. -/
theorem exists_play_enqueue (q : EventQueue α) (e : α) :
    ∃ acts, q.play acts = q.enqueue e ∧ pushed acts = if q.isClosed then [] else [e] := by
  unfold enqueue
  by_cases hc : q.isClosed = true
  · exact ⟨[], by simp [play, hc], by simp [pushed, hc]⟩
  · simp only [hc, Bool.false_eq_true, if_false]
    by_cases hdue : (q.push e).isDue = true
    · by_cases hfirst : (q.push e).request.1 = true
      · exact ⟨[.push e, .request, .demand], by simp [play, Act.perform, hdue, hfirst], rfl⟩
      · exact ⟨[.push e, .request], by simp [play, Act.perform, hdue, hfirst], rfl⟩
    · exact ⟨[.push e], by simp [play, Act.perform, hdue], rfl⟩

/-- Every move is made of such steps. -/
theorem exists_play_perform (q : EventQueue α) (m : Move α) :
    ∃ acts, q.play acts = m.perform q ∧
      pushed acts = if q.isClosed then [] else m.event?.toList := by
  have hnone : ∀ {acts : List (Act α)}, pushed acts = [] → m.event? = none →
      pushed acts = if q.isClosed then [] else m.event?.toList := by
    intro acts hacts hm
    rw [hacts, hm]
    split <;> rfl
  cases m with
  | enqueue e => exact exists_play_enqueue q e
  | flush => exact ⟨[.flush], rfl, hnone rfl rfl⟩
  | shutdown =>
    by_cases hc : q.isClosed = true
    · exact ⟨[], (if_pos hc).symm, hnone rfl rfl⟩
    · exact ⟨[.close, .shutdown], (if_neg hc).symm, hnone rfl rfl⟩
  | tick => exact ⟨[.tick], rfl, hnone rfl rfl⟩
  | work => exact ⟨[.work], rfl, hnone rfl rfl⟩
  | answer a => exact ⟨[.answer a], rfl, hnone rfl rfl⟩

/-! ### Steps of the worker -/

/-- What a step of the worker can be. -/
theorem advance?_cases {q q' : EventQueue α} (h : q.advance? = some q') :
    (∃ c rest, q.worker = .idle ∧ q.commands = c :: rest ∧
      q' = { q with commands := rest, worker := .received c }) ∨
    (∃ c flag, q.worker = .received c ∧
      q' = { q with flushRequested := flag, worker := .starting (some c) }) ∨
    (∃ cause, q.worker = .starting cause ∧ q' = { q with worker := .flushing q.rounds cause }) ∨
    (∃ n cause, q.worker = .flushing n cause ∧ (n = 0 ∨ q.queued = []) ∧ q' = q.finish cause) ∨
    ∃ n cause, q.worker = .flushing (n + 1) cause ∧ q.queued ≠ [] ∧
      q' = { q with
        queued := q.queued.drop q.batchSize
        worker := .delivering (q.queued.take q.batchSize) n cause } := by
  unfold advance? at h
  split at h
  · next hw =>
    split at h
    · cases h
    · next c rest hc => exact .inl ⟨c, rest, hw, hc, (Option.some.inj h).symm⟩
  · next t hw => exact .inr (.inl ⟨.flush t, false, hw, (Option.some.inj h).symm⟩)
  · next t hw =>
    exact .inr (.inl ⟨.shutdown t, q.flushRequested, hw, (Option.some.inj h).symm⟩)
  · next cause hw => exact .inr (.inr (.inl ⟨cause, hw, (Option.some.inj h).symm⟩))
  · next cause hw =>
    exact .inr (.inr (.inr (.inl ⟨0, cause, hw, .inl rfl, (Option.some.inj h).symm⟩)))
  · next n cause hw =>
    split at h
    · next he =>
      exact .inr (.inr (.inr (.inl
        ⟨n + 1, cause, hw, .inr (List.isEmpty_iff.1 he), (Option.some.inj h).symm⟩)))
    · next he =>
      exact .inr (.inr (.inr (.inr
        ⟨n, cause, hw, fun hnil => he (List.isEmpty_iff.2 hnil), (Option.some.inj h).symm⟩)))
  · cases h
  · cases h

theorem acknowledged_finish (q : EventQueue α) (cause : Option FlushCommand) :
    (q.finish cause).acknowledged =
      (cause.bind FlushCommand.ticket?).toList ++ q.acknowledged := by
  rcases cause with _ | ⟨_ | t⟩ | t <;> rfl

theorem worker_finish (q : EventQueue α) (cause : Option FlushCommand) :
    (q.finish cause).worker = .idle ∨ (q.finish cause).worker = .finished := by
  rcases cause with _ | ⟨_ | t⟩ | t
  · exact .inl rfl
  · exact .inl rfl
  · exact .inl rfl
  · exact .inr rfl

theorem finish_eq (q : EventQueue α) (cause : Option FlushCommand) :
    (q.finish cause).commands = q.commands ∧ (q.finish cause).nextTicket = q.nextTicket ∧
      (q.finish cause).queued = q.queued ∧ (q.finish cause).delivered = q.delivered ∧
      (q.finish cause).dropped = q.dropped := by
  rcases cause with _ | ⟨_ | t⟩ | t <;> exact ⟨rfl, rfl, rfl, rfl, rfl⟩

/-! ### Tickets -/

/-- All tickets in use have been issued: those that have been acknowledged, and those of the command
that is carried out and of the ones that wait. -/
structure Issued (q : EventQueue α) : Prop where
  acknowledged : ∀ t ∈ q.acknowledged, t < q.nextTicket
  current : ∀ c t, q.worker.command? = some c → c.ticket? = some t → t < q.nextTicket
  waiting : ∀ c ∈ q.commands, ∀ t, c.ticket? = some t → t < q.nextTicket

theorem issued_make (maxQueueSize batchSize : Nat) :
    (make maxQueueSize batchSize : EventQueue α).Issued :=
  ⟨fun _ h => absurd h List.not_mem_nil, (fun _ _ h => by cases h),
    fun _ h => absurd h List.not_mem_nil⟩

namespace Issued

variable {q q' : EventQueue α}

theorem finish (h : q.Issued) {n : Nat} {cause : Option FlushCommand}
    (hw : q.worker = .flushing n cause) : (q.finish cause).Issued := by
  obtain ⟨hcommands, hnext, -⟩ := finish_eq q cause
  refine ⟨fun t ht => ?_, fun c t hc => ?_, ?_⟩
  · rw [acknowledged_finish] at ht
    rw [hnext]
    rcases List.mem_append.1 ht with ht | ht
    · obtain ⟨c, hc, hct⟩ := Option.bind_eq_some_iff.1 (Option.mem_toList.1 ht)
      exact h.current c t (by rw [hw]; exact hc) hct
    · exact h.acknowledged t ht
  · rcases worker_finish q cause with hidle | hfinished
    · rw [hidle] at hc
      cases hc
    · rw [hfinished] at hc
      cases hc
  · rw [hcommands, hnext]
    exact h.waiting

theorem advance (h : q.Issued) (ha : q.advance? = some q') : q'.Issued := by
  obtain ⟨c, rest, hw, hcommands, rfl⟩ | ⟨c, flag, hw, rfl⟩ | ⟨cause, hw, rfl⟩ |
    ⟨n, cause, hw, -, rfl⟩ | ⟨n, cause, hw, -, rfl⟩ := advance?_cases ha
  · refine ⟨h.acknowledged, fun c' t hc' => ?_, fun c' hc' => ?_⟩
    · obtain rfl := Option.some.inj hc'
      exact h.waiting c (by simp [hcommands]) t
    · exact h.waiting c' (by simp [hcommands, hc'])
  · exact ⟨h.acknowledged, fun c' t hc' => h.current c' t (by rw [hw]; exact hc'), h.waiting⟩
  · exact ⟨h.acknowledged, fun c' t hc' => h.current c' t (by rw [hw]; exact hc'), h.waiting⟩
  · exact h.finish hw
  · exact ⟨h.acknowledged, fun c' t hc' => h.current c' t (by rw [hw]; exact hc'), h.waiting⟩

theorem send (h : q.Issued) {c : FlushCommand} (hc : ∀ t, c.ticket? = some t → t = q.nextTicket)
    (closed : Bool) :
    ({ q with nextTicket := q.nextTicket + 1, isClosed := closed }.send c).Issued := by
  refine ⟨fun t ht => Nat.lt_succ_of_lt (h.acknowledged t ht),
    fun c' t hc' hct => Nat.lt_succ_of_lt (h.current c' t hc' hct), fun c' hc' t ht => ?_⟩
  rcases List.mem_append.1 hc' with hc' | hc'
  · exact Nat.lt_succ_of_lt (h.waiting c' hc' t ht)
  · obtain rfl := List.mem_singleton.1 hc'
    exact Nat.lt_succ_of_le (Nat.le_of_eq (hc t ht))

theorem perform (h : q.Issued) (a : Act α) : (a.perform q).Issued := by
  cases a with
  | push e =>
    show (q.push e).Issued
    unfold push
    split <;> exact ⟨h.acknowledged, h.current, h.waiting⟩
  | request | close => exact ⟨h.acknowledged, h.current, h.waiting⟩
  | demand =>
    refine ⟨h.acknowledged, h.current, fun c hc t ht => ?_⟩
    rcases List.mem_append.1 hc with hc | hc
    · exact h.waiting c hc t ht
    · obtain rfl := List.mem_singleton.1 hc
      cases ht
  | flush =>
    have hown : ∀ t, (FlushCommand.flush (some q.nextTicket)).ticket? = some t →
        t = q.nextTicket := fun t ht => (Option.some.inj ht).symm
    exact h.send hown q.isClosed
  | shutdown =>
    have hown : ∀ t, (FlushCommand.shutdown q.nextTicket).ticket? = some t → t = q.nextTicket :=
      fun t ht => (Option.some.inj ht).symm
    exact h.send hown true
  | tick =>
    show (q.tick?.getD q).Issued
    unfold tick?
    split
    · exact ⟨h.acknowledged, (fun _ _ hc => by cases hc), h.waiting⟩
    · exact h
  | work =>
    show (q.advance?.getD q).Issued
    cases ha : q.advance? with
    | none => exact h
    | some q' => exact h.advance ha
  | answer a =>
    show (q.complete?.getD q).Issued
    unfold complete?
    split
    · next hw =>
      exact ⟨h.acknowledged, fun c t hc => h.current c t (by rw [hw]; exact hc), h.waiting⟩
    · exact h

end Issued

/-! ### What is left of a flush -/

/-- What was pushed early has been handed over or dropped. Events are handed over and dropped in the
order in which they come, so what was handed over of these comes first, and what was dropped of
these and of later events is all that is counted. -/
def Settled (q : EventQueue α) (early all : List α) : Prop :=
  ∃ later got gotLater, all = early ++ later ++ q.queued ∧
    got.Sublist early ∧ gotLater.Sublist later ∧
    q.books.handedOver.flatten = got ++ gotLater ∧ got <+: q.delivered.flatten ∧
    q.dropped + (got.length + gotLater.length) = early.length + later.length

namespace Settled

variable {q q' : EventQueue α} {early all : List α}

theorem of_books (h : q.Settled early all)
    (hb : q'.books = q.books ∨ q'.books = q.books.take) (hd : q.delivered <+: q'.delivered) :
    q'.Settled early all := by
  obtain ⟨later, got, gotLater, hall, hgot, hlater, hhanded, hpre, hcount⟩ := h
  obtain ⟨rest, hrest⟩ := hd
  have hpre' : got <+: q'.delivered.flatten := by
    rw [← hrest, List.flatten_append]
    exact hpre.trans (List.prefix_append _ _)
  rcases hb with hb | hb
  · have hqueued : q'.queued = q.queued := congrArg Books.queued hb
    have hdropped : q'.dropped = q.dropped := congrArg Books.dropped hb
    exact ⟨later, got, gotLater, by rw [hqueued]; exact hall, hgot, hlater,
      by rw [hb]; exact hhanded, hpre', by rw [hdropped]; exact hcount⟩
  · have hqueued : q'.queued = q.queued.drop q.batchSize := congrArg Books.queued hb
    have hdropped : q'.dropped = q.dropped := congrArg Books.dropped hb
    have hhanded' : q'.books.handedOver = q.books.handedOver ++ [q.queued.take q.batchSize] :=
      congrArg Books.handedOver hb
    refine ⟨later ++ q.queued.take q.batchSize, got, gotLater ++ q.queued.take q.batchSize, ?_,
      hgot, hlater.append (List.Sublist.refl _), ?_, hpre', ?_⟩
    · rw [hqueued, hall]
      simp
    · rw [hhanded', List.flatten_concat, hhanded, List.append_assoc]
    · rw [hdropped]
      simp only [List.length_append]
      omega

theorem push (h : q.Settled early all) (e : α) : (q.push e).Settled early (all ++ [e]) := by
  obtain ⟨later, got, gotLater, hall, hgot, hlater, hhanded, hpre, hcount⟩ := h
  have hpos := q.capacity_pos
  unfold EventQueue.push
  split
  · next hfull =>
    obtain ⟨x, rest, hq⟩ : ∃ x rest, q.queued = x :: rest :=
      List.exists_cons_of_length_pos (Nat.lt_of_lt_of_le hpos hfull)
    refine ⟨later ++ [x], got, gotLater, ?_, hgot, hlater.trans (List.sublist_append_left _ _),
      hhanded, hpre, ?_⟩
    · show all ++ [e] = early ++ (later ++ [x]) ++ (q.queued.drop 1 ++ [e])
      rw [hall, hq]
      simp
    · show q.dropped + 1 + _ = _
      rw [List.length_append, List.length_singleton]
      omega
  · refine ⟨later, got, gotLater, ?_, hgot, hlater, hhanded, hpre, hcount⟩
    show all ++ [e] = early ++ later ++ (q.queued ++ [e])
    rw [hall]
    simp

end Settled

/-- A step that pushes nothing leaves the books alone or takes a batch. -/
theorem books_act {a : Act α} (ha : a.event? = none) (q : EventQueue α) :
    (a.perform q).books = q.books ∨ q.queued ≠ [] ∧ (a.perform q).books = q.books.take := by
  cases a with
  | push e => cases ha
  | request | demand | flush | close | shutdown => exact .inl rfl
  | tick => exact books_perform (m := .tick) rfl q
  | work => exact books_perform (m := .work) rfl q
  | answer a => exact books_perform (m := .answer a) rfl q

theorem balanced_act {q : EventQueue α} {all : List α} (h : q.books.Balanced all) (a : Act α) :
    (a.perform q).books.Balanced (all ++ a.event?.toList) := by
  cases ha : a.event? with
  | some e =>
    obtain rfl : a = .push e := by
      cases a <;> cases ha
      rfl
    exact balanced_push h e
  | none =>
    rw [Option.toList_none, List.append_nil]
    obtain hb | ⟨hne, hb⟩ := books_act ha q
    · exact hb.symm ▸ h
    · exact hb.symm ▸ h.take hne q.batchSize_pos

/-- A flush that is acknowledged under a ticket owes what was pushed early: while it is carried out,
the batches that it may still take hold what is left of it. -/
structure Owes (q : EventQueue α) (ticket : Nat) (early all : List α) : Prop where
  balanced : q.books.Balanced all
  isPrefix : early <+: all
  left : ∀ n cause, q.worker.rounds? = some (n, cause) →
    cause.bind FlushCommand.ticket? = some ticket →
    early.length + q.queued.length ≤ all.length + n * q.batchSize
  settled : ticket ∈ q.acknowledged → q.Settled early all

theorem queued_le_rounds (q : EventQueue α) : q.queued.length ≤ q.rounds * q.batchSize := by
  have hpos := q.batchSize_pos
  have hdiv := Nat.div_add_mod (q.queued.length + q.batchSize - 1) q.batchSize
  have hmod := Nat.mod_lt (q.queued.length + q.batchSize - 1) hpos
  unfold rounds
  rw [Nat.mul_comm]
  omega

/-- What was pushed early is settled once no more events are queued than have been pushed later. -/
theorem settled_of_le {q : EventQueue α} {early all : List α} (h : q.books.Balanced all)
    (hpre : early <+: all) (hidle : inFlight q.worker = [])
    (hle : early.length + q.queued.length ≤ all.length) : q.Settled early all := by
  obtain ⟨-, -, processed, hall, hsub, hcount⟩ := h
  change all = processed ++ q.queued at hall
  -- What was pushed early is a start of what has been processed, and what was got of it of what
  -- has been handed over.
  have hlength : early.length ≤ processed.length := by
    rw [hall, List.length_append] at hle
    omega
  obtain ⟨later, rfl⟩ : early <+: processed :=
    List.prefix_of_prefix_length_le hpre ⟨_, hall.symm⟩ hlength
  obtain ⟨got, gotLater, hhanded, hgot, hlater⟩ := List.sublist_append_iff.1 hsub
  have hdelivered : q.books.handedOver = q.delivered := by
    show q.delivered ++ inFlight q.worker = _
    rw [hidle, List.append_nil]
  refine ⟨later, got, gotLater, hall, hgot, hlater, hhanded, ?_, ?_⟩
  · rw [← hdelivered, hhanded]
    exact List.prefix_append _ _
  · change q.dropped + _ = _ at hcount
    rw [hhanded, List.length_append, List.length_append] at hcount
    exact hcount

namespace Owes

variable {q q' : EventQueue α} {ticket : Nat} {early all : List α}

theorem push (h : q.Owes ticket early all) (e : α) :
    (q.push e).Owes ticket early (all ++ [e]) := by
  refine ⟨balanced_push h.balanced e, h.isPrefix.trans (List.prefix_append _ _),
    fun n cause hr hc => ?_, fun ht => ?_⟩
  · have hsame : (q.push e).worker = q.worker ∧ (q.push e).batchSize = q.batchSize ∧
        (q.push e).queued.length ≤ q.queued.length + 1 := by
      unfold EventQueue.push
      split
      · refine ⟨rfl, rfl, ?_⟩
        show (q.queued.drop 1 ++ [e]).length ≤ _
        simp
      · refine ⟨rfl, rfl, ?_⟩
        show (q.queued ++ [e]).length ≤ _
        simp
    obtain ⟨hw, hb, hq⟩ := hsame
    rw [hw] at hr
    have hleft := h.left n cause hr hc
    rw [hb, List.length_append, List.length_singleton]
    omega
  · have hold : ticket ∈ q.acknowledged := by
      unfold EventQueue.push at ht
      split at ht <;> exact ht
    exact (h.settled hold).push e

/-- A step that pushes and acknowledges nothing has to account for what is left. -/
theorem of_books (h : q.Owes ticket early all)
    (hb : q'.books = q.books ∨ q.queued ≠ [] ∧ q'.books = q.books.take)
    (hd : q.delivered <+: q'.delivered) (hacknowledged : q'.acknowledged = q.acknowledged)
    (hleft : ∀ n cause, q'.worker.rounds? = some (n, cause) →
      cause.bind FlushCommand.ticket? = some ticket →
      early.length + q'.queued.length ≤ all.length + n * q'.batchSize) :
    q'.Owes ticket early all := by
  refine ⟨?_, h.isPrefix, hleft, fun ht => ?_⟩
  · obtain hb | ⟨hne, hb⟩ := hb
    · exact hb.symm ▸ h.balanced
    · exact hb.symm ▸ h.balanced.take hne q.batchSize_pos
  · rw [hacknowledged] at ht
    exact (h.settled ht).of_books (hb.imp_right And.right) hd

/-- The flush ends when it has taken its batches or finds the queue empty. Both settle what it
owes. -/
theorem finish (h : q.Owes ticket early all) {n : Nat} {cause : Option FlushCommand}
    (hw : q.worker = .flushing n cause) (hend : n = 0 ∨ q.queued = []) :
    (q.finish cause).Owes ticket early all := by
  have hbooks := books_finish hw
  obtain ⟨-, -, -, hdelivered, -⟩ := finish_eq q cause
  refine ⟨hbooks.symm ▸ h.balanced, h.isPrefix, fun n' cause' hr => ?_, fun ht => ?_⟩
  · rcases worker_finish q cause with hidle | hfinished
    · rw [hidle] at hr
      cases hr
    · rw [hfinished] at hr
      cases hr
  · have hsettled : q.Settled early all := by
      rw [acknowledged_finish] at ht
      rcases List.mem_append.1 ht with ht | ht
      · have hleft := h.left n cause (by rw [hw]; rfl) (Option.mem_toList.1 ht)
        have hle := h.isPrefix.length_le
        refine settled_of_le h.balanced h.isPrefix (by rw [hw]; rfl) ?_
        rcases hend with rfl | hnil
        · omega
        · rw [hnil]
          simpa using hle
      · exact h.settled ht
    exact hsettled.of_books (.inl hbooks) (hdelivered ▸ List.prefix_refl _)

theorem advance (h : q.Owes ticket early all) (ha : q.advance? = some q') :
    q'.Owes ticket early all := by
  have hbooks := books_advance? ha
  have hle := h.isPrefix.length_le
  obtain ⟨c, rest, hw, -, rfl⟩ | ⟨c, flag, hw, rfl⟩ | ⟨cause, hw, rfl⟩ |
    ⟨n, cause, hw, hend, rfl⟩ | ⟨n, cause, hw, hne, rfl⟩ := advance?_cases ha
  · exact h.of_books hbooks (List.prefix_refl _) rfl fun _ _ hr => by cases hr
  · exact h.of_books hbooks (List.prefix_refl _) rfl fun _ _ hr => by cases hr
  · -- The batches that hold what is queued at the start hold what is left of what was pushed early.
    refine h.of_books hbooks (List.prefix_refl _) rfl fun n cause' hr _ => ?_
    obtain ⟨rfl, -⟩ := Prod.mk.inj (Option.some.inj hr)
    have hrounds := q.queued_le_rounds
    show early.length + q.queued.length ≤ all.length + q.rounds * q.batchSize
    omega
  · exact h.finish hw hend
  · refine h.of_books hbooks (List.prefix_refl _) rfl fun n' cause' hr hc => ?_
    obtain ⟨rfl, rfl⟩ := Prod.mk.inj (Option.some.inj hr)
    have hleft := h.left (n + 1) cause (by rw [hw]; rfl) hc
    rw [Nat.succ_mul] at hleft
    show early.length + (q.queued.drop q.batchSize).length ≤ all.length + n * q.batchSize
    rw [List.length_drop]
    omega

theorem perform (h : q.Owes ticket early all) (a : Act α) :
    (a.perform q).Owes ticket early (all ++ a.event?.toList) := by
  cases a with
  | push e => exact h.push e
  | request | demand | flush | close | shutdown =>
    simp only [Act.event?, Option.toList_none, List.append_nil]
    exact ⟨h.balanced, h.isPrefix, h.left, h.settled⟩
  | tick =>
    show (q.tick?.getD q).Owes ticket early (all ++ [])
    rw [List.append_nil]
    cases ha : q.tick? with
    | none => exact h
    | some q' =>
      have hbooks := books_tick? ha
      unfold tick? at ha
      split at ha
      · cases ha
        exact h.of_books (.inl hbooks) (List.prefix_refl _) rfl fun _ _ hr => by cases hr
      · cases ha
  | work =>
    show (q.advance?.getD q).Owes ticket early (all ++ [])
    rw [List.append_nil]
    cases ha : q.advance? with
    | none => exact h
    | some q' => exact h.advance ha
  | answer a =>
    show (q.complete?.getD q).Owes ticket early (all ++ [])
    rw [List.append_nil]
    cases ha : q.complete? with
    | none => exact h
    | some q' =>
      have hbooks := books_complete? ha
      unfold complete? at ha
      split at ha
      · next hw =>
        cases ha
        exact h.of_books (.inl hbooks) (List.prefix_append _ _) rfl
          fun n cause hr hc => h.left n cause (by rw [hw]; exact hr) hc
      · cases ha

end Owes

/-! ### Interleavings -/

theorem issued_play (maxQueueSize batchSize : Nat) (acts : List (Act α)) :
    ((make maxQueueSize batchSize).play acts).Issued :=
  List.foldlRecOn acts Act.perform (issued_make maxQueueSize batchSize) fun _ h a _ => h.perform a

theorem balanced_play (maxQueueSize batchSize : Nat) (acts : List (Act α)) :
    ((make maxQueueSize batchSize).play acts).books.Balanced (pushed acts) := by
  induction acts using List.reverseRecOn with
  | nil =>
    exact ⟨Nat.zero_le _, by simp [play, make, books, inFlight], [], rfl,
      by simp [play, make, books, inFlight], by simp [play, make, books, inFlight]⟩
  | append_singleton acts a ih =>
    rw [play, List.foldl_concat, pushed_concat]
    exact balanced_act ih a

theorem owes_play {q : EventQueue α} {ticket : Nat} {early all : List α}
    (h : q.Owes ticket early all) (acts : List (Act α)) :
    (q.play acts).Owes ticket early (all ++ pushed acts) := by
  induction acts using List.reverseRecOn with
  | nil => simpa [play, pushed] using h
  | append_singleton acts a ih =>
    rw [play, List.foldl_concat, pushed_concat, ← List.append_assoc]
    exact ih.perform a

/-- A ticket that has not been issued owes what has been pushed so far. -/
theorem Issued.owes {q : EventQueue α} {early : List α} (h : q.Issued)
    (hbalanced : q.books.Balanced early) : q.Owes q.nextTicket early early := by
  refine ⟨hbalanced, List.prefix_refl _, fun n cause hr hc => ?_, fun ht => ?_⟩
  · obtain ⟨c, rfl, hct⟩ := Option.bind_eq_some_iff.1 hc
    have hcommand : q.worker.command? = some c := by
      cases hw : q.worker with
      | flushing | delivering =>
        rw [hw] at hr
        exact (Prod.mk.inj (Option.some.inj hr)).2
      | idle | received | starting | finished =>
        rw [hw] at hr
        cases hr
    exact absurd (h.current c _ hcommand hct) (Nat.lt_irrefl _)
  · exact absurd (h.acknowledged _ ht) (Nat.lt_irrefl _)

/-- However the steps of callers, worker, timer and destination are interleaved, when a flush has
been acknowledged, what had been pushed before it was asked for has been handed over or dropped:
what was got of it comes first of all that has been delivered, and what was not is counted. -/
theorem settled_of_acknowledged (maxQueueSize batchSize : Nat) (before after : List (Act α))
    (h : ((make maxQueueSize batchSize).play before).sendFlush.1 ∈
      ((make maxQueueSize batchSize).play (before ++ .flush :: after)).acknowledged) :
    let q := (make maxQueueSize batchSize).play (before ++ .flush :: after)
    ∃ later got gotLater, pushed (before ++ after) = pushed before ++ later ++ q.queued ∧
      got.Sublist (pushed before) ∧ gotLater.Sublist later ∧
      q.books.handedOver.flatten = got ++ gotLater ∧ got <+: q.delivered.flatten ∧
      q.dropped + (got.length + gotLater.length) = (pushed before).length + later.length := by
  have howes := (issued_play maxQueueSize batchSize before).owes
    (balanced_play maxQueueSize batchSize before)
  have hafter := owes_play (howes.perform .flush) after
  have hpushed : pushed (before ++ after) =
      pushed before ++ (Act.flush (α := α)).event?.toList ++ pushed after := by
    simp [pushed, Act.event?]
  rw [hpushed]
  rw [play, List.foldl_append] at h ⊢
  exact hafter.settled h

/-- What may happen while a flush of two events is carried out by a queue that holds no more. The
first one is handed over and the destination panics, two more come, and the second one is
dropped. -/
def crowdedFlush : List (Act Nat) :=
  [.work, .work, .work, .work, .push 3, .push 4, .answer .panics, .work, .answer .returns, .work]

theorem settled_of_acknowledged_crowdedFlush :
    ((make 2 1 : EventQueue Nat).play [.push 1, .push 2]).sendFlush.1 ∈
      ((make 2 1 : EventQueue Nat).play
        ([.push 1, .push 2] ++ .flush :: crowdedFlush)).acknowledged ∧
    let q := (make 2 1 : EventQueue Nat).play ([.push 1, .push 2] ++ .flush :: crowdedFlush)
    q.delivered = [[1], [3]] ∧ q.dropped = 1 ∧
    ∃ later got gotLater, [1, 2, 3, 4] = [1, 2] ++ later ++ q.queued ∧
      got.Sublist [1, 2] ∧ gotLater.Sublist later ∧
      q.books.handedOver.flatten = got ++ gotLater ∧ got <+: q.delivered.flatten ∧
      q.dropped + (got.length + gotLater.length) = 2 + later.length := by
  have hticket : ((make 2 1 : EventQueue Nat).play [.push 1, .push 2]).sendFlush.1 ∈
      ((make 2 1 : EventQueue Nat).play
        ([.push 1, .push 2] ++ .flush :: crowdedFlush)).acknowledged := by decide
  exact ⟨hticket, rfl, rfl,
    settled_of_acknowledged 2 1 [.push 1, .push 2] crowdedFlush hticket⟩

end EventQueue

end Rollout
