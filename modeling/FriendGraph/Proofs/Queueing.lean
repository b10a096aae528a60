import FriendGraph.Notification.Queue

/-! # What becomes of queued batches

A history of a queue lists what came of every step that was taken with it: who sends hears whether
a batch is accepted, who receives gets a batch or nothing, and at some point the receiver may go
away. As long as the receiver is there, what waits and what is accepted later is what is received
later and what waits in the end (`Queue.waiting_append_accepted`): no batch is lost, doubled, cut or
overtaken. With the bound on what waits (`Queue.length_waiting_le`) that decides every answer of the
queue (`Queue.batches_pass_in_order`).
-/

namespace FriendGraph.Queue

/-- What is done with a queue. -/
inductive Step where
  | send (batch : List Notification)
  | receive
  /-- The receiver goes away. -/
  | close
deriving DecidableEq

/-- What comes of a step. -/
inductive Event where
  | sent (batch : List Notification) (answer : Except NotificationError Unit)
  | received (batch : Option (List Notification))
  | closed

/-- The batch that an event puts into the queue. -/
def Event.accepted? : Event → Option (List Notification)
  | sent batch (.ok ()) => some batch
  | sent _ (.error _) | received _ | closed => none

/-- The batch that an event takes out of the queue. -/
def Event.taken? : Event → Option (List Notification)
  | received batch => batch
  | sent _ _ | closed => none

/-- A step with a queue: what comes of it, and the queue after it. -/
def take (step : Step) (queue : Queue) : Event × Queue :=
  match step with
  | .send batch => (.sent batch (queue.send batch).1, (queue.send batch).2)
  | .receive => (.received queue.receive.1, queue.receive.2)
  | .close => (.closed, queue.close)

/-- What comes of steps that are taken one after another. -/
def history : List Step → Queue → List Event
  | [], _ => []
  | step :: rest, queue => (queue.take step).1 :: history rest (queue.take step).2

/-- The queue after steps that are taken one after another. -/
def after : List Step → Queue → Queue
  | [], queue => queue
  | step :: rest, queue => after rest (queue.take step).2

/-- The batches that were accepted, in their order. -/
def accepted (events : List Event) : List (List Notification) := events.filterMap Event.accepted?

/-- The batches that were received, in their order. -/
def taken (events : List Event) : List (List Notification) := events.filterMap Event.taken?

variable {queue : Queue} {batch : List Notification} {step : Step} {steps : List Step}

/-! ## One step -/

/-- A queue with room takes a batch. -/
theorem send_of_room (isOpen : queue.isOpen = true)
    (room : queue.waiting.length < queue.capacity) :
    queue.send batch = (.ok (), { queue with waiting := queue.waiting ++ [batch] }) := by
  rw [send, if_pos isOpen, if_pos room]

/-- A full queue rejects a batch and stays as it is. -/
theorem send_of_full (isOpen : queue.isOpen = true)
    (full : queue.capacity ≤ queue.waiting.length) :
    queue.send batch = (.error (.rejected .queueFull), queue) := by
  rw [send, if_pos isOpen, if_neg (Nat.not_lt.mpr full)]

/-- Without a receiver it does not matter whether there is room. -/
theorem send_of_closed (closed : queue.isOpen = false) :
    queue.send batch = (.error .queueClosed, queue) := by
  rw [send, closed, if_neg Bool.false_ne_true]

/-- Nothing is received exactly when nothing waits. -/
theorem receive_eq_none_iff : queue.receive.1 = none ↔ queue.waiting = [] := by
  unfold receive
  cases queue.waiting with
  | nil => exact iff_of_true rfl rfl
  | cons batch rest => exact iff_of_false nofun nofun

/-- A step keeps the capacity. -/
theorem capacity_take (step : Step) (queue : Queue) :
    (queue.take step).2.capacity = queue.capacity := by
  cases step with
  | send batch =>
    simp only [take, send]
    split
    · split <;> rfl
    · rfl
  | receive =>
    simp only [take, receive]
    split <;> rfl
  | close => rfl

/-- The receiver is there until it goes away. -/
theorem isOpen_take_iff :
    (queue.take step).2.isOpen = true ↔ queue.isOpen = true ∧ step ≠ .close := by
  cases step with
  | send batch =>
    have same : (queue.take (.send batch)).2.isOpen = queue.isOpen := by
      simp only [take, send]
      split
      · split <;> rfl
      · rfl
    rw [same]
    exact (and_iff_left nofun).symm
  | receive =>
    have same : (queue.take .receive).2.isOpen = queue.isOpen := by
      simp only [take, receive]
      split <;> rfl
    rw [same]
    exact (and_iff_left nofun).symm
  | close => exact iff_of_false nofun fun stays => stays.2 rfl

/-- A step accepts a batch at the end and takes one from the front, and moves no other. -/
theorem waiting_append_accepted_take (isOpen : queue.isOpen = true) (stays : step ≠ .close) :
    queue.waiting ++ (queue.take step).1.accepted?.toList =
      (queue.take step).1.taken?.toList ++ (queue.take step).2.waiting := by
  cases step with
  | send batch =>
    rcases Nat.lt_or_ge queue.waiting.length queue.capacity with room | full
    · rw [take, send_of_room isOpen room]
      rfl
    · rw [take, send_of_full isOpen full]
      exact List.append_nil _
  | receive =>
    simp only [take, receive]
    split
    · next empty =>
      rw [empty]
      rfl
    · next batch rest same =>
      rw [same]
      exact List.append_nil _
  | close => exact absurd rfl stays

/-- A step keeps what waits within the capacity. -/
theorem length_waiting_take_le (bounded : queue.waiting.length ≤ queue.capacity) :
    (queue.take step).2.waiting.length ≤ queue.capacity := by
  cases step with
  | send batch =>
    simp only [take, send]
    split
    · split
      · next room =>
        rw [List.length_append, List.length_singleton]
        exact room
      · exact bounded
    · exact bounded
  | receive =>
    simp only [take, receive]
    split
    · exact bounded
    · next rest same =>
      rw [same, List.length_cons] at bounded
      exact Nat.le_of_succ_le bounded
  | close => exact Nat.zero_le _

/-! ## All steps -/

/-- A run keeps the capacity. -/
theorem capacity_after (steps : List Step) (queue : Queue) :
    (queue.after steps).capacity = queue.capacity := by
  induction steps generalizing queue with
  | nil => rfl
  | cons step rest inductionHypothesis =>
    rw [after, inductionHypothesis, capacity_take]

/-- A queue is open after a run exactly when nothing closed it. -/
theorem isOpen_after_iff (steps : List Step) (queue : Queue) :
    (queue.after steps).isOpen = true ↔ queue.isOpen = true ∧ .close ∉ steps := by
  induction steps generalizing queue with
  | nil => exact (and_iff_left List.not_mem_nil).symm
  | cons step rest inductionHypothesis =>
    rw [after, inductionHypothesis, isOpen_take_iff, List.mem_cons, not_or, and_assoc]
    exact and_congr_right fun _ => and_congr_left fun _ => ne_comm

/-- No more batches wait than the queue has room for. -/
theorem length_waiting_le (bounded : queue.waiting.length ≤ queue.capacity) :
    (queue.after steps).waiting.length ≤ queue.capacity := by
  induction steps generalizing queue with
  | nil => exact bounded
  | cons step rest inductionHypothesis =>
    rw [after, ← capacity_take step queue]
    apply inductionHypothesis
    rw [capacity_take]
    exact length_waiting_take_le bounded

/-- What waits and what is accepted is what is taken and what waits then. -/
theorem waiting_append_accepted (steps : List Step) (queue : Queue) (isOpen : queue.isOpen = true)
    (stays : .close ∉ steps) :
    queue.waiting ++ accepted (queue.history steps) =
      taken (queue.history steps) ++ (queue.after steps).waiting := by
  induction steps generalizing queue with
  | nil => exact List.append_nil _
  | cons step rest inductionHypothesis =>
    rw [List.mem_cons, not_or] at stays
    have first := waiting_append_accepted_take isOpen (Ne.symm stays.1)
    have later :=
      inductionHypothesis _ (isOpen_take_iff.mpr ⟨isOpen, Ne.symm stays.1⟩) stays.2
    have accepts : accepted (queue.history (step :: rest)) =
        (queue.take step).1.accepted?.toList ++ accepted (history rest (queue.take step).2) := by
      rw [history, accepted, List.filterMap_cons, accepted]
      cases (queue.take step).1.accepted? <;> rfl
    have takes : taken (queue.history (step :: rest)) =
        (queue.take step).1.taken?.toList ++ taken (history rest (queue.take step).2) := by
      rw [history, taken, List.filterMap_cons, taken]
      cases (queue.take step).1.taken? <;> rfl
    rw [accepts, takes, ← List.append_assoc, first, List.append_assoc, later, List.append_assoc,
      after]

/-- How a queue with so much room stands after some events, with its receiver there. -/
structure Passes (room : Nat) (events : List Event) (queue : Queue) : Prop where
  /-- What was received and what waits after it is what was accepted. -/
  inOrder : taken events ++ queue.waiting = accepted events
  /-- A batch is turned away exactly when there is no room. -/
  rejects : ∀ batch, (queue.send batch).1 = .error (.rejected .queueFull) ↔
    queue.waiting.length = room
  /-- A batch that is turned away leaves everything as it is. -/
  unchanged : ∀ batch, queue.waiting.length = room → (queue.send batch).2 = queue
  /-- Any other batch is accepted. -/
  accepts : ∀ batch, (queue.send batch).1 = .ok () ↔ queue.waiting.length < room
  /-- Nothing is received exactly when nothing waits. -/
  yields : queue.receive.1 = none ↔ queue.waiting = []

/-- How a queue answers depends on what waits in it, as long as its receiver is there. -/
theorem passes_of_open {events : List Event} (isOpen : queue.isOpen = true)
    (bounded : queue.waiting.length ≤ queue.capacity)
    (inOrder : taken events ++ queue.waiting = accepted events) :
    Passes queue.capacity events queue := by
  have answers (batch : List Notification) :
      ((queue.send batch).1 = .error (.rejected .queueFull) ↔
          queue.waiting.length = queue.capacity) ∧
        (queue.waiting.length = queue.capacity → (queue.send batch).2 = queue) ∧
        ((queue.send batch).1 = .ok () ↔ queue.waiting.length < queue.capacity) := by
    rcases Nat.lt_or_ge queue.waiting.length queue.capacity with room | full
    · rw [send_of_room isOpen room]
      have notFull := Nat.ne_of_lt room
      exact ⟨iff_of_false nofun notFull, fun same => absurd same notFull, iff_of_true rfl room⟩
    · rw [send_of_full isOpen full]
      exact ⟨iff_of_true rfl (Nat.le_antisymm bounded full), fun _ => rfl,
        iff_of_false nofun (Nat.not_lt.mpr full)⟩
  exact ⟨inOrder, fun batch => (answers batch).1, fun batch => (answers batch).2.1,
    fun batch => (answers batch).2.2, receive_eq_none_iff⟩

/-- **A queue passes batches on in their order.** Whatever steps are taken with a queue, no more
batches wait than room was asked for, or one if none was. As long as the receiver is there, the
batches that were received and those that wait after them are the batches that were accepted, a
batch is rejected exactly when the room is full, and nothing is received exactly when nothing waits
(`Queue.Passes`). Once the receiver is gone every batch is answered with that, whatever waited. -/
theorem batches_pass_in_order (asked : Nat) (steps : List Step) :
    ((ofCapacity asked).after steps).waiting.length ≤ max asked 1 ∧
      (.close ∉ steps →
        Passes (max asked 1) ((ofCapacity asked).history steps) ((ofCapacity asked).after steps)) ∧
      (.close ∈ steps → ∀ batch, ((ofCapacity asked).after steps).send batch =
        (.error .queueClosed, (ofCapacity asked).after steps)) := by
  have bound : ((ofCapacity asked).after steps).waiting.length ≤ max asked 1 :=
    length_waiting_le (Nat.zero_le _)
  have room : ((ofCapacity asked).after steps).capacity = max asked 1 := capacity_after _ _
  have isOpen := isOpen_after_iff steps (ofCapacity asked)
  have passed := waiting_append_accepted steps (ofCapacity asked) rfl
  generalize (ofCapacity asked).after steps = queue at *
  refine ⟨bound, fun stays => ?_, fun gone batch => ?_⟩
  · rw [← room]
    exact passes_of_open (isOpen.mpr ⟨rfl, stays⟩) (room ▸ bound) (passed stays).symm
  · apply send_of_closed
    rw [← Bool.not_eq_true, isOpen]
    exact fun stays => stays.2 gone

/-- A queue for which no room was asked holds one batch, be it empty, and turns the next one away;
when the receiver leaves the full queue, that is the answer to the next batch. -/
theorem batches_pass_in_order_noRoom :
    .close ∉ [Step.send [], .receive, .send []] ∧
      (((ofCapacity 0).after [.send [], .receive, .send []]).send []).1 =
        .error (.rejected .queueFull) ∧
      .close ∈ [Step.send [], .close] ∧
      (((ofCapacity 0).after [.send [], .close]).send []).1 = .error .queueClosed := by
  have stays : Step.close ∉ [Step.send [], .receive, .send []] := by decide
  have gone : Step.close ∈ [Step.send [], .close] := by decide
  obtain ⟨_, present, _⟩ := batches_pass_in_order 0 [.send [], .receive, .send []]
  obtain ⟨_, _, absent⟩ := batches_pass_in_order 0 [.send [], .close]
  exact ⟨stays, ((present stays).rejects []).mpr rfl, gone, congrArg Prod.fst (absent gone [])⟩

end FriendGraph.Queue
