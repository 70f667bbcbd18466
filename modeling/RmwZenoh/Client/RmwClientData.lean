import RmwZenoh.Client.ClientData

/-!
# `rmw_client_data_t`

The older reply store of `rmw_data_types.cpp`. It splits its state over four mutexes: the
reply queue (`reply_queue_mutex_`), the attached wait set (`condition_mutex_`), the in-flight
counter with the shutdown flag (`in_flight_mutex_`) and the sequence number. `add_new_reply`
keeps the queue locked while it calls `notify`, which takes the condition mutex, so it is two
critical sections: `addNewReplyPush`, then `notify`.

* `addNewReplyPush`, `notify`, `addNewReply`, `popNextReply`,
  `queueHasDataAndAttachConditionIfNot`, `detachConditionAndQueueIsEmpty`;
* `incrementInFlightCallbacks`, `shutdownAndQueryInFlight`,
  `decrementQueriesInFlightAndIsShutdown`, `getNextSequenceNumber`;
* `clientDataHandler` (`handlerCheck`, then two appends of the same reply) and
  `clientDataDrop`.
-/

namespace RmwZenoh

/-- The state of an `rmw_client_data_t`: the fields its methods read and write.
`callbacksTriggered` counts `data_callback_mgr.trigger_callback()` calls. As for `ClientData`,
the counter's declaration is not under `src/` and it is an integer. -/
structure RmwClientData where
  qos : QosProfile
  replyQueue : List ZenohReply
  waitSetAttached : Bool
  numInFlight : Int
  isShutdown : Bool
  sequenceNumber : BitVec 64
  callbacksTriggered : Nat
  deriving DecidableEq

namespace RmwClientData

/-- A store with nothing queued, attached or in flight. -/
def new (qos : QosProfile) : RmwClientData := ⟨qos, [], false, 0, false, 1, 0⟩

/-! ## Replies -/

/-- `rmw_client_data_t::notify`: whether it set the attached wait set's `triggered`. -/
def notify (s : RmwClientData) : Bool := s.waitSetAttached

/-- The part of `add_new_reply` before `notify()`: discard the oldest reply when bounded and full,
append, and trigger the new-data callback. -/
def addNewReplyPush (r : ZenohReply) (s : RmwClientData) : RmwClientData :=
  { s with
    replyQueue := (pushReply s.qos s.replyQueue r).1
    callbacksTriggered := s.callbacksTriggered + 1 }

/-- `rmw_client_data_t::add_new_reply`, run alone. -/
def addNewReply (r : ZenohReply) (s : RmwClientData) : RmwClientData × Bool :=
  let s := addNewReplyPush r s
  (s, notify s)

/-- `rmw_client_data_t::queue_has_data_and_attach_condition_if_not`. -/
def queueHasDataAndAttachConditionIfNot (s : RmwClientData) : Bool × RmwClientData :=
  if s.replyQueue.isEmpty then (false, { s with waitSetAttached := true }) else (true, s)

/-- `rmw_client_data_t::detach_condition_and_queue_is_empty`. -/
def detachConditionAndQueueIsEmpty (s : RmwClientData) : Bool × RmwClientData :=
  (s.replyQueue.isEmpty, { s with waitSetAttached := false })

/-- `queue_has_data_and_attach_condition_if_not` answers whether the queue has a reply. -/
@[simp] theorem queueHasDataAndAttachConditionIfNot_fst (s : RmwClientData) :
    s.queueHasDataAndAttachConditionIfNot.1 = !s.replyQueue.isEmpty := by
  unfold queueHasDataAndAttachConditionIfNot
  cases s.replyQueue.isEmpty <;> rfl

/-- The store after `queue_has_data_and_attach_condition_if_not`: attached if the queue was
empty, unchanged otherwise. -/
@[simp] theorem queueHasDataAndAttachConditionIfNot_snd (s : RmwClientData) :
    s.queueHasDataAndAttachConditionIfNot.2 =
      { s with waitSetAttached := s.waitSetAttached || s.replyQueue.isEmpty } := by
  unfold queueHasDataAndAttachConditionIfNot
  cases s.replyQueue.isEmpty <;> simp

/-- `rmw_client_data_t::pop_next_reply`. -/
def popNextReply (s : RmwClientData) : Option ZenohReply × RmwClientData :=
  ((popReply s.replyQueue).1, { s with replyQueue := (popReply s.replyQueue).2 })

@[simp] theorem detachConditionAndQueueIsEmpty_fst (s : RmwClientData) :
    s.detachConditionAndQueueIsEmpty.1 = s.replyQueue.isEmpty := rfl

@[simp] theorem detachConditionAndQueueIsEmpty_snd (s : RmwClientData) :
    s.detachConditionAndQueueIsEmpty.2 = { s with waitSetAttached := false } := rfl

@[simp] theorem popNextReply_snd (s : RmwClientData) :
    s.popNextReply.2 = { s with replyQueue := s.replyQueue.tail } := by
  simp [popNextReply]

/-! ## Queries in flight -/

/-- `rmw_client_data_t::increment_in_flight_callbacks`. -/
def incrementInFlightCallbacks (s : RmwClientData) : RmwClientData :=
  { s with numInFlight := s.numInFlight + 1 }

/-- `rmw_client_data_t::shutdown_and_query_in_flight`. -/
def shutdownAndQueryInFlight (s : RmwClientData) : Bool × RmwClientData :=
  (decide (0 < s.numInFlight), { s with isShutdown := true })

/-- `rmw_client_data_t::decrement_queries_in_flight_and_is_shutdown`: the new
`queries_in_flight` and the shutdown flag. -/
def decrementQueriesInFlightAndIsShutdown (s : RmwClientData) : (Bool × Bool) × RmwClientData :=
  ((decide (0 < s.numInFlight - 1), s.isShutdown), { s with numInFlight := s.numInFlight - 1 })

@[simp] theorem shutdownAndQueryInFlight_fst (s : RmwClientData) :
    s.shutdownAndQueryInFlight.1 = decide (0 < s.numInFlight) := rfl

@[simp] theorem shutdownAndQueryInFlight_snd (s : RmwClientData) :
    s.shutdownAndQueryInFlight.2 = { s with isShutdown := true } := rfl

/-- `rmw_client_data_t::get_next_sequence_number`. -/
def getNextSequenceNumber (s : RmwClientData) : BitVec 64 × RmwClientData :=
  (s.sequenceNumber, { s with sequenceNumber := s.sequenceNumber + 1 })

/-! ## The transport's callbacks -/

/-- The first critical section of `client_data_handler`: `is_shutdown()`, then
`z_reply_is_ok`. It returns the reply to append, if any. -/
def handlerCheck (s : RmwClientData) (r : ZReply) : Option ZReply :=
  if s.isShutdown then none
  else match r with
    | .ok _ => some r
    | .err _ => none

/-- The check passes only accepted replies. -/
theorem isOk_of_mem_handlerCheck {s : RmwClientData} {r h : ZReply}
    (hm : h ∈ (s.handlerCheck r).toList) : h.isOk = true := by
  unfold handlerCheck at hm
  split at hm
  · simp at hm
  · cases r <;> simp_all [ZReply.isOk]

/-- `client_data_handler`, run alone. An accepted reply is appended twice: once as a clone,
then again with the clock reading `now` after the `if`. The Boolean is whether a wait set was
notified. -/
def clientDataHandler (now : BitVec 64) (r : ZReply) (s : RmwClientData) :
    RmwClientData × Bool :=
  match handlerCheck s r with
  | some r =>
    let (s, n₁) := addNewReply ⟨r, none⟩ s
    let (s, n₂) := addNewReply ⟨r, some now⟩ s
    (s, n₁ || n₂)
  | none => (s, false)

/-- `client_data_drop`: the Boolean is whether it destroys and frees the store. -/
def clientDataDrop (s : RmwClientData) : RmwClientData × Bool :=
  let r := decrementQueriesInFlightAndIsShutdown s
  (r.2, r.1.2 && !r.1.1)

@[simp] theorem clientDataDrop_fst (s : RmwClientData) :
    s.clientDataDrop.1 = { s with numInFlight := s.numInFlight - 1 } := rfl

@[simp] theorem clientDataDrop_snd (s : RmwClientData) :
    s.clientDataDrop.2 = (s.isShutdown && !decide (0 < s.numInFlight - 1)) := rfl

end RmwClientData

end RmwZenoh
