import RmwZenoh.Attachment
import RmwZenoh.Client.ReplyQueue

/-!
# `ClientData`

The request-issuing endpoint of `rmw_client_data.cpp`. Every method takes the store's one
recursive mutex for its whole body, so each is a function of the store's state; what the
method meets outside the store (the allocator, the serializer, the clock, zenoh's answers)
is an argument. The wait set a store notifies, the transport and the owner are not part of
the store: `ClientSystem` puts them around it.

* the replies: `ZReply`, `ZenohReply`, and `TakeResult` for `take_response`;
* `sendRequest`, `addNewReply`, `takeResponse`, `queueHasDataAndAttachConditionIfNot`,
  `detachConditionAndQueueIsEmpty`, `_shutdown`, `shutdown`, `shutdownAndQueryInFlight`,
  `decrementInFlightAndConditionallyRemove`;
* `clientDataHandler`, in its two critical sections `handlerCheck` and `addNewReply`;
* `sendRequest_snd_of_fst_ne_ok`: a failing `send_request` leaves the store as it was;
  **`sendRequest_ignores_zGet`**: a `z_get` failure is not one, the call answers `RMW_RET_OK`;
* **`shutdown_ok_when_undeclare_fails`**: `shutdown` answers `RMW_RET_OK` on a failed undeclare
  that leaves the store up; `teardown_of_isShutdown`: once shut down, both teardown calls are
  no-ops.
-/

namespace RmwZenoh

/-- The payload and attachment of a sample. -/
structure Sample where
  payload : Bytes
  attachment : Bytes
  deriving DecidableEq, Repr

/-- A reply from the transport: `z_reply_is_ok` tells a sample from an error. -/
inductive ZReply
  | ok (sample : Sample)
  | err (payload : Bytes)
  deriving DecidableEq, Repr

/-- `z_reply_is_ok`. -/
def ZReply.isOk : ZReply → Bool
  | .ok _ => true
  | .err _ => false

/-- `ZenohReply`: a reply with the time it was received (`none` when built by the
one-argument constructor). -/
structure ZenohReply where
  reply : ZReply
  receivedTimestamp : Option (BitVec 64)
  deriving DecidableEq, Repr

/-- `rmw_ret_t`, with the message `RMW_SET_ERROR_MSG` records on an error. -/
inductive RmwRet
  | ok
  | error (msg : Option String)
  | invalidArgument
  deriving DecidableEq, Repr

/-- The state of a `ClientData`: the fields its methods read and write. The QoS profile and
the gid are those of `entity_`; `tokenHeld` is whether `token_` still holds the liveliness
token; `callbacksTriggered` counts `data_callback_mgr_.trigger_callback()` calls. -/
structure ClientData where
  qos : QosProfile
  gid : Gid
  replyQueue : List ZenohReply
  waitSetAttached : Bool
  sequenceNumber : BitVec 64
  isShutdown : Bool
  numInFlight : Int
  tokenHeld : Bool
  callbacksTriggered : Nat
  deriving DecidableEq

namespace ClientData

/-- A store as `make` returns it, after `init` declared its liveliness token. The source does not
show the declaration of `num_in_flight_`: its counter is an integer, as the spec's in-flight
counter is. -/
def new (qos : QosProfile) (gid : Gid) : ClientData :=
  ⟨qos, gid, [], false, 1, false, 0, true, 0⟩

/-! ## Replies -/

/-- `ClientData::add_new_reply`: discard the oldest reply when the profile is bounded and full,
append, trigger the new-data callback, and notify the wait set if one is attached. The Boolean
is whether it notified one. -/
def addNewReply (r : ZenohReply) (s : ClientData) : ClientData × Bool :=
  ({ s with
      replyQueue := (pushReply s.qos s.replyQueue r).1
      callbacksTriggered := s.callbacksTriggered + 1 }, s.waitSetAttached)

@[simp] theorem addNewReply_fst (r : ZenohReply) (s : ClientData) :
    (addNewReply r s).1 = { s with
      replyQueue := (pushReply s.qos s.replyQueue r).1
      callbacksTriggered := s.callbacksTriggered + 1 } := rfl

@[simp] theorem addNewReply_snd (r : ZenohReply) (s : ClientData) :
    (addNewReply r s).2 = s.waitSetAttached := rfl

/-- The first critical section of `client_data_handler`: `is_shutdown()`, then `z_reply_is_ok`.
It returns the reply to append, if any. -/
def handlerCheck (s : ClientData) (r : ZReply) : Option ZReply :=
  if s.isShutdown then none
  else match r with
    | .ok _ => some r
    | .err _ => none

/-- The check passes only accepted replies. -/
theorem isOk_of_mem_handlerCheck {s : ClientData} {r h : ZReply}
    (hm : h ∈ (s.handlerCheck r).toList) : h.isOk = true := by
  unfold handlerCheck at hm
  split at hm
  · simp at hm
  · cases r <;> simp_all [ZReply.isOk]

/-- `client_data_handler`, run alone: the check, then `add_new_reply` with the clock reading
`now`. The Boolean is whether a wait set was notified. -/
def clientDataHandler (now : BitVec 64) (r : ZReply) (s : ClientData) : ClientData × Bool :=
  match handlerCheck s r with
  | some r => addNewReply ⟨r, some now⟩ s
  | none => (s, false)

/-- The fields of the `attachement_data_t` that `take_response` reads; that type's
constructor is not under `src/` and is an argument of `takeResponse`. -/
structure ReplyAttachment where
  sequenceNumber : BitVec 64
  sourceTimestamp : BitVec 64
  sourceGid : Bytes

/-- `rmw_service_info_t`, as `take_response` fills it. -/
structure ServiceInfo where
  sequenceNumber : BitVec 64
  sourceTimestamp : BitVec 64
  writerGuid : Bytes
  receivedTimestamp : Option (BitVec 64)

/-- What `take_response` reports: nothing taken; a popped reply it then failed on, with the
error message; or a response with its request header. -/
inductive TakeResult (Response : Type)
  | notTaken
  | failed (reply : ZenohReply) (msg : String)
  | taken (reply : ZenohReply) (response : Response) (header : ServiceInfo)

/-- The reply a `take_response` popped. -/
def TakeResult.popped? {Response : Type} : TakeResult Response → Option ZenohReply
  | .notTaken => none
  | .failed r _ => some r
  | .taken r _ _ => some r

section Take

variable {Response : Type} (deserialize : Bytes → Option Response)
  (attachementData : Bytes → ReplyAttachment)

/-- The part of `take_response` after the pop: the sample, the response, the header. -/
def readReply (r : ZenohReply) : TakeResult Response :=
  match r.reply with
  | .err _ => .failed r "invalid reply sample"
  | .ok sample =>
    match deserialize sample.payload with
    | none => .failed r "could not deserialize ROS response"
    | some response =>
      let a := attachementData sample.attachment
      if a.sequenceNumber.toInt < 0 then
        .failed r "Failed to get sequence_number from client call attachment"
      else if a.sourceTimestamp.toInt < 0 then
        .failed r "Failed to get source_timestamp from client call attachment"
      else .taken r response ⟨a.sequenceNumber, a.sourceTimestamp, a.sourceGid, r.receivedTimestamp⟩

/-- `ClientData::take_response`: nothing on a shut-down store or an empty queue; otherwise pop
the oldest reply and read it. -/
def takeResponse (s : ClientData) : TakeResult Response × ClientData :=
  if s.isShutdown then (.notTaken, s)
  else match s.replyQueue with
    | [] => (.notTaken, s)
    | r :: q => (readReply deserialize attachementData r, { s with replyQueue := q })

/-- The store after `take_response`: the queue loses its front unless the store is shut down. -/
@[simp] theorem takeResponse_snd (s : ClientData) :
    (takeResponse deserialize attachementData s).2 =
      { s with replyQueue := if s.isShutdown then s.replyQueue else s.replyQueue.tail } := by
  obtain ⟨qos, gid, queue, w, n, sh, k, t, cb⟩ := s
  cases sh <;> cases queue <;> rfl

/-- The reply `take_response` pops: the front one, unless the store is shut down. -/
theorem popped?_takeResponse (s : ClientData) :
    (takeResponse deserialize attachementData s).1.popped? =
      if s.isShutdown then none else s.replyQueue.head? := by
  unfold takeResponse readReply
  cases s.isShutdown
  · cases s.replyQueue with
    | nil => rfl
    | cons r q =>
      simp only [Bool.false_eq_true, if_false, List.head?_cons]
      split
      · rfl
      · split
        · rfl
        · split_ifs <;> rfl
  · rfl

end Take

/-! ## Requests -/

/-- What `send_request` meets outside the store: whether the node's context has its `impl`,
whether the allocator gave a buffer, the bytes the serializer wrote (`none` when it failed), the
clock reading stamped on the attachment, and what `z_get` returns (which is not checked). -/
structure SendEnv where
  contextImpl : Bool
  allocated : Bool
  serialized : Option Bytes
  now : BitVec 64
  zGetOk : Bool

/-- The query `send_request` hands to `z_get`. -/
structure IssuedQuery where
  attachment : Bytes
  payload : Bytes
  deriving DecidableEq

section Send

-- `hash_gid` and the serializer's length code, for the attachment.
variable (hashGid : Gid → Nat) (c : LengthCodec)

/-- `ClientData::send_request`: the return code, the value written to `*sequence_id` with the
query issued, if the call gets that far, and the store after the call. -/
def sendRequest (e : SendEnv) (s : ClientData) :
    RmwRet × Option (BitVec 64 × IssuedQuery) × ClientData :=
  if s.isShutdown then (.ok, none, s)
  else if !e.contextImpl then (.invalidArgument, none, s)
  else if !e.allocated then (.error (some "failed allocate request message bytes"), none, s)
  else match e.serialized with
    | none => (.error none, none, s)
    | some payload =>
      (.ok, some (s.sequenceNumber,
          ⟨createMapAndSetSequenceNum hashGid c s.sequenceNumber s.gid e.now, payload⟩),
        { s with sequenceNumber := s.sequenceNumber + 1 })

/-- `send_request` goes on to issue a query: the store is up, and the context, the buffer and the
serialization are there. -/
def SendEnv.Issues (e : SendEnv) (s : ClientData) : Prop :=
  s.isShutdown = false ∧ e.contextImpl = true ∧ e.allocated = true ∧ e.serialized.isSome

instance (e : SendEnv) (s : ClientData) : Decidable (e.Issues s) :=
  inferInstanceAs (Decidable (_ ∧ _))

/-- What `send_request` can do: a call that goes on to issue answers `RMW_RET_OK`, hands `z_get`
the store's number with the attachment built from it, and moves the number on; any other call
issues nothing and leaves the store alone. -/
theorem sendRequest_spec (e : SendEnv) (s : ClientData) :
    (e.Issues s ∧ ∃ payload, e.serialized = some payload ∧ sendRequest hashGid c e s =
      (.ok, some (s.sequenceNumber,
          ⟨createMapAndSetSequenceNum hashGid c s.sequenceNumber s.gid e.now, payload⟩),
        { s with sequenceNumber := s.sequenceNumber + 1 })) ∨
    (¬ e.Issues s ∧ (sendRequest hashGid c e s).2 = (none, s)) := by
  obtain ⟨ci, al, ser, now, z⟩ := e
  unfold sendRequest SendEnv.Issues
  cases ci <;> cases al <;> cases ser <;> by_cases h : s.isShutdown = true <;> simp [h]

/-- What `send_request` can do to the store and the queries: issue nothing and leave the store
alone, or issue a query that carries the store's sequence number in an attachment built from
that number and the store's gid, and move the number on. -/
theorem sendRequest_cases (e : SendEnv) (s : ClientData) :
    ((sendRequest hashGid c e s).2.1 = none ∧ (sendRequest hashGid c e s).2.2 = s) ∨
      ∃ payload, (sendRequest hashGid c e s).2.1 = some (s.sequenceNumber,
          ⟨createMapAndSetSequenceNum hashGid c s.sequenceNumber s.gid e.now, payload⟩) ∧
        (sendRequest hashGid c e s).2.2 = { s with sequenceNumber := s.sequenceNumber + 1 } := by
  rcases sendRequest_spec hashGid c e s with ⟨-, p, -, h⟩ | ⟨-, h⟩
  · exact .inr ⟨p, by simp [h]⟩
  · exact .inl ⟨congrArg Prod.fst h, congrArg Prod.snd h⟩

/-- **A failed `send_request` leaves no state behind.** A call that returns anything but
`RMW_RET_OK` (no context, no buffer, no serialization) issues no query and leaves the store as it
was. -/
theorem sendRequest_snd_of_fst_ne_ok (e : SendEnv) (s : ClientData)
    (h : (sendRequest hashGid c e s).1 ≠ .ok) : (sendRequest hashGid c e s).2 = (none, s) := by
  rcases sendRequest_spec hashGid c e s with ⟨-, p, -, h'⟩ | ⟨-, h'⟩
  · simp [h'] at h
  · exact h'

/-- **`send_request` does not read `z_get`'s result.** On a store that is up, once the context,
the buffer and the serialization are there, the call returns `RMW_RET_OK`, writes the next
number and consumes it, whatever `z_get` returns. -/
theorem sendRequest_ignores_zGet (e : SendEnv) (s : ClientData) (payload : Bytes)
    (hs : s.isShutdown = false) (hc : e.contextImpl = true) (ha : e.allocated = true)
    (hp : e.serialized = some payload) :
    sendRequest hashGid c e s = (.ok, some (s.sequenceNumber,
        ⟨createMapAndSetSequenceNum hashGid c s.sequenceNumber s.gid e.now, payload⟩),
      { s with sequenceNumber := s.sequenceNumber + 1 }) := by
  simp [sendRequest, hs, hc, ha, hp]

end Send

/-- A call on a new store whose `z_get` fails. -/
theorem sendRequest_ignores_zGet_failure :
    let s := ClientData.new ⟨.keepAll, 0⟩ ⟨List.replicate 16 0, rfl⟩
    let e : SendEnv := ⟨true, true, some [], 0, false⟩
    e.zGetOk = false ∧ sendRequest (fun _ => 0) leb128 e s = (.ok, some (s.sequenceNumber,
        ⟨createMapAndSetSequenceNum (fun _ => 0) leb128 s.sequenceNumber s.gid e.now, []⟩),
      { s with sequenceNumber := s.sequenceNumber + 1 }) :=
  ⟨rfl, sendRequest_ignores_zGet _ _ _ _ [] rfl rfl rfl rfl⟩

/-! ## Waiting -/

/-- `ClientData::queue_has_data_and_attach_condition_if_not`. -/
def queueHasDataAndAttachConditionIfNot (s : ClientData) : Bool × ClientData :=
  if s.replyQueue.isEmpty then (false, { s with waitSetAttached := true }) else (true, s)

/-- `ClientData::detach_condition_and_queue_is_empty`. -/
def detachConditionAndQueueIsEmpty (s : ClientData) : Bool × ClientData :=
  (s.replyQueue.isEmpty, { s with waitSetAttached := false })

/-- `queue_has_data_and_attach_condition_if_not` answers whether the queue has a reply. -/
@[simp] theorem queueHasDataAndAttachConditionIfNot_fst (s : ClientData) :
    s.queueHasDataAndAttachConditionIfNot.1 = !s.replyQueue.isEmpty := by
  unfold queueHasDataAndAttachConditionIfNot
  cases s.replyQueue.isEmpty <;> rfl

/-- The store after `queue_has_data_and_attach_condition_if_not`: attached if the queue was
empty, unchanged otherwise. -/
@[simp] theorem queueHasDataAndAttachConditionIfNot_snd (s : ClientData) :
    s.queueHasDataAndAttachConditionIfNot.2 =
      { s with waitSetAttached := s.waitSetAttached || s.replyQueue.isEmpty } := by
  unfold queueHasDataAndAttachConditionIfNot
  cases s.replyQueue.isEmpty <;> simp

@[simp] theorem detachConditionAndQueueIsEmpty_fst (s : ClientData) :
    s.detachConditionAndQueueIsEmpty.1 = s.replyQueue.isEmpty := rfl

@[simp] theorem detachConditionAndQueueIsEmpty_snd (s : ClientData) :
    s.detachConditionAndQueueIsEmpty.2 = { s with waitSetAttached := false } := rfl

/-! ## Teardown -/

/-- `ClientData::_shutdown`: nothing on a shut-down store; otherwise move the liveliness token
out and undeclare it (`undeclared` is whether zenoh reports success), and only on success mark
the store shut down. -/
def _shutdown (undeclared : Bool) (s : ClientData) : ClientData :=
  if s.isShutdown then s
  else if undeclared then { s with tokenHeld := false, isShutdown := true }
  else { s with tokenHeld := false }

/-- `_shutdown` touches the token and the flag only: it gives the token up unless already shut
down, and sets the flag when the undeclare succeeds. -/
@[simp] theorem _shutdown_eq (undeclared : Bool) (s : ClientData) :
    _shutdown undeclared s =
      { s with tokenHeld := s.isShutdown && s.tokenHeld, isShutdown := s.isShutdown || undeclared } := by
  obtain ⟨qos, gid, q, a, n, sh, k, t, cb⟩ := s
  cases sh <;> cases undeclared <;> rfl

/-- `ClientData::shutdown`. -/
def shutdown (undeclared : Bool) (s : ClientData) : RmwRet × ClientData :=
  (.ok, _shutdown undeclared s)

/-- `ClientData::shutdown_and_query_in_flight`. -/
def shutdownAndQueryInFlight (undeclared : Bool) (s : ClientData) : Bool × ClientData :=
  let s := _shutdown undeclared s
  (decide (0 < s.numInFlight), s)

@[simp] theorem shutdown_snd (undeclared : Bool) (s : ClientData) :
    (shutdown undeclared s).2 = _shutdown undeclared s := rfl

@[simp] theorem shutdownAndQueryInFlight_snd (undeclared : Bool) (s : ClientData) :
    (shutdownAndQueryInFlight undeclared s).2 = _shutdown undeclared s := rfl

@[simp] theorem shutdownAndQueryInFlight_fst (undeclared : Bool) (s : ClientData) :
    (shutdownAndQueryInFlight undeclared s).1 = decide (0 < s.numInFlight) := by
  simp [shutdownAndQueryInFlight]

/-- **`shutdown` reports success when the undeclare fails.** On a store that is up, a failed
undeclare of the liveliness token leaves the store up without its token, and `shutdown` still
answers `RMW_RET_OK`. -/
theorem shutdown_ok_when_undeclare_fails (s : ClientData) (hs : s.isShutdown = false) :
    (s.shutdown false).1 = .ok ∧ (s.shutdown false).2.isShutdown = false ∧
      (s.shutdown false).2 = { s with tokenHeld := false } := by
  simp [shutdown, hs]

/-- A new store whose token fails to undeclare. -/
theorem shutdown_ok_when_undeclare_fails_new :
    let s := ClientData.new ⟨.keepAll, 0⟩ ⟨List.replicate 16 0, rfl⟩
    s.isShutdown = false ∧ (s.shutdown false).1 = .ok ∧ (s.shutdown false).2.isShutdown = false ∧
      (s.shutdown false).2 = { s with tokenHeld := false } :=
  ⟨rfl, shutdown_ok_when_undeclare_fails _ rfl⟩

/-- **Teardown is idempotent.** Once the store is shut down, `shutdown` answers `RMW_RET_OK` and
`shutdown_and_query_in_flight` the in-flight test, both without reaching the token's `undeclare`
(whose outcome `u` they never read) and without changing the store. -/
theorem teardown_of_isShutdown (u : Bool) (s : ClientData) (hs : s.isShutdown = true) :
    s.shutdown u = (.ok, s) ∧ s.shutdownAndQueryInFlight u = (decide (0 < s.numInFlight), s) := by
  have h : _shutdown u s = s := by simp only [_shutdown, hs, if_true]
  simp only [shutdown, shutdownAndQueryInFlight, h, and_self]

/-- `ClientData::decrement_in_flight_and_conditionally_remove`: the Boolean is whether it calls
`delete_client_data`; `found` is whether the context and the node data were found. -/
def decrementInFlightAndConditionallyRemove (found : Bool) (s : ClientData) :
    ClientData × Bool :=
  let s := { s with numInFlight := s.numInFlight - 1 }
  (s, s.isShutdown && s.numInFlight == 0 && found)

@[simp] theorem decrementInFlightAndConditionallyRemove_fst (found : Bool) (s : ClientData) :
    (decrementInFlightAndConditionallyRemove found s).1 =
      { s with numInFlight := s.numInFlight - 1 } := rfl

@[simp] theorem decrementInFlightAndConditionallyRemove_snd (found : Bool) (s : ClientData) :
    (decrementInFlightAndConditionallyRemove found s).2 =
      (s.isShutdown && s.numInFlight - 1 == 0 && found) := rfl

end ClientData

end RmwZenoh
