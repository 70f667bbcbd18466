import RmwZenoh.Client.RmwClientData

/-!
# The two reply stores as drop-oldest queues

A run of `add_new_reply` calls and removals on either store moves its queue exactly as
`runQueue` does: `ClientData` removes through `take_response`, which refuses on a shut-down
store, and `rmw_client_data_t` through `pop_next_reply`. So both obey `ReplyQueueLaw`. A run of
`client_data_handler` calls is such a run, with the appends the handler makes.

* `ClientData.runReplyOps_eq`, `RmwClientData.runReplyOps_eq`: the stores refine `runQueue`;
* **`reply_queue_drop_oldest`**: both stores obey the drop-oldest law;
* `ClientData.handler_buffers_ok_replies_once`: `ClientData`'s handler buffers each accepted
  reply once;
* **`rmw_handler_buffers_ok_reply_twice`**: `rmw_client_data_t`'s handler buffers an accepted
  reply twice.
-/

namespace RmwZenoh

namespace ClientData

section Runs

variable {Response : Type} (deserialize : Bytes → Option Response)
  (attachementData : Bytes → ReplyAttachment)

/-- A sequence of `add_new_reply` and `take_response` calls: the store after them, and the
replies that left the queue, discarded by an append or popped by a take. -/
def runReplyOps : ClientData → List (QueueOp ZenohReply) → ClientData × List (Departure ZenohReply)
  | s, [] => (s, [])
  | s, .append r :: ops =>
    let rest := runReplyOps (s.addNewReply r).1 ops
    (rest.1, ((pushReply s.qos s.replyQueue r).2.map .evicted).toList ++ rest.2)
  | s, .remove :: ops =>
    let rest := runReplyOps (s.takeResponse deserialize attachementData).2 ops
    (rest.1, ((s.takeResponse deserialize attachementData).1.popped?.map .removed).toList ++ rest.2)

/-- `take_response` removes from the queue as `removeReply` does, refused once shut down. -/
theorem takeResponse_removeReply (s : ClientData) :
    ((s.takeResponse deserialize attachementData).1.popped?,
      (s.takeResponse deserialize attachementData).2.replyQueue) =
      removeReply (!s.isShutdown) s.replyQueue := by
  rw [popped?_takeResponse, takeResponse_snd]
  cases s.isShutdown <;> cases s.replyQueue <;> rfl

/-- **Refinement.** The queue of a `ClientData` moves as `runQueue` does, removals allowed while
the store is up. -/
theorem runReplyOps_eq (s : ClientData) (ops : List (QueueOp ZenohReply)) :
    ((runReplyOps deserialize attachementData s ops).1.replyQueue,
      (runReplyOps deserialize attachementData s ops).2) =
      runQueue s.qos (!s.isShutdown) s.replyQueue ops := by
  induction ops generalizing s with
  | nil => rfl
  | cons op ops ih =>
    cases op with
    | append r =>
      have h := ih (s.addNewReply r).1
      simp only [addNewReply] at h
      simp only [runReplyOps, runQueue, addNewReply, ← h]
    | remove =>
      have h := ih (s.takeResponse deserialize attachementData).2
      simp only [runReplyOps, runQueue, ← takeResponse_removeReply deserialize attachementData s]
      simp only [takeResponse_snd] at h ⊢
      rw [← h]

end Runs

end ClientData

namespace RmwClientData

/-- A sequence of `add_new_reply` and `pop_next_reply` calls: the store after them, and the
replies that left the queue. -/
def runReplyOps : RmwClientData → List (QueueOp ZenohReply) →
    RmwClientData × List (Departure ZenohReply)
  | s, [] => (s, [])
  | s, .append r :: ops =>
    let rest := runReplyOps (s.addNewReply r).1 ops
    (rest.1, ((pushReply s.qos s.replyQueue r).2.map .evicted).toList ++ rest.2)
  | s, .remove :: ops =>
    let rest := runReplyOps s.popNextReply.2 ops
    (rest.1, (s.popNextReply.1.map .removed).toList ++ rest.2)

/-- **Refinement.** The queue of an `rmw_client_data_t` moves as `runQueue` does. -/
theorem runReplyOps_eq (s : RmwClientData) (ops : List (QueueOp ZenohReply)) :
    ((runReplyOps s ops).1.replyQueue, (runReplyOps s ops).2) =
      runQueue s.qos true s.replyQueue ops := by
  induction ops generalizing s with
  | nil => rfl
  | cons op ops ih =>
    cases op with
    | append r =>
      have h := ih (s.addNewReply r).1
      simp only [addNewReply, addNewReplyPush] at h
      simp only [runReplyOps, runQueue, addNewReply, addNewReplyPush, ← h]
    | remove =>
      have h := ih s.popNextReply.2
      simp only [popNextReply] at h
      simp only [runReplyOps, runQueue, popNextReply, removeReply, if_true, ← h]

end RmwClientData

/-- **Drop-oldest reply queues.** Under a valid profile (`KEEP_ALL`, or a depth of at least
one), every run of appends and removals on either store, from an empty queue, obeys the
drop-oldest law: for `ClientData` while the store is up, since `take_response` on a shut-down
store removes nothing. -/
theorem reply_queue_drop_oldest {qos : QosProfile} (hv : qos.Valid) :
    (∀ {Response : Type} (deserialize : Bytes → Option Response)
      (attachementData : Bytes → ClientData.ReplyAttachment) (s : ClientData),
      s.qos = qos → s.replyQueue = [] → s.isShutdown = false →
      ReplyQueueLaw qos fun ops =>
        ((s.runReplyOps deserialize attachementData ops).1.replyQueue,
          (s.runReplyOps deserialize attachementData ops).2)) ∧
    (∀ s : RmwClientData, s.qos = qos → s.replyQueue = [] →
      ReplyQueueLaw qos fun ops => ((s.runReplyOps ops).1.replyQueue, (s.runReplyOps ops).2)) := by
  refine ⟨fun deserialize attachementData s hq he hs => ?_, fun s hq he => ?_⟩
  · have h := funext (ClientData.runReplyOps_eq deserialize attachementData s)
    rw [hq, he, hs, Bool.not_false] at h
    exact h ▸ runQueue_law hv
  · have h := funext (RmwClientData.runReplyOps_eq s)
    rw [hq, he] at h
    exact h ▸ runQueue_law hv

/-- At a depth of three replies. -/
theorem reply_queue_drop_oldest_depth_three :
    QosProfile.Valid ⟨.keepLast, 3⟩ ∧
      ((∀ {Response : Type} (deserialize : Bytes → Option Response)
        (attachementData : Bytes → ClientData.ReplyAttachment) (s : ClientData),
        s.qos = ⟨.keepLast, 3⟩ → s.replyQueue = [] → s.isShutdown = false →
        ReplyQueueLaw ⟨.keepLast, 3⟩ fun ops =>
          ((s.runReplyOps deserialize attachementData ops).1.replyQueue,
            (s.runReplyOps deserialize attachementData ops).2)) ∧
      (∀ s : RmwClientData, s.qos = ⟨.keepLast, 3⟩ → s.replyQueue = [] →
        ReplyQueueLaw ⟨.keepLast, 3⟩ fun ops =>
          ((s.runReplyOps ops).1.replyQueue, (s.runReplyOps ops).2))) :=
  ⟨by decide, reply_queue_drop_oldest (by decide)⟩

/-! ## Runs of the handlers -/

/-- A call on a reply store from outside: the transport delivers `r` to `client_data_handler`
with the clock reading `now`, or the application removes a reply. -/
inductive HandlerOp
  | deliver (r : ZReply) (now : BitVec 64)
  | remove

/-- The accepted (`z_reply_is_ok`) replies among the deliveries, in order. -/
def okReplies : List HandlerOp → List ZReply
  | [] => []
  | .deliver (.ok smp) _ :: ops => .ok smp :: okReplies ops
  | _ :: ops => okReplies ops

/-- The appends and removals `ClientData`'s handler makes for the calls, on a store that is up. -/
def toQueueOps : List HandlerOp → List (QueueOp ZenohReply)
  | [] => []
  | .deliver (.ok smp) now :: ops => .append ⟨.ok smp, some now⟩ :: toQueueOps ops
  | .deliver (.err _) _ :: ops => toQueueOps ops
  | .remove :: ops => .remove :: toQueueOps ops

theorem map_reply_appends_toQueueOps (ops : List HandlerOp) :
    (appends (toQueueOps ops)).map ZenohReply.reply = okReplies ops := by
  induction ops with
  | nil => rfl
  | cons op ops ih =>
    rcases op with ⟨_ | _, _⟩ | _ <;> simp [toQueueOps, okReplies, appends, ih]

namespace ClientData

variable {Response : Type} (deserialize : Bytes → Option Response)
  (attachementData : Bytes → ReplyAttachment)

/-- A sequence of `client_data_handler` and `take_response` calls, one after another: the store
after them and the replies that left the queue. -/
def runHandlerOps : ClientData → List HandlerOp → ClientData × List (Departure ZenohReply)
  | s, [] => (s, [])
  | s, .deliver r now :: ops =>
    let rest := runHandlerOps (s.clientDataHandler now r).1 ops
    (rest.1, (((s.handlerCheck r).bind fun r => (pushReply s.qos s.replyQueue ⟨r, some now⟩).2).map
      .evicted).toList ++ rest.2)
  | s, .remove :: ops =>
    let rest := runHandlerOps (s.takeResponse deserialize attachementData).2 ops
    (rest.1, ((s.takeResponse deserialize attachementData).1.popped?.map .removed).toList ++ rest.2)

/-- On a store that is up, the handler's run is the run of the appends it makes. -/
theorem runHandlerOps_eq (s : ClientData) (hs : s.isShutdown = false) (ops : List HandlerOp) :
    runHandlerOps deserialize attachementData s ops =
      runReplyOps deserialize attachementData s (toQueueOps ops) := by
  induction ops generalizing s with
  | nil => rfl
  | cons op ops ih =>
    rcases op with ⟨smp | p, now⟩ | _
    · simp only [runHandlerOps, toQueueOps, runReplyOps, clientDataHandler, handlerCheck, hs,
        Bool.false_eq_true, if_false, Option.some_bind]
      rw [ih (s.addNewReply ⟨.ok smp, some now⟩).1 hs]
    · simp only [runHandlerOps, toQueueOps, clientDataHandler, handlerCheck, hs,
        Bool.false_eq_true, if_false, Option.none_bind, Option.map_none', Option.toList_none,
        List.nil_append]
      exact ih s hs
    · simp only [runHandlerOps, toQueueOps, runReplyOps]
      rw [ih _ (by simpa using hs)]

/-- **`ClientData` buffers each accepted reply once.** From an empty `KEEP_ALL` queue on a store
that is up, the replies removed, followed by those still queued, are the accepted replies
delivered, in delivery order; nothing is discarded, and an error reply is never queued. -/
theorem handler_buffers_ok_replies_once (s : ClientData) (hs : s.isShutdown = false)
    (hk : s.qos.history = .keepAll) (hq : s.replyQueue = []) (ops : List HandlerOp) :
    ((runHandlerOps deserialize attachementData s ops).2.map Departure.reply ++
        (runHandlerOps deserialize attachementData s ops).1.replyQueue).map ZenohReply.reply =
      okReplies ops ∧
    (runHandlerOps deserialize attachementData s ops).2.filterMap Departure.removed? =
      (runHandlerOps deserialize attachementData s ops).2.map Departure.reply := by
  have h := runReplyOps_eq deserialize attachementData s (toQueueOps ops)
  rw [hs, hq, Bool.not_false] at h
  obtain ⟨h1, h2⟩ := Prod.ext_iff.mp h
  dsimp only at h1 h2
  rw [runHandlerOps_eq deserialize attachementData s hs, h1, h2]
  refine ⟨?_, no_evictions hk _ _⟩
  have hc := runQueue_conserve s.qos true [] (toQueueOps ops)
  rw [List.nil_append] at hc
  rw [hc, map_reply_appends_toQueueOps]
where
  /-- Under `KEEP_ALL` every reply that leaves the queue was removed. -/
  no_evictions {qos : QosProfile} (hk : qos.history = .keepAll) (q : List ZenohReply)
      (ops : List (QueueOp ZenohReply)) :
      (runQueue qos true q ops).2.filterMap Departure.removed? =
        (runQueue qos true q ops).2.map Departure.reply := by
    induction ops generalizing q with
    | nil => rfl
    | cons op ops ih =>
      cases op with
      | append r => simp [runQueue, pushReply, hk, ih]
      | remove => cases q <;> simp [runQueue, removeReply, popReply, Departure.removed?,
          Departure.reply, ih]

end ClientData

/-- **`rmw_client_data_t` buffers an accepted reply twice.** After one accepted reply is
delivered to a new `KEEP_ALL` store, two `pop_next_reply` calls both return it. -/
theorem rmw_handler_buffers_ok_reply_twice (smp : Sample) (now : BitVec 64) :
    let s := ((RmwClientData.new ⟨.keepAll, 0⟩).clientDataHandler now (.ok smp)).1
    s.popNextReply.1.map ZenohReply.reply = some (.ok smp) ∧
      s.popNextReply.2.popNextReply.1.map ZenohReply.reply = some (.ok smp) ∧
      s.popNextReply.2.popNextReply.2.replyQueue = [] :=
  ⟨rfl, rfl, rfl⟩

end RmwZenoh
