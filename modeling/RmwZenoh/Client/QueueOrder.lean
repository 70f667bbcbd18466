import RmwZenoh.Client.ClientSystem
import RmwZenoh.Client.RmwClientSystem
import RmwZenoh.Client.ReplyStores

/-!
# Reply order across interleavings

Every append goes to the back of a store's reply queue, and the queue only ever loses its front
reply, to an eviction or a removal, whatever the handlers, the waiter, the application and the
owner do in between. So the queue is always a suffix of the replies appended so far, and a
removal hands out the oldest reply still queued.

* `ClientWorld.QueueInv`, `RmwClientWorld.QueueInv`: the queue is a suffix of the appended
  replies, the new-data callback has fired once per append, a bounded queue holds at most
  `max depth 1` replies, and only accepted replies get past the handler's check;
* `Handing`: a run that records, in order, the replies each `take_response` or
  `pop_next_reply` hands out; `exists_handing` and `Handing.reflTransGen` tie it to the runs of
  `Step`, and `Handing.sublist` says the replies handed out, followed by the queue, are a sublist
  of the appended ones;
* **`ClientWorld.replies_handed_out_in_append_order`**,
  **`RmwClientWorld.rmw_replies_handed_out_in_append_order`**: for every run of a new store.
-/

namespace RmwZenoh

namespace ClientWorld

variable {K : Collaborators}

/-- What every run keeps of a `ClientData`'s reply queue: it is a suffix of the replies appended,
each append triggered the callback once, a bounded queue holds at most `max depth 1` replies,
and only accepted replies, stamped with their reception time, are past the check or appended. -/
structure QueueInv (w : ClientWorld) : Prop where
  suffix : w.store.replyQueue <:+ w.appended
  triggers : w.store.callbacksTriggered = w.appended.length
  bounded : w.store.qos.history ≠ .keepAll → w.store.replyQueue.length ≤ max w.store.qos.depth 1
  handling_ok : ∀ q ∈ w.queries, ∀ h ∈ q.handling, h.isOk = true
  appended_ok : ∀ r ∈ w.appended, r.reply.isOk = true ∧ r.receivedTimestamp.isSome = true

theorem queueInv_init (qos : QosProfile) (gid : Gid) : QueueInv (init qos gid) :=
  ⟨List.nil_suffix, rfl, fun _ => Nat.zero_le _, nofun, nofun⟩

/-- A step that leaves the queue, the callback count, the profile, the appended replies and the
handlers past their check alone keeps the invariant. -/
theorem QueueInv.frame {w w' : ClientWorld} (h : QueueInv w)
    (hq : w'.store.replyQueue = w.store.replyQueue)
    (hc : w'.store.callbacksTriggered = w.store.callbacksTriggered)
    (hp : w'.store.qos = w.store.qos) (ha : w'.appended = w.appended)
    (hh : ∀ q ∈ w'.queries, ∀ h ∈ q.handling, h.isOk = true) : QueueInv w' :=
  ⟨hq ▸ ha ▸ h.suffix, hc ▸ ha ▸ h.triggers, hq ▸ hp ▸ h.bounded, hh, ha ▸ h.appended_ok⟩

theorem Step.queueInv {w w' : ClientWorld} (hs : Step K w w') (h : QueueInv w) : QueueInv w' := by
  have hh := h.handling_ok
  cases hs with
  | sendRequest e replies _ =>
    rcases ClientData.sendRequest_cases K.hashGid K.codec e w.store with ⟨h1, h2⟩ | ⟨p, h1, h2⟩ <;>
      refine h.frame (by rw [h2]) (by rw [h2]) (by rw [h2]) rfl ?_ <;>
      simp only [List.forall_mem_append] <;> exact ⟨hh, by simp [h1]⟩
  | handlerCheck pre post r rs hs hq =>
    refine h.frame rfl rfl rfl rfl ?_
    simp only [hq, List.forall_mem_append, List.forall_mem_cons] at hh ⊢
    exact ⟨hh.1, ⟨fun x hx => ClientData.isOk_of_mem_handlerCheck hx, hh.2.1⟩, hh.2.2⟩
  | handlerAppend pre post rs hs₁ hs₂ r now hq =>
    simp only [hq, List.forall_mem_append, List.forall_mem_cons] at hh
    refine ⟨?_, ?_, ?_, ?_, ?_⟩
    · exact pushReply_fst_suffix _ _ h.suffix
    · simp [h.triggers]
    · exact length_pushReply_le_max _ h.bounded
    · simp only [List.forall_mem_append, List.forall_mem_cons]
      exact ⟨hh.1, ⟨hh.2.1.1, hh.2.1.2.2⟩, hh.2.2⟩
    · simp only [List.mem_append, List.mem_singleton]
      rintro x (hx | rfl)
      · exact h.appended_ok x hx
      · exact ⟨hh.2.1.2.1, rfl⟩
  | drop pre post found hq =>
    refine h.frame rfl rfl rfl rfl ?_
    simp only [hq, List.forall_mem_append, List.forall_mem_cons] at hh ⊢
    exact ⟨hh.1, hh.2.2⟩
  | takeResponse _ =>
    cases hsd : w.store.isShutdown
    · refine ⟨?_, by simpa using h.triggers, fun hk => ?_, hh, h.appended_ok⟩
      · simpa [hsd] using (List.tail_suffix _).trans h.suffix
      · have := h.bounded (by simpa using hk)
        simp only [ClientData.takeResponse_snd, hsd, Bool.false_eq_true, if_false,
          List.length_tail]
        omega
    · exact h.frame (by simp [hsd]) (by simp) (by simp) rfl hh
  | _ => exact h.frame (by simp) (by simp) (by simp) rfl hh

theorem Reachable.queueInv {w : ClientWorld} (hw : Reachable K w) : QueueInv w := by
  obtain ⟨qos, gid, h⟩ := hw
  induction h with
  | refl => exact queueInv_init qos gid
  | tail _ hs ih => exact hs.queueInv ih

/-! ### What `take_response` hands out -/

/-- Each step keeps the queue and the appended replies, appends one reply through `pushReply`,
or is a `take_response`. -/
theorem Step.queue_cases {w w' : ClientWorld} (hs : Step K w w') :
    (w'.store.replyQueue = w.store.replyQueue ∧ w'.appended = w.appended) ∨
      (∃ r, w'.store.replyQueue = (pushReply w.store.qos w.store.replyQueue r).1 ∧
        w'.appended = w.appended ++ [r]) ∨
      (w.shutdownAnswer = none ∧
        w' = { w with store := (w.store.takeResponse K.deserialize K.attachementData).2 }) := by
  cases hs with
  | sendRequest e replies _ =>
    left
    rcases ClientData.sendRequest_cases K.hashGid K.codec e w.store with ⟨-, h2⟩ | ⟨-, -, h2⟩ <;>
      simp [h2]
  | handlerAppend pre post rs hs₁ hs₂ r now _ => exact .inr (.inl ⟨_, rfl, rfl⟩)
  | takeResponse h => exact .inr (.inr ⟨h, rfl⟩)
  | _ => left; simp

/-- No step changes the store's profile. -/
theorem Step.store_qos {w w' : ClientWorld} (hs : Step K w w') : w'.store.qos = w.store.qos := by
  cases hs with
  | sendRequest e replies _ =>
    rcases ClientData.sendRequest_cases K.hashGid K.codec e w.store with ⟨-, h2⟩ | ⟨-, -, h2⟩ <;>
      rw [h2]
  | _ => simp

/-- A run of the client's world that records, in order, the replies `take_response` hands out:
a take adds the reply it popped, and every other step keeps the queue at least as long. -/
inductive Handing (K : Collaborators) (w₀ : ClientWorld) : List ZenohReply → ClientWorld → Prop
  | refl : Handing K w₀ [] w₀
  | take {out : List ZenohReply} {w : ClientWorld} : Handing K w₀ out w →
      w.shutdownAnswer = none →
      Handing K w₀ (out ++ (w.store.takeResponse K.deserialize K.attachementData).1.popped?.toList)
        { w with store := (w.store.takeResponse K.deserialize K.attachementData).2 }
  | step {out : List ZenohReply} {w w' : ClientWorld} : Handing K w₀ out w → Step K w w' →
      w.store.replyQueue.length ≤ w'.store.replyQueue.length → Handing K w₀ out w'

theorem Handing.reflTransGen {w₀ w : ClientWorld} {out : List ZenohReply}
    (h : Handing K w₀ out w) : Relation.ReflTransGen (Step K) w₀ w := by
  induction h with
  | refl => exact .refl
  | take _ hn ih => exact ih.tail (.takeResponse _ hn)
  | step _ hs _ ih => exact ih.tail hs

/-- Every run records what its takes hand out. -/
theorem exists_handing {w₀ w : ClientWorld} (h : Relation.ReflTransGen (Step K) w₀ w) :
    ∃ out, Handing K w₀ out w := by
  induction h with
  | refl => exact ⟨[], .refl⟩
  | tail _ hs ih =>
    obtain ⟨out, ho⟩ := ih
    rcases hs.queue_cases with ⟨hq, -⟩ | ⟨r, hq, -⟩ | ⟨hn, rfl⟩
    · exact ⟨out, ho.step hs (by rw [hq])⟩
    · exact ⟨out, ho.step hs (by rw [hq]; exact length_le_length_pushReply _ _ _)⟩
    · exact ⟨_, ho.take hn⟩

/-- Along a run, the replies handed out followed by those still queued are a sublist of the
replies appended: a take hands out the front of the queue, and an append may discard it. -/
theorem Handing.sublist {w₀ w : ClientWorld} {out : List ZenohReply} (h : Handing K w₀ out w)
    (h₀ : List.Sublist w₀.store.replyQueue w₀.appended) :
    List.Sublist (out ++ w.store.replyQueue) w.appended := by
  induction h with
  | refl => simpa using h₀
  | @take out w _ _ ih =>
    have hc := removeReply_conserve (!w.store.isShutdown) w.store.replyQueue
    rw [← ClientData.takeResponse_removeReply K.deserialize K.attachementData] at hc
    simpa only [List.append_assoc, hc] using ih
  | @step out w w' _ hs hl ih =>
    rcases hs.queue_cases with ⟨hq, ha⟩ | ⟨r, hq, ha⟩ | ⟨-, rfl⟩
    · rwa [hq, ha]
    · rw [hq, ha]
      exact sublist_append_pushReply _ r ih
    · -- a take that keeps the queue as long found nothing to pop
      have hr := ClientData.takeResponse_removeReply K.deserialize K.attachementData w.store
      rw [removeReply_of_length_le (by rw [← hr]; exact hl)] at hr
      have hq : (w.store.takeResponse K.deserialize K.attachementData).2.replyQueue =
          w.store.replyQueue := congrArg Prod.snd hr
      simpa only [hq] using ih

theorem store_qos_of_reflTransGen {w₀ w : ClientWorld} (h : Relation.ReflTransGen (Step K) w₀ w) :
    w.store.qos = w₀.store.qos := by
  induction h with
  | refl => rfl
  | tail _ hs ih => rw [hs.store_qos, ih]

/-- **`take_response` hands replies out in the order they were appended.** Every run of a new
store's world records what its takes pop, and along every such run the replies handed out,
followed by those still queued, are a sublist of the replies appended: nothing is reordered,
handed out twice or invented, and every reply handed out was appended before every reply still
queued. The queue itself is the newest appended replies; the new-data callback has been
triggered once per append; a bounded queue of a valid profile holds at most `depth` replies;
and every appended reply is an accepted one, stamped with the time it was received. -/
theorem replies_handed_out_in_append_order {qos : QosProfile} (hv : qos.Valid) (gid : Gid) :
    (∀ w, Relation.ReflTransGen (Step K) (init qos gid) w →
        ∃ out, Handing K (init qos gid) out w) ∧
      ∀ out w, Handing K (init qos gid) out w →
        List.Sublist (out ++ w.store.replyQueue) w.appended ∧
        w.store.replyQueue <:+ w.appended ∧ w.store.callbacksTriggered = w.appended.length ∧
        (qos.history ≠ .keepAll → w.store.replyQueue.length ≤ qos.depth) ∧
        ∀ r ∈ w.appended, r.reply.isOk = true ∧ r.receivedTimestamp.isSome = true := by
  refine ⟨fun w h => exists_handing h, fun out w h => ?_⟩
  have hr := h.reflTransGen
  have hi : QueueInv w := Reachable.queueInv ⟨qos, gid, hr⟩
  have hq : w.store.qos = qos := store_qos_of_reflTransGen hr
  refine ⟨h.sublist List.Sublist.slnil, hi.suffix, hi.triggers, fun hk => ?_, hi.appended_ok⟩
  have hb := hi.bounded (hq ▸ hk)
  rw [hq] at hb
  have := hv.resolve_left hk
  omega

/-- Two accepted replies appended to a `KEEP_ALL` store, then one `take_response`: it hands out
the first, and the second stays queued. -/
theorem replies_handed_out_in_append_order_two_replies :
    let K₀ : Collaborators := ⟨fun _ => 0, leb128, Unit, fun _ => none, fun _ => ⟨0, 0, []⟩⟩
    let qos : QosProfile := ⟨.keepAll, 0⟩
    let gid : Gid := ⟨List.replicate 16 0, rfl⟩
    qos.Valid ∧ ∃ out w, Handing K₀ (init qos gid) out w ∧
      out = [⟨.ok ⟨[1], []⟩, some 0⟩] ∧ w.store.replyQueue = [⟨.ok ⟨[2], []⟩, some 0⟩] ∧
      (List.Sublist (out ++ w.store.replyQueue) w.appended ∧
        w.store.replyQueue <:+ w.appended ∧ w.store.callbacksTriggered = w.appended.length ∧
        (qos.history ≠ .keepAll → w.store.replyQueue.length ≤ qos.depth) ∧
        ∀ r ∈ w.appended, r.reply.isOk = true ∧ r.receivedTimestamp.isSome = true) := by
  intro K₀ qos gid
  have hv : qos.Valid := .inl rfl
  have h : Handing K₀ (init qos gid) _ _ :=
    (((((Handing.refl.step (Step.sendRequest (init qos gid) ⟨true, true, some [], 0, true⟩
      [.ok ⟨[1], []⟩, .ok ⟨[2], []⟩] rfl) le_rfl).step
      (Step.handlerCheck _ [] [] _ _ [] rfl) le_rfl).step
      (Step.handlerAppend _ [] [] _ [] [] _ 0 rfl) (by decide)).step
      (Step.handlerCheck _ [] [] _ _ [] rfl) le_rfl).step
      (Step.handlerAppend _ [] [] _ [] [] _ 0 rfl) (by decide)).take rfl
  exact ⟨hv, _, _, h, rfl, rfl, (replies_handed_out_in_append_order hv gid).2 _ _ h⟩

end ClientWorld

namespace RmwClientWorld

/-- What every run keeps of an `rmw_client_data_t`'s reply queue: it is a suffix of the replies
appended, each append triggered the callback once, a bounded queue holds at most `max depth 1`
replies, and only accepted replies are past the check or appended. -/
structure QueueInv (w : RmwClientWorld) : Prop where
  suffix : w.store.replyQueue <:+ w.appended
  triggers : w.store.callbacksTriggered = w.appended.length
  bounded : w.store.qos.history ≠ .keepAll → w.store.replyQueue.length ≤ max w.store.qos.depth 1
  handling_ok : ∀ q ∈ w.queries, ∀ h ∈ q.handling, h.reply.isOk = true
  appended_ok : ∀ r ∈ w.appended, r.reply.isOk = true

theorem queueInv_init (qos : QosProfile) : QueueInv (init qos) :=
  ⟨List.nil_suffix, rfl, fun _ => Nat.zero_le _, nofun, nofun⟩

theorem QueueInv.frame {w w' : RmwClientWorld} (h : QueueInv w)
    (hq : w'.store.replyQueue = w.store.replyQueue)
    (hc : w'.store.callbacksTriggered = w.store.callbacksTriggered)
    (hp : w'.store.qos = w.store.qos) (ha : w'.appended = w.appended)
    (hh : ∀ q ∈ w'.queries, ∀ h ∈ q.handling, h.reply.isOk = true) : QueueInv w' :=
  ⟨hq ▸ ha ▸ h.suffix, hc ▸ ha ▸ h.triggers, hq ▸ hp ▸ h.bounded, hh, ha ▸ h.appended_ok⟩

/-- A handler's push appends its reply at the back and triggers the callback. -/
theorem QueueInv.push {w : RmwClientWorld} (h : QueueInv w) {r : ZenohReply}
    (hr : r.reply.isOk = true) {qs : List RmwQuery}
    (hh : ∀ q ∈ qs, ∀ h ∈ q.handling, h.reply.isOk = true) :
    QueueInv { w with
      store := w.store.addNewReplyPush r
      queries := qs
      appended := w.appended ++ [r] } := by
  refine ⟨pushReply_fst_suffix _ _ h.suffix, ?_, length_pushReply_le_max _ h.bounded, hh, ?_⟩
  · simp [RmwClientData.addNewReplyPush, h.triggers]
  · simp only [List.mem_append, List.mem_singleton]
    rintro x (hx | rfl)
    · exact h.appended_ok x hx
    · exact hr

theorem Step.queueInv {w w' : RmwClientWorld} (hs : Step w w') (h : QueueInv w) : QueueInv w' := by
  have hh := h.handling_ok
  cases hs with
  | issue replies _ =>
    refine h.frame rfl rfl rfl rfl ?_
    simp only [List.forall_mem_append]
    exact ⟨hh, by simp⟩
  | handlerCheck pre post r rs hs hq =>
    refine h.frame rfl rfl rfl rfl ?_
    simp only [hq, List.forall_mem_append, List.forall_mem_cons] at hh ⊢
    refine ⟨hh.1, ⟨fun x hx => ?_, hh.2.1⟩, hh.2.2⟩
    obtain ⟨r', hr', rfl⟩ : ∃ r', r' ∈ (w.store.handlerCheck r).toList ∧ ⟨r', .push₁⟩ = x := by
      simpa using hx
    exact RmwClientData.isOk_of_mem_handlerCheck hr'
  | pushFirst pre post rs hs₁ hs₂ r hq _ | pushSecond pre post rs hs₁ hs₂ r _ hq _ =>
    simp only [hq, List.forall_mem_append, List.forall_mem_cons] at hh
    refine h.push hh.2.1.2.1 ?_
    simp only [List.forall_mem_append, List.forall_mem_cons]
    exact ⟨hh.1, ⟨hh.2.1.1, hh.2.1.2.1, hh.2.1.2.2⟩, hh.2.2⟩
  | notifyFirst pre post rs hs₁ hs₂ r hq =>
    refine h.frame rfl rfl rfl rfl ?_
    simp only [hq, List.forall_mem_append, List.forall_mem_cons] at hh ⊢
    exact hh
  | notifySecond pre post rs hs₁ hs₂ r hq =>
    refine h.frame rfl rfl rfl rfl ?_
    simp only [hq, List.forall_mem_append, List.forall_mem_cons] at hh ⊢
    exact ⟨hh.1, ⟨hh.2.1.1, hh.2.1.2.2⟩, hh.2.2⟩
  | drop pre post hq =>
    refine h.frame rfl rfl rfl rfl ?_
    simp only [hq, List.forall_mem_append, List.forall_mem_cons] at hh ⊢
    exact ⟨hh.1, hh.2.2⟩
  | popNextReply _ _ =>
    refine ⟨?_, h.triggers, fun hk => ?_, hh, h.appended_ok⟩
    · simpa using (List.tail_suffix _).trans h.suffix
    · have := h.bounded hk
      simp only [RmwClientData.popNextReply_snd, List.length_tail]
      omega
  | _ => exact h.frame (by simp) (by simp) (by simp) rfl hh

theorem Reachable.queueInv {w : RmwClientWorld} (hw : Reachable w) : QueueInv w := by
  obtain ⟨qos, h⟩ := hw
  induction h with
  | refl => exact queueInv_init qos
  | tail _ hs ih => exact hs.queueInv ih

/-! ### What `pop_next_reply` hands out -/

/-- Each step keeps the queue and the appended replies, appends one reply through `pushReply`,
or is a `pop_next_reply`. -/
theorem Step.queue_cases {w w' : RmwClientWorld} (hs : Step w w') :
    (w'.store.replyQueue = w.store.replyQueue ∧ w'.appended = w.appended) ∨
      (∃ r, w'.store.replyQueue = (pushReply w.store.qos w.store.replyQueue r).1 ∧
        w'.appended = w.appended ++ [r]) ∨
      (w.shutdownAnswer = none ∧ w.queueLocked = false ∧
        w' = { w with store := w.store.popNextReply.2 }) := by
  cases hs with
  | pushFirst pre post rs hs₁ hs₂ r _ _ | pushSecond pre post rs hs₁ hs₂ r _ _ _ =>
    exact .inr (.inl ⟨_, rfl, rfl⟩)
  | popNextReply h hl => exact .inr (.inr ⟨h, hl, rfl⟩)
  | _ => left; simp [RmwClientData.incrementInFlightCallbacks]

/-- No step changes the store's profile. -/
theorem Step.store_qos {w w' : RmwClientWorld} (hs : Step w w') : w'.store.qos = w.store.qos := by
  cases hs <;> simp [RmwClientData.addNewReplyPush, RmwClientData.incrementInFlightCallbacks]

/-- A run of the world of an `rmw_client_data_t` that records, in order, the replies
`pop_next_reply` hands out: a pop adds the reply it took, and every other step keeps the queue
at least as long. -/
inductive Handing (w₀ : RmwClientWorld) : List ZenohReply → RmwClientWorld → Prop
  | refl : Handing w₀ [] w₀
  | take {out : List ZenohReply} {w : RmwClientWorld} : Handing w₀ out w →
      w.shutdownAnswer = none → w.queueLocked = false →
      Handing w₀ (out ++ w.store.popNextReply.1.toList) { w with store := w.store.popNextReply.2 }
  | step {out : List ZenohReply} {w w' : RmwClientWorld} : Handing w₀ out w → Step w w' →
      w.store.replyQueue.length ≤ w'.store.replyQueue.length → Handing w₀ out w'

theorem Handing.reflTransGen {w₀ w : RmwClientWorld} {out : List ZenohReply}
    (h : Handing w₀ out w) : Relation.ReflTransGen Step w₀ w := by
  induction h with
  | refl => exact .refl
  | take _ hn hl ih => exact ih.tail (.popNextReply _ hn hl)
  | step _ hs _ ih => exact ih.tail hs

/-- Every run records what its pops hand out. -/
theorem exists_handing {w₀ w : RmwClientWorld} (h : Relation.ReflTransGen Step w₀ w) :
    ∃ out, Handing w₀ out w := by
  induction h with
  | refl => exact ⟨[], .refl⟩
  | tail _ hs ih =>
    obtain ⟨out, ho⟩ := ih
    rcases hs.queue_cases with ⟨hq, -⟩ | ⟨r, hq, -⟩ | ⟨hn, hl, rfl⟩
    · exact ⟨out, ho.step hs (by rw [hq])⟩
    · exact ⟨out, ho.step hs (by rw [hq]; exact length_le_length_pushReply _ _ _)⟩
    · exact ⟨_, ho.take hn hl⟩

/-- Along a run, the replies handed out followed by those still queued are a sublist of the
replies appended. -/
theorem Handing.sublist {w₀ w : RmwClientWorld} {out : List ZenohReply} (h : Handing w₀ out w)
    (h₀ : List.Sublist w₀.store.replyQueue w₀.appended) :
    List.Sublist (out ++ w.store.replyQueue) w.appended := by
  induction h with
  | refl => simpa using h₀
  | @take out w _ _ _ ih =>
    have hc : (popReply w.store.replyQueue).1.toList ++ (popReply w.store.replyQueue).2 =
        w.store.replyQueue := removeReply_conserve true _
    simpa only [List.append_assoc, RmwClientData.popNextReply, hc] using ih
  | @step out w w' _ hs hl ih =>
    rcases hs.queue_cases with ⟨hq, ha⟩ | ⟨r, hq, ha⟩ | ⟨-, -, rfl⟩
    · rwa [hq, ha]
    · rw [hq, ha]
      exact sublist_append_pushReply _ r ih
    · -- a pop that keeps the queue as long found nothing to pop
      have hr : popReply w.store.replyQueue = (none, w.store.replyQueue) :=
        popReply_of_length_le hl
      simpa only [RmwClientData.popNextReply, hr] using ih

theorem store_qos_of_reflTransGen {w₀ w : RmwClientWorld} (h : Relation.ReflTransGen Step w₀ w) :
    w.store.qos = w₀.store.qos := by
  induction h with
  | refl => rfl
  | tail _ hs ih => rw [hs.store_qos, ih]

/-- **`pop_next_reply` hands replies out in the order they were appended.** Every run of a new
store's world records what its pops take, and along every such run the replies handed out,
followed by those still queued, are a sublist of the replies appended: nothing is reordered,
handed out more often than it was appended, or invented. The queue itself is the newest
appended replies; the new-data callback has been triggered once per append; a bounded queue of
a valid profile holds at most `depth` replies; and every appended reply is an accepted one. -/
theorem rmw_replies_handed_out_in_append_order {qos : QosProfile} (hv : qos.Valid) :
    (∀ w, Relation.ReflTransGen Step (init qos) w → ∃ out, Handing (init qos) out w) ∧
      ∀ out w, Handing (init qos) out w →
        List.Sublist (out ++ w.store.replyQueue) w.appended ∧
        w.store.replyQueue <:+ w.appended ∧ w.store.callbacksTriggered = w.appended.length ∧
        (qos.history ≠ .keepAll → w.store.replyQueue.length ≤ qos.depth) ∧
        ∀ r ∈ w.appended, r.reply.isOk = true := by
  refine ⟨fun w h => exists_handing h, fun out w h => ?_⟩
  have hr := h.reflTransGen
  have hi : QueueInv w := Reachable.queueInv ⟨qos, hr⟩
  have hq : w.store.qos = qos := store_qos_of_reflTransGen hr
  refine ⟨h.sublist List.Sublist.slnil, hi.suffix, hi.triggers, fun hk => ?_, hi.appended_ok⟩
  have hb := hi.bounded (hq ▸ hk)
  rw [hq] at hb
  have := hv.resolve_left hk
  omega

/-- One accepted reply delivered to a `KEEP_ALL` store, whose handler appends it twice, then one
`pop_next_reply`: it hands out the clone without a timestamp, and the stamped copy stays. -/
theorem rmw_replies_handed_out_in_append_order_one_reply :
    let qos : QosProfile := ⟨.keepAll, 0⟩
    qos.Valid ∧ ∃ out w, Handing (init qos) out w ∧
      out = [⟨.ok ⟨[1], []⟩, none⟩] ∧ w.store.replyQueue = [⟨.ok ⟨[1], []⟩, some 0⟩] ∧
      (List.Sublist (out ++ w.store.replyQueue) w.appended ∧
        w.store.replyQueue <:+ w.appended ∧ w.store.callbacksTriggered = w.appended.length ∧
        (qos.history ≠ .keepAll → w.store.replyQueue.length ≤ qos.depth) ∧
        ∀ r ∈ w.appended, r.reply.isOk = true) := by
  intro qos
  have hv : qos.Valid := .inl rfl
  have h : Handing (init qos) _ _ :=
    ((((((Handing.refl.step (Step.issue (init qos) [.ok ⟨[1], []⟩] rfl) le_rfl).step
      (Step.handlerCheck _ [] [] _ [] [] rfl) le_rfl).step
      (Step.pushFirst _ [] [] [] [] [] _ rfl rfl) (by decide)).step
      (Step.notifyFirst _ [] [] [] [] [] _ rfl) le_rfl).step
      (Step.pushSecond _ [] [] [] [] [] _ 0 rfl rfl) (by decide)).step
      (Step.notifySecond _ [] [] [] [] [] _ rfl) le_rfl).take rfl rfl
  exact ⟨hv, _, _, h, rfl, rfl, (rmw_replies_handed_out_in_append_order hv).2 _ _ h⟩

end RmwClientWorld

end RmwZenoh
