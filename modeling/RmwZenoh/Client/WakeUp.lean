import RmwZenoh.Client.ClientSystem
import RmwZenoh.Client.RmwClientSystem

/-!
# No lost wake-up

A waiter calls `queue_has_data_and_attach_condition_if_not`; on `false` the wait set is
attached and the waiter sleeps until `triggered`, then calls
`detach_condition_and_queue_is_empty`. No reply may arrive unseen in between. `ClientData`
appends and notifies under its one mutex. `rmw_client_data_t` appends under
`reply_queue_mutex_` and notifies under `condition_mutex_` while still holding the first; its
attach reads the queue under `condition_mutex_` alone, a read `Step` takes as atomic.

* `ClientWorld.WakeInv`, `RmwClientWorld.WakeInv`: an attached wait set whose store has a reply
  queued is triggered, or (`rmw_client_data_t`) a handler is between its push and its notify;
* `RmwClientWorld.LockInv`: a handler between its push and its notify leaves the queue non-empty;
* `notified_while_attached`: along a run that keeps the wait set attached, each append is
  matched by a notification of the wait set, or its handler has not notified yet;
* **`wait_set_no_lost_wake_up`**: both facts, for both stores.
-/

namespace RmwZenoh

namespace ClientWorld

variable (K : Collaborators)

/-- A step of any thread that leaves the wait set attached: every step but the waiter's
detach. -/
def AttachedStep (w w' : ClientWorld) : Prop := Step K w w' ∧ w'.store.waitSetAttached = true

variable {K}

/-- An attached wait set whose store has a reply queued is triggered. -/
def WakeInv (w : ClientWorld) : Prop :=
  w.store.waitSetAttached = true → w.store.replyQueue ≠ [] → w.triggered = true

theorem WakeInv.frame {w w' : ClientWorld} (h : WakeInv w)
    (ha : w'.store.waitSetAttached = w.store.waitSetAttached)
    (hq : w'.store.replyQueue = w.store.replyQueue) (ht : w'.triggered = w.triggered) :
    WakeInv w' := by
  rw [WakeInv, ha, hq, ht]
  exact h

theorem Step.wakeInv {w w' : ClientWorld} (hs : Step K w w') (h : WakeInv w) : WakeInv w' := by
  cases hs with
  | sendRequest e replies _ =>
    rcases ClientData.sendRequest_cases K.hashGid K.codec e w.store with ⟨-, h2⟩ | ⟨-, -, h2⟩ <;>
      exact h.frame (by simp [h2]) (by simp [h2]) rfl
  | handlerAppend pre post rs hs₁ hs₂ r now _ =>
    intro ha _
    simp_all
  | takeResponse _ =>
    intro ha hq
    refine h (by simpa using ha) fun he => hq ?_
    simp [he]
  | attach _ =>
    intro ha hq
    simp only [ClientData.queueHasDataAndAttachConditionIfNot_snd, Bool.or_eq_true,
      List.isEmpty_iff] at ha hq
    exact h (ha.resolve_right hq) hq
  | detach _ => intro ha; simp at ha
  | reset hd => exact fun ha => Bool.noConfusion (hd.symm.trans ha)
  | _ => refine h.frame ?_ ?_ rfl <;> simp

theorem Reachable.wakeInv {w : ClientWorld} (hw : Reachable K w) : WakeInv w := by
  obtain ⟨qos, gid, h⟩ := hw
  induction h with
  | refl => exact fun ha => absurd ha Bool.false_ne_true
  | tail _ hs ih => exact hs.wakeInv ih

/-- Along a run that keeps the wait set attached, every append notifies it: the appends since
`w₀` are at most the notifications since, and a notification leaves it triggered. -/
theorem notified_while_attached {w₀ w : ClientWorld} (h₀ : w₀.store.waitSetAttached = true)
    (hr : Relation.ReflTransGen (AttachedStep K) w₀ w) :
    w.appended.length + w₀.notifications ≤ w₀.appended.length + w.notifications ∧
      (w₀.notifications < w.notifications → w.triggered = true) := by
  suffices w.store.waitSetAttached = true ∧ w₀.notifications ≤ w.notifications ∧
      w.appended.length + w₀.notifications ≤ w₀.appended.length + w.notifications ∧
      (w₀.notifications < w.notifications → w.triggered = true) from this.2.2
  induction hr with
  | refl => exact ⟨h₀, le_rfl, le_rfl, fun h => absurd h (lt_irrefl _)⟩
  | tail _ hs ih =>
    obtain ⟨hs, ha'⟩ := hs
    obtain ⟨ha, hn, hl, ht⟩ := ih
    refine ⟨ha', ?_⟩
    cases hs with
    | handlerAppend =>
      simp only [ClientData.addNewReply, ha, List.length_append, List.length_singleton,
        Bool.toNat_true, Bool.or_true, implies_true, and_true]
      omega
    | reset hd => exact Bool.noConfusion (hd.symm.trans ha)
    | _ => exact ⟨hn, hl, ht⟩

end ClientWorld

namespace RmwClientWorld

/-- A step of any thread that leaves the wait set attached: every step but the waiter's
detach. -/
def AttachedStep (w w' : RmwClientWorld) : Prop := Step w w' ∧ w'.store.waitSetAttached = true

/-- The handlers between their push and their notify. -/
def lockedHandlers (w : RmwClientWorld) : Nat := due (fun p => p.locked.toNat) w.queries

/-- A handler between its push and its notify has just appended, so the queue is not empty. -/
def LockInv (w : RmwClientWorld) : Prop := 0 < lockedHandlers w → w.store.replyQueue ≠ []

/-- An attached wait set whose store has a reply queued is triggered, unless a handler is
between its push and the notify that will trigger it. -/
def WakeInv (w : RmwClientWorld) : Prop :=
  w.store.waitSetAttached = true → w.store.replyQueue ≠ [] →
    w.triggered = true ∨ 0 < lockedHandlers w

theorem Step.lockInv {w w' : RmwClientWorld} (hs : Step w w') (h : LockInv w) : LockInv w' := by
  cases hs with
  | issue replies _ => exact fun hl => h (by simpa [lockedHandlers] using hl)
  | handlerCheck pre post r rs hs hq =>
    intro hl
    refine h ?_
    rcases hc : w.store.handlerCheck r with _ | _ <;> simp_all [lockedHandlers]
  | pushFirst | pushSecond =>
    exact fun _ => by simpa [RmwClientData.addNewReplyPush] using pushReply_fst_ne_nil _ _ _
  | notifyFirst pre post rs hs₁ hs₂ r hq | notifySecond pre post rs hs₁ hs₂ r hq =>
    exact fun _ => h (by unfold lockedHandlers; rw [hq]; exact due_locked_pos rfl)
  | drop pre post hq => exact fun hl => h (by simpa [lockedHandlers, hq] using hl)
  | popNextReply _ hl => exact fun hl' => absurd ((queueLocked_iff w).2 hl') (by simp [hl])
  | attach _ => exact fun hl => by simpa using h hl
  | _ => exact h

theorem Step.wakeInv {w w' : RmwClientWorld} (hs : Step w w') (h : WakeInv w) : WakeInv w' := by
  cases hs with
  | issue replies _ => simpa [WakeInv, lockedHandlers] using h
  | handlerCheck pre post r rs hs hq =>
    intro ha hq'
    rcases hc : w.store.handlerCheck r with _ | _ <;>
      simpa [lockedHandlers, hq, hc] using h ha hq'
  | pushFirst pre post rs hs₁ hs₂ r hq _ | pushSecond pre post rs hs₁ hs₂ r _ hq _ =>
    exact fun _ _ => .inr (due_locked_pos rfl)
  | notifyFirst | notifySecond =>
    intro ha _
    exact .inl (by simp_all [RmwClientData.notify])
  | drop pre post hq =>
    intro ha hq'
    simpa [lockedHandlers, hq] using h ha hq'
  | popNextReply _ hl =>
    intro ha hq
    exact h ha fun he => hq (by simp [he])
  | attach _ =>
    intro ha hq
    simp only [RmwClientData.queueHasDataAndAttachConditionIfNot_snd, Bool.or_eq_true,
      List.isEmpty_iff] at ha hq
    exact h (ha.resolve_right hq) hq
  | detach _ => intro ha; simp at ha
  | reset hd => exact fun ha => Bool.noConfusion (hd.symm.trans ha)
  | shutdownAndQueryInFlight _ => exact h

theorem Reachable.invs {w : RmwClientWorld} (hw : Reachable w) : LockInv w ∧ WakeInv w := by
  obtain ⟨qos, h⟩ := hw
  induction h with
  | refl => exact ⟨fun hl => absurd hl (lt_irrefl 0), fun ha => absurd ha Bool.false_ne_true⟩
  | tail _ hs ih => exact ⟨hs.lockInv ih.1, hs.wakeInv ih.2⟩

/-- Along a run that keeps the wait set attached, every append is matched by a notification of
the wait set or belongs to a handler still between its push and its notify, and a notification
leaves it triggered. -/
theorem notified_while_attached {w₀ w : RmwClientWorld} (h₀ : w₀.store.waitSetAttached = true)
    (hr : Relation.ReflTransGen AttachedStep w₀ w) :
    w.appended.length + w₀.notifications ≤
        w₀.appended.length + w.notifications + lockedHandlers w ∧
      (w₀.notifications < w.notifications → w.triggered = true) := by
  suffices w.store.waitSetAttached = true ∧ w₀.notifications ≤ w.notifications ∧
      w.appended.length + w₀.notifications ≤
        w₀.appended.length + w.notifications + lockedHandlers w ∧
      (w₀.notifications < w.notifications → w.triggered = true) from this.2.2
  induction hr with
  | refl => exact ⟨h₀, le_rfl, by omega, fun h => absurd h (lt_irrefl _)⟩
  | @tail u _ _ hs ih =>
    obtain ⟨hs, ha'⟩ := hs
    obtain ⟨ha, hn, hl, ht⟩ := ih
    refine ⟨ha', ?_⟩
    cases hs with
    | issue => exact ⟨hn, by simpa [lockedHandlers] using hl, ht⟩
    | handlerCheck pre post r rs hs hq =>
      refine ⟨hn, ?_, ht⟩
      rcases hc : u.store.handlerCheck r with _ | _ <;>
        simp_all [lockedHandlers]
    | pushFirst pre post rs hs₁ hs₂ r hq _ | pushSecond pre post rs hs₁ hs₂ r _ hq _ =>
      refine ⟨hn, ?_, ht⟩
      simp_all [lockedHandlers]
      omega
    | notifyFirst pre post rs hs₁ hs₂ r hq | notifySecond pre post rs hs₁ hs₂ r hq =>
      simp_all [lockedHandlers, RmwClientData.notify]
      omega
    | drop pre post hq => exact ⟨hn, by simp_all [lockedHandlers], ht⟩
    | reset hd => exact Bool.noConfusion (hd.symm.trans ha)
    | _ => exact ⟨hn, hl, ht⟩

theorem lockInv_of_run {w w' : RmwClientWorld} (h : LockInv w)
    (hr : Relation.ReflTransGen AttachedStep w w') : LockInv w' := by
  induction hr with
  | refl => exact h
  | tail _ hs ih => exact hs.1.lockInv ih

end RmwClientWorld

/-! ## Both stores -/

/-- **No lost wake-up.** For both stores: after `queue_has_data_and_attach_condition_if_not`
answered `false`, along any run of the other threads that keeps the wait set attached, every
reply appended is matched by a notification of the attached wait set, which leaves it
triggered; in `rmw_client_data_t`, whose handler notifies after its push, a reply not yet
matched makes `detach_condition_and_queue_is_empty` report a non-empty queue. And in every
reachable world an attached wait set whose store has a reply queued, with no handler between
its push and its notify, is triggered. -/
theorem wait_set_no_lost_wake_up :
    (∀ (K : Collaborators) (w₀ w : ClientWorld),
      w₀.store.queueHasDataAndAttachConditionIfNot.1 = false →
      Relation.ReflTransGen (ClientWorld.AttachedStep K)
        { w₀ with store := w₀.store.queueHasDataAndAttachConditionIfNot.2 } w →
      w.appended.length + w₀.notifications ≤ w₀.appended.length + w.notifications ∧
        (w₀.notifications < w.notifications → w.triggered = true)) ∧
    (∀ (K : Collaborators) (w : ClientWorld), ClientWorld.Reachable K w →
      w.store.waitSetAttached = true → w.store.replyQueue ≠ [] → w.triggered = true) ∧
    (∀ w₀ w : RmwClientWorld, RmwClientWorld.Reachable w₀ →
      w₀.store.queueHasDataAndAttachConditionIfNot.1 = false →
      Relation.ReflTransGen RmwClientWorld.AttachedStep
        { w₀ with store := w₀.store.queueHasDataAndAttachConditionIfNot.2 } w →
      (w.appended.length + w₀.notifications ≤ w₀.appended.length + w.notifications ∨
          w.store.detachConditionAndQueueIsEmpty.1 = false) ∧
        (w₀.notifications < w.notifications → w.triggered = true)) ∧
    (∀ w : RmwClientWorld, RmwClientWorld.Reachable w → w.store.waitSetAttached = true →
      w.store.replyQueue ≠ [] → w.queueLocked = false → w.triggered = true) := by
  refine ⟨fun K w₀ w h₀ hr => ?_, fun K w hw => hw.wakeInv, fun w₀ w hw h₀ hr => ?_,
    fun w hw ha hq hl => ?_⟩
  · have h := ClientWorld.notified_while_attached (by simp at h₀; simp [h₀]) hr
    exact h
  · have hL : RmwClientWorld.LockInv { w₀ with store := w₀.store.queueHasDataAndAttachConditionIfNot.2 } :=
      fun hl => by simpa using hw.invs.1 hl
    obtain ⟨hc, ht⟩ := RmwClientWorld.notified_while_attached (by simp at h₀; simp [h₀]) hr
    refine ⟨?_, ht⟩
    rcases Nat.eq_zero_or_pos (RmwClientWorld.lockedHandlers w) with h | h
    · exact .inl (by simpa [h] using hc)
    · exact .inr (by simpa using
        RmwClientWorld.lockInv_of_run hL hr h)
  · refine (hw.invs.2 ha hq).resolve_right fun h => ?_
    exact absurd ((RmwClientWorld.queueLocked_iff w).2 h) (by simp [hl])

/-- The four facts at a first reply: a waiter attaches to an empty store while a handler is past
its check, and the handler then appends and notifies. -/
theorem wait_set_no_lost_wake_up_first_reply :
    let K₀ : Collaborators := ⟨fun _ => 0, leb128, Unit, fun _ => none, fun _ => ⟨0, 0, []⟩⟩
    (∃ w₀ w : ClientWorld, w₀.store.queueHasDataAndAttachConditionIfNot.1 = false ∧
      Relation.ReflTransGen (ClientWorld.AttachedStep K₀)
        { w₀ with store := w₀.store.queueHasDataAndAttachConditionIfNot.2 } w ∧
      w₀.appended.length < w.appended.length ∧
      (w.appended.length + w₀.notifications ≤ w₀.appended.length + w.notifications ∧
        (w₀.notifications < w.notifications → w.triggered = true))) ∧
    (∃ w : ClientWorld, ClientWorld.Reachable K₀ w ∧ w.store.waitSetAttached = true ∧
      w.store.replyQueue ≠ [] ∧ w.triggered = true) ∧
    (∃ w₀ w : RmwClientWorld, RmwClientWorld.Reachable w₀ ∧
      w₀.store.queueHasDataAndAttachConditionIfNot.1 = false ∧
      Relation.ReflTransGen RmwClientWorld.AttachedStep
        { w₀ with store := w₀.store.queueHasDataAndAttachConditionIfNot.2 } w ∧
      w₀.appended.length < w.appended.length ∧
      ((w.appended.length + w₀.notifications ≤ w₀.appended.length + w.notifications ∨
          w.store.detachConditionAndQueueIsEmpty.1 = false) ∧
        (w₀.notifications < w.notifications → w.triggered = true))) ∧
    (∃ w : RmwClientWorld, RmwClientWorld.Reachable w ∧ w.store.waitSetAttached = true ∧
      w.store.replyQueue ≠ [] ∧ w.queueLocked = false ∧ w.triggered = true) := by
  intro K₀
  let w₀ : ClientWorld := { ClientWorld.init ⟨.keepAll, 0⟩ ⟨List.replicate 16 0, rfl⟩ with
    queries := [⟨[], [.ok ⟨[], []⟩]⟩] }
  have run₀ : Relation.ReflTransGen (ClientWorld.AttachedStep K₀)
      { w₀ with store := w₀.store.queueHasDataAndAttachConditionIfNot.2 } _ :=
    .single ⟨ClientWorld.Step.handlerAppend _ [] [] [] [] [] _ 0 rfl, rfl⟩
  have hc : ClientWorld.Reachable K₀ _ := ⟨⟨.keepAll, 0⟩, ⟨List.replicate 16 0, rfl⟩,
    (((Relation.ReflTransGen.single
      (ClientWorld.Step.attach (ClientWorld.init ⟨.keepAll, 0⟩ ⟨List.replicate 16 0, rfl⟩) rfl)).tail
      (ClientWorld.Step.sendRequest _ ⟨true, true, some [], 0, true⟩ [.ok ⟨[], []⟩] rfl)).tail
      (ClientWorld.Step.handlerCheck _ [] [] _ [] [] rfl)).tail
      (ClientWorld.Step.handlerAppend _ [] [] [] [] [] _ 0 rfl)⟩
  let v₀ : RmwClientWorld := { RmwClientWorld.init ⟨.keepAll, 0⟩ with
    store := (RmwClientData.new ⟨.keepAll, 0⟩).incrementInFlightCallbacks
    queries := [⟨[], [⟨.ok ⟨[], []⟩, .push₁⟩]⟩] }
  have hv₀ : RmwClientWorld.Reachable v₀ := ⟨⟨.keepAll, 0⟩,
    (Relation.ReflTransGen.single (RmwClientWorld.Step.issue (RmwClientWorld.init ⟨.keepAll, 0⟩)
      [.ok ⟨[], []⟩] rfl)).tail
      (RmwClientWorld.Step.handlerCheck _ [] [] (.ok ⟨[], []⟩) [] [] rfl)⟩
  have run₁ : Relation.ReflTransGen RmwClientWorld.AttachedStep
      { v₀ with store := v₀.store.queueHasDataAndAttachConditionIfNot.2 } _ :=
    (Relation.ReflTransGen.single
      ⟨RmwClientWorld.Step.pushFirst _ [] [] [] [] [] _ rfl (by rfl), rfl⟩).tail
      ⟨RmwClientWorld.Step.notifyFirst _ [] [] [] [] [] _ rfl, rfl⟩
  have hv : RmwClientWorld.Reachable _ := ⟨⟨.keepAll, 0⟩, ((((Relation.ReflTransGen.single
      (RmwClientWorld.Step.attach (RmwClientWorld.init ⟨.keepAll, 0⟩) rfl)).tail
      (RmwClientWorld.Step.issue _ [.ok ⟨[], []⟩] rfl)).tail
      (RmwClientWorld.Step.handlerCheck _ [] [] _ [] [] rfl)).tail
      (RmwClientWorld.Step.pushFirst _ [] [] [] [] [] _ rfl (by rfl))).tail
      (RmwClientWorld.Step.notifyFirst _ [] [] [] [] [] _ rfl)⟩
  exact ⟨⟨w₀, _, rfl, run₀, Nat.zero_lt_one, wait_set_no_lost_wake_up.1 K₀ w₀ _ rfl run₀⟩,
    ⟨_, hc, rfl, List.cons_ne_nil _ _, wait_set_no_lost_wake_up.2.1 K₀ _ hc rfl (List.cons_ne_nil _ _)⟩,
    ⟨v₀, _, hv₀, rfl, run₁, Nat.zero_lt_one, wait_set_no_lost_wake_up.2.2.1 v₀ _ hv₀ rfl run₁⟩,
    ⟨_, hv, rfl, List.cons_ne_nil _ _, rfl,
      wait_set_no_lost_wake_up.2.2.2 _ hv rfl (List.cons_ne_nil _ _) rfl⟩⟩

end RmwZenoh
