import RmwZenoh.Client.ClientSystem
import RmwZenoh.Client.RmwClientSystem

/-!
# Replies after shutdown

Both handlers test the shutdown flag in one critical section and append in a later one, so a
shutdown that lands between the two does not stop the append. What does hold: once the flag
is set, every append, wait-set notification and new-data callback comes from a handler
invocation that had already passed its check. The handlers that check afterwards add nothing.

* `ClientWorld.SpendsHandlers`, `RmwClientWorld.SpendsHandlers`: after shutdown each append,
  notification and callback uses up a handler past its check, one per handler for
  `ClientData`, two for `rmw_client_data_t`;
* **`reply_buffered_after_shutdown`**: in both stores a reply is appended, and the attached
  wait set notified, after the flag is set;
* **`replies_after_shutdown_bounded`**: what both stores append and notify after the flag is set
  is bounded by the handlers already past their check.
-/

namespace RmwZenoh

namespace ClientWorld

variable {K : Collaborators}

/-- The handler invocations past their `is_shutdown()` check, not yet appended. -/
def handlersPastCheck (w : ClientWorld) : Nat :=
  (w.queries.flatMap Query.handling).length

/-- From `w` to `w'` on a shut-down store: the store stays shut down, the appends of `w` are kept,
and each new append, notification and callback trigger uses up a handler past its check. -/
structure SpendsHandlers (w w' : ClientWorld) : Prop where
  isShutdown : w'.store.isShutdown = true
  appended : w.appended <+: w'.appended
  appends : w'.appended.length + handlersPastCheck w' ≤ w.appended.length + handlersPastCheck w
  notifies : w'.notifications + handlersPastCheck w' ≤ w.notifications + handlersPastCheck w
  triggers : w'.store.callbacksTriggered + handlersPastCheck w' ≤
    w.store.callbacksTriggered + handlersPastCheck w

theorem SpendsHandlers.refl {w : ClientWorld} (h : w.store.isShutdown = true) :
    SpendsHandlers w w :=
  ⟨h, List.prefix_refl _, le_rfl, le_rfl, le_rfl⟩

theorem SpendsHandlers.trans {w₁ w₂ w₃ : ClientWorld} (h₁ : SpendsHandlers w₁ w₂)
    (h₂ : SpendsHandlers w₂ w₃) : SpendsHandlers w₁ w₃ :=
  ⟨h₂.isShutdown, h₁.appended.trans h₂.appended, by have := h₁.appends; have := h₂.appends; omega,
    by have := h₁.notifies; have := h₂.notifies; omega,
    by have := h₁.triggers; have := h₂.triggers; omega⟩

/-- A step that appends, notifies and triggers nothing and keeps the handlers past their check
spends nothing. -/
theorem SpendsHandlers.frame {w w' : ClientWorld} (hs : w'.store.isShutdown = true)
    (ha : w'.appended = w.appended) (hn : w'.notifications = w.notifications)
    (hc : w'.store.callbacksTriggered = w.store.callbacksTriggered)
    (hh : handlersPastCheck w' = handlersPastCheck w) : SpendsHandlers w w' :=
  ⟨hs, ha ▸ List.prefix_refl _, by rw [ha, hh], by rw [hn, hh], by rw [hc, hh]⟩

theorem Step.spendsHandlers {w w' : ClientWorld} (hs : Step K w w')
    (h : w.store.isShutdown = true) : SpendsHandlers w w' := by
  cases hs with
  | sendRequest e replies _ =>
    exact .frame (by simp [ClientData.sendRequest, h]) rfl rfl (by simp [ClientData.sendRequest, h])
      (by simp [handlersPastCheck, ClientData.sendRequest, h])
  | handlerCheck pre post r rs hs hq =>
    exact .frame h rfl rfl rfl (by simp [handlersPastCheck, hq, ClientData.handlerCheck, h])
  | handlerAppend pre post rs hs₁ hs₂ r now hq =>
    have := Bool.toNat_le w.store.waitSetAttached
    refine ⟨h, List.prefix_append _ _, ?_, ?_, ?_⟩ <;>
      simp [handlersPastCheck, hq] <;> omega
  | drop pre post found hq =>
    exact .frame h rfl rfl rfl (by simp [handlersPastCheck, hq])
  | _ => refine .frame ?_ rfl rfl ?_ rfl <;> simp [h]

theorem spendsHandlers_of_run {w w' : ClientWorld} (h : w.store.isShutdown = true)
    (hr : Relation.ReflTransGen (Step K) w w') : SpendsHandlers w w' := by
  induction hr with
  | refl => exact .refl h
  | tail _ hs ih => exact ih.trans (hs.spendsHandlers ih.isShutdown)

/-- After `ClientData`'s flag is set, any run appends, notifies and triggers at most once per
handler invocation already past its check. -/
theorem appended_after_shutdown_le {w w' : ClientWorld} (h : w.store.isShutdown = true)
    (hr : Relation.ReflTransGen (Step K) w w') :
    w'.store.isShutdown = true ∧ ∃ extra, w'.appended = w.appended ++ extra ∧
      extra.length ≤ handlersPastCheck w ∧
      w'.notifications ≤ w.notifications + handlersPastCheck w ∧
      w'.store.callbacksTriggered ≤ w.store.callbacksTriggered + handlersPastCheck w := by
  obtain ⟨hs, ⟨extra, he⟩, ha, hn, hc⟩ := spendsHandlers_of_run h hr
  refine ⟨hs, extra, he.symm, ?_, by omega, by omega⟩
  rw [← he, List.length_append] at ha
  omega

end ClientWorld

/-- The appends an accepted reply's handler still has to make. -/
def HandlerPhase.pushesLeft : HandlerPhase → Nat
  | .push₁ => 2
  | .notify₁ | .push₂ => 1
  | .notify₂ => 0

/-- The `notify` calls an accepted reply's handler still has to make. -/
def HandlerPhase.notifiesLeft : HandlerPhase → Nat
  | .push₁ | .notify₁ => 2
  | .push₂ | .notify₂ => 1

namespace RmwClientWorld

/-- The handler invocations past their `is_shutdown()` check, not yet returned. -/
def handlersPastCheck (w : RmwClientWorld) : Nat := due (fun _ => 1) w.queries

theorem due_le (f : HandlerPhase → Nat) (hf : ∀ p, f p ≤ 2) (qs : List RmwQuery) :
    due f qs ≤ 2 * due (fun _ => 1) qs := by
  have hl : ∀ hs : List Handler, phaseSum f hs ≤ 2 * phaseSum (fun _ => 1) hs := by
    intro hs
    induction hs with
    | nil => simp
    | cons h hs ih => have := hf h.phase; simp only [phaseSum]; omega
  induction qs with
  | nil => simp
  | cons q qs ih => have := hl q.handling; simp only [due]; omega

/-- From `w` to `w'` on a shut-down store: the store stays shut down, the appends of `w` are kept,
and each new append, notification and callback trigger uses up one that the handlers past their
check still had to make. -/
structure SpendsHandlers (w w' : RmwClientWorld) : Prop where
  isShutdown : w'.store.isShutdown = true
  appended : w.appended <+: w'.appended
  appends : w'.appended.length + due HandlerPhase.pushesLeft w'.queries ≤
    w.appended.length + due HandlerPhase.pushesLeft w.queries
  notifies : w'.notifications + due HandlerPhase.notifiesLeft w'.queries ≤
    w.notifications + due HandlerPhase.notifiesLeft w.queries
  triggers : w'.store.callbacksTriggered + due HandlerPhase.pushesLeft w'.queries ≤
    w.store.callbacksTriggered + due HandlerPhase.pushesLeft w.queries

theorem SpendsHandlers.refl {w : RmwClientWorld} (h : w.store.isShutdown = true) :
    SpendsHandlers w w :=
  ⟨h, List.prefix_refl _, le_rfl, le_rfl, le_rfl⟩

theorem SpendsHandlers.trans {w₁ w₂ w₃ : RmwClientWorld} (h₁ : SpendsHandlers w₁ w₂)
    (h₂ : SpendsHandlers w₂ w₃) : SpendsHandlers w₁ w₃ :=
  ⟨h₂.isShutdown, h₁.appended.trans h₂.appended, by have := h₁.appends; have := h₂.appends; omega,
    by have := h₁.notifies; have := h₂.notifies; omega,
    by have := h₁.triggers; have := h₂.triggers; omega⟩

theorem SpendsHandlers.frame {w w' : RmwClientWorld} (hs : w'.store.isShutdown = true)
    (ha : w'.appended = w.appended) (hn : w'.notifications = w.notifications)
    (hc : w'.store.callbacksTriggered = w.store.callbacksTriggered)
    (hh : ∀ f, due f w'.queries = due f w.queries) : SpendsHandlers w w' :=
  ⟨hs, ha ▸ List.prefix_refl _, by rw [ha, hh], by rw [hn, hh], by rw [hc, hh]⟩

theorem Step.spendsHandlers {w w' : RmwClientWorld} (hs : Step w w')
    (h : w.store.isShutdown = true) : SpendsHandlers w w' := by
  have hn := Bool.toNat_le w.store.notify
  cases hs with
  | issue replies _ => exact .frame h rfl rfl rfl (fun f => by simp)
  | handlerCheck pre post r rs hs hq =>
    exact .frame h rfl rfl rfl (fun f => by simp [hq, RmwClientData.handlerCheck, h])
  | pushFirst pre post rs hs₁ hs₂ r hq _ | pushSecond pre post rs hs₁ hs₂ r _ hq _ =>
    refine ⟨h, List.prefix_append _ _, ?_, ?_, ?_⟩ <;>
      simp [hq, RmwClientData.addNewReplyPush, HandlerPhase.pushesLeft,
        HandlerPhase.notifiesLeft] <;> omega
  | notifyFirst pre post rs hs₁ hs₂ r hq | notifySecond pre post rs hs₁ hs₂ r hq =>
    refine ⟨h, List.prefix_refl _, ?_, ?_, ?_⟩
    all_goals simp [hq, HandlerPhase.pushesLeft, HandlerPhase.notifiesLeft]
    all_goals omega
  | drop pre post hq => exact .frame h rfl rfl rfl (fun f => by simp [hq])
  | _ => exact .frame (by simp [h]) rfl rfl (by simp) (fun _ => rfl)

theorem spendsHandlers_of_run {w w' : RmwClientWorld} (h : w.store.isShutdown = true)
    (hr : Relation.ReflTransGen Step w w') : SpendsHandlers w w' := by
  induction hr with
  | refl => exact .refl h
  | tail _ hs ih => exact ih.trans (hs.spendsHandlers ih.isShutdown)

/-- After `rmw_client_data_t`'s flag is set, any run appends, notifies and triggers at most twice
per handler invocation already past its check. -/
theorem appended_after_shutdown_le {w w' : RmwClientWorld} (h : w.store.isShutdown = true)
    (hr : Relation.ReflTransGen Step w w') :
    w'.store.isShutdown = true ∧ ∃ extra, w'.appended = w.appended ++ extra ∧
      extra.length ≤ 2 * handlersPastCheck w ∧
      w'.notifications ≤ w.notifications + 2 * handlersPastCheck w ∧
      w'.store.callbacksTriggered ≤ w.store.callbacksTriggered + 2 * handlersPastCheck w := by
  obtain ⟨hs, ⟨extra, he⟩, ha, hn, hc⟩ := spendsHandlers_of_run h hr
  have hp := due_le HandlerPhase.pushesLeft (fun p => by cases p <;> decide) w.queries
  have hn' := due_le HandlerPhase.notifiesLeft (fun p => by cases p <;> decide) w.queries
  unfold handlersPastCheck
  refine ⟨hs, extra, he.symm, ?_, by omega, by omega⟩
  rw [← he, List.length_append] at ha
  omega

end RmwClientWorld

/-! ## Both stores -/

/-- **A reply is buffered after shutdown.** In each store a handler passes its check, the owner's
shutdown sets the flag, and the handler then appends the reply (twice in `rmw_client_data_t`),
triggers the new-data callback and notifies the attached wait set. -/
theorem reply_buffered_after_shutdown :
    let K₀ : Collaborators := ⟨fun _ => 0, leb128, Unit, fun _ => none, fun _ => ⟨0, 0, []⟩⟩
    (∃ w w', ClientWorld.Reachable K₀ w ∧ w.store.isShutdown = true ∧ ClientWorld.Step K₀ w w' ∧
      w'.appended = w.appended ++ [⟨.ok ⟨[], []⟩, some 0⟩] ∧ w'.triggered = true ∧
      w'.notifications = w.notifications + 1 ∧
      w'.store.callbacksTriggered = w.store.callbacksTriggered + 1) ∧
    (∃ w w', RmwClientWorld.Reachable w ∧ w.store.isShutdown = true ∧
      Relation.ReflTransGen RmwClientWorld.Step w w' ∧
      w'.appended = w.appended ++ [⟨.ok ⟨[], []⟩, none⟩, ⟨.ok ⟨[], []⟩, some 0⟩] ∧
      w'.triggered = true ∧ w'.notifications = w.notifications + 2 ∧
      w'.store.callbacksTriggered = w.store.callbacksTriggered + 2) :=
  ⟨⟨_, _, ⟨⟨.keepAll, 0⟩, ⟨List.replicate 16 0, rfl⟩,
      (((Relation.ReflTransGen.single
        (ClientWorld.Step.attach (ClientWorld.init ⟨.keepAll, 0⟩ ⟨List.replicate 16 0, rfl⟩) rfl)).tail
        (ClientWorld.Step.sendRequest _ ⟨true, true, some [], 0, true⟩ [.ok ⟨[], []⟩] rfl)).tail
        (ClientWorld.Step.handlerCheck _ [] [] _ [] [] rfl)).tail
        (ClientWorld.Step.shutdown _ true rfl)⟩,
    rfl, ClientWorld.Step.handlerAppend _ [] [] [] [] [] _ 0 rfl, rfl, rfl, rfl, rfl⟩,
  ⟨_, _, ⟨⟨.keepAll, 0⟩,
      (((Relation.ReflTransGen.single
        (RmwClientWorld.Step.attach (RmwClientWorld.init ⟨.keepAll, 0⟩) rfl)).tail
        (RmwClientWorld.Step.issue _ [.ok ⟨[], []⟩] rfl)).tail
        (RmwClientWorld.Step.handlerCheck _ [] [] _ [] [] rfl)).tail
        (RmwClientWorld.Step.shutdownAndQueryInFlight _ rfl)⟩,
    rfl, (((Relation.ReflTransGen.single
        (RmwClientWorld.Step.pushFirst _ [] [] [] [] [] _ rfl (by rfl))).tail
        (RmwClientWorld.Step.notifyFirst _ [] [] [] [] [] _ rfl)).tail
        (RmwClientWorld.Step.pushSecond _ [] [] [] [] [] _ 0 rfl (by rfl))).tail
        (RmwClientWorld.Step.notifySecond _ [] [] [] [] [] _ rfl),
    rfl, rfl, rfl, rfl⟩⟩

/-- **After shutdown only handlers already past their check append.** Once a store's shutdown
flag is set it stays set, and in any run from there every append, wait-set notification and
new-data callback comes from a handler invocation that passed its `is_shutdown()` check before:
at most one of each per such handler for `ClientData`, at most two for `rmw_client_data_t`,
whose handler appends an accepted reply twice. -/
theorem replies_after_shutdown_bounded :
    (∀ (K : Collaborators) (w w' : ClientWorld), w.store.isShutdown = true →
      Relation.ReflTransGen (ClientWorld.Step K) w w' →
      w'.store.isShutdown = true ∧ ∃ extra, w'.appended = w.appended ++ extra ∧
        extra.length ≤ w.handlersPastCheck ∧
        w'.notifications ≤ w.notifications + w.handlersPastCheck ∧
        w'.store.callbacksTriggered ≤ w.store.callbacksTriggered + w.handlersPastCheck) ∧
    (∀ w w' : RmwClientWorld, w.store.isShutdown = true →
      Relation.ReflTransGen RmwClientWorld.Step w w' →
      w'.store.isShutdown = true ∧ ∃ extra, w'.appended = w.appended ++ extra ∧
        extra.length ≤ 2 * w.handlersPastCheck ∧
        w'.notifications ≤ w.notifications + 2 * w.handlersPastCheck ∧
        w'.store.callbacksTriggered ≤ w.store.callbacksTriggered + 2 * w.handlersPastCheck) :=
  ⟨fun _ _ _ => ClientWorld.appended_after_shutdown_le,
    fun _ _ => RmwClientWorld.appended_after_shutdown_le⟩

/-- The bound on the runs of `reply_buffered_after_shutdown`: one handler is past its check when
the flag is set, and it appends once to a `ClientData`, twice to an `rmw_client_data_t`. -/
theorem replies_after_shutdown_bounded_after_check :
    let K₀ : Collaborators := ⟨fun _ => 0, leb128, Unit, fun _ => none, fun _ => ⟨0, 0, []⟩⟩
    (∃ w w', ClientWorld.Reachable K₀ w ∧ w.store.isShutdown = true ∧
      Relation.ReflTransGen (ClientWorld.Step K₀) w w' ∧ w.handlersPastCheck = 1 ∧
      w'.appended.length = w.appended.length + 1 ∧
      (w'.store.isShutdown = true ∧ ∃ extra, w'.appended = w.appended ++ extra ∧
        extra.length ≤ w.handlersPastCheck ∧
        w'.notifications ≤ w.notifications + w.handlersPastCheck ∧
        w'.store.callbacksTriggered ≤ w.store.callbacksTriggered + w.handlersPastCheck)) ∧
    (∃ v v', RmwClientWorld.Reachable v ∧ v.store.isShutdown = true ∧
      Relation.ReflTransGen RmwClientWorld.Step v v' ∧ v.handlersPastCheck = 1 ∧
      v'.appended.length = v.appended.length + 2 ∧
      (v'.store.isShutdown = true ∧ ∃ extra, v'.appended = v.appended ++ extra ∧
        extra.length ≤ 2 * v.handlersPastCheck ∧
        v'.notifications ≤ v.notifications + 2 * v.handlersPastCheck ∧
        v'.store.callbacksTriggered ≤ v.store.callbacksTriggered + 2 * v.handlersPastCheck)) :=
  let K₀ : Collaborators := ⟨fun _ => 0, leb128, Unit, fun _ => none, fun _ => ⟨0, 0, []⟩⟩
  ⟨⟨_, _, ⟨⟨.keepAll, 0⟩, ⟨List.replicate 16 0, rfl⟩,
      (((Relation.ReflTransGen.single
        (ClientWorld.Step.attach (ClientWorld.init ⟨.keepAll, 0⟩ ⟨List.replicate 16 0, rfl⟩) rfl)).tail
        (ClientWorld.Step.sendRequest _ ⟨true, true, some [], 0, true⟩ [.ok ⟨[], []⟩] rfl)).tail
        (ClientWorld.Step.handlerCheck _ [] [] _ [] [] rfl)).tail
        (ClientWorld.Step.shutdown _ true rfl)⟩,
    rfl, .single (ClientWorld.Step.handlerAppend _ [] [] [] [] [] _ 0 rfl), rfl, rfl,
    replies_after_shutdown_bounded.1 K₀ _ _ rfl
      (.single (ClientWorld.Step.handlerAppend _ [] [] [] [] [] _ 0 rfl))⟩,
  ⟨_, _, ⟨⟨.keepAll, 0⟩,
      (((Relation.ReflTransGen.single
        (RmwClientWorld.Step.attach (RmwClientWorld.init ⟨.keepAll, 0⟩) rfl)).tail
        (RmwClientWorld.Step.issue _ [.ok ⟨[], []⟩] rfl)).tail
        (RmwClientWorld.Step.handlerCheck _ [] [] _ [] [] rfl)).tail
        (RmwClientWorld.Step.shutdownAndQueryInFlight _ rfl)⟩,
    rfl, (((Relation.ReflTransGen.single
        (RmwClientWorld.Step.pushFirst _ [] [] [] [] [] _ rfl (by rfl))).tail
        (RmwClientWorld.Step.notifyFirst _ [] [] [] [] [] _ rfl)).tail
        (RmwClientWorld.Step.pushSecond _ [] [] [] [] [] _ 0 rfl (by rfl))).tail
        (RmwClientWorld.Step.notifySecond _ [] [] [] [] [] _ rfl), rfl, rfl,
    replies_after_shutdown_bounded.2 _ _ rfl ((((Relation.ReflTransGen.single
        (RmwClientWorld.Step.pushFirst _ [] [] [] [] [] _ rfl (by rfl))).tail
        (RmwClientWorld.Step.notifyFirst _ [] [] [] [] [] _ rfl)).tail
        (RmwClientWorld.Step.pushSecond _ [] [] [] [] [] _ 0 rfl (by rfl))).tail
        (RmwClientWorld.Step.notifySecond _ [] [] [] [] [] _ rfl))⟩⟩

end RmwZenoh
