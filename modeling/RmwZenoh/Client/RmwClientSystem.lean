import Mathlib.Logic.Relation
import RmwZenoh.Client.RmwClientData

/-!
# An `rmw_client_data_t` among its threads

The issuing code (`rmw_send_request`, not under `src/`) calls
`increment_in_flight_callbacks` once before it issues each query and never once the owner has
called `shutdown_and_query_in_flight`; the transport runs the handlers of each query and then
its drop; the owner calls `shutdown_and_query_in_flight` once and destroys the store when it
answers `false`; the application pops replies and a wait set is attached and detached. `Step`
is one critical section of any of them. An accepted reply's handler appends twice, and holds
`reply_queue_mutex_` from each push to the `notify` after it.

* `RmwClientWorld`, `Step`, `Reachable`;
* `TeardownInv`: the counter is the number of queries not yet dropped, and who destroyed the
  store is fixed by the owner's answer and the queries left;
* **`teardown_gate`**: the store is destroyed once, by the last drop when the owner was told a
  query was in flight and by the owner otherwise, and never before every query it issued has
  been dropped.
-/

namespace RmwZenoh

/-- Where an accepted reply's handler stands: before or after each of its two pushes. Between a
push and the `notify` after it, the handler holds `reply_queue_mutex_`. -/
inductive HandlerPhase
  | push₁
  | notify₁
  | push₂
  | notify₂
  deriving DecidableEq, Repr

/-- The handler holds `reply_queue_mutex_`. -/
def HandlerPhase.locked : HandlerPhase → Bool
  | .notify₁ | .notify₂ => true
  | .push₁ | .push₂ => false

@[simp] theorem HandlerPhase.locked_push₁ : HandlerPhase.push₁.locked = false := rfl
@[simp] theorem HandlerPhase.locked_notify₁ : HandlerPhase.notify₁.locked = true := rfl
@[simp] theorem HandlerPhase.locked_push₂ : HandlerPhase.push₂.locked = false := rfl
@[simp] theorem HandlerPhase.locked_notify₂ : HandlerPhase.notify₂.locked = true := rfl

/-- A handler invocation past its shutdown check. -/
structure Handler where
  reply : ZReply
  phase : HandlerPhase
  deriving DecidableEq

/-- A query in flight, as the transport holds it: the replies still to deliver and the handlers
past their check. -/
structure RmwQuery where
  replies : List ZReply
  handling : List Handler
  deriving DecidableEq

/-- An `rmw_client_data_t` with the threads around it. `destroyedByOwner` and `destroyedByDrop`
count the destructions by the owner and by `client_data_drop`; `appended` and `notifications`
record every append and every notification of the wait set. -/
structure RmwClientWorld where
  store : RmwClientData
  triggered : Bool
  queries : List RmwQuery
  shutdownAnswer : Option Bool
  destroyedByOwner : Nat
  destroyedByDrop : Nat
  appended : List ZenohReply
  notifications : Nat

namespace RmwClientWorld

/-- A new store, with nothing issued, attached or appended. -/
def init (qos : QosProfile) : RmwClientWorld := ⟨RmwClientData.new qos, false, [], none, 0, 0, [], 0⟩

/-- Some handler holds `reply_queue_mutex_`. -/
def queueLocked (w : RmwClientWorld) : Bool :=
  w.queries.any fun q => q.handling.any fun h => h.phase.locked

/-- The sum of `f` over the phases of a query's handlers past their check. -/
@[simp] def phaseSum (f : HandlerPhase → Nat) : List Handler → Nat
  | [] => 0
  | h :: hs => f h.phase + phaseSum f hs

@[simp] theorem phaseSum_append (f : HandlerPhase → Nat) (hs hs' : List Handler) :
    phaseSum f (hs ++ hs') = phaseSum f hs + phaseSum f hs' := by
  induction hs with
  | nil => simp
  | cons h hs ih => simp [ih, Nat.add_assoc]

/-- The sum of `f` over the phases of the handlers past their check. -/
@[simp] def due (f : HandlerPhase → Nat) : List RmwQuery → Nat
  | [] => 0
  | q :: qs => phaseSum f q.handling + due f qs

@[simp] theorem due_append (f : HandlerPhase → Nat) (qs qs' : List RmwQuery) :
    due f (qs ++ qs') = due f qs + due f qs' := by
  induction qs with
  | nil => simp
  | cons q qs ih => simp [ih, Nat.add_assoc]

/-- Some handler holds the queue lock exactly when the handlers in a locked phase are not none. -/
theorem queueLocked_iff (w : RmwClientWorld) :
    w.queueLocked = true ↔ 0 < due (fun p => p.locked.toNat) w.queries := by
  unfold queueLocked
  induction w.queries with
  | nil => simp
  | cons q qs ih =>
    have hq : (q.handling.any fun h => h.phase.locked) = true ↔
        0 < phaseSum (fun p => p.locked.toNat) q.handling := by
      induction q.handling with
      | nil => simp
      | cons h hs ihh =>
        simp only [List.any_cons, Bool.or_eq_true, phaseSum, ihh]
        cases h.phase.locked <;> simp [Nat.pos_iff_ne_zero]
    simp only [List.any_cons, Bool.or_eq_true, due, hq, ih]
    omega

/-- A handler in a locked phase is counted among the locked ones. -/
theorem due_locked_pos {pre post : List RmwQuery} {rs : List ZReply} {hs₁ hs₂ : List Handler}
    {r : ZReply} {p : HandlerPhase} (hp : p.locked = true) :
    0 < due (fun p => p.locked.toNat) (pre ++ ⟨rs, hs₁ ++ ⟨r, p⟩ :: hs₂⟩ :: post) := by
  simp only [due_append, due, phaseSum_append, phaseSum, hp, Bool.toNat_true]
  omega

/-- One critical section of one thread. -/
inductive Step : RmwClientWorld → RmwClientWorld → Prop
  /-- `increment_in_flight_callbacks`, then the query is issued; the transport will deliver
  `replies` to it. -/
  | issue (w : RmwClientWorld) (replies : List ZReply) :
      w.shutdownAnswer = none →
      Step w { w with
        store := w.store.incrementInFlightCallbacks
        queries := w.queries ++ [⟨replies, []⟩] }
  /-- The transport hands the next reply of a query to `client_data_handler`. -/
  | handlerCheck (w : RmwClientWorld) (pre post : List RmwQuery) (r : ZReply)
      (rs : List ZReply) (hs : List Handler) :
      w.queries = pre ++ ⟨r :: rs, hs⟩ :: post →
      Step w { w with
        queries := pre ++ ⟨rs, ((w.store.handlerCheck r).map (⟨·, .push₁⟩)).toList ++ hs⟩ :: post }
  /-- The first `add_new_reply` takes the queue lock and appends the clone. -/
  | pushFirst (w : RmwClientWorld) (pre post : List RmwQuery) (rs : List ZReply)
      (hs₁ hs₂ : List Handler) (r : ZReply) :
      w.queries = pre ++ ⟨rs, hs₁ ++ ⟨r, .push₁⟩ :: hs₂⟩ :: post → w.queueLocked = false →
      Step w { w with
        store := w.store.addNewReplyPush ⟨r, none⟩
        queries := pre ++ ⟨rs, hs₁ ++ ⟨r, .notify₁⟩ :: hs₂⟩ :: post
        appended := w.appended ++ [⟨r, none⟩] }
  /-- Its `notify`, then the queue lock is released. -/
  | notifyFirst (w : RmwClientWorld) (pre post : List RmwQuery) (rs : List ZReply)
      (hs₁ hs₂ : List Handler) (r : ZReply) :
      w.queries = pre ++ ⟨rs, hs₁ ++ ⟨r, .notify₁⟩ :: hs₂⟩ :: post →
      Step w { w with
        triggered := w.triggered || w.store.notify
        queries := pre ++ ⟨rs, hs₁ ++ ⟨r, .push₂⟩ :: hs₂⟩ :: post
        notifications := w.notifications + w.store.notify.toNat }
  /-- The clock is read and the second `add_new_reply` appends the reply again. -/
  | pushSecond (w : RmwClientWorld) (pre post : List RmwQuery) (rs : List ZReply)
      (hs₁ hs₂ : List Handler) (r : ZReply) (now : BitVec 64) :
      w.queries = pre ++ ⟨rs, hs₁ ++ ⟨r, .push₂⟩ :: hs₂⟩ :: post → w.queueLocked = false →
      Step w { w with
        store := w.store.addNewReplyPush ⟨r, some now⟩
        queries := pre ++ ⟨rs, hs₁ ++ ⟨r, .notify₂⟩ :: hs₂⟩ :: post
        appended := w.appended ++ [⟨r, some now⟩] }
  /-- Its `notify`; the handler returns. -/
  | notifySecond (w : RmwClientWorld) (pre post : List RmwQuery) (rs : List ZReply)
      (hs₁ hs₂ : List Handler) (r : ZReply) :
      w.queries = pre ++ ⟨rs, hs₁ ++ ⟨r, .notify₂⟩ :: hs₂⟩ :: post →
      Step w { w with
        triggered := w.triggered || w.store.notify
        queries := pre ++ ⟨rs, hs₁ ++ hs₂⟩ :: post
        notifications := w.notifications + w.store.notify.toNat }
  /-- `client_data_drop`, after the last handler of its query. -/
  | drop (w : RmwClientWorld) (pre post : List RmwQuery) :
      w.queries = pre ++ ⟨[], []⟩ :: post →
      Step w { w with
        store := w.store.clientDataDrop.1
        queries := pre ++ post
        destroyedByDrop := w.destroyedByDrop + w.store.clientDataDrop.2.toNat }
  /-- The owner calls `shutdown_and_query_in_flight` once and destroys the store on `false`. -/
  | shutdownAndQueryInFlight (w : RmwClientWorld) :
      w.shutdownAnswer = none →
      Step w { w with
        store := w.store.shutdownAndQueryInFlight.2
        shutdownAnswer := some w.store.shutdownAndQueryInFlight.1
        destroyedByOwner := w.destroyedByOwner + (!w.store.shutdownAndQueryInFlight.1).toNat }
  /-- `pop_next_reply`. -/
  | popNextReply (w : RmwClientWorld) :
      w.shutdownAnswer = none → w.queueLocked = false →
      Step w { w with store := w.store.popNextReply.2 }
  /-- The waiter calls `queue_has_data_and_attach_condition_if_not`. -/
  | attach (w : RmwClientWorld) :
      w.shutdownAnswer = none →
      Step w { w with store := w.store.queueHasDataAndAttachConditionIfNot.2 }
  /-- The waiter calls `detach_condition_and_queue_is_empty`. -/
  | detach (w : RmwClientWorld) :
      w.shutdownAnswer = none →
      Step w { w with store := w.store.detachConditionAndQueueIsEmpty.2 }
  /-- The waiter clears its flag between waits. -/
  | reset (w : RmwClientWorld) :
      w.store.waitSetAttached = false →
      Step w { w with triggered := false }

/-- The worlds some run reaches from a new store. -/
def Reachable (w : RmwClientWorld) : Prop :=
  ∃ qos, Relation.ReflTransGen Step (init qos) w

/-! ## The teardown gate -/

/-- The teardown invariant: the counter is the number of queries not yet dropped, the flag is
set by the owner's call, the owner destroyed the store iff it was told no query was in flight,
and the drops destroyed it iff the owner was told one was and none is left. -/
structure TeardownInv (w : RmwClientWorld) : Prop where
  numInFlight_eq : w.store.numInFlight = w.queries.length
  isShutdown_eq : w.store.isShutdown = w.shutdownAnswer.isSome
  byOwner_eq : w.destroyedByOwner = if w.shutdownAnswer = some false then 1 else 0
  byDrop_eq : w.destroyedByDrop =
    if w.shutdownAnswer = some true ∧ w.queries.length = 0 then 1 else 0
  none_left : w.shutdownAnswer = some false → w.queries.length = 0

theorem teardownInv_init (qos : QosProfile) : TeardownInv (init qos) :=
  ⟨rfl, rfl, rfl, rfl, fun h => nomatch h⟩

/-- A step that leaves the counter, the flag, the number of queries, the answer and the
destructions alone keeps the invariant. -/
theorem TeardownInv.frame {w w' : RmwClientWorld} (h : TeardownInv w)
    (hn : w'.store.numInFlight = w.store.numInFlight)
    (hs : w'.store.isShutdown = w.store.isShutdown) (hq : w'.queries.length = w.queries.length)
    (ha : w'.shutdownAnswer = w.shutdownAnswer) (ho : w'.destroyedByOwner = w.destroyedByOwner)
    (hd : w'.destroyedByDrop = w.destroyedByDrop) : TeardownInv w' :=
  ⟨by rw [hn, hq, h.numInFlight_eq], by rw [hs, ha, h.isShutdown_eq],
    by rw [ho, ha, h.byOwner_eq], by rw [hd, ha, hq, h.byDrop_eq],
    fun h' => by rw [hq]; exact h.none_left (ha ▸ h')⟩

theorem Step.teardownInv {w w' : RmwClientWorld} (hs : Step w w') (h : TeardownInv w) :
    TeardownInv w' := by
  cases hs with
  | issue replies ha =>
    obtain ⟨h1, h2, h3, h4, -⟩ := h
    refine ⟨?_, ?_, ?_, ?_, fun h' => by simp_all⟩ <;>
      simp_all [RmwClientData.incrementInFlightCallbacks]
  | handlerCheck pre post r rs hs hq => exact h.frame rfl rfl (by simp [hq]) rfl rfl rfl
  | pushFirst pre post rs hs₁ hs₂ r hq _ => exact h.frame rfl rfl (by simp [hq]) rfl rfl rfl
  | notifyFirst pre post rs hs₁ hs₂ r hq => exact h.frame rfl rfl (by simp [hq]) rfl rfl rfl
  | pushSecond pre post rs hs₁ hs₂ r now hq _ => exact h.frame rfl rfl (by simp [hq]) rfl rfl rfl
  | notifySecond pre post rs hs₁ hs₂ r hq => exact h.frame rfl rfl (by simp [hq]) rfl rfl rfl
  | drop pre post hq =>
    obtain ⟨h1, h2, h3, h4, h5⟩ := h
    have hl : w.queries.length = (pre ++ post).length + 1 := by
      simp only [hq, List.length_append, List.length_cons]; omega
    refine ⟨by simp [h1, hl], h2, h3, ?_, fun h' => by have := h5 h'; omega⟩
    rcases ha : w.shutdownAnswer with _ | _ | _
    · simp_all
    · exact absurd (h5 ha) (by omega)
    · simp only [ha, Option.isSome_some] at h2 h4
      have hd : w.destroyedByDrop = 0 := by simpa [hl] using h4
      have hn : w.store.numInFlight - 1 = ((pre ++ post).length : Int) := by omega
      show w.destroyedByDrop + w.store.clientDataDrop.2.toNat =
        if some true = some true ∧ (pre ++ post).length = 0 then 1 else 0
      rw [hd, RmwClientData.clientDataDrop_snd, h2, hn]
      generalize (pre ++ post).length = m
      cases m <;> simp
  | shutdownAndQueryInFlight ha =>
    obtain ⟨h1, -, h3, h4, -⟩ := h
    simp only [ha, reduceCtorEq, false_and, if_false] at h3 h4
    refine ⟨h1, rfl, ?_, ?_, fun _ => ?_⟩ <;> cases hq : w.queries <;> simp_all
  | popNextReply _ _ => exact h.frame rfl rfl rfl rfl rfl rfl
  | attach _ => exact h.frame (by simp) (by simp) rfl rfl rfl rfl
  | detach _ => exact h.frame rfl rfl rfl rfl rfl rfl
  | reset _ => exact h.frame rfl rfl rfl rfl rfl rfl

theorem Reachable.teardownInv {w : RmwClientWorld} (hw : Reachable w) : TeardownInv w := by
  obtain ⟨qos, h⟩ := hw
  induction h with
  | refl => exact teardownInv_init qos
  | tail _ hs ih => exact hs.teardownInv ih

/-- **Teardown gate.** In every world some interleaving reaches, `num_in_flight_` is the number
of issued queries not yet dropped (so never negative); the store is destroyed at most once, and
only once every query it issued has been dropped (no reply, handler or drop of its queries is
left to run); and once all are dropped after the owner's call it has been destroyed exactly
once: by `client_data_drop` when `shutdown_and_query_in_flight` answered `true`, by the owner
when it answered `false`. -/
theorem teardown_gate {w : RmwClientWorld} (hw : Reachable w) :
    0 ≤ w.store.numInFlight ∧ w.store.numInFlight = w.queries.length ∧
      w.destroyedByOwner + w.destroyedByDrop ≤ 1 ∧
      (0 < w.destroyedByOwner + w.destroyedByDrop → w.queries = []) ∧
      (w.queries = [] → ∀ a, w.shutdownAnswer = some a →
        w.destroyedByOwner + w.destroyedByDrop = 1 ∧ (w.destroyedByDrop = 1 ↔ a = true) ∧
          (w.destroyedByOwner = 1 ↔ a = false)) := by
  obtain ⟨h1, -, h3, h4, h5⟩ := hw.teardownInv
  refine ⟨by omega, h1, ?_, ?_, ?_⟩
  · rw [h3, h4]
    split_ifs with h₁ h₂
    · simp [h₁] at h₂
    all_goals omega
  · intro hpos
    rcases ha : w.shutdownAnswer with _ | _ | _ <;> simp_all
    split_ifs at h4 <;> simp_all
  · intro hq a ha
    cases a <;> simp_all

/-- One run where the last drop destroys the store: a query is issued, the owner is told it is
in flight, then the transport drops it. -/
theorem teardown_gate_by_drop :
    let w : RmwClientWorld :=
      ⟨⟨⟨.keepAll, 0⟩, [], false, 0, true, 1, 0⟩, false, [], some true, 0, 1, [], 0⟩
    Reachable w ∧ (0 ≤ w.store.numInFlight ∧ w.store.numInFlight = w.queries.length ∧
      w.destroyedByOwner + w.destroyedByDrop ≤ 1 ∧
      (0 < w.destroyedByOwner + w.destroyedByDrop → w.queries = []) ∧
      (w.queries = [] → ∀ a, w.shutdownAnswer = some a →
        w.destroyedByOwner + w.destroyedByDrop = 1 ∧ (w.destroyedByDrop = 1 ↔ a = true) ∧
          (w.destroyedByOwner = 1 ↔ a = false))) :=
  have hw : Reachable ⟨⟨⟨.keepAll, 0⟩, [], false, 0, true, 1, 0⟩, false, [], some true, 0, 1,
      [], 0⟩ :=
    ⟨⟨.keepAll, 0⟩, (((Relation.ReflTransGen.single (Step.issue (init ⟨.keepAll, 0⟩) [] rfl)).tail
      (Step.shutdownAndQueryInFlight _ rfl)).tail (Step.drop _ [] [] rfl))⟩
  ⟨hw, teardown_gate hw⟩

end RmwClientWorld

end RmwZenoh
