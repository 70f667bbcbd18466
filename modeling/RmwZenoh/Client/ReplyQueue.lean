import Mathlib.Data.List.Basic

/-!
# Reply queues

Both reply stores keep their replies in a `std::deque` bounded by the adapted QoS profile.
`add_new_reply` discards the front reply when the history is not `KEEP_ALL` and `depth`
replies are queued, then appends; a removal pops the front. `pushReply` and `popReply` are
these two updates, shared by `ClientData` and `rmw_client_data_t`; `runQueue` runs a sequence
of them, recording every reply that leaves the queue.

* `pushReply_conserve`, `removeReply_conserve`: what leaves the queue, followed by the queue,
  is the queue before followed by what was appended;
* **`runQueue_conserve`**, `removed_sublist_runQueue`: over a whole run, so removals hand
  replies out in append order, each at most once;
* **`length_runQueue_le`**: a bounded queue never holds more than `depth` replies;
* `pushReply_of_length_le`: an append discards a reply exactly when the queue is bounded and
  full, and then the oldest one;
* **`runQueue_appends`**: with no removals the queue holds the last `depth` replies.
-/

namespace RmwZenoh

/-- `rmw_qos_history_policy_e`. -/
inductive HistoryPolicy
  | systemDefault
  | keepLast
  | keepAll
  | unknown
  | bestAvailable
  deriving DecidableEq, Repr

/-- The fields of an adapted `rmw_qos_profile_t` that the reply queues read. -/
structure QosProfile where
  history : HistoryPolicy
  depth : Nat
  deriving DecidableEq, Repr

/-- The profiles the reply queues are meant for: `KEEP_ALL`, or a depth of at least one. -/
def QosProfile.Valid (qos : QosProfile) : Prop := qos.history = .keepAll ∨ 1 ≤ qos.depth

instance (qos : QosProfile) : Decidable qos.Valid := inferInstanceAs (Decidable (_ ∨ _))

variable {α : Type}

/-- The queue update of `add_new_reply`, with the reply it discards. With a bounded depth of
`0` the source pops an empty deque; `tail` leaves it empty. -/
def pushReply (qos : QosProfile) (queue : List α) (r : α) : List α × Option α :=
  if qos.history ≠ .keepAll ∧ qos.depth ≤ queue.length then (queue.tail ++ [r], queue.head?)
  else (queue ++ [r], none)

/-- A removal: pop the front reply, if any. -/
def popReply : List α → Option α × List α
  | [] => (none, [])
  | r :: q => (some r, q)

/-- An append leaves the queue non-empty. -/
theorem pushReply_fst_ne_nil (qos : QosProfile) (queue : List α) (r : α) :
    (pushReply qos queue r).1 ≠ [] := by
  unfold pushReply
  split <;> simp

@[simp] theorem popReply_snd (queue : List α) : (popReply queue).2 = queue.tail := by
  cases queue <;> rfl

/-- A removal the store may refuse (`take_response` on a shut-down `ClientData`). -/
def removeReply (allowed : Bool) (queue : List α) : Option α × List α :=
  if allowed then popReply queue else (none, queue)

theorem pushReply_conserve (qos : QosProfile) (queue : List α) (r : α) :
    (pushReply qos queue r).2.toList ++ (pushReply qos queue r).1 = queue ++ [r] := by
  unfold pushReply
  split <;> cases queue <;> simp

theorem removeReply_conserve (allowed : Bool) (queue : List α) :
    (removeReply allowed queue).1.toList ++ (removeReply allowed queue).2 = queue := by
  unfold removeReply
  cases allowed <;> cases queue <;> simp [popReply]

/-- A pop that leaves the queue as long as it was found it empty. -/
theorem popReply_of_length_le {queue : List α} (h : queue.length ≤ (popReply queue).2.length) :
    popReply queue = (none, queue) := by
  cases queue with
  | nil => rfl
  | cons r q => simp only [popReply, List.length_cons] at h; omega

/-- A removal that leaves the queue as long as it was hands nothing out. -/
theorem removeReply_of_length_le {allowed : Bool} {queue : List α}
    (h : queue.length ≤ (removeReply allowed queue).2.length) :
    removeReply allowed queue = (none, queue) := by
  cases allowed
  · rfl
  · exact popReply_of_length_le h

/-- An append grows a queue of at most `depth` replies by one, up to `depth` when bounded. -/
theorem length_pushReply {qos : QosProfile} (hv : qos.Valid) {queue : List α}
    (hq : qos.history ≠ .keepAll → queue.length ≤ qos.depth) (r : α) :
    (pushReply qos queue r).1.length =
      if qos.history ≠ .keepAll then min (queue.length + 1) qos.depth else queue.length + 1 := by
  unfold pushReply
  by_cases hk : qos.history ≠ .keepAll
  · have := hq hk
    have := hv.resolve_left hk
    by_cases hl : qos.depth ≤ queue.length <;> simp [hk, hl] <;> omega
  · simp [hk]

theorem length_pushReply_le {qos : QosProfile} (hv : qos.Valid) (hb : qos.history ≠ .keepAll)
    {queue : List α} (hq : queue.length ≤ qos.depth) (r : α) :
    (pushReply qos queue r).1.length ≤ qos.depth := by
  rw [length_pushReply hv (fun _ => hq) r, if_pos hb]
  exact min_le_right _ _

/-- An append keeps the queue a suffix of the replies appended: what it discards is the front. -/
theorem pushReply_fst_suffix (qos : QosProfile) {queue appended : List α} (r : α)
    (h : queue <:+ appended) : (pushReply qos queue r).1 <:+ appended ++ [r] := by
  have key : ∀ {l : List α}, l <:+ appended → l ++ [r] <:+ appended ++ [r] := by
    rintro l ⟨t, rfl⟩
    exact ⟨t, by simp⟩
  unfold pushReply
  split
  · exact key ((List.tail_suffix queue).trans h)
  · exact key h

/-- An append keeps the queue, less the front reply it may discard, and adds the new reply at
the back. -/
theorem pushReply_fst_sublist (qos : QosProfile) (queue : List α) (r : α) :
    List.Sublist (pushReply qos queue r).1 (queue ++ [r]) := by
  unfold pushReply
  split
  · exact (List.tail_sublist queue).append_right [r]
  · exact List.Sublist.refl _

/-- An append keeps what was handed out, followed by the queue, a sublist of what was appended. -/
theorem sublist_append_pushReply {out queue appended : List α} (qos : QosProfile) (r : α)
    (h : List.Sublist (out ++ queue) appended) :
    List.Sublist (out ++ (pushReply qos queue r).1) (appended ++ [r]) := by
  refine ((pushReply_fst_sublist qos queue r).append_left out).trans ?_
  rw [← List.append_assoc]
  exact h.append_right [r]

/-- An append never shortens the queue. -/
theorem length_le_length_pushReply (qos : QosProfile) (queue : List α) (r : α) :
    queue.length ≤ (pushReply qos queue r).1.length := by
  unfold pushReply
  split <;> simp only [List.length_append, List.length_tail, List.length_singleton] <;> omega

/-- Whatever the profile, a bounded queue never holds more than `max depth 1` replies: with a
depth of `0` it keeps the newest one. -/
theorem length_pushReply_le_max {qos : QosProfile} {queue : List α} (r : α)
    (hq : qos.history ≠ .keepAll → queue.length ≤ max qos.depth 1) :
    qos.history ≠ .keepAll → (pushReply qos queue r).1.length ≤ max qos.depth 1 := by
  intro hk
  have := hq hk
  unfold pushReply
  split
  · simp only [List.length_append, List.length_tail, List.length_singleton]
    omega
  · rename_i h
    simp only [List.length_append, List.length_singleton]
    have : ¬ qos.depth ≤ queue.length := fun h' => h ⟨hk, h'⟩
    omega

theorem length_removeReply_le (allowed : Bool) (queue : List α) :
    (removeReply allowed queue).2.length ≤ queue.length := by
  unfold removeReply
  cases allowed <;> cases queue <;> simp [popReply]

/-- **Eviction.** On a queue of at most `depth` replies, an append discards a reply exactly
when the queue is bounded and holds `depth` replies, and then the oldest. -/
theorem pushReply_of_length_le {qos : QosProfile} {queue : List α}
    (hq : qos.history ≠ .keepAll → queue.length ≤ qos.depth) (r : α) :
    pushReply qos queue r =
      if qos.history ≠ .keepAll ∧ queue.length = qos.depth then (queue.tail ++ [r], queue.head?)
      else (queue ++ [r], none) :=
  if_congr ⟨fun h => ⟨h.1, by have := hq h.1; omega⟩, fun h => ⟨h.1, h.2.ge⟩⟩ rfl rfl

/-! ## Runs of appends and removals -/

/-- A call on a reply queue: `add_new_reply r`, or a removal. -/
inductive QueueOp (α : Type)
  | append (r : α)
  | remove
  deriving DecidableEq, Repr

/-- A reply leaving the queue: discarded by an append, or handed out by a removal. -/
inductive Departure (α : Type)
  | evicted (r : α)
  | removed (r : α)
  deriving DecidableEq, Repr

/-- The reply that left. -/
def Departure.reply : Departure α → α
  | .evicted r => r
  | .removed r => r

/-- The reply a removal handed out. -/
def Departure.removed? : Departure α → Option α
  | .evicted _ => none
  | .removed r => some r

/-- The replies appended by a sequence of calls. -/
def appends : List (QueueOp α) → List α
  | [] => []
  | .append r :: ops => r :: appends ops
  | .remove :: ops => appends ops

/-- Run the calls from `queue`: the final queue and the replies that left, in order. -/
def runQueue (qos : QosProfile) (allowed : Bool) : List α → List (QueueOp α) →
    List α × List (Departure α)
  | queue, [] => (queue, [])
  | queue, .append r :: ops =>
    let (queue', out) := pushReply qos queue r
    let (final, outs) := runQueue qos allowed queue' ops
    (final, (out.map .evicted).toList ++ outs)
  | queue, .remove :: ops =>
    let (out, queue') := removeReply allowed queue
    let (final, outs) := runQueue qos allowed queue' ops
    (final, (out.map .removed).toList ++ outs)

theorem map_reply_toList (o : Option α) (f : α → Departure α) (hf : ∀ r, (f r).reply = r) :
    ((o.map f).toList).map Departure.reply = o.toList := by
  cases o <;> simp [hf]

/-- **Conservation.** The replies that left, in order, followed by the final queue, are the
first queue followed by the appended replies. -/
theorem runQueue_conserve (qos : QosProfile) (allowed : Bool) (queue : List α)
    (ops : List (QueueOp α)) :
    (runQueue qos allowed queue ops).2.map Departure.reply ++ (runQueue qos allowed queue ops).1 =
      queue ++ appends ops := by
  induction ops generalizing queue with
  | nil => simp [runQueue, appends]
  | cons op ops ih =>
    cases op with
    | append r =>
      simp only [runQueue, appends, List.map_append, List.append_assoc, ih,
        map_reply_toList _ Departure.evicted (fun _ => rfl)]
      rw [← List.append_assoc, pushReply_conserve, List.append_assoc, List.singleton_append]
    | remove =>
      simp only [runQueue, appends, List.map_append, List.append_assoc, ih,
        map_reply_toList _ Departure.removed (fun _ => rfl)]
      rw [← List.append_assoc, removeReply_conserve]

theorem filterMap_removed_sublist (ds : List (Departure α)) :
    List.Sublist (ds.filterMap Departure.removed?) (ds.map Departure.reply) := by
  induction ds with
  | nil => exact List.Sublist.slnil
  | cons d ds ih =>
    cases d with
    | evicted r => exact ih.cons r
    | removed r => exact ih.cons₂ r

/-- **Removals hand replies out in append order, each at most once.** -/
theorem removed_sublist_runQueue (qos : QosProfile) (allowed : Bool) (ops : List (QueueOp α)) :
    List.Sublist ((runQueue qos allowed [] ops).2.filterMap Departure.removed?) (appends ops) := by
  have h := runQueue_conserve qos allowed [] ops
  rw [List.nil_append] at h
  exact (filterMap_removed_sublist _).trans (h ▸ List.sublist_append_left _ _)

/-- **Bound.** Under a valid bounded profile the queue never holds more than `depth` replies. -/
theorem length_runQueue_le {qos : QosProfile} (hv : qos.Valid) (hb : qos.history ≠ .keepAll)
    (allowed : Bool) {queue : List α} (hq : queue.length ≤ qos.depth) (ops : List (QueueOp α)) :
    (runQueue qos allowed queue ops).1.length ≤ qos.depth := by
  induction ops generalizing queue with
  | nil => exact hq
  | cons op ops ih =>
    cases op with
    | append r => exact ih (length_pushReply_le hv hb hq r)
    | remove => exact ih ((length_removeReply_le allowed queue).trans hq)

/-- The replies appended with no removal in between. -/
theorem length_appends_of_no_remove {ops : List (QueueOp α)} (h : QueueOp.remove ∉ ops) :
    (appends ops).length = ops.length := by
  induction ops with
  | nil => rfl
  | cons op ops ih =>
    cases op with
    | append r => simp [appends, ih (fun h' => h (List.mem_cons_of_mem _ h'))]
    | remove => exact absurd (List.mem_cons_self _ _) h

theorem length_runQueue_of_no_remove {qos : QosProfile} (hv : qos.Valid) (allowed : Bool)
    (queue : List α) (hq : qos.history ≠ .keepAll → queue.length ≤ qos.depth)
    {ops : List (QueueOp α)} (h : QueueOp.remove ∉ ops) :
    (runQueue qos allowed queue ops).1.length =
      if qos.history ≠ .keepAll then min (queue.length + ops.length) qos.depth
      else queue.length + ops.length := by
  induction ops generalizing queue with
  | nil => by_cases hk : qos.history ≠ .keepAll <;> simp [runQueue, hk, hq]
  | cons op ops ih =>
    cases op with
    | remove => exact absurd (List.mem_cons_self _ _) h
    | append r =>
      have hlen := length_pushReply hv hq r
      simp only [runQueue, List.length_cons]
      rw [ih _ (fun hk => by rw [hlen, if_pos hk]; omega)
        (fun h' => h (List.mem_cons_of_mem _ h')), hlen]
      split_ifs <;> omega

/-- **No removals.** From an empty queue, after appends alone the queue holds the last `depth`
appended replies (all of them under `KEEP_ALL`), in append order. -/
theorem runQueue_appends {qos : QosProfile} (hv : qos.Valid) (allowed : Bool)
    {ops : List (QueueOp α)} (h : QueueOp.remove ∉ ops) :
    (runQueue qos allowed [] ops).1 =
      if qos.history ≠ .keepAll then (appends ops).drop ((appends ops).length - qos.depth)
      else appends ops := by
  have hc := runQueue_conserve qos allowed [] ops
  rw [List.nil_append] at hc
  have hlen := length_runQueue_of_no_remove hv allowed [] (fun _ => Nat.zero_le _) h
  have hA := length_appends_of_no_remove h
  have hdrop : (runQueue qos allowed [] ops).1 =
      (appends ops).drop ((appends ops).length - (runQueue qos allowed [] ops).1.length) := by
    rw [← hc, List.length_append, Nat.add_sub_cancel, List.drop_left]
  rw [hdrop, hlen, hA]
  by_cases hk : qos.history ≠ .keepAll
  · simp only [if_pos hk, List.length_nil, Nat.zero_add]
    congr 1
    omega
  · simp [hk]

/-- Running one more call after a run. -/
theorem runQueue_append_op (qos : QosProfile) (allowed : Bool) (queue : List α)
    (ops : List (QueueOp α)) (op : QueueOp α) :
    runQueue qos allowed queue (ops ++ [op]) =
      ((runQueue qos allowed (runQueue qos allowed queue ops).1 [op]).1,
        (runQueue qos allowed queue ops).2 ++
          (runQueue qos allowed (runQueue qos allowed queue ops).1 [op]).2) := by
  induction ops generalizing queue with
  | nil => simp [runQueue]
  | cons op' ops ih => cases op' <;> simp [runQueue, ih]

/-! ## The law of a drop-oldest reply queue -/

/-- What a store's runs of appends and removals from an empty queue must satisfy under `qos`;
`run ops` is the final queue and the replies that left it, in order. What left, followed by the
queue, is what was appended; removals hand replies out in append order, each at most once; a
bounded queue holds at most `depth` replies; an append discards the oldest reply exactly when
the queue is bounded and holds `depth` replies; a removal hands out the oldest reply, if any,
and keeps the others; and with no removals the queue is the last `depth` replies appended (all
of them under `KEEP_ALL`). -/
structure ReplyQueueLaw (qos : QosProfile) (run : List (QueueOp α) → List α × List (Departure α)) :
    Prop where
  conserve : ∀ ops, (run ops).2.map Departure.reply ++ (run ops).1 = appends ops
  removed_sublist : ∀ ops, List.Sublist ((run ops).2.filterMap Departure.removed?) (appends ops)
  bounded : ∀ ops, qos.history ≠ .keepAll → (run ops).1.length ≤ qos.depth
  append : ∀ ops r, run (ops ++ [.append r]) =
    if qos.history ≠ .keepAll ∧ (run ops).1.length = qos.depth then
      ((run ops).1.tail ++ [r], (run ops).2 ++ ((run ops).1.head?.map .evicted).toList)
    else ((run ops).1 ++ [r], (run ops).2)
  remove : ∀ ops, run (ops ++ [.remove]) =
    ((run ops).1.tail, (run ops).2 ++ ((run ops).1.head?.map .removed).toList)
  no_remove : ∀ ops, QueueOp.remove ∉ ops → (run ops).1 =
    if qos.history ≠ .keepAll then (appends ops).drop ((appends ops).length - qos.depth)
    else appends ops

/-- **The drop-oldest law.** Every run of appends and removals from an empty queue under a valid
profile, with removals allowed, obeys `ReplyQueueLaw`. -/
theorem runQueue_law {qos : QosProfile} (hv : qos.Valid) :
    ReplyQueueLaw qos (runQueue (α := α) qos true []) where
  conserve ops := by simpa using runQueue_conserve qos true [] ops
  removed_sublist := removed_sublist_runQueue qos true
  bounded ops hb := length_runQueue_le hv hb true (Nat.zero_le _) ops
  append ops r := by
    rw [runQueue_append_op]
    have hq : qos.history ≠ .keepAll → (runQueue qos true [] ops).1.length ≤ qos.depth :=
      fun hk => length_runQueue_le hv hk true (Nat.zero_le _) ops
    generalize runQueue qos true [] ops = p at hq ⊢
    simp only [runQueue, pushReply_of_length_le hq]
    split_ifs <;> simp
  remove ops := by
    rw [runQueue_append_op]
    generalize runQueue qos true [] ops = p
    obtain ⟨q, d⟩ := p
    cases q <;> simp [runQueue, removeReply, popReply]
  no_remove ops h := runQueue_appends hv true h

end RmwZenoh
