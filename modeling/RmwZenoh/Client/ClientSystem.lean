import Mathlib.Algebra.Group.Int
import Mathlib.Logic.Relation
import RmwZenoh.Client.ClientData

/-!
# A `ClientData` among its threads

The transport runs `client_data_handler` and `client_data_drop` on its own threads, the
application calls the store's methods, the owner (`rmw_destroy_client`) calls
`shutdown_and_query_in_flight` and deletes the store when it answers `false`, and a wait set
is attached and detached around waits. `Step` is one critical section of any of them; a
handler is two (the shutdown check, then `add_new_reply`), and the transport runs a query's
drop only after all of its handlers.

* `ClientWorld`, `Step`, `Reachable`;
* `numInFlight_nonpos`: `send_request` never counts the query it issues, so the counter only
  goes down;
* `deleted_with_query_outstanding`: a `send_request` followed by the owner's shutdown deletes
  the store while the transport still has the query's drop to run;
* `SequenceInv` and **`request_sequence_numbers`**: the issuing calls number their requests
  1, 2, 3, … modulo 2^64, failing calls take no number, and each attachment decodes to the
  number written and the client's gid;
* `sequence_id_wraps_negative`: the 2^63-th request is written as -2^63.
-/

namespace RmwZenoh

/-- What the client's methods call outside `src/`: `hash_gid`, the serializer's length code,
the response type support's deserializer and the `attachement_data_t` constructor. -/
structure Collaborators where
  hashGid : Gid → Nat
  codec : LengthCodec
  Response : Type
  deserialize : Bytes → Option Response
  attachementData : Bytes → ClientData.ReplyAttachment

/-- A query `send_request` issued, as the transport holds it: the replies it has still to
deliver, and the handler invocations that passed the shutdown check and have still to append. -/
structure Query where
  replies : List ZReply
  handling : List ZReply
  deriving DecidableEq

/-- A `ClientData` with the threads around it. `triggered` is the wait set's flag;
`shutdownAnswer` is what `shutdown_and_query_in_flight` returned to the owner, once called;
`deletions` counts `delete_client_data` calls for this store. `appended` and `notifications`
record every reply the store appended and every time it notified the wait set; `requests`
records, for each `send_request` call that issued a query, the value it wrote to `*sequence_id`
and the query it handed to `z_get`, in the order the calls took the mutex. -/
structure ClientWorld where
  store : ClientData
  triggered : Bool
  queries : List Query
  shutdownAnswer : Option Bool
  deletions : Nat
  appended : List ZenohReply
  notifications : Nat
  requests : List (BitVec 64 × ClientData.IssuedQuery)

namespace ClientWorld

/-- A new store, with nothing issued, attached or appended. -/
def init (qos : QosProfile) (gid : Gid) : ClientWorld :=
  ⟨ClientData.new qos gid, false, [], none, 0, [], 0, []⟩

variable (K : Collaborators)

/-- One critical section of one thread. The application uses the store until the owner
starts tearing it down; the waiter clears `triggered` only while detached. -/
inductive Step : ClientWorld → ClientWorld → Prop
  /-- `send_request`; if it issues a query, the transport will deliver `replies` to it. -/
  | sendRequest (w : ClientWorld) (e : ClientData.SendEnv) (replies : List ZReply) :
      w.shutdownAnswer = none →
      Step w { w with
        store := (w.store.sendRequest K.hashGid K.codec e).2.2
        queries := w.queries ++
          ((w.store.sendRequest K.hashGid K.codec e).2.1.map fun _ => ⟨replies, []⟩).toList
        requests := w.requests ++ (w.store.sendRequest K.hashGid K.codec e).2.1.toList }
  /-- The transport hands the next reply of a query to `client_data_handler`, which checks
  `is_shutdown()` and `z_reply_is_ok`. -/
  | handlerCheck (w : ClientWorld) (pre post : List Query) (r : ZReply) (rs hs : List ZReply) :
      w.queries = pre ++ ⟨r :: rs, hs⟩ :: post →
      Step w { w with queries := pre ++ ⟨rs, (w.store.handlerCheck r).toList ++ hs⟩ :: post }
  /-- A handler past its check reads the clock and calls `add_new_reply`. -/
  | handlerAppend (w : ClientWorld) (pre post : List Query) (rs hs₁ hs₂ : List ZReply)
      (h : ZReply) (now : BitVec 64) :
      w.queries = pre ++ ⟨rs, hs₁ ++ h :: hs₂⟩ :: post →
      Step w { w with
        store := (w.store.addNewReply ⟨h, some now⟩).1
        triggered := w.triggered || (w.store.addNewReply ⟨h, some now⟩).2
        queries := pre ++ ⟨rs, hs₁ ++ hs₂⟩ :: post
        appended := w.appended ++ [⟨h, some now⟩]
        notifications := w.notifications + (w.store.addNewReply ⟨h, some now⟩).2.toNat }
  /-- `client_data_drop`, after the last handler of its query. -/
  | drop (w : ClientWorld) (pre post : List Query) (found : Bool) :
      w.queries = pre ++ ⟨[], []⟩ :: post →
      Step w { w with
        store := (w.store.decrementInFlightAndConditionallyRemove found).1
        queries := pre ++ post
        deletions := w.deletions +
          (w.store.decrementInFlightAndConditionallyRemove found).2.toNat }
  /-- `ClientData::shutdown`, as the node's shutdown calls it. -/
  | shutdown (w : ClientWorld) (undeclared : Bool) :
      w.shutdownAnswer = none →
      Step w { w with store := (w.store.shutdown undeclared).2 }
  /-- The owner calls `shutdown_and_query_in_flight` once, and deletes the store on `false`. -/
  | shutdownAndQueryInFlight (w : ClientWorld) (undeclared : Bool) :
      w.shutdownAnswer = none →
      Step w { w with
        store := (w.store.shutdownAndQueryInFlight undeclared).2
        shutdownAnswer := some (w.store.shutdownAndQueryInFlight undeclared).1
        deletions := w.deletions + (!(w.store.shutdownAndQueryInFlight undeclared).1).toNat }
  /-- `take_response`. -/
  | takeResponse (w : ClientWorld) :
      w.shutdownAnswer = none →
      Step w { w with store := (w.store.takeResponse K.deserialize K.attachementData).2 }
  /-- The waiter calls `queue_has_data_and_attach_condition_if_not`. -/
  | attach (w : ClientWorld) :
      w.shutdownAnswer = none →
      Step w { w with store := w.store.queueHasDataAndAttachConditionIfNot.2 }
  /-- The waiter calls `detach_condition_and_queue_is_empty`. -/
  | detach (w : ClientWorld) :
      w.shutdownAnswer = none →
      Step w { w with store := w.store.detachConditionAndQueueIsEmpty.2 }
  /-- The waiter clears its flag between waits. -/
  | reset (w : ClientWorld) :
      w.store.waitSetAttached = false →
      Step w { w with triggered := false }

/-- The worlds some run reaches from a new store. -/
def Reachable (w : ClientWorld) : Prop :=
  ∃ qos gid, Relation.ReflTransGen (Step K) (init qos gid) w

/-! ## The in-flight counter -/

/-- No step raises `num_in_flight_`: `send_request` issues its query without counting it. -/
theorem Step.numInFlight_le {w w' : ClientWorld} (h : Step K w w') :
    w'.store.numInFlight ≤ w.store.numInFlight := by
  cases h with
  | sendRequest e replies _ =>
    rcases ClientData.sendRequest_cases K.hashGid K.codec e w.store with ⟨-, h2⟩ | ⟨-, -, h2⟩ <;>
      simp [h2]
  | drop pre post found _ =>
    simp only [ClientData.decrementInFlightAndConditionallyRemove]
    omega
  | _ => simp

theorem numInFlight_nonpos {w : ClientWorld} (hw : Reachable K w) : w.store.numInFlight ≤ 0 := by
  obtain ⟨qos, gid, h⟩ := hw
  induction h with
  | refl => exact Int.le_refl 0
  | tail _ hs ih => exact Int.le_trans (Step.numInFlight_le K hs) ih

/-- **The teardown gate fails.** After one `send_request` the owner's
`shutdown_and_query_in_flight` finds no query in flight and the owner deletes the store, while
the transport still has that query's drop callback (and any replies) to run on it. -/
theorem deleted_with_query_outstanding (qos : QosProfile) (gid : Gid) :
    ∃ w, Reachable K w ∧ w.deletions = 1 ∧ w.queries.length = 1 ∧ w.store.numInFlight = 0 :=
  ⟨_, ⟨qos, gid, (Relation.ReflTransGen.single
      (Step.sendRequest (init qos gid) ⟨true, true, some [], 0, true⟩ [] rfl)).tail
      (Step.shutdownAndQueryInFlight _ true rfl)⟩, rfl, rfl, rfl⟩

/-! ## Sequence numbers -/

/-- What every run keeps of the request numbering of a store made with `gid`: the gid stays,
the next number is one past the count of issued requests, the issued requests carry
1, 2, 3, … modulo 2^64 in the order they took the mutex, and each attachment is the one
`create_map_and_set_sequence_num` builds from the request's number and `gid`. -/
structure SequenceInv (gid : Gid) (w : ClientWorld) : Prop where
  gid_eq : w.store.gid = gid
  sequenceNumber_eq : w.store.sequenceNumber = BitVec.ofNat 64 (w.requests.length + 1)
  numbered : w.requests.map Prod.fst =
    (List.range w.requests.length).map fun k => BitVec.ofNat 64 (k + 1)
  attachment_eq : ∀ p ∈ w.requests,
    ∃ now, p.2.attachment = createMapAndSetSequenceNum K.hashGid K.codec p.1 gid now

theorem sequenceInv_init (qos : QosProfile) (gid : Gid) : SequenceInv K gid (init qos gid) :=
  ⟨rfl, rfl, rfl, fun _ h => nomatch h⟩

section Sequence

variable {K}

/-- A step that issues nothing and keeps the gid and the number keeps the invariant. -/
theorem SequenceInv.frame {gid : Gid} {w w' : ClientWorld} (h : SequenceInv K gid w)
    (hg : w'.store.gid = w.store.gid) (hn : w'.store.sequenceNumber = w.store.sequenceNumber)
    (hr : w'.requests = w.requests) : SequenceInv K gid w' :=
  ⟨hg.trans h.gid_eq, by rw [hn, hr, h.sequenceNumber_eq], by rw [hr, h.numbered],
    hr ▸ h.attachment_eq⟩

theorem Step.sequenceInv {gid : Gid} {w w' : ClientWorld} (hs : Step K w w')
    (h : SequenceInv K gid w) : SequenceInv K gid w' := by
  cases hs with
  | sendRequest e replies _ =>
    rcases ClientData.sendRequest_cases K.hashGid K.codec e w.store with
      ⟨h1, h2⟩ | ⟨payload, h1, h2⟩
    · exact h.frame (by rw [h2]) (by rw [h2]) (by simp [h1])
    · obtain ⟨hg, hn, hm, ha⟩ := h
      refine ⟨by simp [h2, hg], ?_, ?_, ?_⟩
      · simp [h1, h2, hn, BitVec.ofNat_add_ofNat]
      · simp [h1, hm, hn, List.range_succ]
      · simp only [h1, Option.toList_some, List.mem_append, List.mem_singleton]
        rintro p (hp | rfl)
        · exact ha p hp
        · exact ⟨e.now, by rw [hg]⟩
  | _ => refine h.frame ?_ ?_ rfl <;> simp

theorem Reachable.sequenceInv {w : ClientWorld} (hw : Reachable K w) :
    SequenceInv K w.store.gid w := by
  obtain ⟨qos, gid, h⟩ := hw
  have hi : SequenceInv K gid w := by
    induction h with
    | refl => exact sequenceInv_init K qos gid
    | tail _ hs ih => exact hs.sequenceInv ih
  rwa [hi.gid_eq]

/-- The `i`-th number, as the `int64` written to `*sequence_id`, is `i + 1` below `2^63`. -/
theorem toInt_ofNat_succ {i : Nat} (h : i + 1 < 2 ^ 63) : (BitVec.ofNat 64 (i + 1)).toInt = i + 1 := by
  rw [BitVec.toInt_eq_toNat_cond, BitVec.toNat_ofNat, Nat.mod_eq_of_lt (by omega)]
  split_ifs <;> omega

/-- **Request numbering.** In every world some interleaving reaches, the calls of
`send_request` that issued a query wrote 1, 2, 3, … (as `int64`, while below 2^63) in the order
they took the mutex, and the next number is one past their count, so a call that fails or finds
the store shut down takes none; the attachment of each issued query decodes to the number
written and this client's gid. -/
theorem request_sequence_numbers {w : ClientWorld} (hw : Reachable K w) :
    w.store.sequenceNumber = BitVec.ofNat 64 (w.requests.length + 1) ∧
      ∀ i (hi : i < w.requests.length),
        (w.requests.get ⟨i, hi⟩).1 = BitVec.ofNat 64 (i + 1) ∧
        (i + 1 < 2 ^ 63 → (w.requests.get ⟨i, hi⟩).1.toInt = i + 1) ∧
        ∃ d, AttachmentData.ofZbytes K.hashGid K.codec (w.requests.get ⟨i, hi⟩).2.attachment =
            .ok d ∧ d.sequenceNumber = (w.requests.get ⟨i, hi⟩).1 ∧ d.sourceGid = w.store.gid := by
  obtain ⟨_, hn, hm, ha⟩ := hw.sequenceInv
  refine ⟨hn, fun i hi => ?_⟩
  have hnum : (w.requests.get ⟨i, hi⟩).1 = BitVec.ofNat 64 (i + 1) := by
    simpa [hi] using congrArg (·[i]?) hm
  refine ⟨hnum, fun h => hnum ▸ toInt_ofNat_succ h, ?_⟩
  obtain ⟨now, hnow⟩ := ha _ (List.get_mem w.requests i hi)
  have hd := ofZbytes_serializeToZbytes_append K.hashGid K.codec
    (AttachmentData.new K.hashGid (w.requests.get ⟨i, hi⟩).1 now w.store.gid) []
  rw [List.append_nil] at hd
  rw [hnow]
  exact ⟨_, hd, rfl, rfl⟩

end Sequence

/-- Any number of issuing `send_request` calls can follow one another on a new store. -/
theorem exists_run_issuing (qos : QosProfile) (gid : Gid) :
    ∀ n, ∃ w, Relation.ReflTransGen (Step K) (init qos gid) w ∧ w.requests.length = n ∧
      w.shutdownAnswer = none ∧ w.store.isShutdown = false
  | 0 => ⟨_, .refl, rfl, rfl, rfl⟩
  | n + 1 => by
    obtain ⟨w, hr, hl, ha, hs⟩ := exists_run_issuing qos gid n
    refine ⟨_, hr.tail (Step.sendRequest w ⟨true, true, some [], 0, true⟩ [] ha), ?_, ha, ?_⟩ <;>
      simp [ClientData.sendRequest, hs, hl]

/-- The numbering after two issuing `send_request` calls: 1, then 2. -/
theorem request_sequence_numbers_two_requests :
    let K₀ : Collaborators := ⟨fun _ => 0, leb128, Unit, fun _ => none, fun _ => ⟨0, 0, []⟩⟩
    ∃ w, Reachable K₀ w ∧ w.requests.length = 2 ∧
      (w.store.sequenceNumber = BitVec.ofNat 64 (w.requests.length + 1) ∧
        ∀ i (hi : i < w.requests.length),
          (w.requests.get ⟨i, hi⟩).1 = BitVec.ofNat 64 (i + 1) ∧
          (i + 1 < 2 ^ 63 → (w.requests.get ⟨i, hi⟩).1.toInt = i + 1) ∧
          ∃ d, AttachmentData.ofZbytes K₀.hashGid K₀.codec
              (w.requests.get ⟨i, hi⟩).2.attachment = .ok d ∧
            d.sequenceNumber = (w.requests.get ⟨i, hi⟩).1 ∧ d.sourceGid = w.store.gid) := by
  intro K₀
  obtain ⟨w, hr, hl, -, -⟩ := exists_run_issuing K₀ ⟨.keepAll, 0⟩ ⟨List.replicate 16 0, rfl⟩ 2
  have hw : Reachable K₀ w := ⟨_, _, hr⟩
  exact ⟨w, hw, hl, request_sequence_numbers hw⟩

/-- **The numbering wraps.** A client that has issued 2^63 requests wrote 1 for the first and
-2^63 for the last: the `int64` written to `*sequence_id` does not keep increasing. -/
theorem sequence_id_wraps_negative :
    let K₀ : Collaborators := ⟨fun _ => 0, leb128, Unit, fun _ => none, fun _ => ⟨0, 0, []⟩⟩
    ∃ w, Reachable K₀ w ∧ w.requests.length = 2 ^ 63 ∧
      (w.requests.map (·.1.toInt)).head? = some 1 ∧
      (w.requests.map (·.1.toInt)).getLast? = some (-2 ^ 63) := by
  intro K₀
  obtain ⟨w, hr, hl, -, -⟩ :=
    exists_run_issuing K₀ ⟨.keepAll, 0⟩ ⟨List.replicate 16 0, rfl⟩ (2 ^ 63)
  have hw : Reachable K₀ w := ⟨_, _, hr⟩
  have hm := congrArg (List.map BitVec.toInt) hw.sequenceInv.numbered
  simp only [List.map_map, hl] at hm
  refine ⟨w, hw, hl, ?_, ?_⟩
  · rw [← Function.comp_def, hm, show 2 ^ 63 = 2 ^ 63 - 1 + 1 from rfl, List.range_succ_eq_map]
    rfl
  · rw [← Function.comp_def, hm, show 2 ^ 63 = 2 ^ 63 - 1 + 1 from rfl, List.range_succ,
      List.map_append, List.getLast?_append]
    rfl

end ClientWorld

end RmwZenoh
