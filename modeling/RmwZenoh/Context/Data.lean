import Mathlib.Data.Finset.Basic
import RmwZenoh.Client.ClientData

/-!
# `rmw_context_impl_s::Data`

The context's shared data, as the graph bootstrap, the liveliness subscription and shutdown use
it. The graph cache (`GraphCache`, not under `src/`) is seen through the liveliness tokens it has
applied: `parse_put` adds a token, or skips it when asked to ignore the cache's own session, and
`parse_del` removes it.

* `Token`, `GraphCache.parsePut`, `GraphCache.parseDel`, `GraphCache.applySample`;
* `GraphCache.bootstrap`: the constructor's loop over the replies of `zc_liveliness_get`;
* `ContextData.subscribe`, `ContextData.graphSubDataHandler`, `ContextData.shutdown`;
* `mem_bootstrap`: the bootstrap applies the other sessions' tokens among the valid replies.
-/

namespace RmwZenoh

/-- A liveliness token: its key expression and the id of the session that declared it, which
the graph cache reads out of the key. -/
structure Token where
  session : Nat
  key : String
  deriving DecidableEq, Repr

/-- `z_sample_kind_t`. -/
inductive SampleKind
  | put
  | delete
  deriving DecidableEq, Repr

/-- A sample of the liveliness subscriber: a token declared (`PUT`) or undeclared (`DELETE`). -/
structure GraphSample where
  kind : SampleKind
  token : Token
  deriving DecidableEq, Repr

/-- A reply to the bootstrap `zc_liveliness_get`: a sample of a token alive, or an invalid
reply. -/
inductive LivelinessReply
  | ok (token : Token)
  | err
  deriving DecidableEq, Repr

/-- The graph cache, seen through the tokens it has applied; `zid` is its own session's id. -/
structure GraphCache where
  zid : Nat
  tokens : Finset Token

namespace GraphCache

/-- `GraphCache::parse_put`. -/
def parsePut (t : Token) (ignoreFromCurrentSession : Bool) (g : GraphCache) : GraphCache :=
  if ignoreFromCurrentSession && t.session == g.zid then g
  else { g with tokens := insert t g.tokens }

/-- `GraphCache::parse_del`. -/
def parseDel (t : Token) (g : GraphCache) : GraphCache :=
  { g with tokens := g.tokens.erase t }

/-- The `switch` of `graph_sub_data_handler`: a `PUT` goes to `parse_put`, a `DELETE` to
`parse_del`. -/
def applySample (g : GraphCache) (s : GraphSample) : GraphCache :=
  match s.kind with
  | .put => g.parsePut s.token false
  | .delete => g.parseDel s.token

/-- The loop of `Data::Data` over the replies of the bootstrap `zc_liveliness_get`: each valid
reply's token is put into the graph cache, ignoring tokens of this session; an invalid reply is
only logged. -/
def bootstrap (g : GraphCache) : List LivelinessReply → GraphCache
  | [] => g
  | .ok t :: rs => (g.parsePut t true).bootstrap rs
  | .err :: rs => g.bootstrap rs

@[simp] theorem zid_parsePut (t : Token) (b : Bool) (g : GraphCache) :
    (g.parsePut t b).zid = g.zid := by
  unfold parsePut
  split <;> rfl

@[simp] theorem zid_parseDel (t : Token) (g : GraphCache) : (g.parseDel t).zid = g.zid := rfl

@[simp] theorem zid_applySample (g : GraphCache) (s : GraphSample) :
    (g.applySample s).zid = g.zid := by
  unfold applySample
  split <;> simp

theorem mem_parsePut {t u : Token} {b : Bool} {g : GraphCache} :
    u ∈ (g.parsePut t b).tokens ↔ u ∈ g.tokens ∨ (u = t ∧ (b = false ∨ t.session ≠ g.zid)) := by
  unfold parsePut
  cases b <;> by_cases h : t.session = g.zid <;> by_cases hu : u = t <;> simp [h, hu]

@[simp] theorem mem_parseDel {t u : Token} {g : GraphCache} :
    u ∈ (g.parseDel t).tokens ↔ u ≠ t ∧ u ∈ g.tokens :=
  Finset.mem_erase

/-- A sample leaves the cache holding its token exactly when it is a `PUT`. -/
theorem mem_applySample {g : GraphCache} {s : GraphSample} {u : Token} :
    u ∈ (g.applySample s).tokens ↔
      if u = s.token then s.kind = .put else u ∈ g.tokens := by
  unfold applySample
  cases s.kind <;> by_cases hu : u = s.token <;> simp [mem_parsePut, hu]

@[simp] theorem zid_bootstrap (g : GraphCache) (rs : List LivelinessReply) :
    (g.bootstrap rs).zid = g.zid := by
  induction rs generalizing g with
  | nil => rfl
  | cons r rs ih => cases r <;> simp [bootstrap, ih]

/-- **The bootstrap.** After the loop, the cache holds what it held and the tokens of the valid
replies that are not of its own session. -/
theorem mem_bootstrap {g : GraphCache} {rs : List LivelinessReply} {u : Token} :
    u ∈ (g.bootstrap rs).tokens ↔
      u ∈ g.tokens ∨ (LivelinessReply.ok u ∈ rs ∧ u.session ≠ g.zid) := by
  induction rs generalizing g with
  | nil => simp [bootstrap]
  | cons r rs ih =>
    cases r with
    | ok t =>
      simp only [bootstrap, ih, mem_parsePut, zid_parsePut, List.mem_cons, LivelinessReply.ok.injEq,
        Bool.true_eq_false, false_or]
      rcases eq_or_ne u t with rfl | hu <;> tauto
    | err => simp [bootstrap, ih]

end GraphCache

/-- The fields of `rmw_context_impl_s::Data` that the bootstrap, the subscription, the handler
and shutdown read and write. `graphSubscriber` is whether `graph_subscriber_` holds a declared
subscriber, `shmManager` whether `shm_manager_` holds a live manager, `sessionOpen` whether
`session_` still holds the open session. -/
structure ContextData where
  graphCache : GraphCache
  isShutdown : Bool
  isInitialized : Bool
  graphSubscriber : Bool
  shmManager : Bool
  sessionOpen : Bool

namespace ContextData

/-- The member initializers of `Data::Data`, for the session `zid`: an empty graph cache, no
subscriber, nothing shut down or initialized. -/
def new (zid : Nat) (shmManager : Bool) : ContextData :=
  ⟨⟨zid, ∅⟩, false, false, false, shmManager, true⟩

/-- `Data::subscribe`: declare the liveliness subscriber once. `declared` is whether
`zc_liveliness_declare_subscriber` gave a valid subscriber; otherwise the scope exit undeclares
it and the call fails. -/
def subscribe (declared : Bool) (d : ContextData) : RmwRet × ContextData :=
  if d.isInitialized then (.ok, d)
  else if declared then (.ok, { d with graphSubscriber := true, isInitialized := true })
  else (.error (some "unable to create zenoh subscription"), d)

/-- `graph_sub_data_handler`, under `mutex_`: nothing once shut down; otherwise the sample goes
to the graph cache and the graph guard condition is triggered. The Boolean is whether it was. -/
def graphSubDataHandler (s : GraphSample) (d : ContextData) : ContextData × Bool :=
  if d.isShutdown then (d, false)
  else ({ d with graphCache := d.graphCache.applySample s }, true)

/-- `Data::shutdown`, under `mutex_`: nothing once shut down; otherwise undeclare the graph
subscriber, drop the shm manager and move the session into `z_close` (`closed` is whether it
succeeded), and set `is_shutdown_` only on success. -/
def shutdown (closed : Bool) (d : ContextData) : RmwRet × ContextData :=
  if d.isShutdown then (.ok, d)
  else
    let d := { d with graphSubscriber := false, shmManager := false, sessionOpen := false }
    if closed then (.ok, { d with isShutdown := true })
    else (.error (some "Error while closing zenoh session"), d)

@[simp] theorem subscribe_snd_graphCache (b : Bool) (d : ContextData) :
    (d.subscribe b).2.graphCache = d.graphCache := by
  unfold subscribe
  split_ifs <;> rfl

@[simp] theorem subscribe_snd_isShutdown (b : Bool) (d : ContextData) :
    (d.subscribe b).2.isShutdown = d.isShutdown := by
  unfold subscribe
  split_ifs <;> rfl

@[simp] theorem graphSubDataHandler_fst_isShutdown (s : GraphSample) (d : ContextData) :
    (d.graphSubDataHandler s).1.isShutdown = d.isShutdown := by
  unfold graphSubDataHandler
  split_ifs <;> rfl

@[simp] theorem zid_graphSubDataHandler_fst (s : GraphSample) (d : ContextData) :
    (d.graphSubDataHandler s).1.graphCache.zid = d.graphCache.zid := by
  unfold graphSubDataHandler
  split_ifs <;> simp

@[simp] theorem shutdown_snd_graphCache (b : Bool) (d : ContextData) :
    (d.shutdown b).2.graphCache = d.graphCache := by
  unfold shutdown
  split_ifs <;> rfl

/-- After `shutdown` the flag is set exactly when it was, or the close succeeded. -/
@[simp] theorem shutdown_snd_isShutdown (b : Bool) (d : ContextData) :
    (d.shutdown b).2.isShutdown = (d.isShutdown || b) := by
  unfold shutdown
  cases h : d.isShutdown <;> cases b <;> simp [h]

/-- Once shut down, the handler applies nothing and triggers nothing. -/
theorem graphSubDataHandler_of_isShutdown (s : GraphSample) {d : ContextData}
    (hd : d.isShutdown = true) : d.graphSubDataHandler s = (d, false) := by
  simp [graphSubDataHandler, hd]

/-- Once shut down, `Data::shutdown` answers `RMW_RET_OK` and changes nothing. -/
theorem shutdown_of_isShutdown (closed : Bool) {d : ContextData} (hd : d.isShutdown = true) :
    d.shutdown closed = (.ok, d) := by
  simp [shutdown, hd]

end ContextData

end RmwZenoh
