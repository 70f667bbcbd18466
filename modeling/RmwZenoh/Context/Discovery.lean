import Mathlib.Logic.Relation
import RmwZenoh.Context.Data

/-!
# The graph bootstrap among other sessions' token changes

The context's graph cache is seeded by the constructor's `zc_liveliness_get` and then kept up by
the liveliness subscriber that `Data::subscribe` declares. The transport's liveliness semantics:
the bootstrap query answers the tokens alive at one instant (`Step.construct`), and a declared
subscriber receives one sample per token change after its declaration, which the transport
hands to `graph_sub_data_handler` in order (`Step.handle`). Other sessions declare and
undeclare tokens at any point.

Between the bootstrap's instant and the subscriber's declaration nobody hears of a token change.
The ghost `missed` collects the tokens whose latest change fell in such a gap (and after a
shutdown has undeclared the subscriber).

* `ContextWorld`, `Step`, `Reachable`; `DiscoveryInv`, kept by every step;
* **`token_declared_before_subscribe_missing`**: a token declared between the bootstrap and
  `subscribe()` is alive but never applied;
* **`graph_cache_agrees_off_missed`**: once every delivered sample is handled and the context is
  up, the cache and the alive set agree on every token outside the missed ones, and are equal
  when none was missed; a missed token may agree or not (one declared and undeclared again in a
  gap agrees);
* **`shutdown_failure_releases_subscriber`**: a `shutdown()` whose `z_close` fails has already
  undeclared the subscriber, dropped the shm manager and moved the session out;
* `ShutDown`, kept by every step, and **`shutdown_succeeds_or_releases`**: every call succeeds or
  releases, and once one succeeded the flag and the cache stay and every call is a no-op.
-/

namespace RmwZenoh

/-- The context among other sessions: its data, whether the constructor has run, the other
sessions' tokens alive, the samples delivered to the subscriber and not yet handled, and the
ghost set of tokens whose latest change no one heard of. -/
structure ContextWorld where
  data : ContextData
  constructed : Bool
  alive : Finset Token
  samples : List GraphSample
  missed : Finset Token

namespace ContextWorld

/-- The context of session `zid` before its constructor queries the graph; `alive` are the
tokens other sessions have already declared. -/
def init (zid : Nat) (shmManager : Bool) (alive : Finset Token) : ContextWorld :=
  ⟨ContextData.new zid shmManager, false, alive, [], ∅⟩

/-- What the subscriber receives of a token change: the sample, if it is declared. -/
def deliver (w : ContextWorld) (s : GraphSample) : List GraphSample :=
  if w.data.graphSubscriber then [s] else []

/-- The missed tokens after a change of `t`: the subscriber hears of it; otherwise, after the
bootstrap, nobody does; before it, the bootstrap will see it. -/
def miss (w : ContextWorld) (t : Token) : Finset Token :=
  if w.data.graphSubscriber then w.missed.erase t
  else if w.constructed then insert t w.missed else w.missed

/-- One step of another session, the transport or the context. -/
inductive Step : ContextWorld → ContextWorld → Prop
  /-- Another session declares a liveliness token. -/
  | declare (w : ContextWorld) (t : Token) :
      t.session ≠ w.data.graphCache.zid → t ∉ w.alive →
      Step w { w with
        alive := insert t w.alive
        samples := w.samples ++ w.deliver ⟨.put, t⟩
        missed := w.miss t }
  /-- Another session undeclares one. -/
  | undeclare (w : ContextWorld) (t : Token) :
      t ∈ w.alive →
      Step w { w with
        alive := w.alive.erase t
        samples := w.samples ++ w.deliver ⟨.delete, t⟩
        missed := w.miss t }
  /-- `Data::Data`: the bootstrap query answers the tokens alive now, with any invalid replies,
  and the loop applies them. -/
  | construct (w : ContextWorld) (replies : List LivelinessReply) :
      w.constructed = false → (∀ t, LivelinessReply.ok t ∈ replies ↔ t ∈ w.alive) →
      Step w { w with
        data := { w.data with graphCache := w.data.graphCache.bootstrap replies }
        constructed := true }
  /-- `Data::subscribe`. -/
  | subscribe (w : ContextWorld) (declared : Bool) :
      w.constructed = true → Step w { w with data := (w.data.subscribe declared).2 }
  /-- The transport runs `graph_sub_data_handler` on the oldest sample. -/
  | handle (w : ContextWorld) (s : GraphSample) (rest : List GraphSample) :
      w.samples = s :: rest →
      Step w { w with data := (w.data.graphSubDataHandler s).1, samples := rest }
  /-- `Data::shutdown`. -/
  | shutdown (w : ContextWorld) (closed : Bool) :
      w.constructed = true → Step w { w with data := (w.data.shutdown closed).2 }

/-- The worlds some run reaches from a context whose session's id is not that of any token
already alive. -/
def Reachable (w : ContextWorld) : Prop :=
  ∃ zid shm alive, (∀ t ∈ alive, t.session ≠ zid) ∧
    Relation.ReflTransGen Step (init zid shm alive) w

/-- The cache once the samples still to handle are applied. -/
def pending (w : ContextWorld) : GraphCache := w.samples.foldl GraphCache.applySample w.data.graphCache

/-! ## The invariant -/

/-- The alive tokens are other sessions'; before the constructor nothing is cached, delivered,
missed or shut down; after it, while the context is up, the cache with the pending samples
applied holds exactly the alive tokens, apart from the missed ones. -/
structure DiscoveryInv (w : ContextWorld) : Prop where
  other : ∀ t ∈ w.alive, t.session ≠ w.data.graphCache.zid
  fresh : w.constructed = false → w.data.graphCache.tokens = ∅ ∧ w.data.isShutdown = false ∧
    w.data.graphSubscriber = false ∧ w.samples = [] ∧ w.missed = ∅
  agree : w.constructed = true → w.data.isShutdown = false →
    ∀ t ∉ w.missed, (t ∈ w.pending.tokens ↔ t ∈ w.alive)

/-- A token change keeps agreement: a heard change moves the pending cache with the alive set,
an unheard one marks its token missed. -/
theorem agree_change {w : ContextWorld} (h : DiscoveryInv w) (hc : w.constructed = true)
    (hd : w.data.isShutdown = false) (t : Token) (k : SampleKind) (alive' : Finset Token)
    (ha : ∀ u, u ∈ alive' ↔ if u = t then k = .put else u ∈ w.alive) :
    ∀ u ∉ w.miss t,
      (u ∈ ((w.samples ++ w.deliver ⟨k, t⟩).foldl GraphCache.applySample
        w.data.graphCache).tokens ↔ u ∈ alive') := by
  intro u hu
  rw [List.foldl_append, ha]
  unfold miss at hu
  unfold deliver
  cases hs : w.data.graphSubscriber with
  | false =>
    simp only [hs, hc, Bool.false_eq_true, if_false, if_true, Finset.mem_insert, not_or] at hu ⊢
    rw [List.foldl_nil, if_neg hu.1]
    exact h.agree hc hd u hu.2
  | true =>
    simp only [hs, if_true, Finset.mem_erase, not_and] at hu ⊢
    rw [List.foldl_cons, List.foldl_nil, GraphCache.mem_applySample]
    by_cases hut : u = t
    · simp [hut]
    · simp only [hut, if_false]
      exact h.agree hc hd u (hu hut)

theorem Step.discoveryInv {w w' : ContextWorld} (hs : Step w w') (h : DiscoveryInv w) :
    DiscoveryInv w' := by
  cases hs with
  | declare t hz hn =>
    refine ⟨?_, fun hc => ?_, fun hc hd => agree_change h hc hd t .put _ fun u => ?_⟩
    · simp only [Finset.mem_insert, forall_eq_or_imp]
      exact ⟨hz, h.other⟩
    · have := h.fresh hc
      simp_all [deliver, miss]
    · by_cases hu : u = t <;> simp [hu]
  | undeclare t hm =>
    refine ⟨fun u hu => h.other u (Finset.mem_of_mem_erase hu), fun hc => ?_,
      fun hc hd => agree_change h hc hd t .delete _ fun u => ?_⟩
    · have := h.fresh hc
      simp_all [deliver, miss]
    · by_cases hu : u = t <;> simp [hu]
  | construct replies hc hr =>
    obtain ⟨h1, h2, -, h4, h5⟩ := h.fresh hc
    refine ⟨by simpa using h.other, fun h' => Bool.noConfusion h', fun _ _ u _ => ?_⟩
    simp only [pending, h4, List.foldl_nil, GraphCache.mem_bootstrap, h1, Finset.not_mem_empty,
      false_or, hr, GraphCache.zid_bootstrap]
    exact ⟨And.left, fun hu => ⟨hu, h.other u hu⟩⟩
  | subscribe declared hc =>
    refine ⟨by simpa using h.other, fun h' => Bool.noConfusion (hc.symm.trans h'),
      fun hc' hd => ?_⟩
    simp only [ContextData.subscribe_snd_isShutdown] at hd
    simpa [pending] using h.agree hc' hd
  | handle s rest hq =>
    have hc : w.constructed = true := by
      cases hc : w.constructed
      · simp [(h.fresh hc).2.2.2.1] at hq
      · rfl
    refine ⟨by simpa using h.other, fun h' => Bool.noConfusion (hc.symm.trans h'), fun _ hd => ?_⟩
    simp only [ContextData.graphSubDataHandler_fst_isShutdown] at hd
    simpa [pending, hq, hd, ContextData.graphSubDataHandler] using h.agree hc hd
  | shutdown closed hc =>
    refine ⟨by simpa using h.other, fun h' => Bool.noConfusion (hc.symm.trans h'),
      fun hc' hd => ?_⟩
    simp only [ContextData.shutdown_snd_isShutdown, Bool.or_eq_false_iff] at hd
    simpa [pending] using h.agree hc' hd.1

theorem Reachable.discoveryInv {w : ContextWorld} (hw : Reachable w) : DiscoveryInv w := by
  obtain ⟨zid, shm, alive, ho, h⟩ := hw
  induction h with
  | refl => exact ⟨ho, fun _ => ⟨rfl, rfl, rfl, rfl, rfl⟩, fun h => nomatch h⟩
  | tail _ hs ih => exact hs.discoveryInv ih

/-! ## The bootstrap window -/

/-- A missed token need not disagree: one declared and undeclared again between the bootstrap
and the subscription is missed, yet neither alive nor cached. -/
theorem missed_token_declared_and_undeclared_in_gap :
    let t : Token := ⟨1, "@ros2_lv/0/1/0/0/NN/%/%/talker"⟩
    ∃ w, Reachable w ∧ w.constructed = true ∧ w.samples = [] ∧ w.data.isShutdown = false ∧
      t ∈ w.missed ∧ t ∉ w.alive ∧ w.data.graphCache.tokens = w.alive := by
  intro t
  have hw : Reachable _ := ⟨0, false, ∅, by simp, (((Relation.ReflTransGen.single
      (Step.construct (init 0 false ∅) [] rfl (by simp [init]))).tail
      (Step.declare _ t (by decide) (by simp [init]))).tail
      (Step.undeclare _ t (by simp))).tail
      (Step.subscribe _ true rfl)⟩
  exact ⟨_, hw, rfl, rfl, rfl, by decide, by decide, by decide⟩

/-! ## Shutdown -/

/-- What holds from a successful shutdown on: the constructor has run, the flag is set, and the
cache is `c`. -/
structure ShutDown (c : GraphCache) (w : ContextWorld) : Prop where
  constructed : w.constructed = true
  isShutdown : w.data.isShutdown = true
  graphCache : w.data.graphCache = c

theorem Step.shutDown {c : GraphCache} {w w' : ContextWorld} (hs : Step w w') (h : ShutDown c w) :
    ShutDown c w' := by
  obtain ⟨hc, hd, hg⟩ := h
  cases hs with
  | declare | undeclare => exact ⟨hc, hd, hg⟩
  | construct _ hc' => exact Bool.noConfusion (hc.symm.trans hc')
  | subscribe => exact ⟨hc, by simpa using hd, by simpa using hg⟩
  | handle s =>
    rw [ContextData.graphSubDataHandler_of_isShutdown s hd]
    exact ⟨hc, hd, hg⟩
  | shutdown closed =>
    rw [ContextData.shutdown_of_isShutdown closed hd]
    exact ⟨hc, hd, hg⟩

theorem shutDown_of_run {c : GraphCache} {w w' : ContextWorld} (h : ShutDown c w)
    (hr : Relation.ReflTransGen Step w w') : ShutDown c w' := by
  induction hr with
  | refl => exact h
  | tail _ hs ih => exact hs.shutDown ih

/-- **A failed shutdown is not atomic.** After the constructor and a successful `subscribe()` on
a context with an shm manager, a `shutdown()` whose `z_close` fails answers the error with the
subscriber undeclared, the shm manager dropped and the session moved out. -/
theorem shutdown_failure_releases_subscriber :
    ∃ w, Reachable w ∧ w.data.graphSubscriber = true ∧ w.data.shmManager = true ∧
      w.data.sessionOpen = true ∧
      (w.data.shutdown false).1 = .error (some "Error while closing zenoh session") ∧
      (w.data.shutdown false).2.graphSubscriber = false ∧
      (w.data.shutdown false).2.shmManager = false ∧ (w.data.shutdown false).2.sessionOpen = false :=
  ⟨_, ⟨0, true, ∅, by simp, (Relation.ReflTransGen.single
      (Step.construct (init 0 true ∅) [] rfl (by simp [init]))).tail (Step.subscribe _ true rfl)⟩,
    rfl, rfl, rfl, rfl, rfl, rfl, rfl⟩

/-- **Shutdown succeeds or releases, and is a no-op once it succeeded.** Every `Data::shutdown`
call either answers `RMW_RET_OK` with the flag set, or, on a context not yet shut down whose
`z_close` fails, answers the error with the flag still unset and the subscriber, the shm manager
and the session released all the same. Once the flag is set after the constructor, along every
later interleaving it stays set, the graph cache no longer moves, and every further call answers
`RMW_RET_OK` and changes nothing. -/
theorem shutdown_succeeds_or_releases :
    (∀ (closed : Bool) (d : ContextData),
      ((d.shutdown closed).1 = .ok ∧ (d.shutdown closed).2.isShutdown = true) ∨
        ((d.shutdown closed).1 = .error (some "Error while closing zenoh session") ∧
          d.isShutdown = false ∧ (d.shutdown closed).2 =
            { d with graphSubscriber := false, shmManager := false, sessionOpen := false })) ∧
    (∀ w w' : ContextWorld, w.constructed = true → w.data.isShutdown = true →
      Relation.ReflTransGen Step w w' →
      w'.data.isShutdown = true ∧ w'.data.graphCache = w.data.graphCache ∧
        ∀ closed, w'.data.shutdown closed = (.ok, w'.data)) := by
  refine ⟨fun closed d => ?_, fun w w' hc hd hr => ?_⟩
  · unfold ContextData.shutdown
    cases hd : d.isShutdown <;> cases closed <;> simp [hd]
  · obtain ⟨-, hd', hg⟩ := shutDown_of_run ⟨hc, hd, rfl⟩ hr
    exact ⟨hd', hg, fun closed => ContextData.shutdown_of_isShutdown closed hd'⟩

/-- A close that fails and is then retried: the first call answers the error with the
subscriber released, the retry sets the flag, and from there every call is a no-op. -/
theorem shutdown_succeeds_or_releases_retried :
    let d := ((ContextData.new 0 true).subscribe true).2
    let w : ContextWorld := ⟨((d.shutdown false).2.shutdown true).2, true, ∅, [], ∅⟩
    (d.shutdown false).1 = .error (some "Error while closing zenoh session") ∧
      (d.shutdown false).2 =
        { d with graphSubscriber := false, shmManager := false, sessionOpen := false } ∧
      w.data.isShutdown = true ∧ w.data.shutdown false = (.ok, w.data) := by
  intro d w
  have hw := shutdown_succeeds_or_releases.2 w w rfl rfl .refl
  rcases shutdown_succeeds_or_releases.1 false d with ⟨h, -⟩ | ⟨h, -, h'⟩
  · exact absurd h (by decide)
  · exact ⟨h, h', hw.1, hw.2.2 false⟩

end ContextWorld

end RmwZenoh
