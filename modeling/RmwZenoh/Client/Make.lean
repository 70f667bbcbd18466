import Mathlib.Data.List.Infix
import RmwZenoh.Client.ClientData

/-!
# Making a `ClientData`

`ClientData::make` adapts the QoS profile, derives the service type from the name of the request
type, stringifies the type hash, makes the liveliness entity, and lets `init` declare the
entity's token. Each of these can fail, and `make` then returns `nullptr`. The service type is
the request type's name cut at its first `Request_` (`std::string::find`), so that the graph
cache sees one type for the request and the response of a service.

* `stringFind`, the model of `std::string::find`, and `stringFind_eq_some_iff`: it answers the
  first occurrence;
* `map_take_stringFind_eq_some_iff`: the cut at the first occurrence is the shortest prefix
  followed by the pattern; `map_take_stringFind_append_iff`: for a pattern none of whose proper
  suffixes starts it, the cut of `t ++ pat ++ u` is `t` exactly when `pat` is not in `t`;
* **`service_type_round_trip`**: the same for `serviceTypeOf` and `Request_`, so a name holding
  `Request_` before its suffix is cut there;
* `ClientData.make`, and `make_eq_ok_iff`: the store `make` returns is `ClientData.new` of the
  adapted profile and the entity's gid, made only when every step succeeded.
-/

namespace RmwZenoh

/-! ## `std::string::find` -/

section Find

variable {α : Type} {pat : List α}

/-- `t` followed by `pat` starts `s` exactly when `t` starts `s` and `pat` starts the rest. -/
theorem append_prefix_iff {t s : List α} :
    t ++ pat <+: s ↔ t <+: s ∧ pat <+: s.drop t.length := by
  constructor
  · rintro ⟨r, rfl⟩
    exact ⟨(List.prefix_append t pat).trans (List.prefix_append _ r), by simp⟩
  · rintro ⟨ht, hp⟩
    rw [← List.prefix_iff_eq_append.1 ht]
    exact (List.prefix_append_right_inj t).2 hp

/-- An occurrence of `pat` that starts `x ++ y` and outlasts `x` continues into `y`. -/
theorem prefix_drop_of_prefix_append {x y : List α} (h : pat <+: x ++ y)
    (hx : x.length ≤ pat.length) : pat.drop x.length <+: y := by
  obtain ⟨r, hr⟩ := h
  exact ⟨r, by simpa [List.drop_append_of_le_length hx] using congrArg (List.drop x.length) hr⟩

variable [DecidableEq α]

/-- `std::string::find(pat)`: the position of the first occurrence of `pat` in `s`; `none` is
`npos`. -/
def stringFind (pat : List α) : List α → Option Nat
  | [] => if pat <+: [] then some 0 else none
  | c :: t => if pat <+: c :: t then some 0 else (stringFind pat t).map (· + 1)

/-- **First occurrence.** `find` answers `n` exactly when `pat` occurs at `n` and at no earlier
position. -/
theorem stringFind_eq_some_iff {s : List α} {n : Nat} :
    stringFind pat s = some n ↔ pat <+: s.drop n ∧ ∀ m < n, ¬ pat <+: s.drop m := by
  induction s generalizing n with
  | nil =>
    by_cases h : pat <+: []
    · cases n with
      | zero => simp [stringFind, h]
      | succ n => simpa [stringFind, h] using ⟨0, n.succ_pos⟩
    · simp [stringFind, h]
  | cons c t ih =>
    by_cases h : pat <+: c :: t
    · refine ⟨fun hn => ?_, fun ⟨_, hm⟩ => ?_⟩
      · simp only [stringFind, h, if_true, Option.some.injEq] at hn
        subst hn
        simpa using h
      · cases n with
        | zero => simp [stringFind, h]
        | succ n => exact absurd h (hm 0 n.succ_pos)
    · cases n with
      | zero => simp [stringFind, h]
      | succ n =>
        simp only [stringFind, h, if_false, Option.map_eq_some', Nat.add_right_cancel_iff,
          exists_eq_right, ih, List.drop_succ_cons]
        refine and_congr_right fun _ => ⟨fun hm m hlt => ?_, fun hm m hlt => hm (m + 1) (by omega)⟩
        cases m with
        | zero => exact h
        | succ m => exact hm m (by omega)

/-- **The cut.** `s.substr(0, s.find(pat))` is `t` exactly when `t` followed by a non-empty `pat`
starts `s` and no shorter prefix of `s` is followed by `pat`. -/
theorem map_take_stringFind_eq_some_iff (hp : pat ≠ []) {s t : List α} :
    (stringFind pat s).map s.take = some t ↔
      t ++ pat <+: s ∧ ∀ t', t' ++ pat <+: s → t.length ≤ t'.length := by
  simp only [Option.map_eq_some']
  constructor
  · rintro ⟨n, hn, rfl⟩
    obtain ⟨hpn, hm⟩ := stringFind_eq_some_iff.1 hn
    have hlen : n ≤ s.length := by
      by_contra h
      rw [List.drop_eq_nil_of_le (by omega)] at hpn
      exact hp (List.prefix_nil.1 hpn)
    have htake : (s.take n).length = n := by simp [hlen]
    rw [← htake] at hpn
    refine ⟨append_prefix_iff.2 ⟨List.take_prefix n s, hpn⟩, fun t' ht' => ?_⟩
    rw [htake]
    exact not_lt.1 fun hlt => hm _ hlt (append_prefix_iff.1 ht').2
  · rintro ⟨ht, hmin⟩
    obtain ⟨hts, hps⟩ := append_prefix_iff.1 ht
    refine ⟨t.length, stringFind_eq_some_iff.2 ⟨hps, fun m hm hpm => ?_⟩,
      (List.prefix_iff_eq_take.1 hts).symm⟩
    have hms : m ≤ s.length := by have := hts.length_le; omega
    have := hmin (s.take m)
      (append_prefix_iff.2 ⟨List.take_prefix m s, by simpa [hms] using hpm⟩)
    simp [hms] at this
    omega

/-- **Round trip.** For a non-empty `pat` none of whose proper suffixes starts it, the cut of
`t ++ pat ++ u` at the first `pat` is `t` exactly when `pat` does not occur in `t`. -/
theorem map_take_stringFind_append_iff (hp : pat ≠ [])
    (hb : ∀ j < pat.length, 0 < j → ¬ pat.drop j <+: pat) (t u : List α) :
    (stringFind pat (t ++ pat ++ u)).map (t ++ pat ++ u).take = some t ↔ ¬ pat <:+: t := by
  rw [map_take_stringFind_eq_some_iff hp]
  refine ⟨fun ⟨_, hmin⟩ ⟨a, b, hab⟩ => ?_,
    fun hn => ⟨List.prefix_append _ u, fun t' ht' => ?_⟩⟩
  · have hle := hmin a (by rw [← hab]; exact ⟨b ++ pat ++ u, by simp⟩)
    have hlen := congrArg List.length hab
    have := List.length_pos.2 hp
    simp only [List.length_append] at hlen
    omega
  · by_contra hlt
    by_cases hle : t'.length + pat.length ≤ t.length
    · -- the occurrence lies inside `t`
      obtain ⟨r, hr⟩ := List.prefix_of_prefix_length_le ht'
        ((List.prefix_append t pat).trans (List.prefix_append _ u)) (by simpa using hle)
      exact hn ⟨t', r, hr⟩
    · -- the occurrence straddles the end of `t`: a proper suffix of `pat` starts `pat`
      have hd := (append_prefix_iff.1 ht').2
      rw [List.append_assoc, List.drop_append_of_le_length (by omega)] at hd
      have hj := prefix_drop_of_prefix_append hd (by simp; omega)
      exact hb _ (by simp; omega) (by simp; omega)
        (List.prefix_of_prefix_length_le hj (List.prefix_append pat u) (by simp))

end Find

/-! ## The service type -/

/-- The service type `make` puts in the client's topic info: the request type's name up to its
first `Request_`; `none` is the branch that logs "Unexpected type". The pattern is ASCII, so its
first position among the characters cuts where its first position among the bytes does. -/
def serviceTypeOf (requestType : String) : Option String :=
  ((stringFind "Request_".toList requestType.toList).map requestType.toList.take).map String.mk

/-- No proper suffix of `Request_` starts it. -/
theorem request_border_free :
    ∀ j < "Request_".toList.length, 0 < j → ¬ "Request_".toList.drop j <+: "Request_".toList := by
  decide

theorem string_mk_injective : Function.Injective String.mk := fun _ _ h => congrArg String.data h

/-- **Service type round trip.** For every `t` and `u`, the service type of the request type
`t ++ "Request_" ++ u` is `t` exactly when `Request_` does not occur in `t`: the conventional
`…_Request_` loses exactly its suffix, and a type whose own name holds `Request_` is cut there. -/
theorem service_type_round_trip (t u : String) :
    serviceTypeOf (t ++ "Request_" ++ u) = some t ↔ ¬ "Request_".toList <:+: t.toList := by
  rw [serviceTypeOf, show some t = (some t.toList).map String.mk from rfl,
    (Option.map_injective string_mk_injective).eq_iff]
  simpa [String.toList] using
    map_take_stringFind_append_iff (by decide) request_border_free t.toList u.toList

/-! ## `make` -/

/-- The fields of `liveliness::TopicInfo` that `make` fills for a client. -/
structure TopicInfo where
  domainId : Nat
  name : String
  type : String
  typeHash : String
  qos : QosProfile

/-- What `make` meets outside `src/`: the profile `QoS::best_available_qos` adapts the requested
one to (`none` when it fails), the name of the request type, the type hash as
`rosidl_stringify_type_hash` writes it (`none` for `RCUTILS_RET_BAD_ALLOC`), the gid of the entity
`liveliness::Entity::make` builds from the topic info (`none` for a null entity), and whether the
`liveliness_declare_token` of `init` succeeded. -/
structure MakeEnv where
  adaptedQos : Option QosProfile
  requestTypeName : String
  typeHash : Option String
  entity : TopicInfo → Option Gid
  tokenDeclared : Bool

/-- Why `make` returned `nullptr`: the message it set with `RMW_SET_ERROR_MSG`, or the one it
only logged. -/
inductive MakeFailure
  | errorSet (msg : String)
  | logged (msg : String)
  deriving DecidableEq, Repr

namespace ClientData

/-- `ClientData::make`, with `init`, for the service `serviceName` of the domain `domainId`. -/
def make (domainId : Nat) (serviceName : String) (e : MakeEnv) :
    Except MakeFailure ClientData := do
  let some qos := e.adaptedQos | throw (.errorSet "Failed to obtain adapted_qos_profile.")
  let some serviceType := serviceTypeOf e.requestTypeName
    | throw (.logged ("Unexpected type " ++ e.requestTypeName ++ " for client " ++ serviceName ++
        ". Report this bug"))
  let some typeHash := e.typeHash | throw (.errorSet "Failed to allocate type_hash_c_str.")
  let some gid := e.entity ⟨domainId, serviceName, serviceType, typeHash, qos⟩
    | throw (.logged ("Unable to generate keyexpr for liveliness token for the client " ++
        serviceName ++ "."))
  if e.tokenDeclared then return new qos gid
  else throw (.logged "Unable to create liveliness token for the client.")

/-- `make` returns a store exactly when every step succeeds, and the store is the fresh one of
the adapted profile and the gid of the entity built with the cut service type. -/
theorem make_eq_ok_iff {domainId : Nat} {serviceName : String} {e : MakeEnv} {s : ClientData} :
    make domainId serviceName e = .ok s ↔
      ∃ qos serviceType typeHash gid, e.adaptedQos = some qos ∧
        serviceTypeOf e.requestTypeName = some serviceType ∧ e.typeHash = some typeHash ∧
        e.entity ⟨domainId, serviceName, serviceType, typeHash, qos⟩ = some gid ∧
        e.tokenDeclared = true ∧ s = new qos gid := by
  unfold make
  cases e.adaptedQos <;> cases serviceTypeOf e.requestTypeName <;> cases e.typeHash <;> simp
  rename_i qos serviceType typeHash
  cases e.entity ⟨domainId, serviceName, serviceType, typeHash, qos⟩ <;> cases e.tokenDeclared <;>
    simp [eq_comm, pure, Except.pure]

end ClientData

end RmwZenoh
