import RaceLink.Gateways.Bind

/-! What a failed resolution leaves behind.

All actions but one check everything before they write. A rebind gives the gateway to
the network first and compares the settings then; what it cannot settle is reported
as a failure, with the network, the stamp and the record already changed
(`resolve_atomic_iff`). -/
namespace RaceLink.Gateways
open Python Library Domain Routing

/-! ### The property -/

/-- A record without its token and the note that a migration runs. -/
def BindRecord.decided (r : BindRecord) : BindRecord := {r with token := "", migrationPending := false}

/-- Nothing but the tokens differs, and nothing was saved. -/
structure Unchanged (s t : State) : Prop where
  networks : t.networks = s.networks
  devices : t.devices = s.devices
  groups : t.groups = s.groups
  transports : t.transports = s.transports
  records : t.records.map BindRecord.decided = s.records.map BindRecord.decided
  saves : t.saves = s.saves

theorem Unchanged.refl (s : State) : Unchanged s s := ⟨rfl, rfl, rfl, rfl, rfl, rfl⟩

/-- The call answered that it failed, or raised. -/
def Fails : Except PyError Reply → Prop
  | .ok reply => reply.ok = false
  | .error _ => True

instance : DecidablePred Fails
  | .ok reply => inferInstanceAs (Decidable (reply.ok = false))
  | .error _ => isTrue trivial

/-- The resolution is atomic: if it fails, nothing has changed. -/
def AtomicResolve (s : State) (identMac : String) (action : Action) (params : ResolveParams)
    (answers : Answers) : Prop :=
  Fails (resolve s identMac action params answers).1 →
    Unchanged s (resolve s identMac action params answers).2

/-! ### The condition -/

/-- A rebind that gets past its checks. -/
structure Admissible (s : State) (record : BindRecord) (params : ResolveParams) (network : NetworkRecord) :
    Prop where
  state : record.state = .unbound ∨ record.state = .conflict
  mismatch : strip params.onMismatch ∈ ["ask", "retune_gateway", "accept_gateway"]
  found : s.networkById (strip params.networkId) = some network
  kind : network.kind = .rf

/-- The gateway cannot be written to, or does not take it. -/
def Refused (s : State) (record : BindRecord) (refusal : Option String) : Prop :=
  ∀ t, s.transportFor record.identMac = some t → t.kind = .rf → refusal ≠ none

/-- The settings of the network and the gateway cannot be brought together: the gateway's
channel is taken when it would be adopted, or the gateway refuses the network's. -/
def Blocked (s : State) (record : BindRecord) (network : NetworkRecord) (onMismatch : String)
    (refusal : Option String) : Prop :=
  match network.rfConfig, record.rfConfigActual with
  | none, some cfg => occupantsOf s.networks cfg network.id ≠ .ok []
  | expected, actual =>
    match rfDiff actual expected with
    | .error _ => True
    | .ok diffs =>
      diffs ≠ [] ∧ ((onMismatch = "retune_gateway" ∧ Refused s record refusal) ∨
        (onMismatch = "accept_gateway" ∧
          ∀ cfg, actual = some cfg → occupantsOf s.networks cfg network.id ≠ .ok []))

/-- A rebind that fails after it has bound. -/
structure LateFailure (s : State) (identMac : String) (action : Action) (params : ResolveParams)
    (answers : Answers) (record : BindRecord) (network : NetworkRecord) : Prop where
  rebind : action = .rebind
  known : s.recordFor identMac = some record
  token : params.token = none ∨ params.token = some record.token
  admissible : Admissible s record params network
  blocked : Blocked s record network (strip params.onMismatch) answers.refusal

/-- The gateway is the network's already, and all that a rebind would write is there. -/
structure AlreadyBound (s : State) (record : BindRecord) (network : NetworkRecord) : Prop where
  owner : ∀ n ∈ s.networks, n.id = network.id → n.gatewayMac = some record.identMac
  others : ∀ n ∈ s.networks, n.id ≠ network.id →
    upper (n.gatewayMac.getD "") = upper record.identMac → n.gatewayMac = none
  stamp : ∀ t, s.transportFor record.identMac = some t → t.networkId = some network.id
  networkId : record.networkId = some network.id
  networkName : record.networkName = some network.name
  expected : record.rfConfigExpected = network.rfConfig

/-! ### What the binding writes -/

/-- A network after another one, or it itself, has taken over a gateway. -/
def taken (identMac networkId : String) (n : NetworkRecord) : NetworkRecord :=
  if n.id = networkId then {n with gatewayMac := some identMac}
  else State.released identMac none n

theorem bindTo_networks (s : State) (record : BindRecord) (network : NetworkRecord) :
    (bindTo s record network).networks = s.networks.map (taken record.identMac network.id) := by
  show updateKey (fun n : NetworkRecord => n.id) network.id _ (s.networks.map _) = _
  rw [updateKey, List.map_map]
  refine List.map_congr_left fun n _ => ?_
  show (if (State.released record.identMac (some network.id) n).id = network.id then _ else _) = _
  have hid : (State.released record.identMac (some network.id) n).id = n.id := by
    unfold State.released
    split <;> rfl
  rw [hid, taken]
  by_cases h : n.id = network.id
  · rw [if_pos h, if_pos h, State.released, if_neg fun hboth => hboth.1 (by rw [h])]
  · rw [if_neg h, if_neg h, State.released, State.released]
    have hkeep : some network.id ≠ some n.id := fun heq => h (Option.some.inj heq).symm
    simp [hkeep]

theorem taken_eq_self {identMac networkId : String} {n : NetworkRecord} :
    taken identMac networkId n = n ↔
      (n.id = networkId → n.gatewayMac = some identMac) ∧
        (n.id ≠ networkId → upper (n.gatewayMac.getD "") = upper identMac → n.gatewayMac = none) := by
  have hset : ∀ mac, {n with gatewayMac := mac} = n ↔ n.gatewayMac = mac := by
    intro mac
    constructor
    · intro h
      rw [← h]
    · rintro rfl
      rfl
  unfold taken
  by_cases hid : n.id = networkId
  · rw [if_pos hid, hset]
    exact ⟨fun h => ⟨fun _ => h, fun hne => absurd hid hne⟩, fun h => h.1 hid⟩
  · rw [if_neg hid, State.released]
    by_cases hmac : upper (n.gatewayMac.getD "") = upper identMac
    · rw [if_pos ⟨by simp, hmac⟩, hset]
      simp [hid, hmac]
    · rw [if_neg fun h => hmac h.2]
      simp [hid, hmac]

theorem stampFirst_eq_self {ident : String} {networkId : Option String} {ts : List Attached} :
    State.stampFirst ident networkId ts = ts ↔
      ∀ t, ts.find? (fun t => t.ident == ident) = some t → t.networkId = networkId := by
  induction ts with
  | nil => simp [State.stampFirst]
  | cons t rest ih =>
    unfold State.stampFirst
    by_cases h : t.ident = ident
    · have hset : ({t with networkId} : Attached) = t ↔ t.networkId = networkId := by
        constructor
        · intro h
          rw [← h]
        · rintro rfl
          rfl
      simp [h, hset]
    · simp [h, ih]

/-- Stamping does not change which transport is found, nor its kind. -/
theorem find?_stampFirst (ident ident' : String) (networkId : Option String) (ts : List Attached) :
    ((State.stampFirst ident networkId ts).find? fun t => t.ident == ident').map (·.kind) =
      (ts.find? fun t => t.ident == ident').map (·.kind) := by
  induction ts with
  | nil => rfl
  | cons t rest ih =>
    unfold State.stampFirst
    by_cases h : t.ident = ident
    · have hident : ({t with networkId} : Attached).ident = t.ident := rfl
      rw [if_pos h, List.find?_cons, List.find?_cons, hident]
      cases t.ident == ident' <;> rfl
    · rw [if_neg h, List.find?_cons, List.find?_cons]
      cases t.ident == ident' with
      | true => rfl
      | false => exact ih

theorem occupantOf_taken (freq sync : Int) (excludeNetworkId identMac networkId : String)
    (n : NetworkRecord) :
    occupantOf freq sync excludeNetworkId (taken identMac networkId n) =
      occupantOf freq sync excludeNetworkId n := by
  unfold taken State.released
  split
  · rfl
  · split <;> rfl

/-- Whose gateway is whose does not matter to the channels. -/
theorem occupantsOf_taken (networks : List NetworkRecord) (cfg : Dict)
    (excludeNetworkId identMac networkId : String) :
    occupantsOf (networks.map (taken identMac networkId)) cfg excludeNetworkId =
      occupantsOf networks cfg excludeNetworkId := by
  have hmap : ∀ freq sync, (networks.map (taken identMac networkId)).mapM
      (occupantOf freq sync excludeNetworkId) = networks.mapM (occupantOf freq sync excludeNetworkId) := by
    intro freq sync
    induction networks with
    | nil => rfl
    | cons n rest ih => rw [List.map_cons, List.mapM_cons, List.mapM_cons, occupantOf_taken, ih]
  unfold occupantsOf
  simp only [hmap]

/-! ### Which parts fail -/

theorem requireState_ok {text : String} {states : List BindState} {record : BindRecord} {u : Unit} :
    requireState text states record = .ok u ↔ record.state ∈ states := by
  unfold requireState
  by_cases h : record.state ∈ states <;> simp [h]

theorem lookupNetwork_ok {s : State} {networkId : String} {network : NetworkRecord} :
    lookupNetwork s (some networkId) = .ok network ↔ s.networkById networkId = some network := by
  unfold lookupNetwork
  by_cases h : networkId = ""
  · have hnone : nonEmpty (some "") = none := rfl
    rw [h, hnone]
    exact ⟨nofun, nofun⟩
  · have hne : nonEmpty (some networkId) = some networkId := nonEmpty_some.mpr ⟨rfl, h⟩
    rw [hne]
    dsimp only
    cases s.networkById networkId with
    | none => exact ⟨nofun, nofun⟩
    | some found => exact ⟨fun h => congrArg some (Except.ok.inj h), fun h => congrArg _ (Option.some.inj h)⟩

theorem rebindTarget_ok {s : State} {record : BindRecord} {params : ResolveParams}
    {network : NetworkRecord} :
    rebindTarget s record params = .ok network ↔ Admissible s record params network := by
  unfold rebindTarget
  rw [bind_ok]
  constructor
  · rintro ⟨u, hstate, h⟩
    dsimp only at h
    obtain ⟨-, h⟩ := guard_ok.mp h
    obtain ⟨hmismatch, h⟩ := guard_ok.mp h
    obtain ⟨found, hfound, h⟩ := bind_ok.mp h
    split at h
    · next hkind =>
      cases h
      exact ⟨by simpa using requireState_ok.mp hstate, not_not.mp hmismatch, lookupNetwork_ok.mp hfound, hkind⟩
    · cases h
  · rintro ⟨hstate, hmismatch, hfound, hkind⟩
    refine ⟨(), requireState_ok.mpr (by simpa using hstate), ?_⟩
    dsimp only
    refine guard_ok.mpr ⟨fun h => ?_, guard_ok.mpr ⟨not_not.mpr hmismatch, ?_⟩⟩
    · rw [h] at hfound
      cases hfound
    · rw [lookupNetwork_ok.mpr hfound, ok_bind, if_pos hkind]

theorem raising_ok {α : Type} {x : Except PyError α} {a : α} : raising x = .ok a ↔ x = .ok a := by
  cases x <;> simp [raising]

theorem pushRfToGateway_ok {s : State} {record : BindRecord} {refusal : Option String} {u : Unit} :
    pushRfToGateway s record refusal = .ok u ↔ ¬ Refused s record refusal := by
  unfold pushRfToGateway Refused
  cases ht : s.transportFor record.identMac with
  | none => simp
  | some t =>
    cases hkind : t.kind with
    | ethernet => simp [hkind]
    | rf => cases refusal <;> simp [hkind]

/-- An adoption behind a check fails if the check does, or finds an occupant. -/
theorem adoption_error {α : Type} {x : Except PyError (List Occupant)} {e : List Occupant → BindError} {a : α} :
    (∃ err, (raising x >>= fun clash => if clash ≠ [] then .error (e clash) else .ok a) = .error err) ↔
      x ≠ .ok [] := by
  cases x with
  | error err => exact ⟨fun _ => nofun, fun _ => ⟨_, rfl⟩⟩
  | ok clash =>
    rw [raising, ok_bind]
    by_cases h : clash = []
    · rw [if_neg (not_not.mpr h), h]
      exact ⟨fun herr => (nomatch herr.choose_spec), fun hne => absurd rfl hne⟩
    · rw [if_pos h]
      exact ⟨fun _ heq => h (Except.ok.inj heq), fun _ => ⟨_, rfl⟩⟩

theorem adoptGatewayConfig_error {s : State} {record : BindRecord} {network : NetworkRecord} :
    (∃ e, adoptGatewayConfig s record network = .error e) ↔
      ∀ cfg, record.rfConfigActual = some cfg → occupantsOf s.networks cfg network.id ≠ .ok [] := by
  unfold adoptGatewayConfig
  cases hactual : record.rfConfigActual with
  | none => exact ⟨fun _ => nofun, fun _ => ⟨_, rfl⟩⟩
  | some cfg =>
    refine adoption_error.trans ⟨fun h cfg' hcfg => ?_, fun h => h cfg rfl⟩
    rwa [← Option.some.inj hcfg]

theorem adoptFirst_error {s : State} {record : BindRecord} {network : NetworkRecord} {cfg : Dict} :
    (∃ e, adoptFirst s record network cfg = .error e) ↔
      occupantsOf s.networks cfg network.id ≠ .ok [] := adoption_error


/-! ### The rebind -/

theorem transportFor_bindTo (s : State) (record : BindRecord) (network : NetworkRecord) (identMac : String) :
    ((bindTo s record network).transportFor identMac).map (·.kind) =
      (s.transportFor identMac).map (·.kind) :=
  find?_stampFirst (upper record.identMac) (upper identMac) (some network.id) s.transports

theorem refused_bindTo (s : State) {record record' : BindRecord} (network : NetworkRecord)
    (refusal : Option String) (hident : record'.identMac = record.identMac) :
    Refused (bindTo s record network) record' refusal ↔ Refused s record refusal := by
  have hkinds := transportFor_bindTo s record network record.identMac
  unfold Refused
  rw [hident]
  cases hnew : (bindTo s record network).transportFor record.identMac with
  | none =>
    rw [hnew, Option.map_none, eq_comm, Option.map_eq_none_iff] at hkinds
    simp [hkinds]
  | some t =>
    rw [hnew, Option.map_some, eq_comm] at hkinds
    obtain ⟨t', ht', hkind⟩ := Option.map_eq_some_iff.mp hkinds
    simp [ht', hkind]

theorem settleMismatch_error {s : State} {record : BindRecord} {network : NetworkRecord}
    {onMismatch : String} {answers : Answers} {diffs : List String} :
    (∃ e, settleMismatch s record network onMismatch answers diffs = .error e) ↔
      (onMismatch = "retune_gateway" ∧ Refused s record answers.refusal) ∨
        (onMismatch = "accept_gateway" ∧
          ∀ cfg, record.rfConfigActual = some cfg → occupantsOf s.networks cfg network.id ≠ .ok []) := by
  have hpush : (∃ e, pushRfToGateway s record answers.refusal = .error e) ↔
      Refused s record answers.refusal := by
    cases h : pushRfToGateway s record answers.refusal with
    | ok u => exact ⟨fun herr => (nomatch herr.choose_spec), fun hr => absurd hr (pushRfToGateway_ok.mp h)⟩
    | error e =>
      refine ⟨fun _ => not_not.mp fun hr => ?_, fun _ => ⟨e, rfl⟩⟩
      rw [(pushRfToGateway_ok (u := ())).mpr hr] at h
      cases h
  unfold settleMismatch
  by_cases hretune : onMismatch = "retune_gateway"
  · have hne : onMismatch ≠ "accept_gateway" := by
      rw [hretune]
      decide
    rw [if_pos hretune, bind_error_iff fun _ => ⟨_, rfl⟩, hpush]
    simp [hretune]
  · rw [if_neg hretune]
    by_cases haccept : onMismatch = "accept_gateway"
    · rw [if_pos haccept, bind_error_iff fun _ => ⟨_, rfl⟩, adoptGatewayConfig_error]
      simp [haccept]
    · rw [if_neg haccept]
      refine ⟨fun h => (nomatch h.choose_spec), ?_⟩
      rintro (⟨h, -⟩ | ⟨h, -⟩)
      · exact absurd h hretune
      · exact absurd h haccept

/-- **After the binding, a rebind fails just where it is blocked.** -/
theorem settle_error {s : State} {record : BindRecord} {network : NetworkRecord} {onMismatch : String}
    {answers : Answers} :
    (∃ e, settle (bindTo s record network) (boundRecord record network) network onMismatch answers =
        .error e) ↔ Blocked s record network onMismatch answers.refusal := by
  have hoccupants : ∀ cfg, occupantsOf (bindTo s record network).networks cfg network.id =
      occupantsOf s.networks cfg network.id := fun cfg => by
    rw [bindTo_networks, occupantsOf_taken]
  have hmismatch : ∀ diffs, (∃ e, settleMismatch (bindTo s record network) (boundRecord record network)
      network onMismatch answers diffs = .error e) ↔
        (onMismatch = "retune_gateway" ∧ Refused s record answers.refusal) ∨
          (onMismatch = "accept_gateway" ∧ ∀ cfg, record.rfConfigActual = some cfg →
            occupantsOf s.networks cfg network.id ≠ .ok []) := by
    intro diffs
    have hident : (boundRecord record network).identMac = record.identMac := rfl
    rw [settleMismatch_error, refused_bindTo s network answers.refusal hident]
    simp only [hoccupants]
    rfl
  have hcompare : ∀ expected actual (reply : Reply × State × BindRecord),
      (∃ e, (raising (rfDiff actual expected) >>= fun diffs => if diffs = [] then .ok reply
        else settleMismatch (bindTo s record network) (boundRecord record network) network onMismatch
          answers diffs) = .error e) ↔
        match rfDiff actual expected with
        | .error _ => True
        | .ok diffs => diffs ≠ [] ∧ ((onMismatch = "retune_gateway" ∧ Refused s record answers.refusal) ∨
          (onMismatch = "accept_gateway" ∧ ∀ cfg, record.rfConfigActual = some cfg →
            occupantsOf s.networks cfg network.id ≠ .ok [])) := by
    intro expected actual reply
    cases rfDiff actual expected with
    | error e => exact ⟨fun _ => trivial, fun _ => ⟨_, rfl⟩⟩
    | ok diffs =>
      rw [raising, ok_bind]
      by_cases h : diffs = []
      · rw [if_pos h]
        exact ⟨fun herr => (nomatch herr.choose_spec), fun hb => absurd h hb.1⟩
      · rw [if_neg h, hmismatch]
        exact ⟨fun hb => ⟨h, hb⟩, fun hb => hb.2⟩
  have hexpected : (boundRecord record network).rfConfigExpected = network.rfConfig := rfl
  have hactual : (boundRecord record network).rfConfigActual = record.rfConfigActual := rfl
  unfold settle Blocked
  rw [hexpected, hactual]
  cases hcfg : network.rfConfig with
  | none =>
    cases hreport : record.rfConfigActual with
    | none =>
      have h := hcompare none none
      rw [hreport] at h
      exact h _
    | some cfg =>
      dsimp only
      rw [bind_error_iff fun _ => ⟨_, rfl⟩, adoptFirst_error, hoccupants]
  | some expected =>
    have h := hcompare (some expected) record.rfConfigActual
    cases hreport : record.rfConfigActual <;> rw [hreport] at h <;> exact h _

/-- What is settled is answered as a success. -/
theorem settle_ok {s t : State} {record record' : BindRecord} {network : NetworkRecord} {onMismatch : String}
    {answers : Answers} {reply : Reply}
    (h : settle s record network onMismatch answers = .ok (reply, t, record')) : reply.ok = true := by
  unfold settle at h
  split at h
  · obtain ⟨_, -, h⟩ := bind_ok.mp h
    cases h
    rfl
  · obtain ⟨diffs, -, h⟩ := bind_ok.mp h
    by_cases hdiffs : diffs = []
    · rw [if_pos hdiffs] at h
      cases h
      rfl
    · rw [if_neg hdiffs, settleMismatch] at h
      split at h
      · obtain ⟨_, -, h⟩ := bind_ok.mp h
        cases h
        rfl
      · split at h
        · obtain ⟨_, -, h⟩ := bind_ok.mp h
          cases h
          rfl
        · cases h
          rfl

/-! ### Which resolutions are atomic -/

/-- The records differ in a token only if the new record does. -/
theorem putRecord_decided {s : State} {identMac : String} {record : BindRecord} (record' : BindRecord)
    (hknown : s.recordFor identMac = some record) (hident : record'.identMac = record.identMac) :
    (s.putRecord record').records.map BindRecord.decided = s.records.map BindRecord.decided ↔
      record'.decided = record.decided := by
  refine map_putKey_eq_iff (fun r : BindRecord => r.identMac) ?_
  rw [hident, (findKey_some hknown).2]
  exact hknown

/-- What a late failure leaves is what was there, if the gateway was bound before. -/
theorem unchanged_bindTo {s : State} {identMac : String} {record : BindRecord} {network : NetworkRecord}
    (hknown : s.recordFor identMac = some record) :
    Unchanged s ((bindTo s record network).putRecord (boundRecord record network)) ↔
      AlreadyBound s record network := by
  have hnetworks : (bindTo s record network).networks = s.networks ↔
      ∀ n ∈ s.networks, taken record.identMac network.id n = n := by
    rw [bindTo_networks, map_eq_self]
  have htransports : (bindTo s record network).transports = s.transports ↔
      ∀ t, s.transportFor record.identMac = some t → t.networkId = some network.id := stampFirst_eq_self
  have hrecords : ((bindTo s record network).putRecord (boundRecord record network)).records.map
      BindRecord.decided = s.records.map BindRecord.decided ↔
        (boundRecord record network).decided = record.decided :=
    putRecord_decided _ hknown rfl
  have hdecided : (boundRecord record network).decided = record.decided ↔
      record.networkId = some network.id ∧ record.networkName = some network.name ∧
        record.rfConfigExpected = network.rfConfig := by
    simp [boundRecord, BindRecord.decided, eq_comm]
  constructor
  · rintro ⟨hn, -, -, ht, hr, -⟩
    have hall := hnetworks.mp hn
    obtain ⟨hid, hname, hexpected⟩ := hdecided.mp (hrecords.mp hr)
    exact ⟨fun n hmem => (taken_eq_self.mp (hall n hmem)).1, fun n hmem => (taken_eq_self.mp (hall n hmem)).2,
      htransports.mp ht, hid, hname, hexpected⟩
  · rintro ⟨howner, hothers, hstamp, hid, hname, hexpected⟩
    exact ⟨hnetworks.mpr fun n hmem => taken_eq_self.mpr ⟨howner n hmem, hothers n hmem⟩, rfl, rfl,
      htransports.mpr hstamp, hrecords.mpr (hdecided.mpr ⟨hid, hname, hexpected⟩), rfl⟩

/-- The end of a call that only replies. -/
def Refuses (out : Except BindError Reply × State) (s : State) : Prop :=
  (∃ reply, out.1 = .ok reply ∧ reply.ok = true) ∨ Unchanged s out.2

theorem actionRetuneGateway_refuses (s : State) (record : BindRecord) (answers : Answers) :
    Refuses (actionRetuneGateway s record answers) s := by
  unfold actionRetuneGateway
  dsimp only
  split
  · exact .inr (.refl s)
  · exact .inl ⟨_, rfl, rfl⟩

theorem actionAcceptGateway_refuses (s : State) (record : BindRecord) (answers : Answers) :
    Refuses (actionAcceptGateway s record answers) s := by
  unfold actionAcceptGateway
  dsimp only
  split
  · exact .inr (.refl s)
  · exact .inl ⟨_, rfl, rfl⟩

theorem actionAcceptHost_refuses {s : State} {identMac : String} {record : BindRecord} (answers : Answers)
    (hknown : s.recordFor identMac = some record) : Refuses (actionAcceptHost s record answers) s := by
  unfold actionAcceptHost
  dsimp only
  split
  · exact .inr (.refl s)
  · split
    · exact .inl ⟨_, rfl, rfl⟩
    · -- the task manager was faster: only the token is new
      have hrecords := (putRecord_decided {record with token := answers.token, migrationPending := false}
        hknown rfl).mpr rfl
      exact .inr ⟨rfl, rfl, rfl, rfl, hrecords, rfl⟩

theorem actionCreateNetwork_refuses (s : State) (record : BindRecord) (params : ResolveParams)
    (answers : Answers) : Refuses (actionCreateNetwork s record params answers) s := by
  unfold actionCreateNetwork
  split
  · exact .inr (.refl s)
  · exact .inl ⟨_, rfl, rfl⟩

theorem actionRebind_refuses {s : State} {identMac : String} {record : BindRecord} {params : ResolveParams}
    {answers : Answers} (hknown : s.recordFor identMac = some record) :
    Refuses (actionRebind s record params answers) s ↔
      ∀ network, Admissible s record params network →
        Blocked s record network (strip params.onMismatch) answers.refusal →
        AlreadyBound s record network := by
  unfold actionRebind
  cases htarget : rebindTarget s record params with
  | error e =>
    refine ⟨fun _ network hadm => ?_, fun _ => .inr (.refl s)⟩
    rw [rebindTarget_ok.mpr hadm] at htarget
    cases htarget
  | ok network =>
    have honly : ∀ other, Admissible s record params other → other = network := fun other hadm => by
      rw [rebindTarget_ok.mpr hadm] at htarget
      exact Except.ok.inj htarget
    dsimp only
    cases hsettle : settle (bindTo s record network) (boundRecord record network) network
        (strip params.onMismatch) answers with
    | error e =>
      have hblocked := settle_error.mp ⟨e, hsettle⟩
      constructor
      · rintro (⟨reply, hreply, -⟩ | hsame) other hadm -
        · cases hreply
        · rw [honly other hadm]
          exact (unchanged_bindTo hknown).mp hsame
      · intro h
        exact .inr ((unchanged_bindTo hknown).mpr (h network (rebindTarget_ok.mp htarget) hblocked))
    | ok out =>
      obtain ⟨reply, t, record'⟩ := out
      refine ⟨fun _ other hadm hblocked => ?_, fun _ => .inl ⟨reply, rfl, settle_ok hsettle⟩⟩
      rw [honly other hadm] at hblocked
      obtain ⟨e, he⟩ := settle_error.mpr hblocked
      rw [hsettle] at he
      cases he

/-- `resolve` is atomic if the action is. -/
theorem atomicResolve_act {s : State} {identMac : String} {record : BindRecord} {action : Action}
    {params : ResolveParams} {answers : Answers} (hknown : s.recordFor identMac = some record)
    (htoken : params.token = none ∨ params.token = some record.token) :
    AtomicResolve s identMac action params answers ↔
      Refuses (act s record action params answers) s := by
  have hfresh : ¬ (params.token ≠ none ∧ params.token ≠ some record.token) := fun h => htoken.elim h.1 h.2
  unfold AtomicResolve resolve Refuses
  rw [hknown]
  dsimp only
  rw [if_neg hfresh]
  obtain ⟨out, t⟩ := act s record action params answers
  match out with
  | .ok reply =>
    cases hok : reply.ok <;> simp [Fails, hok]
  | .error (.action text args) => simp [Fails]
  | .error (.raised e) => simp [Fails]

/-- **A resolution is atomic unless a rebind cannot be completed after the gateway was
given to its network, and the gateway was not that network's before.** -/
theorem resolve_atomic_iff (s : State) (identMac : String) (action : Action) (params : ResolveParams)
    (answers : Answers) :
    AtomicResolve s identMac action params answers ↔
      ∀ record network, LateFailure s identMac action params answers record network →
        AlreadyBound s record network := by
  cases hknown : s.recordFor identMac with
  | none =>
    have hsame : (resolve s identMac action params answers).2 = s := by
      rw [resolve, hknown]
    refine ⟨fun _ record network hlate => ?_, fun _ _ => ?_⟩
    · rw [hlate.known] at hknown
      cases hknown
    · rw [hsame]
      exact .refl s
  | some record =>
    by_cases htoken : params.token = none ∨ params.token = some record.token
    · rw [atomicResolve_act hknown htoken]
      have honly : ∀ other network, LateFailure s identMac action params answers other network →
          other = record := fun other network hlate => by
        rw [hlate.known] at hknown
        exact Option.some.inj hknown
      cases action with
      | rebind =>
        rw [act, actionRebind_refuses hknown]
        constructor
        · intro h other network hlate
          obtain rfl := honly other network hlate
          exact h network hlate.admissible hlate.blocked
        · intro h network hadm hblocked
          exact h record network ⟨rfl, hknown, htoken, hadm, hblocked⟩
      | retuneGateway =>
        exact iff_of_true (actionRetuneGateway_refuses s record answers) fun _ _ h => nomatch h.rebind
      | acceptGateway =>
        exact iff_of_true (actionAcceptGateway_refuses s record answers) fun _ _ h => nomatch h.rebind
      | acceptHost =>
        exact iff_of_true (actionAcceptHost_refuses answers hknown) fun _ _ h => nomatch h.rebind
      | createNetwork =>
        exact iff_of_true (actionCreateNetwork_refuses s record params answers) fun _ _ h => nomatch h.rebind
      | other name => exact iff_of_true (.inr (.refl s)) fun _ _ h => nomatch h.rebind
    · have hstale : params.token ≠ none ∧ params.token ≠ some record.token := not_or.mp htoken
      have hsame : (resolve s identMac action params answers).2 = s := by
        rw [resolve, hknown]
        dsimp only
        rw [if_pos hstale]
      refine ⟨fun _ other network hlate => ?_, fun _ _ => ?_⟩
      · have hrecord : other = record := Option.some.inj (hlate.known.symm.trans hknown)
        exact absurd (hrecord ▸ hlate.token) htoken
      · rw [hsame]
        exact .refl s

/-! ### A refused push -/

/-- A second gateway that no network owns yet, on the default channel, beside a network
that has lost its gateway to another one. -/
def unboundGateway : State where
  networks :=
    [⟨⟨"net-a", .rf, none⟩, "Alpha", "EU868", some 3, channelRfConfig "EU868" 3, none, .finite 0⟩,
      ⟨⟨"net-b", .rf, some "DDEEFF"⟩, "Beta", "EU868", some 5, channelRfConfig "EU868" 5, none, .finite 0⟩]
  devices := []
  groups := []
  transports := [⟨⟨0, some "net-b", "DDEEFF"⟩, .rf⟩, ⟨⟨1, none, "AABBCC"⟩, .rf⟩]
  records :=
    [{ identMac := "DDEEFF", state := .bound, token := "t0", networkId := some "net-b",
       networkName := some "Beta", rfConfigExpected := channelRfConfig "EU868" 5,
       rfConfigActual := channelRfConfig "EU868" 5 },
      { identMac := "AABBCC", state := .unbound, token := "t1", rfConfigActual := channelRfConfig "EU868" 1 }]
  saves := 0

/-- The gateway does not answer the write: the reply is a failure, and the network has
the gateway. -/
theorem rebind_not_atomic :
    ¬ AtomicResolve unboundGateway "AABBCC" .rebind
      { token := some "t1", networkId := "net-a", onMismatch := "retune_gateway" }
      { refusal := some "no reply within timeout", token := "t2", networkId := "" } := by
  intro h
  have hfails : Fails (resolve unboundGateway "AABBCC" .rebind
      { token := some "t1", networkId := "net-a", onMismatch := "retune_gateway" }
      { refusal := some "no reply within timeout", token := "t2", networkId := "" }).1 := by
    decide +kernel
  have hnetworks := (h hfails).networks
  revert hnetworks
  decide +kernel

end RaceLink.Gateways
