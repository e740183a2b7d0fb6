import RaceLink.Gateways.Atomic
import RaceLink.Gateways.Migration

/-! The operations of the gateway workflow as steps of one system, and what each of
them can do to the networks, the transports and the records. -/
namespace RaceLink.Gateways
open Python Library Domain Routing

/-! ### Steps -/

inductive Op where
  | attach (g : Gateway)
  | attachEthernet (sockets : Sockets)
  | detach (identMac : String)
  | closeAll
  | evaluate (identMac : String) (report : Option RfSettings) (token : String)
  | resolve (identMac : String) (action : Action) (params : ResolveParams) (answers : Answers)
  | createNetwork (body : CreateBody) (networkId : String) (now : PyFloat) (sockets : Sockets)
  | updateNetwork (networkId : String) (body : UpdateBody)
  | deleteNetwork (networkId : String)
  | migrateNetwork (networkId : String) (target : Dict) (forceOffline : Bool) (answers : MigrationAnswers)

/-- One operation. The bind service is never asked about an Ethernet transport. -/
def step (s : State) : Op → State
  | .attach g => (attachGateway s g).2
  | .attachEthernet sockets => (attachEthernetTransports s sockets).2
  | .detach identMac => detachOneTransport s identMac
  | .closeAll => closeAllTransports s
  | .evaluate identMac report token =>
    if (s.transportFor identMac).map (·.kind) = some .ethernet then s
    else (reEvaluate s identMac report token).2
  | .resolve identMac action params answers => (resolve s identMac action params answers).2
  | .createNetwork body networkId now sockets => (apiNetworkCreate s body networkId now sockets).2
  | .updateNetwork networkId body => (apiNetworkUpdate s networkId body).2
  | .deleteNetwork networkId => (apiNetworkDelete s networkId).2
  | .migrateNetwork networkId target force answers => (migrateNetworkTo s networkId target force answers).state

/-- An ident that is not that of an Ethernet transport. -/
def Wired (ident : String) : Prop := ∀ networkId, ident ≠ upper ("ETH:" ++ networkId)

/-- What the outside promises: a new UUID is new, and a gateway has an ident of its own
(17 characters at most, fewer than those of an Ethernet transport). -/
def Op.Sound (s : State) : Op → Prop
  | .attach g => Wired (upper g.identMac)
  | .resolve _ _ _ answers => answers.networkId ≠ "" ∧ ∀ n ∈ s.networks, n.id ≠ answers.networkId
  | .createNetwork _ networkId _ _ => networkId ≠ "" ∧ ∀ n ∈ s.networks, n.id ≠ networkId
  | _ => True

/-- An ident without the prefix of the Ethernet transports. -/
theorem wired_of_prefix {ident : String} (h : ¬ "ETH:".toList <+: ident.toList) : Wired ident := by
  intro networkId heq
  refine h ⟨networkId.toList.flatMap upperChar, ?_⟩
  have hcapitals : "ETH:".toList.flatMap upperChar = "ETH:".toList := by decide
  rw [heq, upper_toList, String.toList_append, List.flatMap_append, hcapitals]

/-! ### Lookups -/

theorem networkById_some {s : State} {networkId : String} {network : NetworkRecord}
    (h : s.networkById networkId = some network) : network ∈ s.networks ∧ network.id = networkId := by
  unfold State.networkById at h
  split at h
  · cases h
  · exact findKey_some h

theorem transportFor_some {s : State} {identMac : String} {t : Attached}
    (h : s.transportFor identMac = some t) : t ∈ s.transports ∧ t.ident = upper identMac :=
  ⟨List.mem_of_find?_eq_some h, by simpa using List.find?_some h⟩

theorem recordFor_some {s : State} {identMac : String} {record : BindRecord}
    (h : s.recordFor identMac = some record) : record ∈ s.records ∧ record.identMac = upper identMac :=
  findKey_some h

/-- The gateway that a network lists, as idents are compared. -/
def macOf (n : NetworkRecord) : String := upper (n.gatewayMac.getD "")

theorem networkByGatewayMac_some {s : State} {gatewayMac : String} {n : NetworkRecord}
    (h : s.networkByGatewayMac gatewayMac = some n) :
    n ∈ s.networks ∧ gatewayMac ≠ "" ∧ macOf n = upper gatewayMac := by
  unfold State.networkByGatewayMac at h
  split at h
  · cases h
  · next hne => exact ⟨List.mem_of_find?_eq_some h, hne, by simpa [macOf] using List.find?_some h⟩

theorem networkByGatewayMac_none {s : State} {gatewayMac : String} (hne : gatewayMac ≠ "")
    (h : s.networkByGatewayMac gatewayMac = none) : ∀ n ∈ s.networks, macOf n ≠ upper gatewayMac := by
  rw [State.networkByGatewayMac, if_neg hne, List.find?_eq_none] at h
  intro n hn
  simpa [macOf] using h n hn

theorem freeNetwork_some {s : State} {n : NetworkRecord} (h : s.freeNetwork = some n) :
    n ∈ s.networks ∧ nonEmpty n.gatewayMac = none ∧ s.transports = [] := by
  unfold State.freeNetwork at h
  split at h
  · next hlen =>
    refine ⟨List.mem_of_find?_eq_some h, by simpa using List.find?_some h, ?_⟩
    exact List.length_eq_zero_iff.mp (by omega)
  · cases h

/-! ### Evaluation -/

/-- The network that a transport is stamped with, if it exists. -/
def State.homeOf (s : State) (t : Attached) : Option NetworkRecord :=
  (nonEmpty t.networkId).bind s.networkById

theorem homeOf_some {s : State} {t : Attached} {network : NetworkRecord} (h : s.homeOf t = some network) :
    network ∈ s.networks ∧ t.networkId = some network.id := by
  obtain ⟨networkId, hid, hfound⟩ := Option.bind_eq_some_iff.mp h
  obtain ⟨hmem, rfl⟩ := networkById_some hfound
  exact ⟨hmem, (nonEmpty_some.mp hid).1⟩

/-- A record of a transport: it names the transport's network, or is unbound. -/
structure Recorded (s : State) (t : Attached) (record : BindRecord) : Prop where
  ident : record.identMac = t.ident
  home : record.networkId = none ∧ record.state = .unbound ∨
    ∃ network, s.homeOf t = some network ∧ record.networkId = some network.id

/-- All that an evaluation does: a record, and the settings of a network without any. -/
structure Evaluated (s : State) (t : Attached) (report : Option RfSettings) (s' : State) : Prop where
  devices : s'.devices = s.devices
  groups : s'.groups = s.groups
  transports : s'.transports = s.transports
  records : s'.records = s.records ∨
    t.ident ≠ "" ∧ ∃ record, Recorded s t record ∧ s'.records = (s.putRecord record).records
  networks : s'.networks = s.networks ∨
    ∃ network settings, s.homeOf t = some network ∧ network.rfConfig = none ∧ report = some settings ∧
      s'.networks = (s.setRfConfig network.id (some settings.toDict)).networks

theorem evaluate_does (s : State) (t : Attached) (report : Option RfSettings) (token : String) :
    Evaluated s t report (evaluate s t report token).2 := by
  by_cases hident : t.ident = ""
  · rw [evaluate, if_pos hident]
    exact ⟨rfl, rfl, rfl, .inl rfl, .inl rfl⟩
  have hknown : ((findKey (·.identMac) t.ident s.records).getD { identMac := t.ident, token }).identMac =
      t.ident := by
    cases hfind : findKey (·.identMac) t.ident s.records with
    | none => rfl
    | some record => exact (findKey_some hfind).2
  have hput : ∀ record, Recorded s t record → Evaluated s t report (s.putRecord record) := fun record hrec =>
    ⟨rfl, rfl, rfl, .inr ⟨hident, record, hrec, rfl⟩, .inl rfl⟩
  rw [evaluate, if_neg hident]
  dsimp only
  split
  · exact hput _ ⟨hknown, .inl ⟨rfl, rfl⟩⟩
  · next network hhome =>
    have hrec : ∀ record, record.identMac = t.ident → record.networkId = some network.id →
        Recorded s t record := fun record hid hnet => ⟨hid, .inr ⟨network, hhome, hnet⟩⟩
    split
    · exact hput _ (hrec _ hknown rfl)
    · next cfg hnone hactual =>
      obtain ⟨settings, hreport, rfl⟩ := Option.map_eq_some_iff.mp hactual
      have hadopt : ∀ record, Recorded s t record → Evaluated s t report
          ((s.setRfConfig network.id (some settings.toDict)).putRecord record).save := fun record hrec =>
        ⟨rfl, rfl, rfl, .inr ⟨hident, record, hrec, rfl⟩,
          .inr ⟨network, settings, hhome, hnone, hreport, rfl⟩⟩
      exact hadopt _ (hrec _ hknown rfl)
    · exact hput _ (hrec _ hknown rfl)
    · split
      · exact hput _ (hrec _ hknown rfl)
      · exact hput _ (hrec _ hknown rfl)
      · exact hput _ (hrec _ hknown rfl)

/-! ### Attaching a gateway -/

/-- The transport of a gateway, stamped. -/
def Gateway.stamped (g : Gateway) (networkId : Option String) : Attached := {g.transport with networkId}

/-- The state in which a new gateway is evaluated. -/
def joined (s : State) (g : Gateway) : State :=
  let out := bindTransportToNetwork s g.identMac
  {out.2 with transports := out.2.transports ++ [g.stamped out.1]}

/-- A gateway that is attached already, or does not start, changes nothing. -/
theorem attachGateway_does (s : State) (g : Gateway) :
    (attachGateway s g).2 = s ∨ s.duplicateOf g.transport = none ∧ g.starts = true ∧
      (attachGateway s g).2 =
        (evaluate (joined s g) (g.stamped (bindTransportToNetwork s g.identMac).1) g.report g.token).2 := by
  unfold attachGateway attachTransport
  cases s.duplicateOf g.transport with
  | some existing => exact .inl rfl
  | none =>
    cases g.starts with
    | false => exact .inl rfl
    | true => exact .inr ⟨rfl, rfl, rfl⟩

/-! ### Resolutions -/

theorem released_id (ident : String) (keep : Option String) (n : NetworkRecord) :
    (State.released ident keep n).id = n.id := by
  unfold State.released
  split <;> rfl

theorem released_rfConfig (ident : String) (keep : Option String) (n : NetworkRecord) :
    (State.released ident keep n).rfConfig = n.rfConfig := by
  unfold State.released
  split <;> rfl

theorem taken_id (ident networkId : String) (n : NetworkRecord) : (taken ident networkId n).id = n.id := by
  unfold taken
  split
  · rfl
  · exact released_id ident none n

theorem taken_kind (ident networkId : String) (n : NetworkRecord) :
    (taken ident networkId n).kind = n.kind := by
  unfold taken State.released
  split
  · rfl
  · split <;> rfl

theorem taken_rfConfig (ident networkId : String) (n : NetworkRecord) :
    (taken ident networkId n).rfConfig = n.rfConfig := by
  unfold taken
  split
  · rfl
  · exact released_rfConfig ident none n

/-- Settings that were adopted: they are the gateway's, and the channel was free. -/
structure Adopted (s : State) (record : BindRecord) (networkId : String) (s' : State) (cfg : Dict) : Prop where
  reported : record.rfConfigActual = some cfg
  free : occupantsOf s.networks cfg networkId = .ok []
  written : s' = s.setRfConfig networkId (some cfg)

/-- A record of the same gateway and the same network. -/
def SameBinding (record record' : BindRecord) : Prop :=
  record'.identMac = record.identMac ∧ record'.networkId = record.networkId

theorem adoptGatewayConfig_does {s s' : State} {record record' : BindRecord} {network : NetworkRecord}
    (h : adoptGatewayConfig s record network = .ok (s', record')) :
    SameBinding record record' ∧ ∃ cfg, Adopted s record network.id s' cfg := by
  unfold adoptGatewayConfig at h
  split at h
  · cases h
  · next cfg hcfg =>
    obtain ⟨clash, hclash, h⟩ := bind_ok.mp h
    obtain ⟨hempty, h⟩ := guard_ok.mp h
    cases h
    rw [not_not.mp hempty] at hclash
    exact ⟨⟨rfl, rfl⟩, cfg, hcfg, raising_ok.mp hclash, rfl⟩

theorem adoptFirst_does {s s' : State} {record record' : BindRecord} {network : NetworkRecord} {cfg : Dict}
    (hcfg : record.rfConfigActual = some cfg) (h : adoptFirst s record network cfg = .ok (s', record')) :
    SameBinding record record' ∧ ∃ cfg, Adopted s record network.id s' cfg := by
  unfold adoptFirst at h
  obtain ⟨clash, hclash, h⟩ := bind_ok.mp h
  obtain ⟨hempty, h⟩ := guard_ok.mp h
  cases h
  rw [not_not.mp hempty] at hclash
  exact ⟨⟨rfl, rfl⟩, cfg, hcfg, raising_ok.mp hclash, rfl⟩

/-- What is settled after a binding changes at most the settings of the network, to free ones. -/
theorem settle_does {s s' : State} {record record' : BindRecord} {network : NetworkRecord}
    {onMismatch : String} {answers : Answers} {reply : Reply}
    (h : settle s record network onMismatch answers = .ok (reply, s', record')) :
    SameBinding record record' ∧ (s' = s ∨ ∃ cfg, Adopted s record network.id s' cfg) := by
  unfold settle at h
  split at h
  · next cfg hnone hcfg =>
    obtain ⟨⟨s₁, r₁⟩, hadopt, h⟩ := bind_ok.mp h
    cases h
    exact (adoptFirst_does hcfg hadopt).imp_right .inr
  · obtain ⟨diffs, -, h⟩ := bind_ok.mp h
    by_cases hdiffs : diffs = []
    · rw [if_pos hdiffs] at h
      cases h
      exact ⟨⟨rfl, rfl⟩, .inl rfl⟩
    · rw [if_neg hdiffs, settleMismatch] at h
      split at h
      · obtain ⟨-, -, h⟩ := bind_ok.mp h
        cases h
        exact ⟨⟨rfl, rfl⟩, .inl rfl⟩
      · split at h
        · obtain ⟨⟨s₁, r₁⟩, hadopt, h⟩ := bind_ok.mp h
          cases h
          exact (adoptGatewayConfig_does hadopt).imp_right .inr
        · cases h
          exact ⟨⟨rfl, rfl⟩, .inl rfl⟩

/-- A network is created on a free channel. -/
theorem checkCreate_free {s : State} {record : BindRecord} {params : ResolveParams} {answers : Answers}
    {name : String} {seeded : Dict} {retuned : Bool}
    (h : checkCreate s record params answers = .ok (name, seeded, retuned)) :
    occupantsOf s.networks seeded "" = .ok [] := by
  unfold checkCreate at h
  obtain ⟨-, -, h⟩ := bind_ok.mp h
  dsimp only at h
  obtain ⟨-, h⟩ := guard_ok.mp h
  split at h
  · cases h
  · obtain ⟨cfg, -, h⟩ := bind_ok.mp h
    obtain ⟨clash, hclash, h⟩ := bind_ok.mp h
    obtain ⟨hempty, h⟩ := guard_ok.mp h
    rw [not_not.mp hempty] at hclash
    obtain ⟨diffs, -, h⟩ := bind_ok.mp h
    have hseeded : cfg = seeded := by
      split at h
      · cases h
        rfl
      · obtain ⟨-, -, h⟩ := bind_ok.mp h
        cases h
        rfl
    rw [← hseeded]
    exact raising_ok.mp hclash

/-- A resolution does nothing, or what its action does to a known record. -/
theorem resolve_does (s : State) (identMac : String) (action : Action) (params : ResolveParams)
    (answers : Answers) :
    (resolve s identMac action params answers).2 = s ∨
      ∃ record, s.recordFor identMac = some record ∧
        (params.token = none ∨ params.token = some record.token) ∧
        (resolve s identMac action params answers).2 = (act s record action params answers).2 := by
  unfold resolve
  cases hknown : s.recordFor identMac with
  | none => exact .inl rfl
  | some record =>
    dsimp only
    by_cases hstale : params.token ≠ none ∧ params.token ≠ some record.token
    · rw [if_pos hstale]
      exact .inl rfl
    · rw [if_neg hstale]
      refine .inr ⟨record, rfl, by rwa [not_and_or, not_not, not_not] at hstale, ?_⟩
      obtain ⟨out, t⟩ := act s record action params answers
      match out with
      | .ok _ => rfl
      | .error (.action _ _) => rfl
      | .error (.raised _) => rfl

/-! ### Requests -/

/-- A new Ethernet network has neither a gateway nor settings. -/
theorem checkNetworkCreate_ok {body : CreateBody} {networkId : String} {now : PyFloat} {net : NetworkRecord}
    (h : checkNetworkCreate body networkId now = .ok net) :
    net.id = networkId ∧ net.gatewayMac = none ∧ net.rfConfig = none := by
  unfold checkNetworkCreate at h
  obtain ⟨-, h⟩ := guard_ok.mp h
  obtain ⟨-, h⟩ := guard_ok.mp h
  split at h
  · cases h
    exact ⟨rfl, rfl, rfl⟩
  · cases h
  · cases h

theorem checkNetworkDelete_ok {s : State} {networkId : String} {net : NetworkRecord}
    (h : checkNetworkDelete s networkId = .ok net) : s.networkById networkId = some net := by
  unfold checkNetworkDelete at h
  split at h
  · cases h
  · next found hfound =>
    obtain ⟨-, h⟩ := guard_ok.mp h
    obtain ⟨-, h⟩ := guard_ok.mp h
    obtain ⟨-, h⟩ := guard_ok.mp h
    cases h
    exact hfound

/-! ### Migrations -/

theorem transportForNetwork_some {s : State} {networkId : String} {t : Attached}
    (h : s.transportForNetwork networkId = some t) : t ∈ s.transports := by
  obtain ⟨_, _, hfind⟩ := Option.bind_eq_some_iff.mp h
  exact List.mem_of_find?_eq_some hfind

/-- What is planned is about an RF network and an attached transport. -/
theorem planMigration_ok {s : State} {networkId : String} {target : Dict} {plan : MigrationPlan}
    (h : planMigration s networkId target = .ok (.ok plan)) :
    s.networkById networkId = some plan.network ∧ plan.transport ∈ s.transports := by
  unfold planMigration at h
  obtain ⟨normal, -, h⟩ := bind_ok.mp h
  split at h
  · cases h
  · split at h
    · cases h
    · next network hnetwork =>
      split at h
      · cases h
      · split at h
        · cases h
        · next transport htransport =>
          cases h
          exact ⟨hnetwork, transportForNetwork_some htransport⟩

theorem foldl_setLastKnown (s : State) (target : Dict) (macs : List String) :
    ∃ devices, macs.foldl (fun s mac => s.setLastKnown target mac) s = {s with devices} := by
  induction macs generalizing s with
  | nil => exact ⟨s.devices, rfl⟩
  | cons mac rest ih =>
    obtain ⟨devices, h⟩ := ih (s.setLastKnown target mac)
    have hone : ∃ devices, s.setLastKnown target mac = {s with devices} := by
      unfold State.setLastKnown
      split
      · exact ⟨s.devices, rfl⟩
      · exact ⟨_, rfl⟩
    obtain ⟨devices', hone⟩ := hone
    exact ⟨devices, by rw [List.foldl_cons, h, hone]⟩

/-- The state after the gateway has taken the settings. -/
def migrated (s : State) (plan : MigrationPlan) (devices : List DeviceRecord) (saves : Nat) : State :=
  {s.setRfConfig plan.network.id (some plan.target) with devices, saves}

theorem finishMigration_does (s : State) (plan : MigrationPlan) (entries : List DeviceEntry)
    (answers : MigrationAnswers) :
    ∃ devices saves, (finishMigration s plan entries answers).2 =
      if plan.transport.ident = "" then migrated s plan devices saves
      else (reEvaluate (migrated s plan devices saves) plan.transport.ident answers.report answers.token).2 := by
  obtain ⟨devices, hfold⟩ := foldl_setLastKnown (s.setRfConfig plan.network.id (some plan.target)).save
    plan.target (macsOf .verified (entries.map (verifyEntry (seenAfter answers.responders))))
  unfold finishMigration
  dsimp only
  rw [hfold]
  by_cases hnone : macsOf .verified (entries.map (verifyEntry (seenAfter answers.responders))) = []
  · rw [if_pos hnone]
    exact ⟨devices, _, rfl⟩
  · rw [if_neg hnone]
    exact ⟨devices, _, rfl⟩

theorem pushToNetwork_eq (plan : MigrationPlan) (air : String → Exchange) (s : State) (mac : String) :
    (pushToNetwork plan air s mac).2 = (pushRf s mac plan.target (some plan.transport) (air mac)).2 := by
  unfold pushToNetwork
  generalize pushRf s mac plan.target (some plan.transport) (air mac) = pushed
  rfl

theorem pushToNetwork_does (plan : MigrationPlan) (air : String → Exchange) (macs : List String) (s : State) :
    ∃ devices, (pushEach (pushToNetwork plan air) macs s).2.2 = {s with devices} := by
  refine pushEach_does (fun s mac => ?_) macs s
  rw [pushToNetwork_eq]
  exact pushRf_does s mac plan.target (some plan.transport) (air mac)

/-- A migration changes devices only, or ends with the gateway on the target. -/
theorem migrateNetworkTo_does (s : State) (networkId : String) (target : Dict) (forceOffline : Bool)
    (answers : MigrationAnswers) :
    (∃ devices, (migrateNetworkTo s networkId target forceOffline answers).state = {s with devices}) ∨
      ∃ plan entries devices, planMigration s networkId target = .ok (.ok plan) ∧
        gatewayRefusal plan.transport answers.refusal = none ∧
        (migrateNetworkTo s networkId target forceOffline answers).state =
          (finishMigration {s with devices} plan entries answers).2 := by
  unfold migrateNetworkTo
  cases hplan : planMigration s networkId target with
  | error e => exact .inl ⟨s.devices, rfl⟩
  | ok planned =>
    cases planned with
    | error result => exact .inl ⟨s.devices, rfl⟩
    | ok plan =>
      dsimp only
      split
      · exact .inl ⟨s.devices, rfl⟩
      · next choices _ =>
        obtain ⟨devices, hpushed⟩ := pushToNetwork_does plan answers.air
          (chosen .push ((s.devices.filter fun d => d.networkId.getD "" = networkId).zip choices)) s
        cases hrun : pushEach (pushToNetwork plan answers.air)
          (chosen .push ((s.devices.filter fun d => d.networkId.getD "" = networkId).zip choices)) s with
        | mk entries rest =>
          rw [hrun] at hpushed
          obtain ⟨frames, s'⟩ := rest
          dsimp only at hpushed ⊢
          subst hpushed
          split
          · exact .inl ⟨devices, rfl⟩
          · next hrefusal => exact .inr ⟨plan, entries, devices, rfl, hrefusal, rfl⟩

end RaceLink.Gateways
