import RaceLink.Gateways.Steps
import RaceLink.Library.Runs

/-! The separation of the networks on air, over whole runs.

Every path that writes settings asks first whether the channel is free, but for two:
the first contact in `evaluate`, and the migration of a network (`reachable_separated`). -/
namespace RaceLink.Gateways
open Python Library Domain Routing

/-! ### The invariant -/

/-- Networks are told apart, and no two collide. -/
structure Separated (networks : List NetworkRecord) : Prop where
  ids : (networks.map (·.id)).Nodup
  named : ∀ n ∈ networks, n.id ≠ ""
  apart : networks.Pairwise fun a b => ¬ Collide a.rfConfig b.rfConfig

/-- Settings that collide with no other network. -/
def FreeFor (networks : List NetworkRecord) (networkId : String) (cfg : Option Dict) : Prop :=
  ∀ n ∈ networks, n.id ≠ networkId → ¬ Collide cfg n.rfConfig

theorem freeFor_none (networks : List NetworkRecord) (networkId : String) : FreeFor networks networkId none :=
  fun n _ _ hc => not_collide_none n.rfConfig hc.symm

/-- The separation check finds nothing in separated networks. -/
theorem Separated.validated {networks : List NetworkRecord} (h : Separated networks)
    {conflicts : List SeparationConflict} (hvalid : validateNetworksSeparation networks = .ok conflicts) :
    conflicts = [] := validateNetworksSeparation_of_pairwise h.apart hvalid

section Writes
variable {networks networks' : List NetworkRecord}

/-- The networks with the same ids and the same settings. -/
def SameSettings (networks networks' : List NetworkRecord) : Prop :=
  networks'.map (fun n => (n.id, n.rfConfig)) = networks.map fun n => (n.id, n.rfConfig)

theorem sameSettings_map {f : NetworkRecord → NetworkRecord} (hid : ∀ n, (f n).id = n.id)
    (hcfg : ∀ n, (f n).rfConfig = n.rfConfig) : SameSettings networks (networks.map f) := by
  rw [SameSettings, List.map_map]
  refine List.map_congr_left fun n _ => ?_
  show ((f n).id, (f n).rfConfig) = _
  rw [hid, hcfg]

theorem Separated.of_ids (h : Separated networks) (hids : networks'.map (·.id) = networks.map (·.id))
    (hapart : networks'.Pairwise fun a b => ¬ Collide a.rfConfig b.rfConfig) : Separated networks' where
  ids := hids ▸ h.ids
  named n hn := by
    have hmem : n.id ∈ networks.map (·.id) := hids ▸ List.mem_map_of_mem hn
    obtain ⟨m, hm, hmid⟩ := List.mem_map.mp hmem
    exact hmid ▸ h.named m hm
  apart := hapart

theorem SameSettings.separated (h : SameSettings networks networks') (hs : Separated networks) :
    Separated networks' := by
  have hmap : ∀ ns : List NetworkRecord, (ns.map fun n => (n.id, n.rfConfig)).Pairwise
      (fun a b => ¬ Collide a.2 b.2) ↔ ns.Pairwise fun a b => ¬ Collide a.rfConfig b.rfConfig :=
    fun ns => List.pairwise_map
  refine hs.of_ids ?_ ?_
  · have hfst := congrArg (List.map Prod.fst) h
    rwa [List.map_map, List.map_map] at hfst
  · rw [← hmap, h, hmap]
    exact hs.apart

theorem SameSettings.freeFor (h : SameSettings networks networks') {networkId : String} {cfg : Option Dict} :
    FreeFor networks networkId cfg ↔ FreeFor networks' networkId cfg := by
  have hmap : ∀ ns : List NetworkRecord, FreeFor ns networkId cfg ↔
      ∀ e ∈ ns.map fun n => (n.id, n.rfConfig), e.1 ≠ networkId → ¬ Collide cfg e.2 := fun ns => by
    simp [FreeFor]
  rw [hmap, hmap, h]

theorem SameSettings.exists_mem (h : SameSettings networks networks') {n : NetworkRecord} (hn : n ∈ networks) :
    ∃ m ∈ networks', m.id = n.id ∧ m.rfConfig = n.rfConfig := by
  have hmem : (n.id, n.rfConfig) ∈ networks'.map fun n => (n.id, n.rfConfig) := by
    rw [h]
    exact List.mem_map_of_mem hn
  obtain ⟨m, hm, heq⟩ := List.mem_map.mp hmem
  exact ⟨m, hm, Prod.mk.inj heq⟩

theorem Separated.setRfConfig {s : State} (h : Separated s.networks) {networkId : String} {cfg : Option Dict}
    (hfree : FreeFor s.networks networkId cfg) : Separated (s.setRfConfig networkId cfg).networks :=
  h.of_ids (map_updateKey fun _ => rfl) <| pairwise_updateKey (fun _ _ hab hba => hab hba.symm) h.ids h.apart
    fun _ _ _ m hm hmid => hfree m hm hmid

theorem Separated.append (h : Separated networks) {n : NetworkRecord} (hname : n.id ≠ "")
    (hfresh : ∀ m ∈ networks, m.id ≠ n.id) (hfree : ∀ m ∈ networks, ¬ Collide n.rfConfig m.rfConfig) :
    Separated (networks ++ [n]) where
  ids := by
    rw [List.map_append, List.nodup_append]
    refine ⟨h.ids, List.nodup_singleton _, fun i hi j hj heq => ?_⟩
    obtain ⟨m, hm, rfl⟩ := List.mem_map.mp hi
    exact hfresh m hm (heq.trans (List.mem_singleton.mp hj))
  named m hm := (List.mem_append.mp hm).elim (h.named m) fun hm => List.mem_singleton.mp hm ▸ hname
  apart := by
    refine List.pairwise_append.mpr ⟨h.apart, List.pairwise_singleton _ _, fun m hm o ho hc => ?_⟩
    rw [List.mem_singleton.mp ho] at hc
    exact hfree m hm hc.symm

theorem Separated.filter (h : Separated networks) (p : NetworkRecord → Bool) : Separated (networks.filter p) where
  ids := h.ids.sublist (List.filter_sublist.map _)
  named n hn := h.named n (List.mem_of_mem_filter hn)
  apart := h.apart.sublist List.filter_sublist

end Writes

/-! ### The operations -/

section Operations
variable {s s' : State}

/-- The settings that a first contact would adopt collide with no other network. -/
def AdoptsFree (s : State) (t : Attached) (report : Option RfSettings) : Prop :=
  ∀ network settings, s.homeOf t = some network → network.rfConfig = none → report = some settings →
    FreeFor s.networks network.id (some settings.toDict)

theorem evaluate_separated (h : Separated s.networks) {t : Attached} {report : Option RfSettings}
    (hfree : AdoptsFree s t report) (hev : Evaluated s t report s') : Separated s'.networks := by
  rcases hev.networks with heq | ⟨network, settings, hhome, hnone, hreport, heq⟩
  · rw [heq]
    exact h
  · rw [heq]
    exact h.setRfConfig (hfree network settings hhome hnone hreport)

theorem reEvaluate_separated (h : Separated s.networks) {identMac : String} {report : Option RfSettings}
    (token : String) (hfree : ∀ t, s.transportFor identMac = some t → AdoptsFree s t report) :
    Separated (reEvaluate s identMac report token).2.networks := by
  unfold reEvaluate
  cases ht : s.transportFor identMac with
  | none => exact h
  | some t => exact evaluate_separated h (hfree t ht) (evaluate_does s t report token)

/-- The network that welcomes a gateway: the one that lists it, or the free one. -/
def State.welcomes (s : State) (identMac : String) : Option NetworkRecord :=
  (s.networkByGatewayMac identMac).or (if identMac = "" then none else s.freeNetwork)

theorem sameSettings_changeNetwork (networkId : String) {f : NetworkRecord → NetworkRecord}
    (hid : ∀ n, (f n).id = n.id) (hcfg : ∀ n, (f n).rfConfig = n.rfConfig) :
    SameSettings s.networks (s.changeNetwork networkId f).networks := by
  refine sameSettings_map (fun n => ?_) fun n => ?_
  · dsimp only
    split
    · exact hid n
    · rfl
  · dsimp only
    split
    · exact hcfg n
    · rfl

/-- A gateway is stamped with the network that welcomes it. -/
theorem bindTransportToNetwork_welcomes (h : Separated s.networks) (identMac : String) :
    SameSettings s.networks (bindTransportToNetwork s identMac).2.networks ∧
      ∀ networkId, (bindTransportToNetwork s identMac).1 = some networkId →
        ∃ n ∈ s.networks, s.welcomes identMac = some n ∧ n.id = networkId := by
  unfold bindTransportToNetwork State.welcomes
  cases hlisted : s.networkByGatewayMac identMac with
  | some n =>
    obtain ⟨hn, -, -⟩ := networkByGatewayMac_some hlisted
    have hname : nonEmpty (some n.id) = some n.id := nonEmpty_some.mpr ⟨rfl, h.named n hn⟩
    rw [Option.bind_some, hname]
    refine ⟨rfl, fun networkId hid => ⟨n, hn, rfl, Option.some.inj hid⟩⟩
  | none =>
    rw [Option.bind_none, Option.none_or]
    by_cases hne : identMac = ""
    · rw [if_pos hne]
      exact ⟨rfl, nofun⟩
    · rw [if_neg hne]
      cases htarget : s.freeNetwork with
      | none =>
        dsimp only
        rw [if_neg hne]
        exact ⟨rfl, nofun⟩
      | some target =>
        obtain ⟨hmem, -, -⟩ := freeNetwork_some htarget
        dsimp only
        rw [if_neg hne]
        refine ⟨sameSettings_changeNetwork target.id (fun _ => rfl) fun _ => rfl, fun networkId hid => ?_⟩
        have hname : nonEmpty (some target.id) = some networkId := hid
        obtain ⟨heq, -⟩ := nonEmpty_some.mp hname
        exact ⟨target, hmem, rfl, Option.some.inj heq⟩

theorem attachGateway_separated (h : Separated s.networks) {g : Gateway}
    (hfree : ∀ network settings, s.welcomes g.identMac = some network → network.rfConfig = none →
      g.report = some settings → FreeFor s.networks network.id (some settings.toDict)) :
    Separated (attachGateway s g).2.networks := by
  rcases attachGateway_does s g with heq | ⟨-, -, heq⟩
  · rw [heq]
    exact h
  · obtain ⟨hbound, hwelcomes⟩ := bindTransportToNetwork_welcomes h g.identMac
    have hsame : SameSettings s.networks (joined s g).networks := hbound
    have hjoined : Separated (joined s g).networks := hsame.separated h
    rw [heq]
    refine evaluate_separated hjoined (fun network settings hhome hnone hreport => ?_) (evaluate_does ..)
    obtain ⟨hmem, hstamp⟩ := homeOf_some hhome
    obtain ⟨n, hn, hwelcome, hid⟩ := hwelcomes network.id hstamp
    obtain ⟨m, hm, hmid, hmcfg⟩ := hsame.exists_mem hn
    have hcfg : n.rfConfig = none := by
      rw [← hmcfg, key_inj hjoined.ids hm hmem (hmid.trans hid), hnone]
    rw [← hsame.freeFor, ← hid]
    exact hfree n settings hwelcome hcfg hreport

theorem attachEthernetTransports_networks (s : State) (sockets : Sockets) :
    (attachEthernetTransports s sockets).2.networks = s.networks := by
  have hall : ∀ (found : List NetworkRecord) (s : State), (found.foldl (fun s n =>
      (attachTransport s (ethernetTransport sockets n.id) (sockets.starts n.id) none "").2) s).networks =
        s.networks := by
    intro found
    induction found with
    | nil => exact fun _ => rfl
    | cons n rest ih =>
      intro s
      rw [List.foldl_cons, ih]
      unfold attachTransport
      cases s.duplicateOf (ethernetTransport sockets n.id) with
      | some _ => rfl
      | none => cases sockets.starts n.id <;> rfl
  exact hall _ s

theorem Adopted.freeFor {record : BindRecord} {networkId : String} {cfg : Dict}
    (h : Adopted s record networkId s' cfg) : FreeFor s.networks networkId (some cfg) :=
  fun n hn hid => occupantsOf_nil h.free n hn (.inl hid)

theorem actionRetuneGateway_networks (s : State) (record : BindRecord) (answers : Answers) :
    (actionRetuneGateway s record answers).2.networks = s.networks := by
  unfold actionRetuneGateway
  dsimp only
  split <;> rfl

theorem actionAcceptHost_networks (s : State) (record : BindRecord) (answers : Answers) :
    (actionAcceptHost s record answers).2.networks = s.networks := by
  unfold actionAcceptHost
  dsimp only
  split
  · rfl
  · split <;> rfl

theorem actionAcceptGateway_separated (h : Separated s.networks) (record : BindRecord) (answers : Answers) :
    Separated (actionAcceptGateway s record answers).2.networks := by
  unfold actionAcceptGateway
  dsimp only
  split
  · exact h
  · next s' record' hcheck =>
    obtain ⟨u, -, hcheck⟩ := bind_ok.mp hcheck
    obtain ⟨-, hcheck⟩ := guard_ok.mp hcheck
    obtain ⟨network, -, hadopt⟩ := bind_ok.mp hcheck
    obtain ⟨-, cfg, hadopted⟩ := adoptGatewayConfig_does hadopt
    have hset := h.setRfConfig hadopted.freeFor
    rw [← hadopted.written] at hset
    exact hset

theorem actionCreateNetwork_separated (h : Separated s.networks) (record : BindRecord) (params : ResolveParams)
    {answers : Answers} (hname : answers.networkId ≠ "") (hfresh : ∀ n ∈ s.networks, n.id ≠ answers.networkId) :
    Separated (actionCreateNetwork s record params answers).2.networks := by
  unfold actionCreateNetwork
  split
  · exact h
  · next name seeded retuned hcheck =>
    have hfree := occupantsOf_nil (checkCreate_free hcheck)
    have happended : Separated (s.networks ++ [newNetwork record params answers name seeded]) :=
      h.append hname hfresh fun n hn => hfree n hn (.inr rfl)
    have hsame : SameSettings s.networks (s.networks.map (State.released record.identMac none)) :=
      sameSettings_map (released_id _ _) (released_rfConfig _ _)
    refine SameSettings.separated ?_ happended
    show (s.networks.map (State.released record.identMac none) ++ [newNetwork record params answers name seeded]).map
      (fun n => (n.id, n.rfConfig)) = _
    rw [List.map_append, hsame, List.map_append]

theorem actionRebind_separated (h : Separated s.networks) (record : BindRecord) (params : ResolveParams)
    (answers : Answers) : Separated (actionRebind s record params answers).2.networks := by
  unfold actionRebind
  split
  · exact h
  · next network _ =>
    have hbound : Separated (bindTo s record network).networks := by
      rw [bindTo_networks]
      exact (sameSettings_map (taken_id _ _) (taken_rfConfig _ _)).separated h
    split
    · exact hbound
    · next reply s' record' hsettle =>
      obtain ⟨-, heq | ⟨cfg, hadopted⟩⟩ := settle_does hsettle
      · rw [← heq] at hbound
        exact hbound
      · have hset := hbound.setRfConfig hadopted.freeFor
        rw [← hadopted.written] at hset
        exact hset

theorem act_separated (h : Separated s.networks) (record : BindRecord) (action : Action) (params : ResolveParams)
    {answers : Answers} (hname : answers.networkId ≠ "") (hfresh : ∀ n ∈ s.networks, n.id ≠ answers.networkId) :
    Separated (act s record action params answers).2.networks := by
  cases action with
  | retuneGateway =>
    rw [act, actionRetuneGateway_networks]
    exact h
  | acceptGateway => exact actionAcceptGateway_separated h record answers
  | acceptHost =>
    rw [act, actionAcceptHost_networks]
    exact h
  | createNetwork => exact actionCreateNetwork_separated h record params hname hfresh
  | rebind => exact actionRebind_separated h record params answers
  | other name => exact h

theorem apiNetworkCreate_separated (h : Separated s.networks) (body : CreateBody) {networkId : String}
    (now : PyFloat) (sockets : Sockets) (hname : networkId ≠ "") (hfresh : ∀ n ∈ s.networks, n.id ≠ networkId) :
    Separated (apiNetworkCreate s body networkId now sockets).2.networks := by
  unfold apiNetworkCreate
  cases hcheck : checkNetworkCreate body networkId now with
  | error e => exact h
  | ok net =>
    obtain ⟨hid, -, hcfg⟩ := checkNetworkCreate_ok hcheck
    dsimp only
    rw [attachEthernetTransports_networks]
    refine h.append (hid ▸ hname) (hid ▸ hfresh) fun n _ hc => ?_
    rw [hcfg] at hc
    exact not_collide_none n.rfConfig hc.symm

/-- **Settings that pass the check collide with no other network.** -/
theorem checkSeparation_free (h : Separated s.networks) {net : NetworkRecord} {cfg : Dict} {u : Unit}
    (hcheck : checkSeparation s net cfg = .ok u) :
    FreeFor s.networks net.id (some cfg) := by
  have hids : ((({net with rfConfig := some cfg} : NetworkRecord) ::
      s.networks.filter fun n => n.id ≠ net.id).map (·.id)).Nodup := by
    refine List.nodup_cons.mpr ⟨fun hmem => ?_, h.ids.sublist (List.filter_sublist.map _)⟩
    obtain ⟨n, hn, hid⟩ := List.mem_map.mp hmem
    simpa [hid] using (List.mem_filter.mp hn).2
  unfold checkSeparation at hcheck
  dsimp only at hcheck
  split at hcheck
  · cases hcheck
  · next hvalid =>
    intro n hn hid
    exact (List.pairwise_cons.mp (validateNetworksSeparation_nil hids hvalid)).1 n
      (List.mem_filter.mpr ⟨hn, by simpa using hid⟩)
  · cases hcheck

/-- An update leaves or clears the settings, or checks them. -/
theorem checkNetworkUpdate_free (h : Separated s.networks) {networkId : String} {body : UpdateBody}
    {net : NetworkRecord} {cfg : Option Dict} (hcheck : checkNetworkUpdate s networkId body = .ok (net, cfg)) :
    FreeFor s.networks net.id cfg := by
  unfold checkNetworkUpdate at hcheck
  split at hcheck
  · cases hcheck
  · obtain ⟨-, hcheck⟩ := guard_ok.mp hcheck
    obtain ⟨-, hcheck⟩ := guard_ok.mp hcheck
    obtain ⟨requested, -, hcheck⟩ := bind_ok.mp hcheck
    split at hcheck
    · cases hcheck
      exact freeFor_none _ _
    · obtain ⟨u, hsep, hcheck⟩ := bind_ok.mp hcheck
      cases hcheck
      exact checkSeparation_free h hsep

theorem apiNetworkUpdate_separated (h : Separated s.networks) (networkId : String) (body : UpdateBody) :
    Separated (apiNetworkUpdate s networkId body).2.networks := by
  unfold apiNetworkUpdate
  split
  · exact h
  · next net cfg hcheck =>
    have hfree := checkNetworkUpdate_free h hcheck
    dsimp only
    have hnamed : SameSettings s.networks (s.changeNetwork net.id fun n =>
        {n with name := (body.name.map strip).getD n.name,
                region := (body.region.map strip).getD n.region}).networks :=
      sameSettings_changeNetwork net.id (fun _ => rfl) fun _ => rfl
    split
    · exact hnamed.separated h
    · next channelId _ =>
      have htuned : SameSettings s.networks ((s.changeNetwork net.id fun n =>
          {n with name := (body.name.map strip).getD n.name,
                  region := (body.region.map strip).getD n.region}).changeNetwork net.id fun n =>
            {n with channelId}).networks := by
        refine Eq.trans ?_ hnamed
        exact sameSettings_changeNetwork net.id (fun _ => rfl) fun _ => rfl
      split
      · exact (htuned.separated h).setRfConfig (htuned.freeFor.mp hfree)
      · exact htuned.separated h

theorem apiNetworkDelete_separated (h : Separated s.networks) (networkId : String) :
    Separated (apiNetworkDelete s networkId).2.networks := by
  unfold apiNetworkDelete
  split
  · exact h
  · dsimp only
    split
    · exact h.filter _
    · exact h.filter _

/-- A migration to settings that collide with no other network, after which the gateway
brings none of its own that do. -/
def MigratesFree (s : State) (networkId : String) (target : Dict) (answers : MigrationAnswers) : Prop :=
  ∀ plan, planMigration s networkId target = .ok (.ok plan) →
    gatewayRefusal plan.transport answers.refusal = none →
    FreeFor s.networks plan.network.id (some plan.target) ∧
      ∀ t, s.transportFor plan.transport.ident = some t →
        AdoptsFree (s.setRfConfig plan.network.id (some plan.target)) t answers.report

theorem migrateNetworkTo_separated (h : Separated s.networks) {networkId : String} {target : Dict}
    (forceOffline : Bool) {answers : MigrationAnswers} (hfree : MigratesFree s networkId target answers) :
    Separated (migrateNetworkTo s networkId target forceOffline answers).state.networks := by
  rcases migrateNetworkTo_does s networkId target forceOffline answers with
    ⟨devices, heq⟩ | ⟨plan, entries, pushed, hplan, hrefusal, heq⟩
  · rw [heq]
    exact h
  · obtain ⟨htarget, hadopt⟩ := hfree plan hplan hrefusal
    obtain ⟨devices, saves, hfinish⟩ := finishMigration_does _ plan entries answers
    have hmigrated : Separated (migrated s plan devices saves).networks := h.setRfConfig htarget
    rw [heq, hfinish]
    split
    · exact hmigrated
    · exact reEvaluate_separated hmigrated answers.token hadopt

end Operations

/-! ### Runs -/

/-- Where an operation keeps the separation. -/
def Op.KeepsSeparation (s : State) : Op → Prop
  | .attach g => ∀ network settings, s.welcomes g.identMac = some network → network.rfConfig = none →
      g.report = some settings → FreeFor s.networks network.id (some settings.toDict)
  | .evaluate identMac report _ => ∀ t, s.transportFor identMac = some t → AdoptsFree s t report
  | .migrateNetwork networkId target _ answers => MigratesFree s networkId target answers
  | _ => True

theorem step_separated {s : State} {op : Op} (h : Separated s.networks) (hsound : op.Sound s)
    (hkeeps : op.KeepsSeparation s) : Separated (step s op).networks := by
  cases op with
  | attach g => exact attachGateway_separated h hkeeps
  | attachEthernet sockets =>
    rw [step, attachEthernetTransports_networks]
    exact h
  | detach identMac =>
    rw [step, detachOneTransport]
    split <;> exact h
  | closeAll => exact h
  | evaluate identMac report token =>
    rw [step]
    split
    · exact h
    · exact reEvaluate_separated h token hkeeps
  | resolve identMac action params answers =>
    rw [step]
    rcases resolve_does s identMac action params answers with heq | ⟨record, -, -, heq⟩
    · rw [heq]
      exact h
    · rw [heq]
      exact act_separated h record action params hsound.1 hsound.2
  | createNetwork body networkId now sockets =>
    exact apiNetworkCreate_separated h body now sockets hsound.1 hsound.2
  | updateNetwork networkId body => exact apiNetworkUpdate_separated h networkId body
  | deleteNetwork networkId => exact apiNetworkDelete_separated h networkId
  | migrateNetwork networkId target force answers => exact migrateNetworkTo_separated h force hkeeps

/-- The steps whose conditions hold. -/
def SeparationStep (s t : State) : Prop := ∃ op : Op, op.Sound s ∧ op.KeepsSeparation s ∧ step s op = t

/-- **From separated networks, such steps lead to separated networks.** -/
theorem reachable_separated {s : State} (h : Reachable (fun s => Separated s.networks) SeparationStep s) :
    Separated s.networks :=
  h.invariant (fun _ hs => hs) fun _ _ hs hstep => by
    obtain ⟨op, hsound, hkeeps, rfl⟩ := hstep
    exact step_separated hs hsound hkeeps

/-! ### A first contact -/

/-- A network on the default channel, and one that has no gateway and no settings yet. -/
def unsetNetwork : State where
  networks :=
    [⟨⟨"net-a", .rf, some "DDEEFF"⟩, "Alpha", "EU868", some 1, channelRfConfig "EU868" 1, none, .finite 0⟩,
      ⟨⟨"net-b", .rf, none⟩, "Beta", "EU868", none, none, none, .finite 0⟩]
  devices := []
  groups := []
  transports := []
  records := []
  saves := 0

theorem unsetNetwork_separated : Separated unsetNetwork.networks := by
  refine ⟨by decide, by decide, List.pairwise_pair.mpr ?_⟩
  exact not_collide_none _

/-- A new gateway on a channel that no network is on. -/
def freeGateway : Gateway where
  handle := 0
  identMac := "AABBCC"
  report := some ⟨868200000, 1250, 7, 5, 0x12, 14, 8⟩
  token := "t0"

theorem freeGateway_keeps : (Op.attach freeGateway).KeepsSeparation unsetNetwork := by
  intro network settings hwelcome _ hreport
  cases hreport
  have hnetwork : unsetNetwork.welcomes freeGateway.identMac = some ⟨⟨"net-b", .rf, none⟩, "Beta", "EU868", none, none,
      none, .finite 0⟩ := by
    decide +kernel
  cases hnetwork.symm.trans hwelcome
  obtain ⟨u, hchecked⟩ : ∃ u, checkSeparation unsetNetwork ⟨⟨"net-b", .rf, none⟩, "Beta", "EU868", none, none, none,
      .finite 0⟩ (RfSettings.toDict ⟨868200000, 1250, 7, 5, 0x12, 14, 8⟩) = .ok u := ⟨_, rfl⟩
  exact checkSeparation_free unsetNetwork_separated hchecked

/-- The second network adopts the settings of the gateway, and is put on another free channel. -/
theorem unsetNetwork_tuned :
    Separated (step (step unsetNetwork (.attach freeGateway))
      (.updateNetwork "net-b" { channelId := some (.int 3) })).networks :=
  reachable_separated (.next (.next (.start unsetNetwork_separated)
    ⟨.attach freeGateway, wired_of_prefix (by decide +kernel), freeGateway_keeps, rfl⟩)
    ⟨.updateNetwork "net-b" { channelId := some (.int 3) }, trivial, trivial, rfl⟩)

/-- A new gateway on the default channel, which is the first network's. -/
def newGateway : Gateway where
  handle := 0
  identMac := "AABBCC"
  report := some ⟨867700000, 1250, 7, 5, 0x12, 14, 8⟩
  token := "t0"

/-- The first contact puts the second network on the channel of the first. -/
theorem attach_adopts_taken_channel :
    ¬ ∀ s, Reachable (fun s => Separated s.networks) (fun s t => ∃ op : Op, op.Sound s ∧ step s op = t) s →
      Separated s.networks := by
  intro h
  have hseparated := h (step unsetNetwork (.attach newGateway))
    (.next (.start unsetNetwork_separated) ⟨.attach newGateway, wired_of_prefix (by decide +kernel), rfl⟩)
  have hfound : (validateNetworksSeparation (step unsetNetwork (.attach newGateway)).networks).toOption.map
      List.length = some 1 := by
    decide +kernel
  cases hvalid : validateNetworksSeparation (step unsetNetwork (.attach newGateway)).networks with
  | error e =>
    rw [hvalid] at hfound
    cases hfound
  | ok conflicts =>
    rw [hvalid, hseparated.validated hvalid] at hfound
    cases hfound

end RaceLink.Gateways
