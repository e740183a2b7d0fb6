import RaceLink.Gateways.Binding
import RaceLink.Library.Runs

/-! The operations keep the bindings, but for three that write one place and forget
another: the deletion of a network whose gateway is attached, a rebind to a network that
another gateway still uses, and an attach that takes the first free network to be an
RF network (`reachable_bound`). -/
namespace RaceLink.Gateways
open Python Library Domain Routing

/-! ### The operations -/

section Operations
variable {s s' : State}

theorem changeNetwork_bindings (h : s.Bindings) (networkId : String) {f : NetworkRecord → NetworkRecord}
    (hf : ∀ n, (f n).toNetwork = n.toNetwork) : (s.changeNetwork networkId f).Bindings := by
  refine Bindings.settings h fun n => ?_
  dsimp only
  split
  · exact hf n
  · rfl

theorem evaluate_bindings (h : s.Bindings) {t : Attached} {report : Option RfSettings} (hrf : t.kind = .rf)
    (ht : Stamped s.networks t) (hev : Evaluated s t report s') : s'.Bindings := by
  have hput : Bindings s.networks s'.transports s'.records := by
    rw [hev.transports]
    rcases hev.records with heq | ⟨hident, record, hrec, heq⟩
    · rw [heq]
      exact h
    · rw [heq]
      obtain ⟨hwired, hlists⟩ := ht.rf hrf
      refine Bindings.put h ⟨hrec.ident ▸ hident, ?_, hrec.ident ▸ hwired, fun networkId hid => ?_, fun hnone => ?_⟩
      · rw [hrec.ident]
        exact upper_upper t.identMac
      · rcases hrec.home with ⟨hnone, -⟩ | ⟨network, hhome, hnet⟩
        · rw [hnone] at hid
          cases hid
        · rw [hrec.ident]
          exact hlists networkId ((homeOf_some hhome).2.trans (hnet.symm.trans hid))
      · rcases hrec.home with ⟨-, hunbound⟩ | ⟨network, -, hnet⟩
        · exact hunbound
        · rw [hnone] at hnet
          cases hnet
  rcases hev.networks with heq | ⟨network, settings, -, -, -, heq⟩
  · rw [State.Bindings, heq]
    exact hput
  · rw [State.Bindings, heq]
    refine Bindings.settings hput fun n => ?_
    dsimp only
    split
    · rfl
    · rfl

theorem reEvaluate_bindings (h : s.Bindings) {identMac : String} (report : Option RfSettings) (token : String)
    (hrf : ∀ t, s.transportFor identMac = some t → t.kind = .rf) :
    (reEvaluate s identMac report token).2.Bindings := by
  unfold reEvaluate
  cases ht : s.transportFor identMac with
  | none => exact Bindings.dropRecords h _
  | some t =>
    exact evaluate_bindings h (hrf t ht) (h.stamped t (transportFor_some ht).1) (evaluate_does s t report token)

/-- A network without a gateway takes one that nobody lists. -/
theorem setGatewayMac_bindings (h : s.Bindings) {target : NetworkRecord} {identMac : String}
    (htarget : target ∈ s.networks) (hfree : nonEmpty target.gatewayMac = none) (hrf : target.kind = .rf)
    (hne : identMac ≠ "") (hunlisted : ∀ n ∈ s.networks, macOf n ≠ upper identMac) :
    (s.setGatewayMac target.id (some identMac)).Bindings ∧
      Lists (s.setGatewayMac target.id (some identMac)).networks target.id (upper identMac) := by
  let f : NetworkRecord → NetworkRecord := fun n => if n.id = target.id then {n with gatewayMac := some identMac} else n
  have hid : ∀ n, (f n).id = n.id := fun n => by
    dsimp only [f]
    split <;> rfl
  have hkind : ∀ n, (f n).kind = n.kind := fun n => by
    dsimp only [f]
    split <;> rfl
  have hother : ∀ n, n.id ≠ target.id → f n = n := fun n hn => if_neg hn
  have htaken : ∀ n, n.id = target.id → macOf (f n) = upper identMac := fun n hn => by
    show macOf (if n.id = target.id then _ else n) = _
    rw [if_pos hn]
    rfl
  have hsame : ∀ n ∈ s.networks, n.id = target.id → n = target := fun n hn heq =>
    key_inj h.assigned.ids hn htarget heq
  have hmacs : Unshared "" (fun n => macOf (f n)) s.networks := by
    have hids : s.networks.Pairwise fun a b => a.id ≠ b.id := List.pairwise_map.mp h.assigned.ids
    refine List.Pairwise.imp_of_mem ?_ (h.assigned.macs.and hids)
    rintro a b ha hb ⟨hmacs, hdistinct⟩
    show macOf (f a) ≠ "" → macOf (f a) ≠ macOf (f b)
    by_cases hai : a.id = target.id
    · rw [htaken a hai, hother b fun hbi => hdistinct (hai.trans hbi.symm)]
      exact fun _ => (hunlisted b hb).symm
    · rw [hother a hai]
      by_cases hbi : b.id = target.id
      · rw [htaken b hbi]
        exact fun _ => hunlisted a ha
      · rw [hother b hbi]
        exact hmacs
  refine ⟨h.rewire (h.assigned.map hid hkind ((unshared_map macOf f).mpr hmacs) fun n hn hnkind => ?_) ?_ ?_,
    upper_ne_empty hne, f target, List.mem_map_of_mem htarget, hid target, htaken target rfl⟩
  · have hni : n.id ≠ target.id := fun heq => by
      rw [hsame n hn heq, hrf] at hnkind
      cases hnkind
    show nonEmpty (f n).gatewayMac = none
    rw [hother n hni]
    exact h.assigned.ethernet n hn hnkind
  · rintro i ident - ⟨hident, n, hn, hni, hmac⟩
    have hnt : n.id ≠ target.id := fun heq => by
      rw [hsame n hn heq, macOf_of_none hfree] at hmac
      exact hident hmac.symm
    exact ⟨hident, n, List.mem_map.mpr ⟨n, hn, hother n hnt⟩, hni, hmac⟩
  · intro n hn hnkind _
    exact ⟨f n, List.mem_map_of_mem hn, by rw [hkind, hnkind], hid n⟩

/-- What a new gateway is bound to lists it. -/
theorem bindTransportToNetwork_bindings (h : s.Bindings) {identMac : String}
    (hfree : identMac ≠ "" → s.networkByGatewayMac identMac = none → ∀ n, s.freeNetwork = some n → n.kind = .rf) :
    (bindTransportToNetwork s identMac).2.Bindings ∧
      (bindTransportToNetwork s identMac).2.transports = s.transports ∧
      ∀ networkId, (bindTransportToNetwork s identMac).1 = some networkId →
        Lists (bindTransportToNetwork s identMac).2.networks networkId (upper identMac) := by
  unfold bindTransportToNetwork
  cases hlisted : s.networkByGatewayMac identMac with
  | some n =>
    obtain ⟨hn, hne, hmac⟩ := networkByGatewayMac_some hlisted
    have hname : nonEmpty (some n.id) = some n.id := nonEmpty_some.mpr ⟨rfl, h.assigned.named n hn⟩
    rw [Option.bind_some, hname]
    refine ⟨h, rfl, fun networkId hid => ?_⟩
    cases hid
    exact ⟨upper_ne_empty hne, n, hn, rfl, hmac⟩
  | none =>
    rw [Option.bind_none]
    dsimp only
    by_cases hne : identMac = ""
    · rw [if_pos hne]
      exact ⟨h, rfl, nofun⟩
    rw [if_neg hne]
    cases htarget : s.freeNetwork with
    | none => exact ⟨h, rfl, nofun⟩
    | some target =>
      obtain ⟨hmem, hblank, -⟩ := freeNetwork_some htarget
      obtain ⟨hbindings, hlists⟩ := setGatewayMac_bindings h hmem hblank (hfree hne hlisted target htarget) hne
        (networkByGatewayMac_none hne hlisted)
      refine ⟨hbindings, rfl, fun networkId hid => ?_⟩
      have hname : nonEmpty (some target.id) = some networkId := hid
      obtain ⟨heq, -⟩ := nonEmpty_some.mp hname
      cases heq
      exact hlists

theorem duplicateOf_none {t : Attached} (h : s.duplicateOf t = none) (hne : t.ident ≠ "") :
    ∀ u ∈ s.transports, u.ident ≠ t.ident := by
  rw [State.duplicateOf, if_neg hne, List.find?_eq_none] at h
  intro u hu
  simpa using h u hu

theorem attachGateway_bindings (h : s.Bindings) {g : Gateway} (hwired : Wired (upper g.identMac))
    (hfree : g.starts = true → g.identMac ≠ "" → s.networkByGatewayMac g.identMac = none →
      ∀ n, s.freeNetwork = some n → n.kind = .rf) : (attachGateway s g).2.Bindings := by
  rcases attachGateway_does s g with heq | ⟨hdup, hstarts, heq⟩
  · rw [heq]
    exact h
  · obtain ⟨hbindings, htransports, hlists⟩ := bindTransportToNetwork_bindings h (hfree hstarts)
    have hstamped : Stamped (joined s g).networks (g.stamped (bindTransportToNetwork s g.identMac).1) :=
      ⟨fun _ => ⟨hwired, hlists⟩, nofun⟩
    have hjoined : (joined s g).Bindings := Bindings.attach hbindings hstamped fun hne => by
      rw [htransports]
      exact duplicateOf_none hdup hne
    rw [heq]
    exact evaluate_bindings hjoined rfl hstamped (evaluate_does ..)

theorem attachEthernet_bindings (h : s.Bindings) {sockets : Sockets} {n : NetworkRecord} (hn : n ∈ s.networks)
    (hkind : n.kind = .ethernet) (starts : Bool) :
    (attachTransport s (ethernetTransport sockets n.id) starts none "").2.Bindings ∧
      (attachTransport s (ethernetTransport sockets n.id) starts none "").2.networks = s.networks := by
  unfold attachTransport
  cases hdup : s.duplicateOf (ethernetTransport sockets n.id) with
  | some existing => exact ⟨h, rfl⟩
  | none =>
    cases starts with
    | false => exact ⟨h, rfl⟩
    | true =>
      refine ⟨Bindings.attach h ⟨nofun, fun _ => ⟨n, hn, hkind, rfl, rfl⟩⟩ (duplicateOf_none hdup), rfl⟩

theorem attachEthernetTransports_bindings (h : s.Bindings) (sockets : Sockets) :
    (attachEthernetTransports s sockets).2.Bindings := by
  have hall : ∀ (found : List NetworkRecord) (s : State), s.Bindings →
      (∀ n ∈ found, n ∈ s.networks ∧ n.kind = .ethernet) → (found.foldl (fun s n =>
        (attachTransport s (ethernetTransport sockets n.id) (sockets.starts n.id) none "").2) s).Bindings := by
    intro found
    induction found with
    | nil => exact fun s h _ => h
    | cons n rest ih =>
      intro s h hfound
      obtain ⟨hn, hkind⟩ := hfound n (List.mem_cons_self ..)
      obtain ⟨hbindings, hnetworks⟩ := attachEthernet_bindings h hn hkind (sockets.starts n.id)
      refine ih _ hbindings fun m hm => ?_
      rw [hnetworks]
      exact hfound m (List.mem_cons_of_mem n hm)
  refine hall _ s h fun n hn => ?_
  obtain ⟨hmem, hopen⟩ := List.mem_filter.mp hn
  rw [Bool.and_eq_true, beq_iff_eq] at hopen
  exact ⟨hmem, hopen.1⟩

theorem detachOneTransport_bindings (h : s.Bindings) (identMac : String) :
    (detachOneTransport s identMac).Bindings := by
  unfold detachOneTransport
  split
  · exact h
  · exact Bindings.dropRecords (Bindings.dropTransports h List.eraseP_sublist) _

theorem closeAllTransports_bindings (h : s.Bindings) : (closeAllTransports s).Bindings :=
  Bindings.dropTransports h (List.nil_sublist _)

/-! ### Resolutions -/

/-- A record that stays with its network. -/
theorem Noted.keep {networks : List NetworkRecord} {record record' : BindRecord} (h : Noted networks record)
    (hsame : SameBinding record record') (hstate : record'.state = record.state ∨ record.state ≠ .unbound) :
    Noted networks record' := by
  obtain ⟨hident, hnet⟩ := hsame
  refine ⟨hident ▸ h.ident, by rw [hident]; exact h.upper, hident ▸ h.wired, fun networkId hid => ?_,
    fun hnone => ?_⟩
  · rw [hident]
    exact h.network networkId (hnet ▸ hid)
  · have hunbound := h.decided (hnet ▸ hnone)
    rcases hstate with hsame | hne
    · rw [hsame, hunbound]
    · exact absurd hunbound hne

theorem actionRetuneGateway_bindings (h : s.Bindings) {record : BindRecord} (hrecord : record ∈ s.records)
    (answers : Answers) : (actionRetuneGateway s record answers).2.Bindings := by
  unfold actionRetuneGateway
  dsimp only
  split
  · exact h
  · next target hcheck =>
    obtain ⟨u, hstate, -⟩ := bind_ok.mp hcheck
    have hconflict : record.state = .conflict := by simpa using requireState_ok.mp hstate
    exact Bindings.put h ((h.noted record hrecord).keep ⟨rfl, rfl⟩ (.inr (by rw [hconflict]; decide)))

theorem setRfConfig_bindings (h : s.Bindings) (networkId : String) (cfg : Option Dict) :
    (s.setRfConfig networkId cfg).Bindings := changeNetwork_bindings h networkId fun _ => rfl

theorem actionAcceptGateway_bindings (h : s.Bindings) {record : BindRecord} (hrecord : record ∈ s.records)
    (answers : Answers) : (actionAcceptGateway s record answers).2.Bindings := by
  unfold actionAcceptGateway
  dsimp only
  split
  · exact h
  · next s' record' hcheck =>
    obtain ⟨u, hstate, hcheck⟩ := bind_ok.mp hcheck
    obtain ⟨-, hcheck⟩ := guard_ok.mp hcheck
    obtain ⟨network, -, hadopt⟩ := bind_ok.mp hcheck
    obtain ⟨hsame, cfg, hadopted⟩ := adoptGatewayConfig_does hadopt
    have hconflict : record.state = .conflict := by simpa using requireState_ok.mp hstate
    rw [hadopted.written]
    have hbindings := setRfConfig_bindings h network.id (some cfg)
    refine Bindings.put hbindings ((hbindings.noted record hrecord).keep hsame (.inr ?_))
    rw [hconflict]
    decide

theorem actionAcceptHost_bindings (h : s.Bindings) {record : BindRecord} (hrecord : record ∈ s.records)
    (answers : Answers) : (actionAcceptHost s record answers).2.Bindings := by
  have hkeep : ∀ record', SameBinding record record' → record'.state = record.state →
      (s.putRecord record').Bindings := fun record' hsame hstate =>
    Bindings.put h ((h.noted record hrecord).keep hsame (.inl hstate))
  unfold actionAcceptHost
  dsimp only
  split
  · exact h
  · split
    · exact hkeep _ ⟨rfl, rfl⟩ rfl
    · exact hkeep _ ⟨rfl, rfl⟩ rfl

/-- A new network is appended, and takes the gateway. -/
theorem created_networks {record : BindRecord} {net : NetworkRecord} {networks : List NetworkRecord}
    (hmac : net.gatewayMac = some record.identMac) (hfresh : ∀ n ∈ networks, n.id ≠ net.id) :
    networks.map (State.released record.identMac none) ++ [net] =
      (networks ++ [{net with gatewayMac := none}]).map (taken record.identMac net.id) := by
  rw [List.map_append, List.map_singleton, taken, if_pos rfl]
  congr 1
  · refine List.map_congr_left fun n hn => ?_
    rw [taken, if_neg (hfresh n hn)]
  · rw [← hmac]

theorem actionCreateNetwork_bindings (h : s.Bindings) {record : BindRecord} (hrecord : record ∈ s.records)
    (params : ResolveParams) {answers : Answers} (hname : answers.networkId ≠ "")
    (hfresh : ∀ n ∈ s.networks, n.id ≠ answers.networkId) :
    (actionCreateNetwork s record params answers).2.Bindings := by
  obtain ⟨hne, hupper, hwired, -, -⟩ := h.noted record hrecord
  unfold actionCreateNetwork
  split
  · exact h
  · next name seeded retuned _ =>
    let net := newNetwork record params answers name seeded
    let record' : BindRecord :=
      {record with networkId := some net.id, networkName := some name, rfConfigExpected := some seeded,
                   rfConfigActual := some seeded, state := .bound, conflictFields := [], token := answers.token}
    have hassigned : Assigned (s.networks ++ [{net with gatewayMac := none}]) :=
      h.assigned.append hname hfresh (fun hmac => absurd upper_empty hmac) nofun
    have hunused : ∀ ident, ¬ Uses s.transports s.records net.id ident := by
      rintro ident (⟨t, ht, hid, -⟩ | ⟨r, hr, hid, -⟩)
      · obtain ⟨n, hn, heq⟩ := (State.Bindings.bound h).known t ht net.id hid
        exact hfresh n hn heq
      · obtain ⟨-, n, hn, heq, -⟩ := (h.noted r hr).network net.id hid
        exact hfresh n hn heq
    have hkind : ∀ n ∈ s.networks ++ [{net with gatewayMac := none}], n.id = net.id → n.kind = .rf := by
      intro n hn hid
      rcases List.mem_append.mp hn with hn | hn
      · exact absurd hid (hfresh n hn)
      · rw [List.mem_singleton.mp hn]
        rfl
    have hmem : ∃ n ∈ s.networks ++ [{net with gatewayMac := none}], n.id = net.id :=
      ⟨_, List.mem_concat_self, rfl⟩
    have hne' : record'.identMac ≠ "" := hne
    have hnet : record'.networkId = some net.id := rfl
    have htake : Bindings ((s.networks ++ [{net with gatewayMac := none}]).map (taken record.identMac net.id))
        (State.stampFirst record.identMac (some net.id) s.transports) (putKey (·.identMac) record' s.records) :=
      Bindings.take h hassigned (fun n hn => List.mem_append_left _ hn) hmem hkind hne' hupper hwired hnet
        fun ident huses => absurd huses (hunused ident)
    rw [← created_networks rfl hfresh] at htake
    show Bindings (s.networks.map (State.released record.identMac none) ++ [net])
      (State.stampFirst (upper record.identMac) (some net.id) s.transports)
      (putKey (·.identMac) record' s.records)
    rw [hupper]
    exact htake

theorem actionRebind_bindings (h : s.Bindings) {record : BindRecord} (hrecord : record ∈ s.records)
    (params : ResolveParams) (answers : Answers)
    (hfree : ∀ network, Admissible s record params network →
      ∀ ident, Uses s.transports s.records network.id ident → ident = record.identMac) :
    (actionRebind s record params answers).2.Bindings := by
  obtain ⟨hne, hupper, hwired, -, -⟩ := h.noted record hrecord
  unfold actionRebind
  split
  · exact h
  · next network htarget =>
    have hadm := rebindTarget_ok.mp htarget
    obtain ⟨hmem, -⟩ := networkById_some hadm.found
    have htake : ∀ record' : BindRecord, record'.identMac = record.identMac →
        record'.networkId = some network.id → ((bindTo s record network).putRecord record').Bindings := by
      intro record' hident hnet
      have h' := Bindings.take h h.assigned (fun n hn => hn) ⟨network, hmem, rfl⟩
        (fun n hn hid => key_inj h.assigned.ids hn hmem hid ▸ hadm.kind) (hident ▸ hne)
        (by rw [hident]; exact hupper) (hident ▸ hwired) hnet fun ident huses => by
          rw [hident]
          exact hfree network hadm ident huses
      have hstate : ((bindTo s record network).putRecord record').networks =
          s.networks.map (taken record'.identMac network.id) := by
        rw [hident]
        exact bindTo_networks s record network
      have hstamp : ((bindTo s record network).putRecord record').transports =
          State.stampFirst record'.identMac (some network.id) s.transports := by
        rw [hident]
        show State.stampFirst (upper record.identMac) (some network.id) s.transports = _
        rw [hupper]
      rw [State.Bindings, hstate, hstamp]
      exact h'
    split
    · exact htake _ rfl rfl
    · next reply s' record' hsettle =>
      obtain ⟨⟨hident, hnet⟩, hwritten⟩ := settle_does hsettle
      have hrest := htake {record' with token := answers.token} hident hnet
      rcases hwritten with rfl | ⟨cfg, hadopted⟩
      · exact hrest
      · rw [hadopted.written]
        exact setRfConfig_bindings hrest network.id (some cfg)

theorem act_bindings (h : s.Bindings) {identMac : String} {record : BindRecord} {action : Action}
    {params : ResolveParams} {answers : Answers} (hknown : s.recordFor identMac = some record)
    (hname : answers.networkId ≠ "") (hfresh : ∀ n ∈ s.networks, n.id ≠ answers.networkId)
    (hfree : action = .rebind → ∀ network, Admissible s record params network →
      ∀ ident, Uses s.transports s.records network.id ident → ident = record.identMac) :
    (act s record action params answers).2.Bindings := by
  have hrecord := (recordFor_some hknown).1
  cases action with
  | retuneGateway => exact actionRetuneGateway_bindings h hrecord answers
  | acceptGateway => exact actionAcceptGateway_bindings h hrecord answers
  | acceptHost => exact actionAcceptHost_bindings h hrecord answers
  | createNetwork => exact actionCreateNetwork_bindings h hrecord params hname hfresh
  | rebind => exact actionRebind_bindings h hrecord params answers (hfree rfl)
  | other name => exact h

/-! ### Requests and migrations -/

theorem apiNetworkCreate_bindings (h : s.Bindings) (body : CreateBody) {networkId : String} (now : PyFloat)
    (sockets : Sockets) (hname : networkId ≠ "") (hfresh : ∀ n ∈ s.networks, n.id ≠ networkId) :
    (apiNetworkCreate s body networkId now sockets).2.Bindings := by
  unfold apiNetworkCreate
  cases hcheck : checkNetworkCreate body networkId now with
  | error e => exact h
  | ok net =>
    obtain ⟨hid, hmac, -⟩ := checkNetworkCreate_ok hcheck
    have hblank : nonEmpty net.gatewayMac = none := by
      rw [hmac]
      rfl
    have hassigned : Assigned (s.networks ++ [net]) :=
      h.assigned.append (hid ▸ hname) (hid ▸ hfresh) (fun hne => absurd (macOf_of_none hblank) hne) fun _ => hblank
    have happended : Bindings (s.networks ++ [net]) s.transports s.records := by
      refine Bindings.rewire h hassigned ?_ fun n hn hkind _ => ⟨n, List.mem_append_left _ hn, hkind, rfl⟩
      rintro i ident - ⟨hne, n, hn, hni, hident⟩
      exact ⟨hne, n, List.mem_append_left _ hn, hni, hident⟩
    have hsaved : ({s with networks := s.networks ++ [net]} : State).save.Bindings := happended
    exact attachEthernetTransports_bindings hsaved sockets

theorem tuned_toNetwork (channelId : Option Int) (n : NetworkRecord) :
    ({n with channelId} : NetworkRecord).toNetwork = n.toNetwork := rfl

theorem apiNetworkUpdate_bindings (h : s.Bindings) (networkId : String) (body : UpdateBody) :
    (apiNetworkUpdate s networkId body).2.Bindings := by
  unfold apiNetworkUpdate
  split
  · exact h
  · next net cfg _ =>
    dsimp only
    have hnamed : (s.changeNetwork net.id fun n =>
        {n with name := (body.name.map strip).getD n.name,
                region := (body.region.map strip).getD n.region}).Bindings :=
      changeNetwork_bindings h net.id fun _ => rfl
    split
    · exact hnamed
    · next channelId _ =>
      have htuned := changeNetwork_bindings hnamed net.id (tuned_toNetwork channelId)
      split
      · exact setRfConfig_bindings htuned net.id cfg
      · exact htuned

theorem apiNetworkDelete_bindings (h : s.Bindings) {networkId : String}
    (hfree : ∀ net, checkNetworkDelete s networkId = .ok net → ∀ t ∈ s.transports, t.networkId ≠ some networkId) :
    (apiNetworkDelete s networkId).2.Bindings := by
  unfold apiNetworkDelete
  cases hcheck : checkNetworkDelete s networkId with
  | error e => exact h
  | ok net =>
    obtain ⟨hmem, hid⟩ := networkById_some (checkNetworkDelete_ok hcheck)
    have hunstamped := hfree net hcheck
    -- the records that are kept name other networks
    have hdelete : ∀ records, Bindings s.networks s.transports records →
        (∀ r ∈ records, r.identMac ≠ macOf net) →
        Bindings (s.networks.filter fun n => n.id ≠ net.id) s.transports records := by
      intro records hrecords hforgotten
      refine hrecords.rewire (hrecords.assigned.filter _) ?_ ?_
      · rintro i ident huses ⟨hne, n, hn, rfl, rfl⟩
        have hni : n.id ≠ net.id := by
          intro heq
          rcases huses with ⟨t, ht, hstamp, -⟩ | ⟨r, hr, -, hident⟩
          · exact hunstamped t ht (by rw [hstamp, heq, hid])
          · rw [key_inj h.assigned.ids hn hmem heq] at hident
            exact hforgotten r hr hident
        exact ⟨hne, n, List.mem_filter.mpr ⟨hn, by simpa using hni⟩, rfl, rfl⟩
      · rintro n hn hkind ⟨t, ht, hstamp⟩
        have hni : n.id ≠ net.id := fun heq => hunstamped t ht (by rw [hstamp, heq, hid])
        exact ⟨n, List.mem_filter.mpr ⟨hn, by simpa using hni⟩, hkind, rfl⟩
    dsimp only
    split
    · next hblank =>
      refine hdelete s.records h fun r hr heq => ?_
      rw [macOf, hblank, upper_empty] at heq
      exact (h.noted r hr).ident heq
    · exact hdelete _ (Bindings.dropRecords h _) fun r hr => by simpa [macOf] using (List.mem_filter.mp hr).2

/-- The ident of an RF transport is that of no Ethernet transport. -/
theorem transportFor_rf (h : s.Bindings) {t u : Attached} (ht : t ∈ s.transports) (hrf : t.kind = .rf)
    (hu : s.transportFor t.ident = some u) : u.kind = .rf := by
  obtain ⟨hmem, hident⟩ := transportFor_some hu
  cases hkind : u.kind with
  | rf => rfl
  | ethernet =>
    obtain ⟨n, -, -, -, hmac⟩ := (h.stamped u hmem).ethernet hkind
    have hsame : t.ident = upper ("ETH:" ++ n.id) := by
      rw [← hmac]
      exact (upper_upper t.identMac).symm.trans hident.symm
    exact absurd hsame (((h.stamped t ht).rf hrf).1 n.id)

theorem migrateNetworkTo_bindings (h : s.Bindings) (networkId : String) (target : Dict) (forceOffline : Bool)
    (answers : MigrationAnswers) : (migrateNetworkTo s networkId target forceOffline answers).state.Bindings := by
  rcases migrateNetworkTo_does s networkId target forceOffline answers with
    ⟨devices, heq⟩ | ⟨plan, entries, pushed, hplan, hrefusal, heq⟩
  · rw [heq]
    exact h
  · obtain ⟨-, hmem⟩ := planMigration_ok hplan
    have hrf : plan.transport.kind = .rf := by
      cases hkind : plan.transport.kind with
      | rf => rfl
      | ethernet =>
        rw [gatewayRefusal, hkind] at hrefusal
        cases hrefusal
    obtain ⟨devices, saves, hfinish⟩ := finishMigration_does _ plan entries answers
    have hmigrated : (migrated s plan devices saves).Bindings :=
      setRfConfig_bindings h plan.network.id (some plan.target)
    rw [heq, hfinish]
    split
    · exact hmigrated
    · exact reEvaluate_bindings hmigrated answers.report answers.token fun t ht =>
        transportFor_rf hmigrated hmem hrf ht

end Operations

/-! ### Runs -/

/-- Where an operation keeps the bindings. -/
def Op.KeepsBindings (s : State) : Op → Prop
  | .attach g => g.starts = true → g.identMac ≠ "" → s.networkByGatewayMac g.identMac = none →
      ∀ n, s.freeNetwork = some n → n.kind = .rf
  | .resolve identMac .rebind params _ => ∀ record network, s.recordFor identMac = some record →
      params.token = none ∨ params.token = some record.token → Admissible s record params network →
      ∀ ident, Uses s.transports s.records network.id ident → ident = record.identMac
  | .deleteNetwork networkId => ∀ net, checkNetworkDelete s networkId = .ok net →
      ∀ t ∈ s.transports, t.networkId ≠ some networkId
  | _ => True

theorem step_bindings {s : State} {op : Op} (h : s.Bindings) (hsound : op.Sound s)
    (hkeeps : op.KeepsBindings s) : (step s op).Bindings := by
  cases op with
  | attach g => exact attachGateway_bindings h hsound hkeeps
  | attachEthernet sockets => exact attachEthernetTransports_bindings h sockets
  | detach identMac => exact detachOneTransport_bindings h identMac
  | closeAll => exact closeAllTransports_bindings h
  | evaluate identMac report token =>
    rw [step]
    split
    · exact h
    · next hkind =>
      refine reEvaluate_bindings h report token fun t ht => ?_
      cases ht' : t.kind with
      | rf => rfl
      | ethernet =>
        rw [ht, Option.map_some, ht'] at hkind
        exact absurd rfl hkind
  | resolve identMac action params answers =>
    rw [step]
    rcases resolve_does s identMac action params answers with heq | ⟨record, hknown, htoken, heq⟩
    · rw [heq]
      exact h
    · rw [heq]
      refine act_bindings h hknown hsound.1 hsound.2 fun haction network hadm => ?_
      subst haction
      exact hkeeps record network hknown htoken hadm
  | createNetwork body networkId now sockets =>
    exact apiNetworkCreate_bindings h body now sockets hsound.1 hsound.2
  | updateNetwork networkId body => exact apiNetworkUpdate_bindings h networkId body
  | deleteNetwork networkId => exact apiNetworkDelete_bindings h hkeeps
  | migrateNetwork networkId target force answers =>
    exact migrateNetworkTo_bindings h networkId target force answers

/-- A host that has just loaded its state file. -/
structure Started (s : State) : Prop where
  assigned : Assigned s.networks
  transports : s.transports = []
  records : s.records = []

theorem Started.bindings {s : State} (h : Started s) : s.Bindings := by
  rw [State.Bindings, h.transports, h.records]
  exact ⟨h.assigned, List.Pairwise.nil, nofun, List.nodup_nil, nofun⟩

/-- The steps whose conditions hold. -/
def BindingStep (s t : State) : Prop := ∃ op : Op, op.Sound s ∧ op.KeepsBindings s ∧ step s op = t

/-- **The binding invariant holds in every state that such steps lead to.** -/
theorem reachable_bound {s : State} (h : Reachable Started BindingStep s) : Bound s := by
  have hbindings : s.Bindings := h.invariant (fun _ hs => hs.bindings) fun _ _ hs hstep => by
    obtain ⟨op, hsound, hkeeps, rfl⟩ := hstep
    exact step_bindings hs hsound hkeeps
  exact hbindings.bound

/-! ### Two networks and a gateway -/

/-- A host with two networks; one has a gateway, which is not attached yet. -/
def twoNetworks : State where
  networks :=
    [⟨⟨"net-a", .rf, some "AABBCC"⟩, "Alpha", "EU868", some 1, channelRfConfig "EU868" 1, none, .finite 0⟩,
      ⟨⟨"net-b", .rf, none⟩, "Beta", "EU868", some 3, channelRfConfig "EU868" 3, none, .finite 0⟩]
  devices := []
  groups := []
  transports := []
  records := []
  saves := 0

theorem twoNetworks_started : Started twoNetworks := by
  refine ⟨⟨by decide +kernel, by decide +kernel, ?_, by decide +kernel⟩, rfl, rfl⟩
  show List.Pairwise _ _
  decide +kernel

/-- The gateway of the first network, on its channel. -/
def firstGateway : Gateway where
  handle := 0
  identMac := "AABBCC"
  report := some ⟨867700000, 1250, 7, 5, 0x12, 14, 8⟩
  token := "t0"

theorem attach_sound : (Op.attach firstGateway).Sound twoNetworks := wired_of_prefix (by decide +kernel)

theorem twoNetworks_bound : Bound (step twoNetworks (.attach firstGateway)) :=
  reachable_bound (.next (.start twoNetworks_started) ⟨.attach firstGateway, attach_sound,
    fun _ _ hnone => absurd hnone (by decide +kernel), rfl⟩)

/-- The network is deleted under its attached gateway: the stamp stays. -/
theorem delete_leaves_stamp :
    ¬ ∀ s, Reachable Started (fun s t => ∃ op : Op, op.Sound s ∧ step s op = t) s → Bound s := by
  intro h
  have hbound := h (step (step twoNetworks (.attach firstGateway)) (.deleteNetwork "net-a"))
    (.next (.next (.start twoNetworks_started) ⟨.attach firstGateway, attach_sound, rfl⟩)
      ⟨.deleteNetwork "net-a", trivial, rfl⟩)
  have hstamped : ⟨⟨0, some "net-a", "AABBCC"⟩, .rf⟩ ∈
      (step (step twoNetworks (.attach firstGateway)) (.deleteNetwork "net-a")).transports := by
    decide +kernel
  obtain ⟨n, hn, hid⟩ := hbound.known _ hstamped "net-a" rfl
  have hgone : ∀ n ∈ (step (step twoNetworks (.attach firstGateway)) (.deleteNetwork "net-a")).networks,
      n.id ≠ "net-a" := by
    decide +kernel
  exact hgone n hn hid

end RaceLink.Gateways
