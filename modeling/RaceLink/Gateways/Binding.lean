import RaceLink.Gateways.Steps

/-! Who is bound to whom, over whole runs.

A binding is written in three places: the network lists its gateway, the transport is
stamped with its network, and the record names it. `Bindings` says that the three
agree; the lemmas here are about the single writes. -/
namespace RaceLink.Gateways
open Python Library Domain Routing

/-! ### The invariant -/

/-- The network lists the gateway. -/
def Lists (networks : List NetworkRecord) (networkId ident : String) : Prop :=
  ident ≠ "" ∧ ∃ n ∈ networks, n.id = networkId ∧ macOf n = ident

/-- Networks are told apart, no two list one gateway, and an Ethernet network lists none. -/
structure Assigned (networks : List NetworkRecord) : Prop where
  ids : (networks.map (·.id)).Nodup
  named : ∀ n ∈ networks, n.id ≠ ""
  macs : Unshared "" macOf networks
  ethernet : ∀ n ∈ networks, n.kind = .ethernet → nonEmpty n.gatewayMac = none

/-- What is stamped on a transport is true. -/
structure Stamped (networks : List NetworkRecord) (t : Attached) : Prop where
  rf : t.kind = .rf → Wired t.ident ∧ ∀ networkId, t.networkId = some networkId → Lists networks networkId t.ident
  ethernet : t.kind = .ethernet →
    ∃ n ∈ networks, n.kind = .ethernet ∧ t.networkId = some n.id ∧ t.identMac = "ETH:" ++ n.id

/-- What a record says of its network is true. -/
structure Noted (networks : List NetworkRecord) (r : BindRecord) : Prop where
  ident : r.identMac ≠ ""
  upper : upper r.identMac = r.identMac
  wired : Wired r.identMac
  network : ∀ networkId, r.networkId = some networkId → Lists networks networkId r.identMac
  decided : r.networkId = none → r.state = .unbound

/-- The three places agree. -/
structure Bindings (networks : List NetworkRecord) (transports : List Attached) (records : List BindRecord) :
    Prop where
  assigned : Assigned networks
  idents : Unshared "" Attached.ident transports
  stamped : ∀ t ∈ transports, Stamped networks t
  keys : (records.map (·.identMac)).Nodup
  noted : ∀ r ∈ records, Noted networks r

def State.Bindings (s : State) : Prop := Gateways.Bindings s.networks s.transports s.records

/-- The binding invariant: no gateway belongs to two networks and no network to two
transports, a bound record is right, Ethernet networks have no gateway, and no transport
is stamped with a network that is gone. -/
structure Bound (s : State) : Prop where
  gateways : Unshared "" macOf s.networks
  transports : s.transports.Pairwise fun t u => ∀ networkId, t.networkId = some networkId →
    u.networkId ≠ some networkId
  bound : ∀ r ∈ s.records, r.state = .bound →
    ∃ n ∈ s.networks, r.networkId = some n.id ∧ macOf n = r.identMac
  ethernet : ∀ n ∈ s.networks, n.kind = .ethernet → nonEmpty n.gatewayMac = none
  known : ∀ t ∈ s.transports, ∀ networkId, t.networkId = some networkId →
    ∃ n ∈ s.networks, n.id = networkId

section Lookups
variable {networks : List NetworkRecord} {i j a b : String}

theorem macOf_of_none {n : NetworkRecord} (h : nonEmpty n.gatewayMac = none) : macOf n = "" := by
  unfold macOf
  cases hmac : n.gatewayMac with
  | none => exact upper_empty
  | some mac =>
    rw [hmac] at h
    have hempty : mac = "" := not_not.mp fun hne => by
      rw [nonEmpty_some.mpr ⟨rfl, hne⟩] at h
      cases h
    rw [hempty]
    exact upper_empty

/-- A network lists one gateway. -/
theorem Assigned.ident_unique (h : Assigned networks) (ha : Lists networks i a) (hb : Lists networks i b) :
    a = b := by
  obtain ⟨-, n, hn, hni, rfl⟩ := ha
  obtain ⟨-, m, hm, hmi, rfl⟩ := hb
  rw [key_inj h.ids hn hm (hni.trans hmi.symm)]

end Lookups

/-- **Where the three places agree, the binding invariant holds.** -/
theorem State.Bindings.bound {s : State} (h : s.Bindings) : Bound s where
  gateways := h.assigned.macs
  transports := by
    refine h.idents.imp_of_mem fun {t u} ht hu hident networkId htn hun => ?_
    have hst := h.stamped t ht
    have hsu := h.stamped u hu
    cases hkt : t.kind with
    | rf =>
      obtain ⟨hne, n, hn, hni, hnt⟩ := (hst.rf hkt).2 networkId htn
      cases hku : u.kind with
      | rf =>
        exact hident hne (h.assigned.ident_unique ⟨hne, n, hn, hni, hnt⟩ ((hsu.rf hku).2 networkId hun))
      | ethernet =>
        obtain ⟨m, hm, hmkind, hmid, -⟩ := hsu.ethernet hku
        have hnm : n = m := key_inj h.assigned.ids hn hm (hni.trans (Option.some.inj (hun.symm.trans hmid)))
        exact hne (hnt.symm.trans (macOf_of_none (h.assigned.ethernet n hn (hnm ▸ hmkind))))
    | ethernet =>
      obtain ⟨n, hn, hnkind, hnid, hnident⟩ := hst.ethernet hkt
      cases hku : u.kind with
      | rf =>
        obtain ⟨hne, m, hm, hmi, hmu⟩ := (hsu.rf hku).2 networkId hun
        have hnm : m = n := key_inj h.assigned.ids hm hn (hmi.trans (Option.some.inj (htn.symm.trans hnid)))
        exact hne (hmu.symm.trans (macOf_of_none (h.assigned.ethernet m hm (hnm ▸ hnkind))))
      | ethernet =>
        obtain ⟨m, hm, hmkind, hmid, hmident⟩ := hsu.ethernet hku
        have hsame : n.id = m.id :=
          (Option.some.inj (htn.symm.trans hnid)).symm.trans (Option.some.inj (hun.symm.trans hmid))
        have hne : t.ident ≠ "" := upper_ne_empty (by
          rw [hnident]
          exact fun hempty => absurd (String.append_eq_empty_iff.mp hempty).1 (by decide))
        refine hident hne ?_
        rw [Attached.ident, Attached.ident, hnident, hmident, hsame]
  bound := by
    intro r hr hbound
    have hnoted := h.noted r hr
    cases hnet : r.networkId with
    | none =>
      rw [hnoted.decided hnet] at hbound
      cases hbound
    | some networkId =>
      obtain ⟨-, n, hn, rfl, hmac⟩ := hnoted.network networkId hnet
      exact ⟨n, hn, rfl, hmac⟩
  ethernet := h.assigned.ethernet
  known := by
    intro t ht networkId hstamp
    cases hkind : t.kind with
    | rf =>
      obtain ⟨-, n, hn, hid, -⟩ := ((h.stamped t ht).rf hkind).2 networkId hstamp
      exact ⟨n, hn, hid⟩
    | ethernet =>
      obtain ⟨n, hn, -, hid, -⟩ := (h.stamped t ht).ethernet hkind
      exact ⟨n, hn, Option.some.inj (hid.symm.trans hstamp)⟩

/-! ### Single writes -/

section Writes
variable {networks networks' : List NetworkRecord} {transports transports' : List Attached}
  {records : List BindRecord}

theorem Bindings.put (h : Bindings networks transports records) {record : BindRecord}
    (hrecord : Noted networks record) :
    Bindings networks transports (putKey (·.identMac) record records) where
  assigned := h.assigned
  idents := h.idents
  stamped := h.stamped
  keys := putKey_nodup h.keys
  noted r hr := (mem_putKey hr).elim (fun heq => heq ▸ hrecord) (h.noted r)

theorem Bindings.dropRecords (h : Bindings networks transports records) (p : BindRecord → Bool) :
    Bindings networks transports (records.filter p) where
  assigned := h.assigned
  idents := h.idents
  stamped := h.stamped
  keys := h.keys.sublist (List.filter_sublist.map _)
  noted r hr := h.noted r (List.mem_of_mem_filter hr)

theorem Bindings.dropTransports (h : Bindings networks transports records)
    (hsub : transports'.Sublist transports) : Bindings networks transports' records where
  assigned := h.assigned
  idents := h.idents.sublist hsub
  stamped t ht := h.stamped t (hsub.subset ht)
  keys := h.keys
  noted := h.noted

theorem Bindings.attach (h : Bindings networks transports records) {t : Attached} (ht : Stamped networks t)
    (hnew : t.ident ≠ "" → ∀ u ∈ transports, u.ident ≠ t.ident) :
    Bindings networks (transports ++ [t]) records where
  assigned := h.assigned
  idents := h.idents.append hnew
  stamped u hu := (List.mem_append.mp hu).elim (h.stamped u) fun hu => List.mem_singleton.mp hu ▸ ht
  keys := h.keys
  noted := h.noted

/-- Who is stamped or recorded as the gateway of a network. -/
def Uses (transports : List Attached) (records : List BindRecord) (networkId ident : String) : Prop :=
  (∃ t ∈ transports, t.networkId = some networkId ∧ t.ident = ident) ∨
    ∃ r ∈ records, r.networkId = some networkId ∧ r.identMac = ident

/-- The networks change, but for what is in use. -/
theorem Bindings.rewire (h : Bindings networks transports records) (hassigned : Assigned networks')
    (hkeep : ∀ networkId ident, Uses transports records networkId ident → Lists networks networkId ident →
      Lists networks' networkId ident)
    (heth : ∀ n ∈ networks, n.kind = .ethernet → (∃ t ∈ transports, t.networkId = some n.id) →
      ∃ m ∈ networks', m.kind = .ethernet ∧ m.id = n.id) : Bindings networks' transports records where
  assigned := hassigned
  idents := h.idents
  keys := h.keys
  stamped t ht := by
    refine ⟨fun hkind => ?_, fun hkind => ?_⟩
    · obtain ⟨hwired, hlists⟩ := (h.stamped t ht).rf hkind
      exact ⟨hwired, fun networkId hid => hkeep networkId t.ident (.inl ⟨t, ht, hid, rfl⟩) (hlists networkId hid)⟩
    · obtain ⟨n, hn, hnkind, hid, hident⟩ := (h.stamped t ht).ethernet hkind
      obtain ⟨m, hm, hmkind, hmid⟩ := heth n hn hnkind ⟨t, ht, hid⟩
      exact ⟨m, hm, hmkind, by rw [hmid, hid], by rw [hmid, hident]⟩
  noted r hr := by
    obtain ⟨hne, hupper, hwired, hlists, hdecided⟩ := h.noted r hr
    refine ⟨hne, hupper, hwired, fun networkId hid => ?_, hdecided⟩
    exact hkeep networkId r.identMac (.inr ⟨r, hr, hid, rfl⟩) (hlists networkId hid)

/-- What stamping a transport leaves: the others, and the one with the new stamp. -/
theorem mem_stampFirst {ident : String} {networkId : Option String} {t : Attached} (hident : ident ≠ "")
    (hidents : Unshared "" Attached.ident transports) (ht : t ∈ State.stampFirst ident networkId transports) :
    t ∈ transports ∧ t.ident ≠ ident ∨ ∃ u ∈ transports, u.ident = ident ∧ t = {u with networkId} := by
  induction transports with
  | nil => cases ht
  | cons u rest ih =>
    obtain ⟨hu, hrest⟩ := List.pairwise_cons.mp hidents
    unfold State.stampFirst at ht
    by_cases h : u.ident = ident
    · rw [if_pos h] at ht
      rcases List.mem_cons.mp ht with rfl | ht
      · exact .inr ⟨u, List.mem_cons_self .., h, rfl⟩
      · refine .inl ⟨List.mem_cons_of_mem u ht, fun heq => ?_⟩
        exact hu t ht (by rwa [h]) (h.trans heq.symm)
    · rw [if_neg h] at ht
      rcases List.mem_cons.mp ht with rfl | ht
      · exact .inl ⟨List.mem_cons_self .., h⟩
      · refine (ih hrest ht).imp (fun h => ⟨List.mem_cons_of_mem u h.1, h.2⟩) ?_
        rintro ⟨v, hv, hvident, heq⟩
        exact ⟨v, List.mem_cons_of_mem u hv, hvident, heq⟩

theorem idents_stampFirst (ident : String) (networkId : Option String) (transports : List Attached) :
    (State.stampFirst ident networkId transports).map Attached.ident = transports.map Attached.ident := by
  induction transports with
  | nil => rfl
  | cons t rest ih =>
    unfold State.stampFirst
    split
    · rfl
    · rw [List.map_cons, List.map_cons, ih]

theorem unshared_stampFirst {ident : String} {networkId : Option String}
    (h : Unshared "" Attached.ident transports) :
    Unshared "" Attached.ident (State.stampFirst ident networkId transports) := by
  have hmap : ∀ ts : List Attached, Unshared "" Attached.ident ts ↔ Unshared "" id (ts.map Attached.ident) :=
    fun ts => (unshared_map id Attached.ident).symm
  rwa [hmap, idents_stampFirst, ← hmap]

/-- A gateway moves: a network lists it, its transport is stamped and its record written. -/
theorem Bindings.move (h : Bindings networks transports records) {record : BindRecord} {networkId : String}
    (hassigned : Assigned networks') (hupper : upper record.identMac = record.identMac)
    (hwired : Wired record.identMac) (hrecord : record.networkId = some networkId)
    (hlists : Lists networks' networkId record.identMac)
    (hkeep : ∀ i ident, ident ≠ record.identMac → Uses transports records i ident → Lists networks i ident →
      Lists networks' i ident)
    (heth : ∀ n ∈ networks, n.kind = .ethernet → ∃ m ∈ networks', m.kind = .ethernet ∧ m.id = n.id) :
    Bindings networks' (State.stampFirst record.identMac (some networkId) transports)
      (putKey (·.identMac) record records) where
  assigned := hassigned
  idents := unshared_stampFirst h.idents
  keys := putKey_nodup h.keys
  stamped t ht := by
    rcases mem_stampFirst hlists.1 h.idents ht with ⟨ht, hne⟩ | ⟨u, hu, hident, rfl⟩
    · refine ⟨fun hkind => ?_, fun hkind => ?_⟩
      · obtain ⟨hw, hl⟩ := (h.stamped t ht).rf hkind
        exact ⟨hw, fun i hi => hkeep i t.ident hne (.inl ⟨t, ht, hi, rfl⟩) (hl i hi)⟩
      · obtain ⟨n, hn, hnkind, hid, htident⟩ := (h.stamped t ht).ethernet hkind
        obtain ⟨m, hm, hmkind, hmid⟩ := heth n hn hnkind
        exact ⟨m, hm, hmkind, by rw [hmid, hid], by rw [hmid, htident]⟩
    · refine ⟨fun hkind => ⟨((h.stamped u hu).rf hkind).1, fun i hi => ?_⟩, fun hkind => ?_⟩
      · cases hi
        have hsame : ({u with networkId := some networkId} : Attached).ident = record.identMac := hident
        rwa [hsame]
      · -- the ident of an Ethernet transport is no gateway's
        obtain ⟨n, -, -, -, huident⟩ := (h.stamped u hu).ethernet hkind
        refine absurd ?_ (hwired n.id)
        rw [← hident, Attached.ident, huident]
  noted r hr := by
    rcases mem_putKey_of_ne h.keys hr with rfl | ⟨hr, hne⟩
    · refine ⟨hlists.1, hupper, hwired, fun i hi => ?_, fun hnone => ?_⟩
      · rw [hrecord] at hi
        cases hi
        exact hlists
      · rw [hrecord] at hnone
        cases hnone
    · obtain ⟨hn, hu, hw, hl, hd⟩ := h.noted r hr
      exact ⟨hn, hu, hw, fun i hi => hkeep i r.identMac hne (.inr ⟨r, hr, hi, rfl⟩) (hl i hi), hd⟩

theorem Assigned.map (h : Assigned networks) {f : NetworkRecord → NetworkRecord} (hid : ∀ n, (f n).id = n.id)
    (hkind : ∀ n, (f n).kind = n.kind) (hmacs : Unshared "" macOf (networks.map f))
    (heth : ∀ n ∈ networks, n.kind = .ethernet → nonEmpty (f n).gatewayMac = none) :
    Assigned (networks.map f) where
  ids := by
    have hids : (networks.map f).map (·.id) = networks.map (·.id) := by
      rw [List.map_map]
      exact List.map_congr_left fun n _ => hid n
    rw [hids]
    exact h.ids
  named n hn := by
    obtain ⟨m, hm, rfl⟩ := List.mem_map.mp hn
    rw [hid]
    exact h.named m hm
  macs := hmacs
  ethernet n hn hnkind := by
    obtain ⟨m, hm, rfl⟩ := List.mem_map.mp hn
    exact heth m hm (hkind m ▸ hnkind)

theorem Assigned.append (h : Assigned networks) {n : NetworkRecord} (hname : n.id ≠ "")
    (hid : ∀ m ∈ networks, m.id ≠ n.id) (hmac : macOf n ≠ "" → ∀ m ∈ networks, macOf m ≠ macOf n)
    (heth : n.kind = .ethernet → nonEmpty n.gatewayMac = none) : Assigned (networks ++ [n]) where
  ids := by
    rw [List.map_append, List.nodup_append]
    refine ⟨h.ids, List.nodup_singleton _, fun i hi j hj heq => ?_⟩
    obtain ⟨m, hm, rfl⟩ := List.mem_map.mp hi
    exact hid m hm (heq.trans (List.mem_singleton.mp hj))
  named m hm := (List.mem_append.mp hm).elim (h.named m) fun hm => List.mem_singleton.mp hm ▸ hname
  macs := h.macs.append hmac
  ethernet m hm := (List.mem_append.mp hm).elim (h.ethernet m) fun hm => List.mem_singleton.mp hm ▸ heth

theorem Assigned.filter (h : Assigned networks) (p : NetworkRecord → Bool) : Assigned (networks.filter p) where
  ids := h.ids.sublist (List.filter_sublist.map _)
  named n hn := h.named n (List.mem_of_mem_filter hn)
  macs := h.macs.sublist List.filter_sublist
  ethernet n hn := h.ethernet n (List.mem_of_mem_filter hn)

theorem macOf_taken {ident networkId : String} {n : NetworkRecord} (h : n.id = networkId) :
    macOf (taken ident networkId n) = upper ident := by
  rw [taken, if_pos h]
  rfl

theorem macOf_taken_of_ne {ident networkId : String} {n : NetworkRecord} (h : n.id ≠ networkId) :
    macOf (taken ident networkId n) = if macOf n = upper ident then "" else macOf n := by
  rw [taken, if_neg h, State.released]
  by_cases hmac : macOf n = upper ident
  · rw [if_pos ⟨by simp, hmac⟩, if_pos hmac]
    exact upper_empty
  · rw [if_neg fun hboth => hmac hboth.2, if_neg hmac]

theorem assigned_taken (h : Assigned networks) {ident networkId : String} (hident : upper ident ≠ "")
    (hrf : ∀ n ∈ networks, n.id = networkId → n.kind = .rf) :
    Assigned (networks.map (taken ident networkId)) := by
  have hmacs : Unshared "" (fun n => macOf (taken ident networkId n)) networks := by
    have hids : networks.Pairwise fun a b => a.id ≠ b.id := List.pairwise_map.mp h.ids
    refine (h.macs.and hids).imp ?_
    rintro a b ⟨hmacs, hdistinct⟩
    show macOf (taken ident networkId a) ≠ "" → macOf (taken ident networkId a) ≠ macOf (taken ident networkId b)
    by_cases hai : a.id = networkId
    · rw [macOf_taken hai, macOf_taken_of_ne fun hbi => hdistinct (hai.trans hbi.symm)]
      intro _
      split
      · exact hident
      · next hmac => exact fun heq => hmac heq.symm
    · rw [macOf_taken_of_ne hai]
      split
      · exact fun hblank => absurd rfl hblank
      · next hmac =>
        intro hblank
        by_cases hbi : b.id = networkId
        · rw [macOf_taken hbi]
          exact hmac
        · rw [macOf_taken_of_ne hbi]
          split
          · exact hblank
          · exact hmacs hblank
  refine h.map (taken_id ident networkId) (taken_kind ident networkId) ((unshared_map _ _).mpr hmacs)
    fun n hn hkind => ?_
  have hni : n.id ≠ networkId := fun heq => by
    rw [hrf n hn heq] at hkind
    cases hkind
  rw [taken, if_neg hni, State.released]
  split
  · rfl
  · exact h.ethernet n hn hkind

/-- A network, old or new, takes over a gateway; nobody else uses the network. -/
theorem Bindings.take (h : Bindings networks transports records) {record : BindRecord} {networkId : String}
    (hassigned : Assigned networks') (hsub : ∀ n ∈ networks, n ∈ networks')
    (hmem : ∃ n ∈ networks', n.id = networkId) (hrf : ∀ n ∈ networks', n.id = networkId → n.kind = .rf)
    (hne : record.identMac ≠ "") (hupper : upper record.identMac = record.identMac)
    (hwired : Wired record.identMac) (hrecord : record.networkId = some networkId)
    (hfree : ∀ ident, Uses transports records networkId ident → ident = record.identMac) :
    Bindings (networks'.map (taken record.identMac networkId))
      (State.stampFirst record.identMac (some networkId) transports) (putKey (·.identMac) record records) := by
  have hident : upper record.identMac ≠ "" := by rwa [hupper]
  refine h.move (assigned_taken hassigned hident hrf) hupper hwired hrecord ⟨hne, ?_⟩ ?_ ?_
  · obtain ⟨n, hn, hid⟩ := hmem
    exact ⟨_, List.mem_map_of_mem hn, by rw [taken_id, hid], by rw [macOf_taken hid, hupper]⟩
  · rintro i ident hother huses ⟨hident, n, hn, rfl, hmac⟩
    have hni : n.id ≠ networkId := fun heq => hother (hfree ident (heq ▸ huses))
    refine ⟨hident, _, List.mem_map_of_mem (hsub n hn), taken_id .., ?_⟩
    rw [macOf_taken_of_ne hni, hupper, hmac, if_neg hother]
  · intro n hn hkind
    exact ⟨_, List.mem_map_of_mem (hsub n hn), by rw [taken_kind, hkind], taken_id ..⟩

/-- Names and settings of networks do not matter. -/
theorem Bindings.settings (h : Bindings networks transports records) {f : NetworkRecord → NetworkRecord}
    (hf : ∀ n, (f n).toNetwork = n.toNetwork) : Bindings (networks.map f) transports records := by
  have hid : ∀ n, (f n).id = n.id := fun n => congrArg Network.id (hf n)
  have hkind : ∀ n, (f n).kind = n.kind := fun n => congrArg Network.kind (hf n)
  have hgateway : ∀ n, (f n).gatewayMac = n.gatewayMac := fun n => congrArg Network.gatewayMac (hf n)
  have hmac : ∀ n, macOf (f n) = macOf n := fun n => by rw [macOf, macOf, hgateway]
  refine h.rewire (h.assigned.map hid hkind ?_ fun n hn hkind => ?_) ?_ ?_
  · rw [unshared_map]
    simpa only [hmac] using h.assigned.macs
  · rw [hgateway]
    exact h.assigned.ethernet n hn hkind
  · rintro i ident - ⟨hne, n, hn, hi, hident⟩
    exact ⟨hne, f n, List.mem_map_of_mem hn, by rw [hid, hi], by rw [hmac, hident]⟩
  · intro n hn hnkind _
    exact ⟨f n, List.mem_map_of_mem hn, by rw [hkind, hnkind], hid n⟩

end Writes

end RaceLink.Gateways
