import RaceLink.Web.Masters

/-! Runs of the mirror: whatever is edited and heard, a row shows the state that was last sent to its
network, and an event changes the row of one network alone. -/
namespace RaceLink.Web.Masters
open Python Library Domain

namespace Bridge
variable {m m' : Bridge} {o : Nat} {networkId : String}

/-! ### The state of a network -/

/-- What a row of the network shows. -/
def stateOf (m : Bridge) (networkId : String) : MasterState :=
  match m.states.lookup networkId with
  | some o => m.objects o
  | none => {}

/-- The map refers to objects that are made, and to each of them once. -/
structure Sound (m : Bridge) : Prop where
  below : ∀ e ∈ m.states, e.2 < m.made
  distinct : (m.states.map Prod.snd).Nodup
  master : m.master < m.made

/-- The rest of the bridge is as it was. -/
structure Same (m m' : Bridge) : Prop where
  repository : m'.repository = m.repository
  attached : m'.attached = m.attached
  defaultNetworkId : m'.defaultNetworkId = m.defaultNetworkId
  master : m'.master = m.master
  sent : m'.sent = m.sent
  reported : m'.reported = m.reported
  moved : m'.moved = m.moved
  slots : ∀ networkId o, m.states.lookup networkId = some o → m'.states.lookup networkId = some o
  made : m.made ≤ m'.made

theorem Same.refl (m : Bridge) : Same m m := ⟨rfl, rfl, rfl, rfl, rfl, rfl, rfl, fun _ _ => id, Nat.le_refl _⟩

theorem Same.trans {m'' : Bridge} (h : Same m m') (h' : Same m' m'') : Same m m'' where
  repository := h'.repository.trans h.repository
  attached := h'.attached.trans h.attached
  defaultNetworkId := h'.defaultNetworkId.trans h.defaultNetworkId
  master := h'.master.trans h.master
  sent := h'.sent.trans h.sent
  reported := h'.reported.trans h.reported
  moved := h'.moved.trans h.moved
  slots networkId o ho := h'.slots networkId o (h.slots networkId o ho)
  made := h.made.trans h'.made

theorem lookup_mem {states : List (String × Nat)} (h : states.lookup networkId = some o) : (networkId, o) ∈ states := by
  obtain ⟨before, after, hsplit, -⟩ := List.lookup_eq_some_iff.mp h
  rw [hsplit]
  exact List.mem_append_right _ (List.mem_cons_self ..)

theorem Sound.lookup_lt (h : Sound m) (ho : m.states.lookup networkId = some o) : o < m.made :=
  h.below _ (lookup_mem ho)

/-- An object is the slot of one network. -/
theorem Sound.lookup_inj (h : Sound m) {other : String} (ho : m.states.lookup networkId = some o)
    (hother : m.states.lookup other = some o) : networkId = other :=
  congrArg Prod.fst (List.inj_on_of_nodup_map h.distinct (lookup_mem ho) (lookup_mem hother) rfl)

/-- What a slot that is made adds. -/
theorem lookup_append (states : List (String × Nat)) (networkId other : String) (o : Nat) :
    (states ++ [(networkId, o)]).lookup other =
      (states.lookup other).or (if other = networkId then some o else none) := by
  rw [List.lookup_append]
  congr 1
  by_cases h : other = networkId
  · simp [h]
  · simp [List.lookup_cons, h, beq_eq_false_iff_ne.mpr h]

/-- **A slot is found or made, and what rows show stays.** -/
theorem ensureState_spec (h : Sound m) (networkId : String) :
    let next := m.ensureState networkId
    Sound next.2 ∧ Same m next.2 ∧ next.2.states.lookup networkId = some next.1 ∧
      ∀ other, next.2.stateOf other = m.stateOf other := by
  intro next
  cases hs : m.states.lookup networkId with
  | some o =>
    have hnext : next = (o, m) := by
      show m.ensureState networkId = _
      unfold ensureState
      rw [hs]
    rw [hnext]
    exact ⟨h, Same.refl m, hs, fun _ => rfl⟩
  | none =>
    have hnext : next = (m.made, {m with
        objects := Function.update m.objects m.made {}
        made := m.made + 1
        states := m.states ++ [(networkId, m.made)]}) := by
      show m.ensureState networkId = _
      unfold ensureState
      rw [hs]
    rw [hnext]
    refine ⟨⟨fun e he => ?_, ?_, Nat.lt_succ_of_lt h.master⟩,
      ⟨rfl, rfl, rfl, rfl, rfl, rfl, rfl, fun other o ho => ?_, Nat.le_succ _⟩, ?_, fun other => ?_⟩
    · rcases List.mem_append.mp he with he | he
      · exact Nat.lt_succ_of_lt (h.below e he)
      · obtain rfl := List.mem_singleton.mp he
        exact Nat.lt_succ_self _
    · dsimp only
      rw [List.map_append, List.map_cons, List.map_nil]
      refine List.nodup_append.mpr ⟨h.distinct, List.nodup_singleton _, fun o ho o' ho' => ?_⟩
      obtain ⟨e, he, rfl⟩ := List.mem_map.mp ho
      obtain rfl := List.mem_singleton.mp ho'
      exact Nat.ne_of_lt (h.below e he)
    · dsimp only
      rw [lookup_append, ho]
      rfl
    · dsimp only
      rw [lookup_append, hs, if_pos rfl]
      rfl
    · unfold stateOf
      dsimp only
      rw [lookup_append]
      cases ho : m.states.lookup other with
      | some o =>
        dsimp only [Option.or]
        rw [Function.update_of_ne (Nat.ne_of_lt (h.lookup_lt ho))]
      | none =>
        by_cases hother : other = networkId
        · rw [if_pos hother]
          dsimp only [Option.or]
          rw [Function.update_self]
        · rw [if_neg hother]
          rfl

/-! ### Snapshots -/

theorem rowsOf_spec (h : Sound m) (shown : List (String × String)) :
    let next := m.rowsOf shown
    next.1 = shown.map (fun n => ⟨n.1, n.2, m.stateOf n.1⟩) ∧ Sound next.2 ∧ Same m next.2 ∧
      ∀ other, next.2.stateOf other = m.stateOf other := by
  induction shown generalizing m with
  | nil => exact ⟨rfl, h, Same.refl m, fun _ => rfl⟩
  | cons n rest ih =>
    obtain ⟨hsound, hsame, hslot, hstates⟩ := ensureState_spec h n.1
    obtain ⟨hrows, hsound', hsame', hstates'⟩ := ih hsound
    refine ⟨?_, hsound', hsame.trans hsame', fun other => (hstates' other).trans (hstates other)⟩
    have hfirst : (m.ensureState n.1).2.objects (m.ensureState n.1).1 = m.stateOf n.1 := by
      rw [← hstates n.1]
      unfold stateOf
      rw [hslot]
    show (⟨n.1, n.2, (m.ensureState n.1).2.objects (m.ensureState n.1).1⟩ : Row) ::
      ((m.ensureState n.1).2.rowsOf rest).1 = _
    rw [hfirst, hrows, List.map_cons]
    exact congrArg _ (List.map_congr_left fun n' _ => congrArg (Row.mk n'.1 n'.2) (hstates n'.1))

/-- **A snapshot has a row for each network shown, with its state.** -/
theorem snapshot_rows (h : Sound m) : m.snapshot.1 = m.shown.map fun n => ⟨n.1, n.2, m.stateOf n.1⟩ :=
  (rowsOf_spec h m.shown).1

theorem snapshot_spec (h : Sound m) : Sound m.snapshot.2 ∧ Same m m.snapshot.2 ∧
    ∀ other, m.snapshot.2.stateOf other = m.stateOf other :=
  (rowsOf_spec h m.shown).2

theorem snapshot_ids (h : Sound m) : m.snapshot.1.map (·.networkId) = m.shown.map Prod.fst := by
  rw [snapshot_rows h, List.map_map]
  rfl

theorem mem_snapshot (h : Sound m) {row : Row} (hrow : row ∈ m.snapshot.1) : row.master = m.stateOf row.networkId := by
  rw [snapshot_rows h] at hrow
  obtain ⟨n, -, rfl⟩ := List.mem_map.mp hrow
  rfl

/-- The networks of the host come first, in their order. -/
theorem shown_prefix (hattached : m.attached = true) :
    m.repository.host.networks.map (·.id) <+: m.shown.map Prod.fst := by
  have hnamed : ((m.repository.host.networks.map fun n => (n.id, n.name)).filter fun n => n.1 ≠ "") =
      m.repository.host.networks.map fun n => (n.id, n.name) := by
    refine List.filter_eq_self.mpr fun n hn => ?_
    obtain ⟨net, hnet, rfl⟩ := List.mem_map.mp hn
    exact decide_eq_true (m.repository.named net hnet)
  unfold shown
  rw [hattached, if_pos rfl]
  dsimp only
  rw [hnamed, List.append_assoc]
  have hids : ((m.repository.host.networks.map fun n => (n.id, n.name)).map fun n : String × String =>
      (n.1, if n.2 = "" then "Network" else n.2)).map Prod.fst = m.repository.host.networks.map (·.id) := by
    rw [List.map_map, List.map_map]
    rfl
  have hprefix := prefix_keepFirst_append (hids ▸ m.repository.distinct) (fun _ _ => List.not_mem_nil)
    (m.states.map (fun e => (e.1, "Network")) ++ [(m.defaultNetworkId, "Default")])
  exact hids ▸ hprefix.map Prod.fst

theorem mem_shown_default : m.defaultNetworkId ∈ m.shown.map Prod.fst := by
  unfold shown
  rw [mem_keys_keepFirst]
  refine ⟨?_, List.not_mem_nil⟩
  rw [List.map_append]
  exact List.mem_append_right _ (List.mem_cons_self ..)

/-! ### Updates -/

/-- **An object is set: the row it is the slot of shows it, and the others stay.** -/
theorem set_spec (h : Sound m) (o : Nat) (x : MasterState) :
    Sound (m.set o x) ∧ Same m (m.set o x) ∧
      (∀ networkId, m.states.lookup networkId = some o → (m.set o x).stateOf networkId = x) ∧
      ∀ networkId, m.states.lookup networkId ≠ some o → (m.set o x).stateOf networkId = m.stateOf networkId := by
  unfold set
  split
  · next hsame =>
    refine ⟨h, Same.refl m, fun networkId hslot => ?_, fun _ _ => rfl⟩
    unfold stateOf
    rw [hslot]
    exact hsame
  · have hset : Sound {m with objects := Function.update m.objects o x} := ⟨h.below, h.distinct, h.master⟩
    obtain ⟨hsound, hsame, hstates⟩ := snapshot_spec hset
    have hfirst : Same m {m with objects := Function.update m.objects o x} :=
      ⟨rfl, rfl, rfl, rfl, rfl, rfl, rfl, fun _ _ => id, Nat.le_refl _⟩
    refine ⟨hsound, hfirst.trans hsame, fun networkId hslot => ?_, fun networkId hslot => ?_⟩
    · rw [hstates]
      unfold stateOf
      dsimp only
      rw [hslot]
      exact Function.update_self ..
    · rw [hstates]
      unfold stateOf
      dsimp only
      cases hs : m.states.lookup networkId with
      | none => rfl
      | some o' =>
        refine Function.update_of_ne (fun heq => hslot ?_) ..
        rw [hs, heq]

/-- **A state that is sent is shown in the row of its network alone.** -/
theorem apply_spec (h : Sound m) (gatewayId : Option String) (stateByte metadataMs : Int) (sourceEvent : String) :
    let next := m.apply gatewayId stateByte metadataMs sourceEvent
    Sound next ∧ next.repository = m.repository ∧ next.attached = m.attached ∧
      next.defaultNetworkId = m.defaultNetworkId ∧ next.master = m.master ∧ next.moved = m.moved ∧
      next.sent = Function.update m.sent (m.networkFor gatewayId) (gatewayStateName (stateByte % 256)) ∧
      (∀ networkId o, m.states.lookup networkId = some o → next.states.lookup networkId = some o) ∧
      next.stateOf (m.networkFor gatewayId) =
        (m.stateOf (m.networkFor gatewayId)).applyGatewayState stateByte metadataMs sourceEvent ∧
      ∀ networkId, networkId ≠ m.networkFor gatewayId → next.stateOf networkId = m.stateOf networkId := by
  intro next
  obtain ⟨hsound, hsame, hslot, hstates⟩ := ensureState_spec h (m.networkFor gatewayId)
  have hobject : (m.ensureState (m.networkFor gatewayId)).2.objects (m.ensureState (m.networkFor gatewayId)).1 =
      m.stateOf (m.networkFor gatewayId) := by
    rw [← hstates]
    unfold stateOf
    rw [hslot]
  obtain ⟨hsound', hsame', hown, hothers⟩ := set_spec hsound (m.ensureState (m.networkFor gatewayId)).1
    (((m.ensureState (m.networkFor gatewayId)).2.objects (m.ensureState (m.networkFor gatewayId)).1).applyGatewayState
      stateByte metadataMs sourceEvent)
  have hall := hsame.trans hsame'
  refine ⟨⟨hsound'.below, hsound'.distinct, hsound'.master⟩, hall.repository, hall.attached, hall.defaultNetworkId,
    hall.master, hall.moved, ?_, hall.slots, ?_, fun networkId hne => ?_⟩
  · rw [← hall.sent]
    rfl
  · rw [← hobject]
    exact hown _ hslot
  · refine Eq.trans (hothers networkId fun heq => hne ?_) (hstates networkId)
    exact hsound.lookup_inj heq hslot

/-- The default's slot that is dropped showed no state. -/
theorem dropDefault_cases (m : Bridge) (before : String) : m.dropDefault before = m ∨
    (before ≠ m.defaultNetworkId ∧ (m.stateOf before).state = "UNKNOWN" ∧
      m.dropDefault before = {m with states := m.states.filter fun e => e.1 ≠ before}) := by
  unfold dropDefault
  split
  · next hunused =>
    cases hslot : m.states.lookup before with
    | none => exact .inl rfl
    | some o =>
      dsimp only
      split
      · next hstate =>
        refine .inr ⟨hunused.2.1, ?_, rfl⟩
        unfold stateOf
        rw [hslot]
        exact hstate
      · exact .inl rfl
  · exact .inl rfl

theorem lookup_filter_ne (states : List (String × Nat)) (before networkId : String) :
    (states.filter fun e => e.1 ≠ before).lookup networkId =
      if networkId = before then none else states.lookup networkId := by
  induction states with
  | nil => split <;> rfl
  | cons e rest ih =>
    obtain ⟨key, o⟩ := e
    by_cases hkey : key = before
    · rw [List.filter_cons_of_neg (by simpa using hkey), ih]
      by_cases hid : networkId = before
      · rw [if_pos hid, if_pos hid]
      · have hne : (networkId == key) = false := beq_eq_false_iff_ne.mpr (hkey ▸ hid)
        rw [if_neg hid, if_neg hid, List.lookup_cons, hne]
    · rw [List.filter_cons_of_pos (by simpa using hkey), List.lookup_cons, List.lookup_cons, ih]
      by_cases hid : networkId = before
      · have hne : (networkId == key) = false := beq_eq_false_iff_ne.mpr fun heq => hkey (heq ▸ hid)
        rw [if_pos hid, hne, if_pos hid]
      · rw [if_neg hid, if_neg hid]

end Bridge

/-! ### The invariant -/

/-- What the bridge keeps: each row shows what was last sent to its network, and the object that the
bridge holds is the default's slot as long as the default has not changed. -/
structure Tracked (m : Bridge) : Prop where
  sound : m.Sound
  sent : ∀ networkId, (m.stateOf networkId).state = m.sent networkId
  legacy : m.moved = false → m.states.lookup m.defaultNetworkId = some m.master

variable {m : Bridge} {act : Act}

/-- A step that only adds slots. -/
theorem Tracked.same (h : Tracked m) {m' : Bridge} (hsound : m'.Sound) (hsame : m.Same m')
    (hstates : ∀ networkId, (m'.stateOf networkId).state = (m.stateOf networkId).state) : Tracked m' where
  sound := hsound
  sent networkId := (hstates networkId).trans ((h.sent networkId).trans (congrFun hsame.sent networkId).symm)
  legacy hmoved := by
    rw [hsame.defaultNetworkId, hsame.master]
    exact hsame.slots _ _ (h.legacy (hsame.moved ▸ hmoved))

theorem Tracked.apply (h : Tracked m) (gatewayId : Option String) (stateByte metadataMs : Int) (sourceEvent : String) :
    Tracked (m.apply gatewayId stateByte metadataMs sourceEvent) := by
  obtain ⟨hsound, -, -, hdefault, hmaster, hmoved, hsent, hslots, hown, hothers⟩ :=
    Bridge.apply_spec h.sound gatewayId stateByte metadataMs sourceEvent
  refine ⟨hsound, fun networkId => ?_, fun hnot => ?_⟩
  · rw [hsent]
    by_cases hid : networkId = m.networkFor gatewayId
    · rw [hid, hown, Function.update_self]
      rfl
    · rw [hothers networkId hid, Function.update_of_ne hid]
      exact h.sent networkId
  · rw [hdefault, hmaster]
    exact hslots _ _ (h.legacy (hmoved ▸ hnot))

/-- The default's slot is dropped only when the default has changed. -/
theorem Tracked.dropDefault (h : Tracked m) (before : String) (hmoved : m.moved = false → before = m.defaultNetworkId) :
    Tracked (m.dropDefault before) := by
  rcases m.dropDefault_cases before with hsame | ⟨hne, hstate, hdropped⟩
  · rw [hsame]
    exact h
  · rw [hdropped]
    refine ⟨⟨fun e he => ?_, ?_, h.sound.master⟩, fun networkId => ?_, fun hnot => absurd (hmoved hnot) hne⟩
    · exact h.sound.below e (List.mem_of_mem_filter he)
    · exact h.sound.distinct.sublist (List.filter_sublist.map Prod.snd)
    · show (Bridge.stateOf {m with states := m.states.filter fun e => e.1 ≠ before} networkId).state = m.sent networkId
      rw [← h.sent networkId]
      unfold Bridge.stateOf
      dsimp only
      rw [Bridge.lookup_filter_ne]
      by_cases hid : networkId = before
      · rw [if_pos hid, hid]
        exact hstate.symm
      · rw [if_neg hid]

theorem Tracked.attachController (h : Tracked m) : Tracked m.attachController := by
  unfold Bridge.attachController
  split
  · exact ⟨⟨h.sound.below, h.sound.distinct, h.sound.master⟩, h.sent, h.legacy⟩
  · next n _ _ =>
    split
    · exact ⟨⟨h.sound.below, h.sound.distinct, h.sound.master⟩, h.sent, h.legacy⟩
    · have hpart : ∀ m' : Bridge, (m' = {m with
          attached := true, defaultNetworkId := n.id, moved := m.moved || n.id ≠ m.defaultNetworkId}) →
          Tracked m' ∧ (m'.moved = false → m.defaultNetworkId = m'.defaultNetworkId) := by
        rintro m' rfl
        have hkept : (m.moved || decide (n.id ≠ m.defaultNetworkId)) = false →
            m.moved = false ∧ m.defaultNetworkId = n.id := by
          intro hnot
          simp only [Bool.or_eq_false_iff, decide_eq_false_iff_not, not_not] at hnot
          exact ⟨hnot.1, hnot.2.symm⟩
        refine ⟨⟨⟨h.sound.below, h.sound.distinct, h.sound.master⟩, h.sent, fun hnot => ?_⟩, fun hnot => ?_⟩
        · obtain ⟨hold, hid⟩ := hkept hnot
          show m.states.lookup n.id = some m.master
          rw [← hid]
          exact h.legacy hold
        · exact (hkept hnot).2
      obtain ⟨htracked, hmoved⟩ := hpart _ rfl
      obtain ⟨hsound, hsame, -, hstates⟩ := Bridge.ensureState_spec htracked.sound n.id
      refine (htracked.same hsound hsame fun networkId => congrArg MasterState.state (hstates networkId)).dropDefault _
        fun hnot => ?_
      rw [hsame.defaultNetworkId]
      exact hmoved (hsame.moved ▸ hnot)

theorem Tracked.direct (h : Tracked m) (lastEvent lastError : Option (Option String)) :
    Tracked (m.set m.master ((m.objects m.master).note lastEvent lastError)) := by
  obtain ⟨hsound, hsame, hown, hothers⟩ := Bridge.set_spec h.sound m.master
    ((m.objects m.master).note lastEvent lastError)
  refine h.same hsound hsame fun networkId => ?_
  by_cases hslot : m.states.lookup networkId = some m.master
  · rw [hown networkId hslot]
    unfold Bridge.stateOf
    rw [hslot]
    rfl
  · rw [hothers networkId hslot]

/-- **Every step keeps track.** -/
theorem Tracked.step (h : Tracked m) (act : Act) : Tracked (Masters.step m act) := by
  cases act with
  | edit repository => exact ⟨⟨h.sound.below, h.sound.distinct, h.sound.master⟩, h.sent, h.legacy⟩
  | attach => exact h.attachController
  | seed gatewayId stateByte metadataMs =>
    rw [Masters.step]
    split
    · exact h
    · exact h.apply ..
  | event gatewayId stateByte metadataMs report => exact h.apply ..
  | direct lastEvent lastError => exact h.direct ..
  | snapshot =>
    obtain ⟨hsound, hsame, hstates⟩ := Bridge.snapshot_spec h.sound
    exact h.same hsound hsame fun networkId => congrArg MasterState.state (hstates networkId)

theorem constructed_tracked (repository : Repository) : Tracked (constructed repository) := by
  refine ⟨⟨fun e he => ?_, List.nodup_singleton _, Nat.one_pos⟩, fun networkId => ?_, fun _ => rfl⟩
  · obtain rfl := List.mem_singleton.mp he
    exact Nat.one_pos
  · show (Bridge.stateOf _ networkId).state = "UNKNOWN"
    unfold Bridge.stateOf
    split
    · show (Function.update (fun _ => ({} : MasterState)) 0 {} _).state = "UNKNOWN"
      rw [Function.update_eq_self]
    · rfl

/-! ### What is shown -/

/-- **What a snapshot shows.** -/
structure Mirrors (m : Bridge) : Prop where
  persisted : m.attached = true → m.repository.host.networks.map (·.id) <+: m.snapshot.1.map (·.networkId)
  distinct : (m.snapshot.1.map (·.networkId)).Nodup
  /-- The state of a row is the one that was last sent to its network. -/
  sent : ∀ row ∈ m.snapshot.1, row.master.state = m.sent row.networkId

/-- **What a step is to leave.** -/
structure StepRight (m : Bridge) (act : Act) : Prop where
  mirrors : Mirrors (step m act)
  /-- The state of a gateway that is bound to a network is sent to that network. -/
  bound : ∀ gatewayId stateByte metadataMs report n, act = .event (some gatewayId) stateByte metadataMs report →
    m.attached = true → m.repository.host.networkByGatewayMac gatewayId = some n →
    ¬ "ETH:".toList <+: gatewayId.toList → (step m act).sent n.id = gatewayStateName (stateByte % 256)
  /-- It changes no other row. -/
  apart : ∀ gatewayId stateByte metadataMs report, act = .event gatewayId stateByte metadataMs report →
    ∀ row ∈ m.snapshot.1, ∀ row' ∈ (step m act).snapshot.1, row'.networkId = row.networkId →
      row.networkId ≠ m.networkFor gatewayId → row'.master = row.master
  /-- As long as the default network has not changed, a direct update shows in its row. -/
  direct : ∀ lastEvent lastError, act = .direct lastEvent lastError → m.moved = false →
    ∃ row ∈ (step m act).snapshot.1, row.networkId = (step m act).defaultNetworkId ∧
      (∀ text, lastEvent = some text → row.master.lastEvent = text) ∧
      ∀ text, lastError = some text → row.master.lastError = text

theorem Tracked.mirrors (h : Tracked m) : Mirrors m where
  persisted hattached := by
    rw [Bridge.snapshot_ids h.sound]
    exact Bridge.shown_prefix hattached
  distinct := by
    rw [Bridge.snapshot_ids h.sound]
    exact keepFirst_nodup
  sent row hrow := by
    rw [Bridge.mem_snapshot h.sound hrow]
    exact h.sent row.networkId

/-- A gateway that is bound to a network speaks for it. -/
theorem networkFor_bound {gatewayId : String} {n : NetworkRecord} (hattached : m.attached = true)
    (hn : m.repository.host.networkByGatewayMac gatewayId = some n) (hrf : ¬ "ETH:".toList <+: gatewayId.toList) :
    m.networkFor (some gatewayId) = n.id := by
  have hmem : n ∈ m.repository.host.networks ∧ gatewayId ≠ "" := by
    unfold Gateways.State.networkByGatewayMac at hn
    split at hn
    · cases hn
    · next hne => exact ⟨List.mem_of_find?_eq_some hn, hne⟩
  unfold Bridge.networkFor
  dsimp only
  rw [if_neg hmem.2]
  split
  · next nid hchars =>
    rw [hchars] at hrf
    exact absurd (List.prefix_append "ETH:".toList nid) hrf
  · rw [if_pos hattached, hn]
    exact if_neg (m.repository.named n hmem.1)

theorem Tracked.right (h : Tracked m) (act : Act) : StepRight m act where
  mirrors := (h.step act).mirrors
  bound gatewayId stateByte metadataMs report n hact hattached hn hrf := by
    subst hact
    have hsent := (Bridge.apply_spec h.sound (some gatewayId) stateByte metadataMs
      (if report then "STATE_REPORT" else "STATE_CHANGED")).2.2.2.2.2.2.1
    show (Bridge.apply m (some gatewayId) stateByte metadataMs _).sent n.id = _
    rw [hsent, networkFor_bound hattached hn hrf, Function.update_self]
  apart gatewayId stateByte metadataMs report hact row hrow row' hrow' hid hne := by
    subst hact
    rw [Bridge.mem_snapshot h.sound hrow, Bridge.mem_snapshot (h.step _).sound hrow', hid]
    exact (Bridge.apply_spec h.sound gatewayId stateByte metadataMs _).2.2.2.2.2.2.2.2.2 _ hne
  direct lastEvent lastError hact hmoved := by
    subst hact
    obtain ⟨-, hsame, hown, -⟩ := Bridge.set_spec h.sound m.master
      ((m.objects m.master).note lastEvent lastError)
    have hshown := hown _ (h.legacy hmoved)
    let next := m.set m.master ((m.objects m.master).note lastEvent lastError)
    obtain ⟨n, hn, hname⟩ := List.mem_map.mp (Bridge.mem_shown_default (m := next))
    have hmaster : next.stateOf n.1 = (m.objects m.master).note lastEvent lastError := by
      rw [hname, hsame.defaultNetworkId]
      exact hshown
    refine ⟨⟨n.1, n.2, next.stateOf n.1⟩, ?_, hname, ?_, ?_⟩
    · show _ ∈ next.snapshot.1
      rw [Bridge.snapshot_rows (h.direct lastEvent lastError).sound]
      exact List.mem_map.mpr ⟨n, hn, rfl⟩
    · rintro text rfl
      show (next.stateOf n.1).lastEvent = text
      rw [hmaster]
      rfl
    · rintro text rfl
      show (next.stateOf n.1).lastError = text
      rw [hmaster]
      rfl

/-- **In every run the rows mirror what is sent to the networks.** -/
theorem mirror_right (repository : Repository) (acts : List Act) :
    Along step StepRight (constructed repository) acts :=
  along_of_kept (fun _ act h => h.step act) (fun _ act h => h.right act) (constructed_tracked repository) acts

/-! ### A gateway that is bound to no network -/

/-- The row of a network shows what the gateway bound to it reported last. -/
def ShowsBound (m : Bridge) : Prop :=
  ∀ row ∈ m.snapshot.1, ∀ n ∈ m.repository.host.networks, n.id = row.networkId →
    ∀ mac name, n.gatewayMac = some mac → m.reported (upper mac) = some name → row.master.state = name

/-- One network, with a gateway bound to it. -/
def track : Repository where
  host := ⟨[⟨⟨"A", .rf, some "AABBCCDDEE01"⟩, "Track", "EU868", some 1, none, none, .finite 0⟩], [], [], [], [], 0⟩
  named := by decide
  distinct := by decide

/-- The gateway of the network opens a window, and another one, which is bound to none, is idle. -/
theorem mirror_unbound : ¬ Along step (fun m act => ShowsBound (step m act)) (constructed track)
    ([.attach, .event (some "AABBCCDDEE01") 2 500 false] ++ [.event (some "AABBCCDDEE02") 0 0 false]) := by
  intro h
  have hshows := h.last ⟨"A", "Track", ⟨"IDLE", 0, 0, some "STATE_CHANGED", none⟩⟩ (by decide +kernel)
    ⟨⟨"A", .rf, some "AABBCCDDEE01"⟩, "Track", "EU868", some 1, none, none, .finite 0⟩ (by decide +kernel) rfl
    "AABBCCDDEE01" "RX_WINDOW" rfl (by decide +kernel)
  exact absurd hshows (by decide)

/-- When the default network has changed, what the bridge holds is no slot, and an update shows nowhere. -/
example : (([.attach, .direct (some (some "TX_DONE")) none].foldl step (constructed track)).snapshot.1.map
    fun row => row.master.lastEvent) = [none] := by decide +kernel

end RaceLink.Web.Masters
