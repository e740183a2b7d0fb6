import RaceLink.Fleet.Records
import RaceLink.Gateways.Steps

/-! Which devices a migration of a network leaves behind.

A device that took the settings listens where nobody sends until the gateway follows, so
the list of stranded devices is the operator's only trace of it. The list is right when
the gateway takes the settings too; when it refuses them, the run ends with the list as
it was, empty. -/
namespace RaceLink.Gateways
open Python Library Domain Routing Fleet

/-! ### Who is where -/

/-- The devices of a network. -/
def onNetwork (s : State) (networkId : String) : List DeviceRecord :=
  s.devices.filter fun d => d.networkId.getD "" = networkId

/-- The pre-check sorts the device to a choice. -/
def isChosen (choice : PushChoice) (target : Dict) (force : Bool) (d : DeviceRecord) : Bool :=
  match pushChoice target force d with
  | .ok c => c == choice
  | .error _ => false

/-- The push to a MAC is answered with an ACK that takes the settings. -/
def accepts (route : Option Attached) (air : String → Exchange) (mac : String) : Bool :=
  (reached route (upper (strip mac))).isSome && (air mac).reply == .acked 0

/-- The gateway has taken the settings, and a MAC is heard afterwards. -/
def verifies (t : Attached) (answers : MigrationAnswers) (mac : String) : Bool :=
  (gatewayRefusal t answers.refusal).isNone && decide (mac ∈ seenAfter answers.responders)

/-- The devices that are pushed to, if the pre-check gets through. -/
def pushSet (s : State) (networkId : String) (target : Dict) (force : Bool) : List DeviceRecord :=
  match (onNetwork s networkId).mapM (pushChoice target force) with
  | .error _ => []
  | .ok _ => (onNetwork s networkId).filter (isChosen .push target force)

/-- The devices that took the settings, verified or not. -/
def leftOld (s : State) (networkId : String) (plan : MigrationPlan) (force : Bool) (answers : MigrationAnswers)
    (verified : Bool) : List DeviceRecord :=
  (pushSet s networkId plan.target force).filter fun d =>
    accepts (some plan.transport) answers.air (upper d.addr) &&
      verifies plan.transport answers (upper d.addr) == verified

/-- The state and the answer of a run, next to those before it. -/
structure RunRight (s : State) (networkId : String) (plan : MigrationPlan) (force : Bool)
    (answers : MigrationAnswers) (m : Migrated) (result : MigrationResult) (summary : MigrationSummary) :
    Prop where
  frames : ∀ frame ∈ m.frames, frame.transport = plan.transport.toTransport ∧
    ∃ d ∈ onNetwork s networkId, frame.mac = upper (strip (upper d.addr))
  parted : (summary.skippedAlreadyTarget ++ summary.skippedOffline ++ result.perDevice.map (·.mac)).Perm
    (((onNetwork s networkId).map fun d => upper d.addr).filter (· ≠ ""))
  settings : (m.state.networkById networkId).bind (·.rfConfig) =
    if gatewayRefusal plan.transport answers.refusal = none then some plan.target else plan.network.rfConfig
  stranded : result.stranded = (leftOld s networkId plan force answers false).map fun d => upper d.addr
  verified : summary.verified = (leftOld s networkId plan force answers true).map fun d => upper d.addr
  known : List.Forall₂ (fun d d' => d'.addr = d.addr ∧ (d'.lastKnownRfConfig = d.lastKnownRfConfig ∨
    d'.lastKnownRfConfig = some plan.target ∧ upper d.addr ∈ summary.verified)) s.devices m.state.devices
  okay : result.ok = true ↔
    (∀ d ∈ pushSet s networkId plan.target force, accepts (some plan.transport) answers.air (upper d.addr) = true) ∧
      result.stranded = [] ∧ gatewayRefusal plan.transport answers.refusal = none

/-- **No device is lost**: what a run that gets past its checks leaves is right. -/
structure MigrationRight (s : State) (networkId : String) (plan : MigrationPlan) (force : Bool)
    (answers : MigrationAnswers) (m : Migrated) : Prop where
  raised : ∀ e, m.answer = .error e → m.frames = [] ∧ m.state = s
  ran : ∀ result, m.answer = .ok result → ∃ summary, result.summary = some summary ∧
    RunRight s networkId plan force answers m result summary

/-- The gateway follows, or has nobody to follow. -/
def Follows (s : State) (networkId : String) (plan : MigrationPlan) (force : Bool) (answers : MigrationAnswers) :
    Prop :=
  gatewayRefusal plan.transport answers.refusal = none ∨
    ∀ d ∈ pushSet s networkId plan.target force, accepts (some plan.transport) answers.air (upper d.addr) = false

/-! ### What is known of the devices -/

/-- What a run does to the records: settings are noted for MACs of a list only. -/
structure Known (target : Dict) (macs : List String) (F : DeviceRecord → DeviceRecord) : Prop where
  addr : ∀ d, (F d).addr = d.addr
  noted : ∀ d, (F d).lastKnownRfConfig = d.lastKnownRfConfig ∨
    (F d).lastKnownRfConfig = some target ∧ upper d.addr ∈ macs

section Known
variable {target : Dict} {macs : List String} {F G : DeviceRecord → DeviceRecord} {s : State} {mac : String}

theorem known_id : Known target macs id := ⟨fun _ => rfl, fun _ => .inl rfl⟩

theorem Known.comp (hG : Known target macs G) (hF : Known target macs F) : Known target macs (G ∘ F) where
  addr d := (hG.addr (F d)).trans (hF.addr d)
  noted d := by
    rcases hG.noted (F d) with h | ⟨h, hmem⟩
    · rw [Function.comp_apply, h]
      exact hF.noted d
    · rw [hF.addr] at hmem
      exact .inr ⟨h, hmem⟩

theorem setLastKnown_eq (s : State) (target : Dict) (mac : String) :
    s.setLastKnown target mac = changeDevice s mac fun d => {d with lastKnownRfConfig := some target} := by
  unfold State.setLastKnown changeDevice denotes
  cases s.host.getDeviceFromAddress mac with
  | none => rfl
  | some d => rfl

/-- A whole address denotes the device that has it. -/
theorem denotes_long {a : String} (hlong : (upper (strip mac)).length = 12) (h : denotes s mac = some a) :
    upper a = upper (strip mac) := by
  obtain ⟨d, hd, rfl⟩ := Option.map_eq_some_iff.mp h
  rw [Host.getDeviceFromAddress] at hd
  split at hd
  · cases hd
  · dsimp only at hd
    rw [if_pos hlong, Host.deviceByAddr, upper_strip_idem, if_pos hlong] at hd
    simpa using List.find?_some hd

theorem mem_seenAfter {responders : List String} (h : mac ∈ seenAfter responders) :
    upper (strip mac) = mac ∧ mac.length = 12 := by
  obtain ⟨hmem, hlength⟩ := List.mem_filter.mp h
  obtain ⟨raw, -, rfl⟩ := List.mem_map.mp hmem
  exact ⟨upper_strip_idem raw, of_decide_eq_true hlength⟩

variable (target) in
/-- The settings are noted for the verified. -/
theorem foldl_setLastKnown_known (hmacs : ∀ mac ∈ macs, upper (strip mac) = mac ∧ mac.length = 12) (s : State) :
    ∃ F, Known target macs F ∧
      (macs.foldl (fun s mac => s.setLastKnown target mac) s).devices = s.devices.map F := by
  suffices h : ∀ rest ⊆ macs, ∀ t : State, ∃ F, Known target macs F ∧
      (rest.foldl (fun s mac => s.setLastKnown target mac) t).devices = t.devices.map F from
    h macs (List.Subset.refl _) s
  intro rest
  induction rest with
  | nil => exact fun _ t => ⟨id, known_id, (List.map_id _).symm⟩
  | cons mac rest ih =>
    intro hsub t
    obtain ⟨hmac, hrest⟩ := List.cons_subset.mp hsub
    obtain ⟨hfixed, hlength⟩ := hmacs mac hmac
    have hmapped := changeDevice_mapped t mac (f := fun d => {d with lastKnownRfConfig := some target})
      fun _ => rfl
    obtain ⟨F, hF, hdevices⟩ := ih hrest (t.setLastKnown target mac)
    refine ⟨F ∘ atAddress t mac _, hF.comp ⟨hmapped.addr, fun d => ?_⟩, ?_⟩
    · unfold atAddress
      split
      · next hdenotes =>
        have haddr := denotes_long (by rw [hfixed]; exact hlength) hdenotes
        rw [hfixed] at haddr
        exact .inr ⟨rfl, haddr ▸ hmac⟩
      · exact .inl rfl
    · rw [List.foldl_cons, hdevices, setLastKnown_eq, hmapped.devices, List.map_map]

variable (macs) in
/-- Pushes note nothing. -/
theorem pushes_known (plan : MigrationPlan) (air : String → Exchange) (pushed : List String) (s : State) :
    ∃ F, Known plan.target macs F ∧
      (pushEach (pushToNetwork plan air) pushed s).2.2.devices = s.devices.map F := by
  induction pushed generalizing s with
  | nil => exact ⟨id, known_id, (List.map_id _).symm⟩
  | cons mac rest ih =>
    have hstep : ∃ F, Known plan.target macs F ∧ (pushToNetwork plan air s mac).2.2.devices = s.devices.map F := by
      rw [pushToNetwork_eq]
      rcases pushRf_cases s mac plan.target (some plan.transport) (air mac) with h | ⟨recv3, h⟩
      · exact ⟨id, known_id, by rw [h, List.map_id]⟩
      · have hmapped := changeDevice_mapped s (hexUpper recv3) (f := markOnline) fun _ => rfl
        refine ⟨_, ⟨hmapped.addr, fun d => .inl ?_⟩, by rw [h]; exact hmapped.devices⟩
        unfold atAddress
        split
        · rfl
        · rfl
    obtain ⟨F, hF, hfirst⟩ := hstep
    obtain ⟨G, hG, hrest⟩ := ih (pushToNetwork plan air s mac).2.2
    exact ⟨G ∘ F, hG.comp hF, by rw [pushEach_cons, hrest, hfirst, List.map_map]⟩

end Known

/-! ### The pre-check -/

section Sorted
variable {target : Dict} {force : Bool} {devices : List DeviceRecord} {choices : List PushChoice}

theorem chosen_eq (h : devices.mapM (pushChoice target force) = .ok choices) (choice : PushChoice) :
    chosen choice (devices.zip choices) =
      (devices.filter (isChosen choice target force)).map fun d => upper d.addr := by
  have hall := mapM_ok.mp h
  clear h
  induction hall with
  | nil => rfl
  | @cons d c rest later hone _ ih =>
    have hchosen : isChosen choice target force d = (c == choice) := by rw [isChosen, hone]
    unfold chosen at ih ⊢
    rw [List.zip_cons_cons, List.filter_cons, List.filter_cons, hchosen]
    split
    · rw [List.map_cons, List.map_cons, ih]
    · exact ih

/-- The pre-check lets no device with a MAC go. -/
theorem sorted_perm (h : devices.mapM (pushChoice target force) = .ok choices) :
    ((devices.filter (isChosen .already target force)).map (fun d => upper d.addr) ++
        (devices.filter (isChosen .offline target force)).map (fun d => upper d.addr) ++
        (devices.filter (isChosen .push target force)).map fun d => upper d.addr).Perm
      ((devices.map fun d => upper d.addr).filter (· ≠ "")) := by
  have hall := mapM_ok.mp h
  clear h
  induction hall with
  | nil => exact .refl _
  | @cons d c rest later hone _ ih =>
    have hchosen : ∀ choice, isChosen choice target force d = (c == choice) := fun choice => by
      rw [isChosen, hone]
    have hname : upper d.addr = "" ↔ c = .nameless := by
      unfold pushChoice at hone
      split at hone
      · next hempty =>
        cases hone
        exact iff_of_true hempty rfl
      · next hnamed =>
        refine iff_of_false hnamed ?_
        obtain ⟨same, -, hone⟩ := bind_ok.mp hone
        split at hone
        · cases hone
          nofun
        · split at hone
          · cases hone
            nofun
          · cases hone
            nofun
    have hnamed : c ≠ .nameless → decide (upper d.addr ≠ "") = true := fun h => decide_eq_true (mt hname.mp h)
    rw [List.filter_cons, List.filter_cons, List.filter_cons, hchosen, hchosen, hchosen, List.map_cons,
      List.filter_cons]
    cases c with
    | nameless =>
      rw [hname.mpr rfl]
      exact ih
    | already =>
      rw [if_pos (hnamed nofun)]
      exact ih.cons _
    | offline =>
      rw [if_pos (hnamed nofun)]
      exact (List.Perm.append_right _ List.perm_middle).trans (ih.cons _)
    | push =>
      rw [if_pos (hnamed nofun)]
      exact List.perm_middle.trans (ih.cons _)

end Sorted

/-! ### The pushes -/

section Pushes
variable {plan : MigrationPlan} {air : String → Exchange} {mac : String} {frame : RfFrame}

/-- The entry of a MAC after its push, which the device takes or not. -/
def Pushed (takes : String → Bool) (mac : String) (e : DeviceEntry) : Prop :=
  e.mac = mac ∧ (e.status = .pushed ∧ takes mac = true ∨
    (∃ ackStatus error, e.status = .pushFailed ackStatus error) ∧ takes mac = false)

theorem pushed_of_ok {takes : String → Bool} {outcome : PushOutcome} (h : outcome.ok = true ↔ takes mac = true) :
    Pushed takes mac ⟨mac, if outcome.ok then .pushed else .pushFailed outcome.ackStatus outcome.error⟩ := by
  refine ⟨rfl, ?_⟩
  cases htakes : takes mac with
  | true => exact .inl ⟨if_pos (h.mpr htakes), rfl⟩
  | false =>
    rw [htakes] at h
    exact .inr ⟨⟨_, _, if_neg fun hok => Bool.noConfusion (h.mp hok)⟩, rfl⟩

theorem pushToNetwork_entry (plan : MigrationPlan) (air : String → Exchange) (s : State) (mac : String) :
    Pushed (accepts (some plan.transport) air) mac (pushToNetwork plan air s mac).1 ∧
      ∀ frame ∈ (pushToNetwork plan air s mac).2.1,
        frame.transport = plan.transport.toTransport ∧ frame.mac = upper (strip mac) := by
  have hroute : s.pushRoute (upper (strip mac)) (some plan.transport) = some plan.transport := rfl
  obtain ⟨hok, hframes⟩ := pushRf_outcome s mac plan.target (some plan.transport) (air mac)
  rw [hroute] at hok hframes
  rw [pushToNetwork]
  revert hok hframes
  generalize pushRf s mac plan.target (some plan.transport) (air mac) = pushed
  intro hok hframes
  refine ⟨pushed_of_ok (by rw [hok, accepts, Bool.and_eq_true, beq_iff_eq]), fun frame hframe => ?_⟩
  obtain ⟨t, recv3, hreached, -, rfl⟩ := (hframes frame).mp hframe
  cases reached_route hreached
  exact ⟨rfl, rfl⟩

/-- **The pushes of a migration**: one entry each, and frames for these MACs only. -/
theorem pushes_entries (plan : MigrationPlan) (air : String → Exchange) (macs : List String) (s : State) :
    List.Forall₂ (Pushed (accepts (some plan.transport) air)) macs (pushEach (pushToNetwork plan air) macs s).1 ∧
      ∀ frame ∈ (pushEach (pushToNetwork plan air) macs s).2.1,
        frame.transport = plan.transport.toTransport ∧ ∃ mac ∈ macs, frame.mac = upper (strip mac) := by
  induction macs generalizing s with
  | nil => exact ⟨.nil, by simp [pushEach]⟩
  | cons mac rest ih =>
    obtain ⟨hentry, hframes⟩ := pushToNetwork_entry plan air s mac
    obtain ⟨hentries, hlater⟩ := ih (pushToNetwork plan air s mac).2.2
    rw [pushEach_cons]
    refine ⟨.cons hentry hentries, fun frame hframe => ?_⟩
    rcases List.mem_append.mp hframe with hframe | hframe
    · obtain ⟨htransport, hmac⟩ := hframes frame hframe
      exact ⟨htransport, mac, List.mem_cons_self, hmac⟩
    · obtain ⟨htransport, mac', hmac', hframe⟩ := hlater frame hframe
      exact ⟨htransport, mac', List.mem_cons_of_mem _ hmac', hframe⟩

/-! ### The verification -/

variable {takes : String → Bool} {macs : List String} {entries : List DeviceEntry}

theorem macsOf_cons (status : PushStatus) (e : DeviceEntry) (rest : List DeviceEntry) :
    macsOf status (e :: rest) = if e.status = status then e.mac :: macsOf status rest else macsOf status rest := by
  by_cases h : e.status = status
  · rw [macsOf, List.filter_cons_of_pos (by simpa using h), if_pos h]
    rfl
  · rw [macsOf, List.filter_cons_of_neg (by simpa using h), if_neg h]
    rfl

theorem pushed_macs (h : List.Forall₂ (Pushed takes) macs entries) :
    entries.map (·.mac) = macs ∧ macsOf .pushed entries = macs.filter (takes) := by
  induction h with
  | nil => exact ⟨rfl, rfl⟩
  | @cons mac e rest later hone _ ih =>
    obtain ⟨hmacs, hpushed⟩ := ih
    obtain ⟨hmac, ⟨hstatus, htakes⟩ | ⟨⟨ackStatus, error, hstatus⟩, htakes⟩⟩ := hone
    · rw [List.map_cons, hmac, hmacs, macsOf_cons, if_pos hstatus, List.filter_cons_of_pos htakes, hmac, hpushed]
      exact ⟨rfl, rfl⟩
    · rw [List.map_cons, hmac, hmacs, macsOf_cons, if_neg (by rw [hstatus]; nofun),
        List.filter_cons_of_neg (by rw [htakes]; nofun), hpushed]
      exact ⟨rfl, rfl⟩

theorem verifyEntry_mac (seen : List String) (e : DeviceEntry) : (verifyEntry seen e).mac = e.mac := by
  unfold verifyEntry
  split
  · split
    · rfl
    · rfl
  · rfl

/-- The entry of a MAC after the verification. -/
theorem verifyEntry_status {mac : String} {e : DeviceEntry} (seen : List String) (h : Pushed takes mac e) :
    ((verifyEntry seen e).status = .verified ↔ (takes mac && decide (mac ∈ seen)) = true) ∧
      ((verifyEntry seen e).status = .stranded ↔ (takes mac && decide (mac ∉ seen)) = true) := by
  obtain ⟨hmac, ⟨hstatus, htakes⟩ | ⟨⟨ackStatus, error, hstatus⟩, htakes⟩⟩ := h
  · rw [verifyEntry, hstatus, hmac, htakes]
    by_cases hseen : mac ∈ seen
    · simp [hseen]
    · simp [hseen]
  · rw [verifyEntry, hstatus, htakes]
    simp [hstatus]

theorem verified_macs (seen : List String) (h : List.Forall₂ (Pushed takes) macs entries) :
    (entries.map (verifyEntry seen)).map (·.mac) = macs ∧
      macsOf .verified (entries.map (verifyEntry seen)) =
        macs.filter (fun mac => takes mac && decide (mac ∈ seen)) ∧
      macsOf .stranded (entries.map (verifyEntry seen)) =
        macs.filter fun mac => takes mac && decide (mac ∉ seen) := by
  induction h with
  | nil => exact ⟨rfl, rfl, rfl⟩
  | @cons mac e rest later hone _ ih =>
    obtain ⟨hmacs, hverified, hstranded⟩ := ih
    obtain ⟨hisVerified, hisStranded⟩ := verifyEntry_status seen hone
    have hmac : (verifyEntry seen e).mac = mac := (verifyEntry_mac seen e).trans hone.1
    rw [List.map_cons, List.map_cons, macsOf_cons, macsOf_cons, hmac, hmacs, hverified, hstranded,
      List.filter_cons, List.filter_cons]
    exact ⟨rfl, by simp only [hisVerified], by simp only [hisStranded]⟩

/-- The gateway's report does not change what the network expects by then. -/
theorem reEvaluate_keeps {s : State} {networkId : String} {network : NetworkRecord} {settings : Dict}
    (hnetwork : s.networkById networkId = some network) (hset : network.rfConfig = some settings)
    (ident : String) (report : Option RfSettings) (token : String) :
    (reEvaluate s ident report token).2.devices = s.devices ∧
      ((reEvaluate s ident report token).2.networkById networkId).bind (·.rfConfig) = some settings := by
  have hbefore : (s.networkById networkId).bind (·.rfConfig) = some settings := by
    rw [hnetwork, Option.bind_some, hset]
  unfold reEvaluate
  cases htransport : s.transportFor ident with
  | none => exact ⟨rfl, hbefore⟩
  | some t =>
    have h := evaluate_does s t report token
    refine ⟨h.devices, ?_⟩
    rcases h.networks with hsame | ⟨home, found, hhome, hnone, -, hnetworks⟩
    · unfold State.networkById at hbefore ⊢
      rw [hsame]
      exact hbefore
    · -- Settings are adopted by another network, since this one has some.
      have hother : networkId ≠ home.id := by
        rintro rfl
        obtain ⟨homeId, -, hfound⟩ := Option.bind_eq_some_iff.mp hhome
        obtain ⟨-, hid⟩ := networkById_some hfound
        rw [hid, hfound] at hnetwork
        cases hnetwork
        rw [hnone] at hset
        cases hset
      unfold State.networkById at hbefore ⊢
      rw [hnetworks]
      split
      · next hempty =>
        rw [if_pos hempty] at hbefore
        exact hbefore
      · next hne =>
        rw [if_neg hne] at hbefore
        have hadopted := @findKey_updateKey NetworkRecord String _ (·.id) home.id
          (fun n => {n with rfConfig := some found.toDict}) s.networks (fun _ => rfl) networkId
        rw [State.setRfConfig, State.changeNetwork, hadopted]
        cases hfind : findKey (·.id) networkId s.networks with
        | none =>
          rw [hfind] at hbefore
          cases hbefore
        | some n =>
          rw [hfind] at hbefore
          rw [Option.map_some, if_neg (by rw [(findKey_some hfind).2]; exact hother)]
          exact hbefore

end Pushes

/-! ### The run -/

section Run
variable {s : State} {networkId : String} {target : Dict} {plan : MigrationPlan} {force : Bool}
  {answers : MigrationAnswers} {choices : List PushChoice}

theorem networkById_kept {t : State} (h : t.networks = s.networks) : t.networkById = s.networkById := by
  funext networkId
  rw [State.networkById, State.networkById, h]

/-- The settings that the network expects once the gateway has taken them. -/
theorem migrated_settings (hnetwork : s.networkById networkId = some plan.network) :
    ∃ network, (s.setRfConfig plan.network.id (some plan.target)).networkById networkId = some network ∧
      network.rfConfig = some plan.target := by
  have hid := (networkById_some hnetwork).2
  unfold State.networkById at hnetwork ⊢
  split at hnetwork
  · cases hnetwork
  · next hne =>
    have hset := @findKey_updateKey NetworkRecord String _ (·.id) plan.network.id
      (fun n => {n with rfConfig := some plan.target}) s.networks (fun _ => rfl) networkId
    rw [if_neg hne, State.setRfConfig, State.changeNetwork, hset, hnetwork]
    exact ⟨_, rfl, by dsimp only; rw [if_pos rfl]⟩

/-- The phases after the gateway has taken the settings. -/
theorem finishMigration_known (hnetwork : s.networkById networkId = some plan.network)
    (entries : List DeviceEntry) (answers : MigrationAnswers)
    (hmacs : ∀ mac ∈ macsOf .verified (entries.map (verifyEntry (seenAfter answers.responders))),
      upper (strip mac) = mac ∧ mac.length = 12) :
    ((finishMigration s plan entries answers).2.networkById networkId).bind (·.rfConfig) = some plan.target ∧
      ∃ F, Known plan.target (macsOf .verified (entries.map (verifyEntry (seenAfter answers.responders)))) F ∧
        (finishMigration s plan entries answers).2.devices = s.devices.map F := by
  obtain ⟨network, hfound, hset⟩ := migrated_settings hnetwork
  obtain ⟨F, hF, hdevices⟩ := foldl_setLastKnown_known plan.target hmacs
    (s.setRfConfig plan.network.id (some plan.target)).save
  obtain ⟨devices, hfold⟩ := foldl_setLastKnown (s.setRfConfig plan.network.id (some plan.target)).save
    plan.target (macsOf .verified (entries.map (verifyEntry (seenAfter answers.responders))))
  rw [hfold] at hdevices
  have hthere : ∀ saves, ({s.setRfConfig plan.network.id (some plan.target) with devices, saves}).networkById
      networkId = some network := fun saves => (congrFun (networkById_kept rfl) networkId).trans hfound
  have hend : ∀ saves, (({s.setRfConfig plan.network.id (some plan.target) with
        devices, saves}).networkById networkId).bind (·.rfConfig) = some plan.target := fun saves => by
    rw [hthere, Option.bind_some, hset]
  have hboth : ∀ saves,
      ((if plan.transport.ident = "" then migrated s plan devices saves
        else (reEvaluate (migrated s plan devices saves) plan.transport.ident answers.report
          answers.token).2).networkById networkId).bind (·.rfConfig) = some plan.target ∧
      (if plan.transport.ident = "" then migrated s plan devices saves
        else (reEvaluate (migrated s plan devices saves) plan.transport.ident answers.report
          answers.token).2).devices = devices := by
    intro saves
    split
    · exact ⟨hend saves, rfl⟩
    · obtain ⟨hsame, hsettings⟩ := reEvaluate_keeps (hthere saves) hset plan.transport.ident answers.report
        answers.token
      exact ⟨hsettings, hsame⟩
  have hfinish : ∃ saves, (finishMigration s plan entries answers).2 =
      if plan.transport.ident = "" then migrated s plan devices saves
      else (reEvaluate (migrated s plan devices saves) plan.transport.ident answers.report answers.token).2 := by
    unfold finishMigration
    dsimp only
    rw [hfold]
    by_cases hnone : macsOf .verified (entries.map (verifyEntry (seenAfter answers.responders))) = []
    · rw [if_pos hnone]
      exact ⟨_, rfl⟩
    · rw [if_neg hnone]
      exact ⟨_, rfl⟩
  obtain ⟨saves, hfinish⟩ := hfinish
  rw [hfinish]
  exact ⟨(hboth saves).1, F, hF, (hboth saves).2.trans hdevices⟩

variable (s networkId plan force answers) in
theorem leftOld_macs (verified : Bool) : (leftOld s networkId plan force answers verified).map (fun d => upper d.addr) =
    ((pushSet s networkId plan.target force).map fun d => upper d.addr).filter fun mac =>
      accepts (some plan.transport) answers.air mac && verifies plan.transport answers mac == verified := by
  rw [leftOld, List.filter_map]
  simp only [Function.comp_def]

/-- What the pushes of a migration leave. -/
structure AfterPushes (s : State) (networkId : String) (plan : MigrationPlan) (force : Bool)
    (answers : MigrationAnswers) (skipped : List String) (entries : List DeviceEntry) (frames : List RfFrame)
    (told : State) : Prop where
  entries : List.Forall₂ (Pushed (accepts (some plan.transport) answers.air))
    ((pushSet s networkId plan.target force).map fun d => upper d.addr) entries
  sent : ∀ frame ∈ frames, frame.transport = plan.transport.toTransport ∧
    ∃ d ∈ onNetwork s networkId, frame.mac = upper (strip (upper d.addr))
  parted : (skipped ++ (pushSet s networkId plan.target force).map fun d => upper d.addr).Perm
    (((onNetwork s networkId).map fun d => upper d.addr).filter (· ≠ ""))
  network : told.networkById networkId = some plan.network
  known : ∀ macs, ∃ F, Known plan.target macs F ∧ told.devices = s.devices.map F

theorem after_pushes (hnetwork : s.networkById networkId = some plan.network)
    (hchoices : (onNetwork s networkId).mapM (pushChoice plan.target force) = .ok choices) :
    AfterPushes s networkId plan force answers
      (chosen .already ((onNetwork s networkId).zip choices) ++ chosen .offline ((onNetwork s networkId).zip choices))
      (pushEach (pushToNetwork plan answers.air) (chosen .push ((onNetwork s networkId).zip choices)) s).1
      (pushEach (pushToNetwork plan answers.air) (chosen .push ((onNetwork s networkId).zip choices)) s).2.1
      (pushEach (pushToNetwork plan answers.air) (chosen .push ((onNetwork s networkId).zip choices)) s).2.2 := by
  have hset : pushSet s networkId plan.target force =
      (onNetwork s networkId).filter (isChosen .push plan.target force) := by
    rw [pushSet, hchoices]
  have hmacs := chosen_eq hchoices .push
  rw [← hset] at hmacs
  obtain ⟨hentries, hframes⟩ := pushes_entries plan answers.air
    (chosen .push ((onNetwork s networkId).zip choices)) s
  obtain ⟨devices, hdoes⟩ := pushToNetwork_does plan answers.air
    (chosen .push ((onNetwork s networkId).zip choices)) s
  constructor
  · rw [← hmacs]
    exact hentries
  · intro frame hframe
    obtain ⟨htransport, mac, hmac, hframe⟩ := hframes frame hframe
    rw [hmacs, hset] at hmac
    obtain ⟨d, hd, rfl⟩ := List.mem_map.mp hmac
    exact ⟨htransport, d, (List.mem_filter.mp hd).1, hframe⟩
  · rw [chosen_eq hchoices, chosen_eq hchoices, hset]
    exact sorted_perm hchoices
  · rw [hdoes]
    exact (congrFun (networkById_kept rfl) networkId).trans hnetwork
  · exact fun macs => pushes_known macs plan answers.air (chosen .push ((onNetwork s networkId).zip choices)) s

section After
variable {skipped : List String} {entries : List DeviceEntry} {frames : List RfFrame} {told : State}
  {result : MigrationResult} {summary : MigrationSummary}

/-- If the gateway refuses, no device is lost just if nobody had taken the settings. -/
theorem refused_right_iff (h : AfterPushes s networkId plan force answers skipped result.perDevice frames told)
    {reason : String} (hrefusal : gatewayRefusal plan.transport answers.refusal = some reason)
    (hsummary : result.summary = some summary)
    (hskipped : summary.skippedAlreadyTarget ++ summary.skippedOffline = skipped) (hverified : summary.verified = [])
    (hok : result.ok = false) (hstranded : result.stranded = []) :
    MigrationRight s networkId plan force answers {answer := .ok result, frames, state := told} ↔
      Follows s networkId plan force answers := by
  have hverifies : ∀ mac, verifies plan.transport answers mac = false := by
    intro mac
    rw [verifies, hrefusal]
    rfl
  constructor
  · intro hright
    obtain ⟨_, _, hrun⟩ := hright.ran result rfl
    refine .inr fun d hd => ?_
    have hlost := hrun.stranded
    rw [hstranded, leftOld_macs] at hlost
    have hout := List.filter_eq_nil_iff.mp hlost.symm (upper d.addr) (List.mem_map_of_mem hd)
    simpa [hverifies] using hout
  · intro hfollows
    have hnone : ∀ verified, leftOld s networkId plan force answers verified = [] := by
      intro verified
      refine List.filter_eq_nil_iff.mpr fun d hd => ?_
      rw [hfollows.resolve_left (by rw [hrefusal]; nofun) d hd]
      nofun
    obtain ⟨F, hF, hdevices⟩ := h.known []
    refine ⟨nofun, fun result' hresult => ?_⟩
    obtain rfl : result = result' := Except.ok.inj hresult
    refine ⟨summary, hsummary, h.sent, ?_, ?_, ?_, ?_, ?_, ?_⟩
    · rw [hskipped, (pushed_macs h.entries).1]
      exact h.parted
    · rw [h.network, hrefusal]
      rfl
    · rw [hnone, hstranded]
      rfl
    · rw [hnone, hverified]
      rfl
    · rw [hdevices, hverified, List.forall₂_map_right_iff, List.forall₂_same]
      exact fun d _ => ⟨hF.addr d, hF.noted d⟩
    · rw [hrefusal, hok]
      simp

/-- If the gateway takes the settings, no device is lost. -/
theorem followed_right (h : AfterPushes s networkId plan force answers skipped entries frames told)
    (hrefusal : gatewayRefusal plan.transport answers.refusal = none)
    (hperDevice : result.perDevice = entries.map (verifyEntry (seenAfter answers.responders)))
    (hskipped : summary.skippedAlreadyTarget ++ summary.skippedOffline = skipped)
    (hverified : summary.verified = macsOf .verified result.perDevice)
    (hok : result.ok = (entries.length - (macsOf .pushed entries).length == 0 && result.stranded.isEmpty))
    (hstranded : result.stranded = macsOf .stranded result.perDevice) :
    RunRight s networkId plan force answers
      {answer := .ok result, frames, state := (finishMigration told plan entries answers).2} result summary := by
  have hverifies : ∀ mac, verifies plan.transport answers mac = decide (mac ∈ seenAfter answers.responders) := by
    intro mac
    rw [verifies, hrefusal]
    rfl
  obtain ⟨hsameMacs, hverifiedMacs, hstrandedMacs⟩ := verified_macs (seenAfter answers.responders) h.entries
  have hlong : ∀ mac ∈ macsOf .verified (entries.map (verifyEntry (seenAfter answers.responders))),
      upper (strip mac) = mac ∧ mac.length = 12 := by
    intro mac hmac
    rw [hverifiedMacs] at hmac
    have hseen := (Bool.and_eq_true_iff.mp (List.mem_filter.mp hmac).2).2
    exact mem_seenAfter (of_decide_eq_true hseen)
  obtain ⟨hsettings, G, hG, hafter⟩ := finishMigration_known h.network entries answers hlong
  obtain ⟨F, hF, hbefore⟩ := h.known
    (macsOf .verified (entries.map (verifyEntry (seenAfter answers.responders))))
  constructor
  · exact h.sent
  · rw [hskipped, hperDevice, hsameMacs]
    exact h.parted
  · rw [hrefusal]
    exact hsettings
  · rw [hstranded, hperDevice, hstrandedMacs, leftOld_macs]
    refine List.filter_congr fun mac _ => ?_
    rw [hverifies]
    simp
  · rw [hverified, hperDevice, hverifiedMacs, leftOld_macs]
    refine List.filter_congr fun mac _ => ?_
    rw [hverifies]
    simp
  · rw [hverified, hperDevice, hafter, hbefore, List.map_map, List.forall₂_map_right_iff, List.forall₂_same]
    exact fun d _ => ⟨(hG.comp hF).addr d, (hG.comp hF).noted d⟩
  · obtain ⟨hentryMacs, hpushedMacs⟩ := pushed_macs h.entries
    have hcount : entries.length - (macsOf .pushed entries).length = 0 ↔
        ∀ d ∈ pushSet s networkId plan.target force,
          accepts (some plan.transport) answers.air (upper d.addr) = true := by
      have hlength : entries.length = ((pushSet s networkId plan.target force).map fun d => upper d.addr).length := by
        rw [← hentryMacs, List.length_map]
      rw [hpushedMacs, hlength, Nat.sub_eq_zero_iff_le, (List.length_filter_le _ _).ge_iff_eq,
        List.length_filter_eq_length_iff]
      simp
    rw [hok, hrefusal, ← hcount]
    simp

end After

/-- **No device is lost exactly when the gateway follows the devices, or has nobody to follow.** -/
theorem migration_right_iff (hplan : planMigration s networkId target = .ok (.ok plan)) :
    MigrationRight s networkId plan force answers (migrateNetworkTo s networkId target force answers) ↔
      Follows s networkId plan force answers := by
  obtain ⟨hnetwork, _⟩ := planMigration_ok hplan
  unfold migrateNetworkTo
  rw [hplan]
  dsimp only
  rw [show (s.devices.filter fun d => d.networkId.getD "" = networkId) = onNetwork s networkId from rfl]
  cases hchoices : (onNetwork s networkId).mapM (pushChoice plan.target force) with
  | error e =>
    have hnobody : pushSet s networkId plan.target force = [] := by
      rw [pushSet, hchoices]
    refine iff_of_true ⟨fun _ _ => ⟨rfl, rfl⟩, nofun⟩ (.inr ?_)
    rw [hnobody]
    simp
  | ok choices =>
    have hafter := @after_pushes s networkId plan force answers choices hnetwork hchoices
    cases hrefusal : gatewayRefusal plan.transport answers.refusal with
    | some reason => exact refused_right_iff hafter hrefusal rfl rfl rfl rfl rfl
    | none =>
      refine iff_of_true ⟨nofun, fun result hresult => ?_⟩ (.inl hrefusal)
      cases hresult
      exact ⟨_, rfl, followed_right hafter hrefusal rfl rfl rfl rfl rfl⟩

end Run

/-! ### Two runs -/

/-- A network with its gateway and one device, online. -/
def oneNetwork : State where
  networks := [⟨⟨"A", .rf, some "AABBCCDDEE01"⟩, "Track", "EU868", some 1, channelRfConfig "EU868" 1, none,
    .finite 0⟩]
  devices := [{createDevice 10 { addr := "AABBCC445566", name := "Start" } [] with
    networkId := some "A", linkOnline := true}]
  groups := [⟨⟨none⟩, "Unconfigured", 0, 0⟩]
  transports := [⟨⟨1, some "A", "AABBCCDDEE01"⟩, .rf⟩]
  records := []
  saves := 0

/-- Its migration to another channel. -/
def channelTwo : MigrationPlan where
  target := (channelRfConfig "EU868" 2).getD []
  network := ⟨⟨"A", .rf, some "AABBCCDDEE01"⟩, "Track", "EU868", some 1, channelRfConfig "EU868" 1, none, .finite 0⟩
  transport := ⟨⟨1, some "A", "AABBCCDDEE01"⟩, .rf⟩

/-- The device takes the settings. What the gateway answers, and who is heard then, is left open. -/
def answered (refusal : Option String) (responders : List String) : MigrationAnswers where
  air _ := {}
  refusal := refusal
  responders := responders
  token := "t"

theorem channelTwo_planned : planMigration oneNetwork "A" channelTwo.target = .ok (.ok channelTwo) := by
  decide +kernel

/-- The gateway follows, and the device is heard. -/
theorem migration_right_heard : MigrationRight oneNetwork "A" channelTwo false (answered none ["aabbcc445566"])
    (migrateNetworkTo oneNetwork "A" channelTwo.target false (answered none ["aabbcc445566"])) := by
  rw [migration_right_iff channelTwo_planned]
  exact Or.inl (by decide +kernel)

/-- The device has taken the settings when the gateway refuses them, and is not listed. -/
theorem migration_loses_device : ¬ ∀ s networkId target plan force answers,
    planMigration s networkId target = .ok (.ok plan) →
      MigrationRight s networkId plan force answers (migrateNetworkTo s networkId target force answers) := by
  intro hclaim
  have hright := hclaim oneNetwork "A" channelTwo.target channelTwo false (answered (some "nvs") [])
    channelTwo_planned
  obtain ⟨result, hanswer, hnobody⟩ := map_ok.mp
    (show (migrateNetworkTo oneNetwork "A" channelTwo.target false
      (answered (some "nvs") [])).answer.map (·.stranded) = .ok [] by decide +kernel)
  obtain ⟨summary, -, hrun⟩ := hright.ran result hanswer
  have hlisted := hrun.stranded
  rw [hnobody] at hlisted
  exact absurd hlisted (by decide +kernel)

end RaceLink.Gateways
