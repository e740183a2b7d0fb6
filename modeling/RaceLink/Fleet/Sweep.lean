import Mathlib.Algebra.GroupWithZero.Nat
import Mathlib.Data.List.Sort
import RaceLink.Fleet.Regroup
import RaceLink.Routing.Senders

/-! Discovery from the operator's dialog (`web/api.py`, `services/discovery_service.py`): who is asked, and who
answers.

"All groups" is a sweep with one query for each group of the repository. The request looks the number of a group
up in an attribute of the record, which no record has: groups are numbered by their place. So it finds no group,
and what runs is the query of group 0. -/
namespace RaceLink.Fleet
open Python Library Domain Routing Gateways

/-! ### Replies -/

/-- A reply that the matcher collected. -/
structure DiscoveryReply where
  mac6 : Option Bytes
  sender3 : Option Bytes
deriving DecidableEq, Repr

/-- The address a reply is counted under. -/
def responderOf (ev : DiscoveryReply) : Option String :=
  match ev.mac6.filter fun mac6 => mac6.length = 6 with
  | some mac6 => some (hexUpper mac6)
  | none => nonEmpty (ev.sender3.map hexUpper)

/-- What comes back over the air: the replies to the `n`th query on a transport, unless its worker raises, and
what a device acknowledges its new group with. -/
structure Air where
  replies : Nat → Transport → Except PyError (List DiscoveryReply)
  acks : Nat → String → Option Int

structure Found where
  found : Nat := 0
  responders : List String := []
  assignedGroup : Option Int := none
deriving DecidableEq, Repr

/-- `_discover_on_transport`: how many replies, from whom. -/
def collected (replies : List DiscoveryReply) : Nat × List String :=
  (replies.length, keepFirst id [] (replies.filterMap responderOf))

/-- The results of the transports, merged. -/
def merge (results : List (Nat × List String)) : Nat × List String :=
  ((results.map Prod.fst).sum, keepFirst id [] (results.flatMap Prod.snd))

/-- The transports are asked: a single one in place, several by a worker each, whose exception is its own. -/
def probe (air : Air) (n : Nat) (transports : List Transport) : Except PyError (Nat × List String) :=
  match transports with
  | [t] => (air.replies n t).map collected
  | ts => .ok (merge (ts.map fun t =>
      match air.replies n t with
      | .ok replies => collected replies
      | .error _ => (0, [])))

/-! ### Queries -/

/-- A call of `discover_devices`: its filter, and the GET_DEVICES frames with their group byte. -/
structure Query where
  groupFilter : Int
  frames : List (Transport × Int)
deriving DecidableEq, Repr

/-- What a discovery answers, what it asked, and the fleet afterwards. -/
structure DiscoveryRun where
  answer : Except PyError Found
  queries : List Query
  state : State

/-- `discover_devices` for a group filter, as the `n`th query: every attached transport is asked. -/
def discover (air : Air) (n : Nat) (s : State) (groupFilter addToGroup : Int) : DiscoveryRun :=
  let transports := s.host.resolveBroadcastTransports none
  let query := ⟨groupFilter, transports.map fun t => (t, groupFilter % 256)⟩
  if transports = [] then ⟨.ok {}, [query], s⟩
  else
    match probe air n transports with
    | .error e => ⟨.error e, [query], s⟩
    | .ok (found, responders) =>
      let (assignedGroup, s) := discoverDevices s addToGroup responders (air.acks n)
      ⟨.ok ⟨found, responders, assignedGroup⟩, [query], s⟩

/-- What the results so far and those of a query come to. -/
def Found.add (total result : Found) : Found where
  found := total.found + result.found
  responders := keepFirst id [] (total.responders ++ result.responders)
  assignedGroup := result.assignedGroup.or total.assignedGroup

/-- `discover_devices_in_groups`, after some queries: a query for each id that can be one of a group. -/
def discoverDevicesInGroups (air : Air) (addToGroup : Int) : List Int → Found → List Query → State → DiscoveryRun
  | [], total, queries, s => ⟨.ok total, queries, s⟩
  | gid :: rest, total, queries, s =>
    if 0 ≤ gid ∧ gid ≤ 254 then
      let run := discover air queries.length s gid addToGroup
      match run.answer with
      | .error e => ⟨.error e, queries ++ run.queries, run.state⟩
      | .ok result =>
        discoverDevicesInGroups air addToGroup rest (total.add result) (queries ++ run.queries) run.state
    else discoverDevicesInGroups air addToGroup rest total queries s

/-! ### The request -/

structure DiscoverBody where
  targetGroupId : Json := .null
  newGroupName : Json := .null
  discoveryGroup : Json := .null
deriving DecidableEq, Repr

/-- `_prepare_discover_target`: the target, and the group made for it; `text` is `str`. -/
def prepareDiscoverTarget (text : Json → String) (s : State) (body : DiscoverBody) : Json × Option Int × State :=
  if body.newGroupName.truthy then
    let gid : Int := s.groups.length
    (.int gid, some gid,
      {s with groups := s.groups ++ [{ networkId := none, name := text body.newGroupName, staticGroup := 0, devType := 0 }]})
  else (body.targetGroupId, none, s)

/-- The attributes of an `RL_DeviceGroup`. -/
def groupAttr (g : GroupRecord) (name : String) : Option Json :=
  if name = "name" then some (.str g.name)
  else if name = "static_group" then some (.int g.staticGroup)
  else if name = "dev_type" then some (.int g.devType)
  else if name = "network_id" then some ((g.networkId.map Json.str).getD .null)
  else none

/-- `int(getattr(g, "groupId", getattr(g, "id", -1)))`. -/
def listedId (g : GroupRecord) : Except PyError Int :=
  ((groupAttr g "groupId").getD ((groupAttr g "id").getD (.int (-1)))).toInt

/-- `sweep_ids`: the ids of the repository that a query can name, sorted. -/
def sweepIds (s : State) : List Int :=
  match s.groups.mapM listedId with
  | .ok ids => (keepFirst id [] (ids.filter fun gid => 0 ≤ gid ∧ gid ≤ 254)).insertionSort (· ≤ ·)
  | .error _ => []

/-- `discoveryGroup` is `"all"`, in any case. -/
def sweepAll (body : DiscoverBody) : Bool :=
  match body.discoveryGroup with
  | .str s => lower s = "all"
  | _ => false

/-- The filter of a request that is no sweep: what is no group id stands for 0. -/
def discoveryFilter (raw : Json) : Except PyError Int :=
  if raw = .null ∨ raw = .str "" then .ok 0
  else match raw.toInt with
    | .ok gid => .ok (if 0 ≤ gid ∧ gid ≤ 254 then gid else 0)
    | .error .overflowError => .error .overflowError
    | .error _ => .ok 0

/-- What the request hands to the task. -/
structure DiscoverTask where
  target : Json
  created : Option Int
  /-- `None` for a sweep. -/
  filter : Option Int
  ids : List Int
deriving DecidableEq, Repr

/-- `api_discover`, up to the start of the task. -/
def apiDiscover (text : Json → String) (s : State) (body : DiscoverBody) : Except PyError DiscoverTask × State :=
  let (target, created, s) := prepareDiscoverTarget text s body
  if sweepAll body then (.ok ⟨target, created, none, sweepIds s⟩, s)
  else ((discoveryFilter body.discoveryGroup).map fun filter => ⟨target, created, some filter, []⟩, s)

/-- The group that the found devices are put in, if any. -/
def addToGroup (target : Json) : Except PyError Int :=
  if target = .null ∨ target.eqInt 0 ∨ target = .str "0" then .ok (-1) else target.toInt

/-- `do_discover`, on the fleet as the task finds it. -/
def doDiscover (air : Air) (s : State) (task : DiscoverTask) : DiscoveryRun :=
  match addToGroup task.target with
  | .error e => ⟨.error e, [], s⟩
  | .ok add =>
    if task.filter = none ∧ task.ids ≠ [] then discoverDevicesInGroups air add task.ids {} [] s
    else discover air 0 s (task.filter.getD 0) add

/-! ### Who is asked and who answers -/

/-- Somebody answers a query on one of the transports. -/
def Answers (air : Air) (i : Nat) (transports : List Transport) (r : String) : Prop :=
  ∃ t ∈ transports, ∃ replies, air.replies i t = .ok replies ∧ r ∈ replies.filterMap responderOf

/-- Each group id up to 254 is asked for once, on every transport, and who answered a query is reported. -/
structure Sweeps (air : Air) (n : Nat) (transports : List Transport) (run : DiscoveryRun) : Prop where
  asked : ∀ g : Int, (run.queries.map Query.groupFilter).count g = if 0 ≤ g ∧ g ≤ min ((n : Int) - 1) 254 then 1 else 0
  frames : ∀ q ∈ run.queries, q.frames = transports.map fun t => (t, q.groupFilter)
  responders : ∀ found, run.answer = .ok found →
    ∀ r, r ∈ found.responders ↔ ∃ i < run.queries.length, Answers air i transports r

section Queries
variable {air : Air} {s : State} {r : String}

theorem mem_collected {replies : List DiscoveryReply} : r ∈ (collected replies).2 ↔ r ∈ replies.filterMap responderOf :=
  mem_keepFirst_id

theorem probe_responders {n : Nat} {transports : List Transport} {found : Nat} {responders : List String}
    (h : probe air n transports = .ok (found, responders)) : r ∈ responders ↔ Answers air n transports r := by
  have hone : ∀ t, r ∈ (match air.replies n t with
      | .ok replies => collected replies
      | .error _ => (0, [])).2 ↔ ∃ replies, air.replies n t = .ok replies ∧ r ∈ replies.filterMap responderOf := by
    intro t
    cases air.replies n t with
    | error e => simp
    | ok replies => simp [mem_collected]
  unfold probe at h
  split at h
  · next t =>
    obtain ⟨replies, hreplies, heq⟩ := map_ok.mp h
    obtain rfl : (collected replies).2 = responders := congrArg Prod.snd heq
    rw [mem_collected]
    simp [Answers, hreplies]
  · obtain rfl : (merge _).2 = responders := congrArg Prod.snd (Except.ok.inj h)
    rw [merge, mem_keepFirst_id, List.flatMap_map, List.mem_flatMap]
    exact exists_congr fun t => and_congr_right fun _ => hone t

theorem changeDevice_transports (s : State) (addr : String) (f : DeviceRecord → DeviceRecord) :
    (changeDevice s addr f).transports = s.transports := by
  unfold changeDevice
  split <;> rfl

theorem setNodeGroupId_transports (s : State) (addr : String) (answer : Option Int) :
    (setNodeGroupId s addr answer).2.transports = s.transports := by
  unfold setNodeGroupId
  split
  · rfl
  · split
    · rfl
    · split
      · exact changeDevice_transports ..
      · rfl

theorem collect_transports (group : Int) (answers : String → Option Int) (s : State) (responder : String) :
    (collect group answers s responder).transports = s.transports := by
  unfold collect
  split
  · rfl
  · rw [setNodeGroupId_transports, changeDevice_transports]

/-- A discovery moves devices and labels a group; the transports stay. -/
theorem discoverDevices_transports (s : State) (addToGroup : Int) (responders : List String)
    (answers : String → Option Int) : (discoverDevices s addToGroup responders answers).2.transports = s.transports := by
  have hjoin : (responders.foldl (collect addToGroup answers) s).transports = s.transports := by
    induction responders generalizing s with
    | nil => rfl
    | cons r rest ih => rw [List.foldl_cons, ih, collect_transports]
  unfold discoverDevices
  split
  · show (reconcileGroupNetwork (responders.foldl _ s) addToGroup).2.transports = s.transports
    rw [reconcile_eq]
    exact hjoin
  · rfl

/-- The query of a filter on some transports. -/
def queryOf (transports : List Transport) (groupFilter : Int) : Query :=
  ⟨groupFilter, transports.map fun t => (t, groupFilter % 256)⟩

theorem discover_queries (air : Air) (n : Nat) (s : State) (groupFilter addToGroup : Int) :
    (discover air n s groupFilter addToGroup).queries = [queryOf s.host.transports groupFilter] := by
  unfold discover
  simp only
  split
  · rfl
  · split <;> rfl

theorem discover_transports (air : Air) (n : Nat) (s : State) (groupFilter addToGroup : Int) :
    (discover air n s groupFilter addToGroup).state.host.transports = s.host.transports := by
  unfold discover
  simp only
  split
  · rfl
  · split
    · rfl
    · exact congrArg (List.map Attached.toTransport) (discoverDevices_transports ..)

theorem discover_responders {n : Nat} {groupFilter addToGroup : Int} {found : Found}
    (h : (discover air n s groupFilter addToGroup).answer = .ok found) :
    r ∈ found.responders ↔ Answers air n s.host.transports r := by
  unfold discover at h
  simp only at h
  split at h
  · next hnone =>
    obtain rfl := Except.ok.inj h
    have hempty : s.host.transports = [] := hnone
    simp [Answers, hempty]
  · split at h
    · cases h
    · next hprobe =>
      obtain rfl := Except.ok.inj h
      exact probe_responders hprobe

/-- **A sweep asks for each id that a group can have, in the order they come, and reports who answered one
of its queries.** -/
theorem discoverDevicesInGroups_spec {addToGroup : Int} {ids : List Int} {total found : Found} {queries : List Query}
    (h : (discoverDevicesInGroups air addToGroup ids total queries s).answer = .ok found) :
    (discoverDevicesInGroups air addToGroup ids total queries s).queries =
        queries ++ (ids.filter fun gid => 0 ≤ gid ∧ gid ≤ 254).map (queryOf s.host.transports) ∧
      (r ∈ found.responders ↔ r ∈ total.responders ∨
        ∃ i, queries.length ≤ i ∧ i < (discoverDevicesInGroups air addToGroup ids total queries s).queries.length ∧
          Answers air i s.host.transports r) := by
  induction ids generalizing total queries s with
  | nil =>
    obtain rfl := Except.ok.inj h
    refine ⟨(List.append_nil _).symm, (or_iff_left ?_).symm⟩
    intro ⟨i, hle, hlt, _⟩
    exact absurd hle (by simpa [discoverDevicesInGroups] using hlt)
  | cons gid rest ih =>
    by_cases hgid : 0 ≤ gid ∧ gid ≤ 254
    · rw [discoverDevicesInGroups, if_pos hgid] at h ⊢
      dsimp only at h ⊢
      cases hanswer : (discover air queries.length s gid addToGroup).answer with
      | error e =>
        rw [hanswer] at h
        cases h
      | ok result =>
        rw [hanswer] at h
        dsimp only at h ⊢
        obtain ⟨hqueries, hresponders⟩ := ih h
        rw [discover_transports, discover_queries] at hqueries hresponders
        rw [discover_queries, hresponders]
        refine ⟨by simpa [hgid] using hqueries, ?_⟩
        have hadd : r ∈ (total.add result).responders ↔
            r ∈ total.responders ∨ Answers air queries.length s.host.transports r := by
          rw [Found.add, mem_keepFirst_id, List.mem_append, discover_responders hanswer]
        have hlater : queries.length < (discoverDevicesInGroups air addToGroup rest (total.add result)
            (queries ++ [queryOf s.host.transports gid]) (discover air queries.length s gid addToGroup).state).queries.length := by
          rw [hqueries]
          simp
        rw [hadd, or_assoc, List.length_append, List.length_singleton]
        apply or_congr_right
        constructor
        · intro hor
          cases hor with
          | inl hnow => exact ⟨queries.length, Nat.le_refl _, hlater, hnow⟩
          | inr hthen =>
            obtain ⟨i, hle, hlt, hi⟩ := hthen
            exact ⟨i, by omega, hlt, hi⟩
        · intro ⟨i, hle, hlt, hi⟩
          by_cases heq : i = queries.length
          · exact .inl (heq ▸ hi)
          · exact .inr ⟨i, by omega, hlt, hi⟩
    · rw [discoverDevicesInGroups, if_neg hgid] at h ⊢
      simpa [hgid] using ih h

/-! ### All groups -/

/-- A sweep over the numbers of `n` groups would do what the request is for. -/
theorem discoverDevicesInGroups_sweeps {addToGroup : Int} {n : Nat} {found : Found}
    (h : (discoverDevicesInGroups air addToGroup ((List.range n).map fun (i : Nat) => (i : Int)) {} [] s).answer = .ok found) :
    Sweeps air n s.host.transports
      (discoverDevicesInGroups air addToGroup ((List.range n).map fun (i : Nat) => (i : Int)) {} [] s) := by
  have hnodup : (((List.range n).map fun (i : Nat) => (i : Int)).filter fun gid => 0 ≤ gid ∧ gid ≤ 254).Nodup :=
    (List.nodup_range.map fun _ _ => Int.ofNat_inj.mp).filter _
  obtain hqueries := (discoverDevicesInGroups_spec (r := "") h).1
  rw [List.nil_append] at hqueries
  refine ⟨fun g => ?_, fun q hq => ?_, fun found' hfound r => ?_⟩
  · have hfilters : ((((List.range n).map fun (i : Nat) => (i : Int)).filter fun gid => 0 ≤ gid ∧ gid ≤ 254).map
        (queryOf s.host.transports)).map Query.groupFilter =
          ((List.range n).map fun (i : Nat) => (i : Int)).filter fun gid => 0 ≤ gid ∧ gid ≤ 254 := by
      rw [List.map_map]
      exact List.map_id _
    rw [hqueries, hfilters, hnodup.count]
    refine if_congr ?_ rfl rfl
    simp only [List.mem_filter, List.mem_map, List.mem_range, decide_eq_true_eq]
    constructor
    · intro ⟨⟨i, hi, hig⟩, hrange⟩
      omega
    · intro hrange
      exact ⟨⟨g.toNat, by omega, by omega⟩, by omega⟩
  · rw [hqueries] at hq
    obtain ⟨gid, hgid, rfl⟩ := List.mem_map.mp hq
    have hrange := (List.mem_filter.mp hgid).2
    simp only [decide_eq_true_eq] at hrange
    show s.host.transports.map (fun t => (t, gid % 256)) = _
    rw [Int.emod_eq_of_lt (by omega) (by omega)]
    rfl
  · obtain rfl := Except.ok.inj (h.symm.trans hfound)
    rw [(discoverDevicesInGroups_spec h).2]
    simp

/-- The request finds no group: a group record has no number. -/
theorem sweepIds_eq (s : State) : sweepIds s = [] := by
  have hids : s.groups.mapM listedId = .ok (s.groups.map fun _ => -1) := by
    have hmap := mapM_map_ok (f := listedId) (g := id) (h := fun _ => (-1 : Int)) s.groups fun _ _ => rfl
    rwa [List.map_id] at hmap
  rw [sweepIds, hids]
  have hnone : (s.groups.map fun _ => (-1 : Int)).filter (fun gid => 0 ≤ gid ∧ gid ≤ 254) = [] := by
    apply List.filter_eq_nil_iff.mpr
    intro gid hgid
    obtain ⟨_, _, rfl⟩ := List.mem_map.mp hgid
    decide
  dsimp only
  rw [hnone]
  rfl

/-- **A request for all groups asks what it should just if there is one group.** -/
theorem apiDiscover_sweeps (text : Json → String) (air : Air) (s t : State) (body : DiscoverBody)
    (hall : sweepAll body = true) {task : DiscoverTask} (htask : (apiDiscover text s body).1 = .ok task) {add : Int}
    (hadd : addToGroup task.target = .ok add) :
    Sweeps air (apiDiscover text s body).2.groups.length t.host.transports (doDiscover air t task) ↔
      (apiDiscover text s body).2.groups.length = 1 := by
  have hzero : doDiscover air t task = discover air 0 t 0 add := by
    have hids : task.filter = none ∧ task.ids = [] := by
      simp only [apiDiscover, hall, if_true] at htask
      obtain rfl := Except.ok.inj htask
      exact ⟨rfl, sweepIds_eq _⟩
    rw [doDiscover, hadd]
    simp [hids]
  rw [hzero]
  constructor
  · intro h
    have hcount : ∀ g : Int, [(0 : Int)].count g =
        if 0 ≤ g ∧ g ≤ min (((apiDiscover text s body).2.groups.length : Int) - 1) 254 then 1 else 0 := by
      intro g
      rw [← h.asked g, discover_queries]
      rfl
    have h0 := hcount 0
    have h1 := hcount 1
    rw [List.count_cons_self, List.count_nil] at h0
    rw [List.count_cons_of_ne (by decide), List.count_nil] at h1
    split at h0 <;> split at h1 <;> omega
  · intro hone
    rw [hone]
    refine ⟨fun g => ?_, fun q hq => ?_, fun found hfound r => ?_⟩
    · rw [discover_queries]
      show [(0 : Int)].count g = _
      by_cases hg : g = 0
      · subst hg
        rfl
      · rw [List.count_cons_of_ne (Ne.symm hg), List.count_nil, if_neg (by omega)]
    · rw [discover_queries] at hq
      obtain rfl := List.mem_singleton.mp hq
      rfl
    · rw [discover_responders hfound, discover_queries]
      simp

end Queries

/-- A fleet of some groups behind one gateway. -/
def groupsBehind (names : List String) : State where
  networks := []
  devices := []
  groups := names.map fun name => { networkId := none, name, staticGroup := 0, devType := 0 }
  transports := [{ handle := 0, networkId := none, identMac := "AABBCCDDEEFF", kind := .rf }]
  records := []
  saves := 0

def silence : Air := ⟨fun _ _ => .ok [], fun _ _ => none⟩

def allGroups : DiscoverBody := { discoveryGroup := .str "all" }

theorem apiDiscover_sweeps_one :
    Sweeps silence (apiDiscover (fun _ => "") (groupsBehind ["Unconfigured"]) allGroups).2.groups.length
        (groupsBehind ["Unconfigured"]).host.transports
        (doDiscover silence (groupsBehind ["Unconfigured"]) ⟨.null, none, none, []⟩) ↔
      (apiDiscover (fun _ => "") (groupsBehind ["Unconfigured"]) allGroups).2.groups.length = 1 :=
  @apiDiscover_sweeps (fun _ => "") silence (groupsBehind ["Unconfigured"]) (groupsBehind ["Unconfigured"]) allGroups
    (by decide +kernel) ⟨.null, none, none, []⟩ (by rfl) (-1) (by rfl)

theorem two_groups_unasked :
    ∃ task, (apiDiscover (fun _ => "") (groupsBehind ["Unconfigured", "Red"]) allGroups).1 = .ok task ∧
      ¬ Sweeps silence 2 (groupsBehind ["Unconfigured", "Red"]).host.transports
        (doDiscover silence (groupsBehind ["Unconfigured", "Red"]) task) := by
  refine ⟨⟨.null, none, none, []⟩, by rfl, fun h => ?_⟩
  have hone := h.asked 1
  exact absurd hone (by decide +kernel)

end RaceLink.Fleet
