import Mathlib.Algebra.Group.Int.Defs
import RaceLink.Pending.Registry
import RaceLink.Routing.Senders

/-! Collecting the replies of several senders: `wait` and `send_and_match` of one wait, the
status broadcast (`services/status_service.py`), and `send_stream` with its attempts
(`services/gateway_service.py`).

A wait ends by the number of replies, not of senders, and a stream counts every ACK,
whatever its status. `collections_iff` says exactly when that makes no difference. -/
namespace RaceLink.Pending
open Library Python Domain Protocol Dispatch Routing

/-! ### One wait -/

/-- What reaches a wait while it is registered: up to the last look of `wait`, and from then
until it is cancelled. `silent` tells the idle window from the ceiling. -/
structure Window where
  seen : List ReplyEvent
  late : List ReplyEvent
  silent : Bool
deriving DecidableEq, Repr

def Window.arrived (w : Window) : List ReplyEvent := w.seen ++ w.late

inductive Reason where
  | count
  | idle
  | maxTimeout
  | noReply
deriving DecidableEq, Repr

namespace PendingMatcher

/-- The replies collected at the last look. -/
def atLook (m : PendingMatcher) (w : Window) : List ReplyEvent := w.seen.filter m.accepts

/-- The replies `send_and_match` returns. -/
def collects (m : PendingMatcher) (w : Window) : List ReplyEvent := w.arrived.filter m.accepts

/-- `wait`. -/
def wait (m : PendingMatcher) (w : Window) : Reason :=
  if m.complete (m.atLook w) then .count
  else if m.atLook w = [] then .noReply
  else if w.silent then .idle else .maxTimeout

/-- How many senders have answered by the last look. -/
def answered (m : PendingMatcher) (w : Window) : Nat :=
  (keepFirst id [] ((m.atLook w).map (·.sender3) |>.filterMap id)).length

/-- A wait that ends by the count has a reply from so many senders. -/
def Completes (m : PendingMatcher) (w : Window) : Prop :=
  m.wait w = .count → m.expectedCount ≤ m.answered w

/-- While senders are missing, fewer than so many replies have come twice. -/
def FewRepeats (m : PendingMatcher) (w : Window) : Prop :=
  (m.answered w : Int) < m.expectedCount →
    (surplus [] ((m.atLook w).map (·.sender3)) : Int) < m.expectedCount - m.answered w

theorem completes_iff (m : PendingMatcher) (w : Window) : m.Completes w ↔ m.FewRepeats w := by
  have hlength := length_eq_keepFirst_add_surplus [] ((m.atLook w).map (·.sender3))
  rw [List.length_map] at hlength
  have hwait : m.wait w = .count ↔ m.expectedCount ≤ ((m.atLook w).length : Int) := by
    unfold wait
    split
    · next h => exact iff_of_true rfl (of_decide_eq_true h)
    · next h =>
      refine iff_of_false ?_ (of_decide_eq_false (Bool.eq_false_iff.mpr h))
      split
      · nofun
      · split <;> nofun
  rw [Completes, FewRepeats, hwait, hlength, answered]
  push_cast
  omega

end PendingMatcher

/-- What the registry gives a wait in a run is what `collects` returns: events it accepts. -/
theorem run_collected {ι τ : Type} [DecidableEq ι] [DecidableEq τ] {matcher : ι → PendingMatcher}
    (s : Registry ι τ) (calls : List (Call ι τ)) (i : ι) :
    ∃ events, (calls.foldl (Registry.next matcher) s).collected i = s.collected i ++ events ∧
      ∀ ev ∈ events, (matcher i).accepts ev = true := by
  induction calls generalizing s with
  | nil => exact ⟨[], (List.append_nil _).symm, nofun⟩
  | cons call rest ih =>
    obtain ⟨events, hevents, hall⟩ := ih (s.next matcher call)
    rw [List.foldl_cons]
    obtain hsame | ⟨t, ev, candidates, -, -, htaker, hcollected⟩ :=
      next_collected matcher s call i
    · exact ⟨events, by rw [hevents, hsame], hall⟩
    · refine ⟨ev :: events, by rw [hevents, hcollected, List.append_assoc]; rfl, ?_⟩
      intro ev' hev'
      rcases List.mem_cons.mp hev' with rfl | hev'
      · exact List.find?_some (p := fun j => (matcher j).accepts ev') htaker
      · exact hall ev' hev'

/-! ### The status broadcast -/

/-- The wait of `_get_status_broadcast_on_transport` for so many devices. -/
def statusMatcher (identMac : String) (expectedCount : Nat) : PendingMatcher where
  senderFilter := none
  expectedOpcode := some OPC_STATUS
  expectedAckOf := none
  discriminator := some ("reply", some (.str "STATUS_REPLY"))
  gatewayId := some identMac
  expectedCount := if 0 < expectedCount then expectedCount else 2 ^ 31

/-! ### Streams -/

/-- The wait of one attempt of `send_stream`. -/
def streamMatcher (gatewayId : String) (remaining : List Bytes) : PendingMatcher where
  senderFilter := some remaining
  expectedOpcode := none
  expectedAckOf := some OPC_STREAM
  discriminator := none
  gatewayId := some gatewayId
  expectedCount := remaining.length

/-- An attempt: whom it waits for, and what happens meanwhile. -/
structure Attempt where
  remaining : List Bytes
  window : Window
deriving DecidableEq, Repr

/-- The loop over the attempts that are left; `windows` says what happens in each. -/
def streamAttempts (gatewayId : String) (targets : List Bytes) (windows : Nat → Window) :
    Nat → Nat → List Bytes → List Attempt × List Bytes
  | _, 0, acked => ([], acked)
  | attempt, left + 1, acked =>
    let remaining := targets.filter (· ∉ acked)
    if remaining = [] then ([], acked)
    else
      let window := windows attempt
      let replies := (streamMatcher gatewayId remaining).collects window
      let acked := replies.filterMap (·.sender3) ∪ acked
      if targets.length ≤ acked.length then ([⟨remaining, window⟩], acked)
      else
        let later := streamAttempts gatewayId targets windows (attempt + 1) left acked
        (⟨remaining, window⟩ :: later.1, later.2)

/-- What `send_stream` is asked for. -/
structure StreamRequest where
  payload : Bytes
  destination : Destination
  retries : Int
  expectedDevices : Option (List Device)

/-- What `send_stream` returns; the rest is for reasoning: the gateway, the targets, the
attempts, and what was transmitted. -/
structure StreamReport where
  expected : Nat
  acked : Nat
  gatewayId : String
  targets : List Bytes
  attempts : List Attempt
  frames : List Frame
deriving DecidableEq, Repr

/-- The devices a stream waits for: of a group those online, or all if none is. -/
def streamDevices (h : Host) (linkOnline : Device → Bool) (request : StreamRequest) : List Device :=
  match request.destination with
  | .device d => [d]
  | .group groupId =>
    let pool := request.expectedDevices.getD (h.devices.filter (·.groupId = groupId))
    if pool.filter linkOnline = [] then pool else pool.filter linkOnline

/-- `target_last3`. -/
def streamTargets (devices : List Device) : Except PyError (List Bytes) := do
  let last3 ← (devices.filter (·.addr ≠ "")).mapM fun d => macLast3FromHex d.addr
  return (keepFirst id [] last3).filter (· ≠ everyone)

def isUnicast : Destination → Bool
  | .group _ => false
  | .device _ => true

/-- The part of `send_stream` that knows the transport and the targets. -/
def streamOn (t : Transport) (targets : List Bytes) (windows : Nat → Window) (request : StreamRequest) :
    Except PyError StreamReport :=
  let nothing : StreamReport := ⟨targets.length, 0, t.identMac, targets, [], []⟩
  if targets = [] then .ok nothing
  else do
    let recv3 ← streamRecv3 request.destination
    if isUnicast request.destination ∧ recv3 = everyone then .ok nothing
    else if t.identMac = "" then .ok nothing
    else do
      let frame ← sendM2n .stream (some request.destination) recv3 request.payload t
      let out := streamAttempts t.identMac targets windows 0 (request.retries.toNat + 1) []
      return ⟨targets.length, out.2.length, t.identMac, targets, out.1, out.1.map fun _ => frame⟩

/-- `send_stream`; without any transport the result is empty. -/
def sendStream (h : Host) (linkOnline : Device → Bool) (windows : Nat → Window)
    (request : StreamRequest) : Except PyError (Option StreamReport) :=
  match transportForStream h request.destination with
  | none => .ok none
  | some t =>
    if 128 < request.payload.length then .error (.valueError "payload too large (max 128 bytes)" [])
    else do
      let targets ← streamTargets (streamDevices h linkOnline request)
      let report ← streamOn t targets windows request
      return some report

/-- An ACK of the stream, with any status. -/
def StreamAck (gatewayId : String) (sender : Bytes) (ev : ReplyEvent) : Prop :=
  ev.gatewayId = some gatewayId ∧ ev.sender3 = some sender ∧ ev.opc7 = OPC_ACK ∧ ev.ackOf = some OPC_STREAM

/-- One that says the stream was taken. -/
def StreamAckOk (gatewayId : String) (sender : Bytes) (ev : ReplyEvent) : Prop :=
  StreamAck gatewayId sender ev ∧ (ev.fields.lookup "ack_status").bind EvValue.toInt = some ACK_OK

instance (gatewayId : String) (sender : Bytes) (ev : ReplyEvent) : Decidable (StreamAck gatewayId sender ev) :=
  inferInstanceAs (Decidable (_ ∧ _))

instance (gatewayId : String) (sender : Bytes) (ev : ReplyEvent) :
    Decidable (StreamAckOk gatewayId sender ev) :=
  inferInstanceAs (Decidable (_ ∧ _))

/-- An event of a kind came from a target while a wait was open. -/
def Heard (kind : String → Bytes → ReplyEvent → Prop) (gatewayId : String) (attempts : List Attempt)
    (sender : Bytes) : Prop :=
  ∃ a ∈ attempts, ∃ ev ∈ a.window.arrived, kind gatewayId sender ev

instance (kind : String → Bytes → ReplyEvent → Prop) (gatewayId : String)
    [∀ sender ev, Decidable (kind gatewayId sender ev)] (attempts : List Attempt) (sender : Bytes) :
    Decidable (Heard kind gatewayId attempts sender) :=
  inferInstanceAs (Decidable (∃ a ∈ attempts, ∃ ev ∈ a.window.arrived, kind gatewayId sender ev))

theorem streamMatcher_accepts {gatewayId : String} {remaining : List Bytes} {ev : ReplyEvent} :
    (streamMatcher gatewayId remaining).accepts ev = true ↔
      ∃ sender ∈ remaining, StreamAck gatewayId sender ev := by
  have hof : ev.ackOf.getD (-1) = OPC_STREAM ↔ ev.ackOf = some OPC_STREAM := by
    cases ev.ackOf with
    | none => exact iff_of_false (by decide) nofun
    | some ackOf => exact ⟨fun h => congrArg some h, fun h => Option.some.inj h⟩
  have hgateway : (streamMatcher gatewayId remaining).acceptsGateway ev = true ↔
      ev.gatewayId = some gatewayId := beq_iff_eq
  have hsender : (streamMatcher gatewayId remaining).acceptsSender ev = true ↔
      ∃ sender ∈ remaining, ev.sender3 = some sender := by
    simp only [PendingMatcher.acceptsSender, streamMatcher, Option.any_eq_true, decide_eq_true_eq]
    exact exists_congr fun sender => and_comm
  have hopcode : (streamMatcher gatewayId remaining).acceptsOpcode ev = true ↔
      ev.opc7 = OPC_ACK ∧ ev.ackOf = some OPC_STREAM := by
    simp only [PendingMatcher.acceptsOpcode, streamMatcher, Bool.and_eq_true, beq_iff_eq, hof]
  have hfield : (streamMatcher gatewayId remaining).acceptsField ev = true := rfl
  rw [PendingMatcher.accepts, Bool.and_eq_true, Bool.and_eq_true, Bool.and_eq_true, hgateway, hsender,
    hopcode, and_iff_left hfield]
  constructor
  · rintro ⟨⟨hg, sender, hmem, hs⟩, ho⟩
    exact ⟨sender, hmem, hg, hs, ho⟩
  · rintro ⟨sender, hmem, hg, hs, ho⟩
    exact ⟨⟨hg, sender, hmem, hs⟩, ho⟩

/-- Whom an attempt adds to those who have acked. -/
theorem mem_streamMatcher_senders {gatewayId : String} {remaining : List Bytes} {w : Window}
    {sender : Bytes} :
    sender ∈ ((streamMatcher gatewayId remaining).collects w).filterMap (·.sender3) ↔
      sender ∈ remaining ∧ ∃ ev ∈ w.arrived, StreamAck gatewayId sender ev := by
  rw [List.mem_filterMap]
  constructor
  · rintro ⟨ev, hev, hsender⟩
    obtain ⟨harrived, haccepts⟩ := List.mem_filter.mp hev
    obtain ⟨sender', hmem, hack⟩ := streamMatcher_accepts.mp haccepts
    cases hsender.symm.trans hack.2.1
    exact ⟨hmem, ev, harrived, hack⟩
  · rintro ⟨hmem, ev, harrived, hack⟩
    exact ⟨ev, List.mem_filter.mpr ⟨harrived, streamMatcher_accepts.mpr ⟨sender, hmem, hack⟩⟩, hack.2.1⟩

section Attempts
variable (gatewayId : String) (targets : List Bytes) (windows : Nat → Window)

/-- What the loop over the attempts leaves. -/
structure AttemptsSpec (left : Nat) (acked : List Bytes) (out : List Attempt × List Bytes) : Prop where
  nodup : out.2.Nodup
  heard : ∀ sender, sender ∈ out.2 ↔
    sender ∈ acked ∨ sender ∈ targets ∧ Heard StreamAck gatewayId out.1 sender
  length : out.1.length ≤ left
  remaining : ∀ a ∈ out.1, ∀ sender ∈ a.remaining, sender ∈ targets ∧ sender ∉ acked
  shrinking : out.1.Pairwise fun earlier later => ∀ sender ∈ later.remaining,
    sender ∈ earlier.remaining ∧ ∀ ev ∈ earlier.window.arrived, ¬ StreamAck gatewayId sender ev

theorem streamAttempts_spec (attempt left : Nat) {acked : List Bytes} (hacked : acked.Nodup) :
    AttemptsSpec gatewayId targets left acked
      (streamAttempts gatewayId targets windows attempt left acked) := by
  induction left generalizing attempt acked with
  | zero =>
    refine ⟨hacked, fun sender => ⟨.inl, ?_⟩, Nat.le_refl 0, nofun, List.Pairwise.nil⟩
    rintro (h | ⟨-, a, ha, -⟩)
    · exact h
    · cases ha
  | succ left ih =>
    have hremaining : ∀ sender, sender ∈ targets.filter (· ∉ acked) ↔ sender ∈ targets ∧ sender ∉ acked := by
      intro sender
      rw [List.mem_filter, decide_eq_true_eq]
    show AttemptsSpec gatewayId targets (left + 1) acked (if targets.filter (· ∉ acked) = [] then ([], acked) else _)
    split
    · next hnone =>
      refine ⟨hacked, fun sender => ⟨.inl, ?_⟩, Nat.zero_le _, nofun, List.Pairwise.nil⟩
      rintro (h | ⟨-, a, ha, -⟩)
      · exact h
      · cases ha
    · have hadded : ∀ sender,
          sender ∈ ((streamMatcher gatewayId (targets.filter (· ∉ acked))).collects
            (windows attempt)).filterMap (·.sender3) ∪ acked ↔
          sender ∈ acked ∨ sender ∈ targets ∧ ∃ ev ∈ (windows attempt).arrived,
            StreamAck gatewayId sender ev := by
        intro sender
        rw [List.mem_union_iff, mem_streamMatcher_senders, hremaining]
        by_cases hmem : sender ∈ acked <;> simp [hmem]
      have hunion : (((streamMatcher gatewayId (targets.filter (· ∉ acked))).collects
          (windows attempt)).filterMap (·.sender3) ∪ acked).Nodup := hacked.union _
      split
      · refine ⟨hunion, fun sender => ?_, Nat.le_add_left .., fun a ha => ?_, List.pairwise_singleton ..⟩
        · rw [hadded, Heard]
          simp only [List.mem_singleton, exists_eq_left]
        · rw [List.mem_singleton.mp ha]
          exact fun sender hsender => (hremaining sender).mp hsender
      · have hlater := ih (attempt + 1) hunion
        refine ⟨hlater.nodup, fun sender => ?_, Nat.succ_le_succ hlater.length, fun a ha => ?_,
          List.pairwise_cons.mpr ⟨fun later hl sender hsender => ?_, hlater.shrinking⟩⟩
        · rw [hlater.heard, hadded, Heard, Heard]
          simp only [List.mem_cons, exists_eq_or_imp]
          rw [or_assoc, ← and_or_left]
        · intro sender hsender
          rcases List.mem_cons.mp ha with rfl | ha
          · exact (hremaining sender).mp hsender
          · obtain ⟨htarget, hnot⟩ := hlater.remaining a ha sender hsender
            exact ⟨htarget, fun hmem => hnot ((hadded sender).mpr (.inl hmem))⟩
        · obtain ⟨htarget, hnot⟩ := hlater.remaining later hl sender hsender
          rw [hadded] at hnot
          refine ⟨(hremaining sender).mpr ⟨htarget, fun hmem => hnot (.inl hmem)⟩, fun ev hev hack => ?_⟩
          exact hnot (.inr ⟨htarget, ev, hev, hack⟩)

end Attempts

/-! ### What is asked of a stream -/

/-- The report of a stream says what happened, and its attempts go as they should. -/
structure StreamReport.Accounts (r : StreamReport) (retries : Int) : Prop where
  /-- An attempt that ends by the count has heard so many senders. -/
  complete : ∀ a ∈ r.attempts, (streamMatcher r.gatewayId a.remaining).Completes a.window
  /-- The targets that took the stream are counted, each once. -/
  acked : r.acked = (r.targets.filter fun sender =>
    Heard StreamAckOk r.gatewayId r.attempts sender).length
  distinct : r.targets.Nodup
  bounded : r.acked ≤ r.expected
  transmissions : (r.frames.length : Int) ≤ max 0 retries + 1
  /-- A later attempt waits for those an earlier one waited for and has not heard. -/
  shrinking : r.attempts.Pairwise fun earlier later => ∀ sender ∈ later.remaining,
    sender ∈ earlier.remaining ∧ ∀ ev ∈ earlier.window.arrived, ¬ StreamAck r.gatewayId sender ev

/-- Few replies come twice while others are missing, and a target that acks at all says so. -/
structure StreamReport.Clean (r : StreamReport) : Prop where
  few : ∀ a ∈ r.attempts, (streamMatcher r.gatewayId a.remaining).FewRepeats a.window
  positive : ∀ sender ∈ r.targets, Heard StreamAck r.gatewayId r.attempts sender →
    Heard StreamAckOk r.gatewayId r.attempts sender

theorem Heard.of_ok {gatewayId : String} {attempts : List Attempt} {sender : Bytes}
    (h : Heard StreamAckOk gatewayId attempts sender) : Heard StreamAck gatewayId attempts sender := by
  obtain ⟨a, ha, ev, hev, hok⟩ := h
  exact ⟨a, ha, ev, hev, hok.1⟩

/-- What the loop says of the attempts, of a report. -/
theorem StreamReport.accounts_iff {r : StreamReport} {retries : Int} (hdistinct : r.targets.Nodup)
    (hexpected : r.expected = r.targets.length) (hframes : r.frames.length = r.attempts.length)
    {acked : List Bytes} (hacked : r.acked = acked.length)
    (hspec : AttemptsSpec r.gatewayId r.targets (retries.toNat + 1) [] (r.attempts, acked)) :
    r.Accounts retries ↔ r.Clean := by
  have hmem : ∀ sender, sender ∈ acked ↔
      sender ∈ r.targets.filter fun sender => Heard StreamAck r.gatewayId r.attempts sender := by
    intro sender
    rw [List.mem_filter, decide_eq_true_eq]
    exact (hspec.heard sender).trans (or_iff_right List.not_mem_nil)
  have hlength : r.acked =
      (r.targets.filter fun sender => Heard StreamAck r.gatewayId r.attempts sender).length := by
    rw [hacked]
    exact ((List.perm_ext_iff_of_nodup hspec.nodup (hdistinct.filter _)).mpr hmem).length_eq
  have hiff := length_filter_eq_iff r.targets
    fun sender (h : Heard StreamAckOk r.gatewayId r.attempts sender) => h.of_ok
  constructor
  · intro h
    exact ⟨fun a ha => (PendingMatcher.completes_iff _ _).mp (h.complete a ha),
      hiff.mp (hlength.symm.trans h.acked)⟩
  · intro h
    refine ⟨fun a ha => (PendingMatcher.completes_iff _ _).mpr (h.few a ha),
      hlength.trans (hiff.mpr h.positive), hdistinct, ?_, ?_, hspec.shrinking⟩
    · rw [hlength, hexpected]
      exact List.length_filter_le ..
    · have hattempts : r.attempts.length ≤ retries.toNat + 1 := hspec.length
      rw [hframes]
      omega

/-- A report of a stream that did not start. -/
theorem StreamReport.accounts_iff_of_nothing {targets : List Bytes} (hdistinct : targets.Nodup)
    (identMac : String) (retries : Int) :
    (⟨targets.length, 0, identMac, targets, [], []⟩ : StreamReport).Accounts retries ↔
      (⟨targets.length, 0, identMac, targets, [], []⟩ : StreamReport).Clean := by
  refine StreamReport.accounts_iff hdistinct rfl rfl (show 0 = ([] : List Bytes).length from rfl)
    ⟨List.nodup_nil, fun sender => iff_of_false List.not_mem_nil ?_, Nat.zero_le _, nofun,
      List.Pairwise.nil⟩
  rintro (h | ⟨-, a, ha, -⟩)
  · cases h
  · cases ha

theorem streamTargets_nodup {devices : List Device} {targets : List Bytes}
    (h : streamTargets devices = .ok targets) : targets.Nodup := by
  obtain ⟨last3, -, htargets⟩ := bind_ok.mp h
  cases htargets
  exact keepFirst_id_nodup.filter _

theorem streamOn_accounts_iff {t : Transport} {targets : List Bytes} (hdistinct : targets.Nodup)
    {windows : Nat → Window} {request : StreamRequest} {report : StreamReport}
    (h : streamOn t targets windows request = .ok report) :
    report.Accounts request.retries ↔ report.Clean := by
  have hnothing := StreamReport.accounts_iff_of_nothing hdistinct t.identMac request.retries
  unfold streamOn at h
  dsimp only at h
  split at h
  · cases h
    exact hnothing
  · obtain ⟨recv3, -, h⟩ := bind_ok.mp h
    split at h
    · cases h
      exact hnothing
    · split at h
      · cases h
        exact hnothing
      · obtain ⟨frame, -, h⟩ := bind_ok.mp h
        cases h
        exact StreamReport.accounts_iff hdistinct rfl (List.length_map _) rfl
          (streamAttempts_spec t.identMac targets windows 0 (request.retries.toNat + 1) List.nodup_nil)

theorem sendStream_accounts_iff {h : Host} {linkOnline : Device → Bool} {windows : Nat → Window}
    {request : StreamRequest} {report : StreamReport}
    (hsent : sendStream h linkOnline windows request = .ok (some report)) :
    report.Accounts request.retries ↔ report.Clean := by
  unfold sendStream at hsent
  split at hsent
  · cases hsent
  · obtain ⟨-, hsent⟩ := guard_ok.mp hsent
    obtain ⟨targets, htargets, hsent⟩ := bind_ok.mp hsent
    obtain ⟨report', hreport, hsent⟩ := bind_ok.mp hsent
    cases hsent
    exact streamOn_accounts_iff (streamTargets_nodup htargets) hreport

/-- **A status broadcast that ends by the count has heard so many senders, and the report of a
stream says what happened, exactly if few replies come twice while others are missing and
(for the stream) every target that acks at all says so with status OK.** -/
theorem collections_iff (h : Host) (linkOnline : Device → Bool) (windows : Nat → Window) :
    (∀ identMac expectedCount window, (statusMatcher identMac expectedCount).Completes window ↔
        (statusMatcher identMac expectedCount).FewRepeats window) ∧
      ∀ request report, sendStream h linkOnline windows request = .ok (some report) →
        (report.Accounts request.retries ↔ report.Clean) :=
  ⟨fun _ _ window => PendingMatcher.completes_iff _ window, fun _ _ hsent => sendStream_accounts_iff hsent⟩

/-- A group of two devices on one gateway. -/
def twoDevices : Host where
  networks := []
  groups := [⟨none⟩, ⟨none⟩]
  devices := [⟨"AABBCC000001", 1, none⟩, ⟨"AABBCC000002", 1, none⟩]
  transports := [⟨0, none, "AABBCCDDEEFF"⟩]

/-- An ACK of a stream from the device with this last byte. -/
def streamAckFrom (last : UInt8) (status : Int) : ReplyEvent :=
  ⟨some "AABBCCDDEEFF", some [0, 0, last], some OPC_ACK, some OPC_STREAM, [("ack_status", .int status)]⟩

def twoRequest : StreamRequest := ⟨[1, 2, 3], .group 1, 0, none⟩

/-- The stream to both devices if these events arrive. -/
def twoStream (seen : List ReplyEvent) : Except PyError (Option StreamReport) :=
  sendStream twoDevices (fun _ => true) (fun _ => ⟨seen, [], false⟩) twoRequest

/-- Its report, with so many counted. -/
def twoReport (acked : Nat) (seen : List ReplyEvent) : StreamReport where
  expected := 2
  acked := acked
  gatewayId := "AABBCCDDEEFF"
  targets := [[0, 0, 1], [0, 0, 2]]
  attempts := [⟨[[0, 0, 1], [0, 0, 2]], ⟨seen, [], false⟩⟩]
  frames := [⟨⟨0, none, "AABBCCDDEEFF"⟩, .stream, some (.group 1), everyone, [1, 2, 3]⟩]

/-- A device that answers twice ends the wait for both, and one that refuses is counted. -/
theorem stream_miscounts :
    (twoStream [streamAckFrom 1 0, streamAckFrom 1 0]).toOption =
        some (some (twoReport 1 [streamAckFrom 1 0, streamAckFrom 1 0])) ∧
      ¬ (twoReport 1 [streamAckFrom 1 0, streamAckFrom 1 0]).Accounts 0 ∧
      (twoStream [streamAckFrom 1 5]).toOption = some (some (twoReport 1 [streamAckFrom 1 5])) ∧
      ¬ (twoReport 1 [streamAckFrom 1 5]).Accounts 0 := by
  refine ⟨by decide +kernel, fun h => ?_, by decide +kernel, fun h => ?_⟩
  · exact absurd (h.complete _ (List.mem_singleton_self _) rfl) (by decide)
  · exact absurd h.acked (by decide)

/-- With one positive answer from each, the report is right. -/
theorem stream_counts : (twoReport 2 [streamAckFrom 1 0, streamAckFrom 2 0]).Accounts 0 := by
  have hsent : twoStream [streamAckFrom 1 0, streamAckFrom 2 0] =
      .ok (some (twoReport 2 [streamAckFrom 1 0, streamAckFrom 2 0])) :=
    toOption_eq_some.mp (by decide +kernel)
  refine ((collections_iff _ _ _).2 twoRequest _ hsent).mpr ⟨fun a ha hmissing => ?_, by decide⟩
  rw [List.mem_singleton.mp ha] at hmissing
  exact absurd hmissing (by decide)

end RaceLink.Pending
