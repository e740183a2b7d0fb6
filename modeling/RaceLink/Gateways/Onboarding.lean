import Mathlib.Data.List.Sort
import RaceLink.Gateways.Stranded

/-! Case B of the onboarding (`services/onboarding_service.py`): devices on old settings
are moved to new ones by the one gateway there is.

The gateway goes to the old settings, looks who is there, pushes the new settings to
them, follows, and looks again. A selection of devices is resolved before anything is
known of who is there; if nothing is left of it, it counts as none. -/
namespace RaceLink.Gateways
open Python Library Domain Routing Fleet

/-! ### What is asked of the outside -/

/-- What the gateway and the devices answer: the gateway's refusals of the two switches (none,
if it takes the settings), who is heard on the old settings and the state that hearing them
leaves, what happens on air to each push, and who is heard on the new settings. -/
structure CaseBAnswers where
  oldRefusal : Option String := none
  discovered : List String := []
  found : State
  air : String → Exchange
  newRefusal : Option String := none
  responders : List String := []

/-! ### The result -/

/-- A switch of the gateway's settings. -/
structure RfSwitch where
  rf : Dict
  persist : Bool
deriving DecidableEq, Repr

structure CaseBSummary where
  requested : Nat
  discovered : Nat := 0
  pushedOk : Nat := 0
  pushedFail : Nat := 0
deriving DecidableEq, Repr

/-- The dict that `case_b_migrate` answers with. -/
structure CaseBResult where
  ok : Bool := false
  stage : String
  error : Option (String × List Json) := none
  perDevice : List DeviceEntry := []
  stranded : List String := []
  summary : CaseBSummary
deriving DecidableEq, Repr

/-- A run: its result, the switches and the frames it handed over, and the state it leaves. -/
structure CaseBRun where
  result : CaseBResult
  switches : List RfSwitch
  frames : List RfFrame := []
  state : State

/-! ### The phases -/

/-- `sorted` of a set of MACs. -/
def sortMacs (macs : List String) : List String := (keepFirst id [] macs).insertionSort (· ≤ ·)

/-- The MACs of the repository. -/
def repoMacs (s : State) : List String := (s.devices.map fun d => upper d.addr).filter (· ≠ "")

/-- `_resolve_targets`, of a selection (none is the empty one). -/
def resolveTargets (s : State) (selection : List String) : List String :=
  if selection = [] then sortMacs (repoMacs s)
  else keepFirst id [] ((selection.map fun m => upper (strip m)).filter fun m =>
    m.length = 12 ∧ m ∈ repoMacs s)

/-- The refusal of a switch of the first gateway. -/
def switchRefusal (s : State) (refusal : Option String) : Option String :=
  match s.transports.head? with
  | none => some "transport unavailable"
  | some t => gatewayRefusal t refusal

/-- The MACs to push to: the targets that were heard, and all that were heard if there are none. -/
def caseBPushSet (targets discovered : List String) : List String :=
  sortMacs (if targets = [] then discovered else targets.filter (· ∈ discovered))

/-- The push to a device over its transport, and its entry. -/
def pushOnboarding (rf : Dict) (air : String → Exchange) (s : State) (mac : String) :
    DeviceEntry × List RfFrame × State :=
  let (outcome, frames, s) := pushRf s mac rf none (air mac)
  (⟨mac, if outcome.ok then .pushed else .pushFailed outcome.ackStatus outcome.error⟩, frames, s)

/-- Who is heard on the new settings. -/
def seenOnNew (responders : List String) : List String := (responders.map upper).filter (· ≠ "")

/-- A device that took the settings and is not heard, nor listed yet, is listed. -/
def isLost (seen already : List String) (e : DeviceEntry) : Bool :=
  e.status == .pushed && decide (e.mac ∉ seen) && decide (e.mac ∉ already)

/-- `case_b_migrate`. -/
def caseBMigrate (s : State) (oldRfConfig newRfConfig : Dict) (selection : List String)
    (answers : CaseBAnswers) : CaseBRun :=
  let targets := resolveTargets s selection
  let requested := targets.length
  let toOld : RfSwitch := {rf := oldRfConfig, persist := false}
  match switchRefusal s answers.oldRefusal with
  | some reason =>
    { result := {stage := "gw-volatile-old-failed", summary := {requested},
                 error := some ("gateway volatile-switch to old settings failed: %s", [.str reason])}
      switches := [toOld], state := s }
  | none =>
    let discovered := seenAfter answers.discovered
    let pushSet := caseBPushSet targets discovered
    let (entries, frames, told) := pushEach (pushOnboarding newRfConfig answers.air) pushSet answers.found
    let pushedOk := (macsOf .pushed entries).length
    let summary : CaseBSummary :=
      {requested, discovered := (keepFirst id [] discovered).length, pushedOk,
       pushedFail := entries.length - pushedOk}
    let missing := targets.filter (· ∉ discovered)
    let switches := [toOld, {rf := newRfConfig, persist := true}]
    match switchRefusal told answers.newRefusal with
    | some reason =>
      { result := {stage := "gw-persist-new-failed", perDevice := entries, stranded := missing, summary,
                   error := some ("gateway persist-switch to new settings failed: %s", [.str reason])}
        switches, frames, state := told }
    | none =>
      let lost := isLost (seenOnNew answers.responders) missing
      let stranded := missing ++ (entries.filter lost).map (·.mac)
      { result := {ok := summary.pushedFail == 0 && stranded.isEmpty, stage := "done",
                   perDevice := entries.map fun e => if lost e then {e with status := .stranded} else e,
                   stranded, summary}
        switches, frames, state := told }

/-! ### What a run is for -/

/-- The device takes the settings that are pushed to it. -/
def takes (found : State) (air : String → Exchange) (mac : String) : Bool :=
  accepts (found.pushRoute (upper (strip mac)) none) air mac

/-- A frame is written for the device. -/
def written (found : State) (air : String → Exchange) (mac : String) : Bool :=
  (reached (found.pushRoute (upper (strip mac)) none) (upper (strip mac))).isSome && (air mac).sent != 0

/-- The gateway has made both switches. -/
def BothSwitched (s : State) (answers : CaseBAnswers) : Prop :=
  switchRefusal s answers.oldRefusal = none ∧ switchRefusal answers.found answers.newRefusal = none

/-- The devices that a run pushes to. -/
def pushedTo (s : State) (selection : List String) (answers : CaseBAnswers) : List String :=
  match switchRefusal s answers.oldRefusal with
  | some _ => []
  | none => caseBPushSet (resolveTargets s selection) (seenAfter answers.discovered)

/-- The final discovery sees the device on the new settings. -/
def SeenOnNew (s : State) (answers : CaseBAnswers) (mac : String) : Prop :=
  BothSwitched s answers ∧ mac ∈ seenOnNew answers.responders

/-- **What case B leaves**: only devices of the selection are told, and all that are not seen on
the new settings are listed. -/
structure CaseBRight (s : State) (selection : List String) (answers : CaseBAnswers) (run : CaseBRun) : Prop where
  named : selection ≠ [] → ∀ frame ∈ run.frames,
    frame.mac ∈ seenAfter answers.discovered ∧ ∃ raw ∈ selection, upper (strip raw) = frame.mac
  listed : ∀ mac, mac ∈ resolveTargets s selection ∨ mac ∈ pushedTo s selection answers →
    ¬ SeenOnNew s answers mac → run.result.stranded.count mac = 1
  seen : ∀ mac, SeenOnNew s answers mac → mac ∉ run.result.stranded
  okay : run.result.ok = true ↔ BothSwitched s answers ∧
    (∀ mac ∈ pushedTo s selection answers, takes answers.found answers.air mac = true) ∧
    run.result.stranded = []

/-- The answers with which case B does what it is for. -/
structure CaseBSafe (s : State) (selection : List String) (answers : CaseBAnswers) : Prop where
  /-- The gateway goes to the old settings, or nobody is requested. -/
  starts : switchRefusal s answers.oldRefusal ≠ none → resolveTargets s selection = []
  /-- If nothing is left of a selection, no frame gets to a device that it does not name. -/
  named : switchRefusal s answers.oldRefusal = none → selection ≠ [] → resolveTargets s selection = [] →
    ∀ mac ∈ seenAfter answers.discovered, written answers.found answers.air mac = true →
      ∃ raw ∈ selection, upper (strip raw) = mac
  /-- The gateway goes to the new settings, or nobody was pushed to. -/
  follows : switchRefusal answers.found answers.newRefusal ≠ none → pushedTo s selection answers = []
  /-- Nobody is seen on the new settings that was not heard on the old ones. -/
  heard : BothSwitched s answers → ∀ mac ∈ resolveTargets s selection,
    mac ∉ seenAfter answers.discovered → mac ∉ seenOnNew answers.responders
  /-- Who does not take the settings is seen on them. -/
  taken : BothSwitched s answers → ∀ mac ∈ pushedTo s selection answers,
    takes answers.found answers.air mac = true ∨ mac ∈ seenOnNew answers.responders

/-! ### The MACs -/

section Macs
variable {s : State} {selection discovered : List String} {mac : String}

theorem mem_sortMacs {macs : List String} : mac ∈ sortMacs macs ↔ mac ∈ macs := by
  rw [sortMacs, List.mem_insertionSort, mem_keepFirst_id]

theorem sortMacs_nodup (macs : List String) : (sortMacs macs).Nodup :=
  (List.perm_insertionSort _ _).nodup_iff.mpr keepFirst_id_nodup

theorem resolveTargets_nodup (s : State) (selection : List String) : (resolveTargets s selection).Nodup := by
  unfold resolveTargets
  split
  · exact sortMacs_nodup _
  · exact keepFirst_id_nodup

/-- A selection names what is resolved of it. -/
theorem mem_resolveTargets (hselection : selection ≠ []) (h : mac ∈ resolveTargets s selection) :
    ∃ raw ∈ selection, upper (strip raw) = mac := by
  rw [resolveTargets, if_neg hselection, mem_keepFirst_id] at h
  exact List.mem_map.mp (List.mem_filter.mp h).1

theorem mem_caseBPushSet {targets : List String} : mac ∈ caseBPushSet targets discovered ↔
    mac ∈ discovered ∧ (targets = [] ∨ mac ∈ targets) := by
  rw [caseBPushSet, mem_sortMacs]
  by_cases h : targets = []
  · simp [h]
  · simp [h, and_comm]

end Macs

/-! ### The pushes -/

section Pushes
variable {F : DeviceRecord → DeviceRecord} {found t : State} {mac : String} {frame : RfFrame}

/-- Routes do not depend on who is online. -/
theorem pushRoute_kept (h : Mapped F found t) (hnetwork : ∀ d, (F d).networkId = d.networkId) (macStr : String) :
    t.pushRoute macStr none = found.pushRoute macStr none := by
  have hdevice : t.transportForDevice macStr = found.transportForDevice macStr := by
    rw [h.transportForDevice, transportForDevice_eq]
    cases deviceAt found macStr with
    | none => rfl
    | some d => rw [Option.bind_some, Option.bind_some, hnetwork]
  rw [State.pushRoute, State.pushRoute, hdevice, h.transports]

/-- **The pushes of case B**: an entry for each MAC, and frames for those that are reached. -/
theorem onboarding_pushes (rf : Dict) (air : String → Exchange) (macs : List String) (h : Mapped F found t)
    (hnetwork : ∀ d, (F d).networkId = d.networkId) :
    List.Forall₂ (Pushed (takes found air)) macs (pushEach (pushOnboarding rf air) macs t).1 ∧
      (∀ mac, (∃ frame ∈ (pushEach (pushOnboarding rf air) macs t).2.1, frame.mac = mac) ↔
        ∃ m ∈ macs, written found air m = true ∧ upper (strip m) = mac) ∧
      (pushEach (pushOnboarding rf air) macs t).2.2.transports = found.transports := by
  induction macs generalizing t F with
  | nil => exact ⟨.nil, by simp [pushEach], h.transports⟩
  | cons m rest ih =>
    have hroute := pushRoute_kept h hnetwork (upper (strip m))
    obtain ⟨hok, hframes⟩ := pushRf_outcome t m rf none (air m)
    rw [hroute] at hok hframes
    have hstate : ∃ G, Mapped G found (pushRf t m rf none (air m)).2.2 ∧ ∀ d, (G d).networkId = d.networkId := by
      rcases pushRf_cases t m rf none (air m) with hsame | ⟨recv3, honline⟩
      · exact ⟨F, by rw [hsame]; exact h, hnetwork⟩
      · rw [honline]
        refine ⟨_, h.changeDevice (hexUpper recv3) (f := markOnline) fun _ => rfl, fun d => ?_⟩
        rw [Function.comp_apply, atAddress]
        split
        · exact hnetwork d
        · exact hnetwork d
    have hstep : Pushed (takes found air) m (pushOnboarding rf air t m).1 ∧
        (∀ mac, (∃ frame ∈ (pushOnboarding rf air t m).2.1, frame.mac = mac) ↔
          written found air m = true ∧ upper (strip m) = mac) ∧
        (pushOnboarding rf air t m).2.2 = (pushRf t m rf none (air m)).2.2 := by
      rw [pushOnboarding]
      revert hok hframes
      generalize pushRf t m rf none (air m) = pushed
      intro hok hframes
      refine ⟨pushed_of_ok (by rw [hok, takes, accepts, Bool.and_eq_true, beq_iff_eq]), fun mac => ?_, rfl⟩
      simp only [hframes, written, Bool.and_eq_true, bne_iff_ne]
      constructor
      · rintro ⟨frame, ⟨u, recv3, hreached, hsent, rfl⟩, rfl⟩
        exact ⟨⟨by rw [hreached]; rfl, hsent⟩, rfl⟩
      · rintro ⟨⟨hreached, hsent⟩, rfl⟩
        obtain ⟨⟨u, recv3⟩, hreached⟩ := Option.isSome_iff_exists.mp hreached
        exact ⟨_, ⟨u, recv3, hreached, hsent, rfl⟩, rfl⟩
    obtain ⟨hentry, hwritten, hafter⟩ := hstep
    obtain ⟨G, hG, hGnetwork⟩ := hstate
    rw [← hafter] at hG
    obtain ⟨hentries, hlater, htransports⟩ := ih hG hGnetwork
    rw [pushEach_cons]
    refine ⟨.cons hentry hentries, fun mac => ?_, htransports⟩
    simp only [List.mem_append, or_and_right, exists_or, hwritten, hlater, List.mem_cons]
    simp

/-- The entries that are listed after the final discovery. -/
theorem lost_macs {takes : String → Bool} {macs : List String} {entries : List DeviceEntry}
    (seen already : List String) (h : List.Forall₂ (Pushed takes) macs entries) :
    (entries.filter (isLost seen already)).map (·.mac) =
      macs.filter fun mac => takes mac && decide (mac ∉ seen) && decide (mac ∉ already) := by
  induction h with
  | nil => rfl
  | @cons mac e rest later hone _ ih =>
    have hlost : isLost seen already e = (takes mac && decide (mac ∉ seen) && decide (mac ∉ already)) := by
      obtain ⟨hmac, ⟨hstatus, htakes⟩ | ⟨⟨ackStatus, error, hstatus⟩, htakes⟩⟩ := hone
      · rw [isLost, hstatus, htakes, hmac]
        rfl
      · rw [isLost, hstatus, htakes]
        rfl
    rw [List.filter_cons, List.filter_cons, hlost]
    split
    · rw [List.map_cons, ih, hone.1]
    · exact ih

end Pushes

/-! ### Who is listed -/

section Listed
variable {targets discovered seen : List String} {takes : String → Bool} {mac : String}

/-- The list of stranded devices at the end of a run. -/
def strandedMacs (targets discovered seen : List String) (takes : String → Bool) : List String :=
  targets.filter (· ∉ discovered) ++ (caseBPushSet targets discovered).filter fun mac =>
    takes mac && decide (mac ∉ seen) && decide (mac ∉ targets.filter (· ∉ discovered))

theorem mem_strandedMacs : mac ∈ strandedMacs targets discovered seen takes ↔
    mac ∈ targets ∧ mac ∉ discovered ∨
      mac ∈ caseBPushSet targets discovered ∧ takes mac = true ∧ mac ∉ seen := by
  have hdiscovered : mac ∈ caseBPushSet targets discovered → mac ∈ discovered := fun h => (mem_caseBPushSet.mp h).1
  simp only [strandedMacs, List.mem_append, List.mem_filter, Bool.and_eq_true, decide_eq_true_eq]
  tauto

theorem strandedMacs_nodup (h : targets.Nodup) : (strandedMacs targets discovered seen takes).Nodup := by
  refine List.nodup_append.mpr ⟨h.filter _, (sortMacs_nodup _).filter _, fun a ha b hb hab => ?_⟩
  subst hab
  have hpushed := (mem_caseBPushSet.mp (List.mem_filter.mp hb).1).1
  exact of_decide_eq_true (List.mem_filter.mp ha).2 hpushed

/-- A device that is listed is listed once. -/
theorem count_eq_one {macs : List String} (h : macs.Nodup) : macs.count mac = 1 ↔ mac ∈ macs :=
  ⟨fun hcount => List.count_pos_iff.mp (by omega), List.count_eq_one_of_mem h⟩

end Listed

/-! ### The run -/

/-- What is seen of a run that gets to the pushes. -/
structure CaseBPushes (s : State) (selection : List String) (answers : CaseBAnswers) (run : CaseBRun) : Prop where
  frames : ∀ mac, (∃ frame ∈ run.frames, frame.mac = mac) ↔
    ∃ m ∈ pushedTo s selection answers, written answers.found answers.air m = true ∧ upper (strip m) = mac
  stopped : switchRefusal answers.found answers.newRefusal ≠ none →
    run.result.stranded = (resolveTargets s selection).filter (· ∉ seenAfter answers.discovered) ∧ run.result.ok = false
  through : switchRefusal answers.found answers.newRefusal = none →
    run.result.stranded = strandedMacs (resolveTargets s selection) (seenAfter answers.discovered)
      (seenOnNew answers.responders) (takes answers.found answers.air) ∧
    (run.result.ok = true ↔ (∀ mac ∈ pushedTo s selection answers, takes answers.found answers.air mac = true) ∧
      run.result.stranded = [])

section CaseB
variable {s : State} {selection : List String} {answers : CaseBAnswers}

theorem mem_pushedTo (hold : switchRefusal s answers.oldRefusal = none) {mac : String} :
    mac ∈ pushedTo s selection answers ↔ mac ∈ seenAfter answers.discovered ∧
      (resolveTargets s selection = [] ∨ mac ∈ resolveTargets s selection) := by
  rw [pushedTo, hold]
  exact mem_caseBPushSet

theorem caseBMigrate_pushes (hold : switchRefusal s answers.oldRefusal = none) (oldRfConfig newRfConfig : Dict) :
    CaseBPushes s selection answers (caseBMigrate s oldRfConfig newRfConfig selection answers) := by
  have hpushed : pushedTo s selection answers =
      caseBPushSet (resolveTargets s selection) (seenAfter answers.discovered) := by
    rw [pushedTo, hold]
  obtain ⟨hentries, hframes, htransports⟩ := onboarding_pushes newRfConfig answers.air
    (pushedTo s selection answers) (mapped_refl answers.found) fun _ => rfl
  unfold caseBMigrate
  dsimp only
  rw [hold, ← hpushed]
  revert hentries hframes htransports
  generalize pushEach (pushOnboarding newRfConfig answers.air) (pushedTo s selection answers) answers.found = run
  obtain ⟨entries, frames, told⟩ := run
  intro hentries hframes htransports
  dsimp only at hentries hframes htransports ⊢
  have hswitch : switchRefusal told answers.newRefusal = switchRefusal answers.found answers.newRefusal := by
    rw [switchRefusal, switchRefusal, htransports]
  rw [hswitch]
  cases hnew : switchRefusal answers.found answers.newRefusal with
  | some reason =>
    exact ⟨hframes, fun _ => ⟨rfl, rfl⟩, fun h => by rw [hnew] at h; cases h⟩
  | none =>
    obtain ⟨hmacs, hok⟩ := pushed_macs hentries
    have hstranded : (resolveTargets s selection).filter (· ∉ seenAfter answers.discovered) ++
        (entries.filter (isLost (seenOnNew answers.responders)
          ((resolveTargets s selection).filter (· ∉ seenAfter answers.discovered)))).map (·.mac) =
        strandedMacs (resolveTargets s selection) (seenAfter answers.discovered)
          (seenOnNew answers.responders) (takes answers.found answers.air) := by
      rw [lost_macs _ _ hentries, hpushed]
      rfl
    have hcount : entries.length - (macsOf .pushed entries).length = 0 ↔
        ∀ mac ∈ pushedTo s selection answers, takes answers.found answers.air mac = true := by
      have hlength : entries.length = (pushedTo s selection answers).length := by
        rw [← hmacs, List.length_map]
      rw [hok, hlength, Nat.sub_eq_zero_iff_le, (List.length_filter_le _ _).ge_iff_eq,
        List.length_filter_eq_length_iff]
    refine ⟨hframes, fun h => absurd hnew h, fun _ => ⟨hstranded, ?_⟩⟩
    rw [← hcount]
    simp

/-- Frames stray only when nothing is left of the selection. -/
theorem CaseBPushes.named_iff {run : CaseBRun} (h : CaseBPushes s selection answers run)
    (hold : switchRefusal s answers.oldRefusal = none) :
    (selection ≠ [] → ∀ frame ∈ run.frames,
        frame.mac ∈ seenAfter answers.discovered ∧ ∃ raw ∈ selection, upper (strip raw) = frame.mac) ↔
      (selection ≠ [] → resolveTargets s selection = [] → ∀ mac ∈ seenAfter answers.discovered,
        written answers.found answers.air mac = true → ∃ raw ∈ selection, upper (strip raw) = mac) := by
  refine imp_congr_right fun hselection => ⟨fun hnamed hnone mac hmac hwritten => ?_, fun hnamed frame hframe => ?_⟩
  · obtain ⟨frame, hframe, rfl⟩ := (h.frames mac).mpr
      ⟨mac, (mem_pushedTo hold).mpr ⟨hmac, .inl hnone⟩, hwritten, (mem_seenAfter hmac).1⟩
    exact (hnamed frame hframe).2
  · obtain ⟨m, hm, hwritten, hmac⟩ := (h.frames frame.mac).mp ⟨frame, hframe, rfl⟩
    obtain ⟨hheard, htarget⟩ := (mem_pushedTo hold).mp hm
    rw [(mem_seenAfter hheard).1] at hmac
    subst hmac
    refine ⟨hheard, ?_⟩
    by_cases hnone : resolveTargets s selection = []
    · exact hnamed hnone _ hheard hwritten
    · exact mem_resolveTargets hselection (htarget.resolve_left hnone)

/-- A run that cannot start is right if nobody was requested. -/
theorem caseB_refused {reason : String} (hold : switchRefusal s answers.oldRefusal = some reason)
    (oldRfConfig newRfConfig : Dict) :
    CaseBRight s selection answers (caseBMigrate s oldRfConfig newRfConfig selection answers) ↔
      CaseBSafe s selection answers := by
  have hboth : ¬ BothSwitched s answers := fun h => by cases hold.symm.trans h.1
  have hnobody : pushedTo s selection answers = [] := by rw [pushedTo, hold]
  unfold caseBMigrate
  dsimp only
  rw [hold]
  constructor
  · intro h
    refine ⟨fun _ => ?_, fun h => ?_, fun _ => hnobody, fun h => absurd h hboth, fun h => absurd h hboth⟩
    · refine List.eq_nil_iff_forall_not_mem.mpr fun mac hmac => ?_
      have hcount := h.listed mac (.inl hmac) fun hseen => hboth hseen.1
      cases hcount
    · rw [hold] at h
      cases h
  · intro h
    refine ⟨fun _ => nofun, fun mac hmac => ?_, fun mac hseen => absurd hseen.1 hboth, ?_⟩
    · rw [h.starts (by rw [hold]; nofun), hnobody] at hmac
      cases hmac with
      | inl hmac => cases hmac
      | inr hmac => cases hmac
    · exact iff_of_false nofun fun hok => hboth hok.1

/-- A run that stops before the second switch is right if nobody was pushed to. -/
theorem caseB_stopped {run : CaseBRun} (h : CaseBPushes s selection answers run)
    (hold : switchRefusal s answers.oldRefusal = none) (hnew : switchRefusal answers.found answers.newRefusal ≠ none) :
    CaseBRight s selection answers run ↔ CaseBSafe s selection answers := by
  have hboth : ¬ BothSwitched s answers := fun h => hnew h.2
  have hmissing := ((resolveTargets_nodup s selection).filter (· ∉ seenAfter answers.discovered))
  obtain ⟨hstranded, hok⟩ := h.stopped hnew
  constructor
  · intro hright
    refine ⟨fun hstop => absurd hold hstop, fun _ => (h.named_iff hold).mp hright.named, fun _ => ?_,
      fun h => absurd h hboth, fun h => absurd h hboth⟩
    refine List.eq_nil_iff_forall_not_mem.mpr fun mac hmac => ?_
    have hlisted := hright.listed mac (.inr hmac) fun hseen => hboth hseen.1
    rw [hstranded] at hlisted
    have hunheard := (List.mem_filter.mp ((count_eq_one hmissing).mp hlisted)).2
    exact of_decide_eq_true hunheard ((mem_pushedTo hold).mp hmac).1
  · intro hsafe
    have hnobody := hsafe.follows hnew
    refine ⟨(h.named_iff hold).mpr (hsafe.named hold), fun mac hmac _ => ?_, fun mac hseen => absurd hseen.1 hboth,
      iff_of_false (by rw [hok]; nofun) fun hok => hboth hok.1⟩
    rw [hnobody] at hmac
    have htarget := hmac.resolve_right List.not_mem_nil
    rw [hstranded]
    refine (count_eq_one hmissing).mpr (List.mem_filter.mpr ⟨htarget, decide_eq_true fun hheard => ?_⟩)
    have hpush : mac ∈ pushedTo s selection answers := (mem_pushedTo hold).mpr ⟨hheard, .inr htarget⟩
    rw [hnobody] at hpush
    cases hpush

/-- A run to the end is right if the final discovery bears out what the run knows. -/
theorem caseB_through {run : CaseBRun} (h : CaseBPushes s selection answers run) (hboth : BothSwitched s answers) :
    CaseBRight s selection answers run ↔ CaseBSafe s selection answers := by
  obtain ⟨hold, hnew⟩ := hboth
  obtain ⟨hstranded, hok⟩ := h.through hnew
  have hmem : ∀ mac, mac ∈ run.result.stranded ↔
      mac ∈ resolveTargets s selection ∧ mac ∉ seenAfter answers.discovered ∨
        mac ∈ pushedTo s selection answers ∧ takes answers.found answers.air mac = true ∧
          mac ∉ seenOnNew answers.responders := by
    intro mac
    rw [hstranded, mem_strandedMacs, mem_pushedTo hold, mem_caseBPushSet]
  have honce : run.result.stranded.Nodup := by
    rw [hstranded]
    exact strandedMacs_nodup (resolveTargets_nodup s selection)
  constructor
  · intro hright
    refine ⟨fun hstop => absurd hold hstop, fun _ => (h.named_iff hold).mp hright.named, fun hstop => absurd hnew hstop,
      fun _ mac hmac hmissing hseen => ?_, fun _ mac hmac => ?_⟩
    · exact hright.seen mac ⟨⟨hold, hnew⟩, hseen⟩ ((hmem mac).mpr (.inl ⟨hmac, hmissing⟩))
    · by_cases hseen : mac ∈ seenOnNew answers.responders
      · exact .inr hseen
      · have hlisted := hright.listed mac (.inr hmac) fun hsaw => hseen hsaw.2
        obtain ⟨_, hmissing⟩ | ⟨_, htakes, _⟩ := (hmem mac).mp ((count_eq_one honce).mp hlisted)
        · exact absurd ((mem_pushedTo hold).mp hmac).1 hmissing
        · exact .inl htakes
  · intro hsafe
    refine ⟨(h.named_iff hold).mpr (hsafe.named hold), fun mac hmac hunseen => ?_, fun mac hsaw hlisted => ?_, ?_⟩
    · refine (count_eq_one honce).mpr ((hmem mac).mpr ?_)
      by_cases hheard : mac ∈ seenAfter answers.discovered
      · have hunseen' : mac ∉ seenOnNew answers.responders := fun hseen => hunseen ⟨⟨hold, hnew⟩, hseen⟩
        have hpush : mac ∈ pushedTo s selection answers :=
          hmac.elim (fun htarget => (mem_pushedTo hold).mpr ⟨hheard, .inr htarget⟩) fun hpush => hpush
        exact .inr ⟨hpush, (hsafe.taken ⟨hold, hnew⟩ mac hpush).resolve_right hunseen', hunseen'⟩
      · exact .inl ⟨hmac.resolve_right fun hpush => hheard ((mem_pushedTo hold).mp hpush).1, hheard⟩
    · obtain ⟨htarget, hmissing⟩ | ⟨_, _, hunseen⟩ := (hmem mac).mp hlisted
      · exact hsafe.heard ⟨hold, hnew⟩ mac htarget hmissing hsaw.2
      · exact hunseen hsaw.2
    · rw [hok]
      exact ⟨fun h => ⟨⟨hold, hnew⟩, h⟩, fun h => h.2⟩

end CaseB

/-- **Case B does what it is for exactly with safe answers.** -/
theorem caseB_right_iff (s : State) (oldRfConfig newRfConfig : Dict) (selection : List String)
    (answers : CaseBAnswers) :
    CaseBRight s selection answers (caseBMigrate s oldRfConfig newRfConfig selection answers) ↔
      CaseBSafe s selection answers := by
  cases hold : switchRefusal s answers.oldRefusal with
  | some reason => exact caseB_refused hold oldRfConfig newRfConfig
  | none =>
    have hpushes := @caseBMigrate_pushes s selection answers hold oldRfConfig newRfConfig
    by_cases hnew : switchRefusal answers.found answers.newRefusal = none
    · exact caseB_through hpushes ⟨hold, hnew⟩
    · exact caseB_stopped hpushes hold hnew

/-! ### Two runs -/

/-- One device is heard on the old settings, and none on the new ones. -/
def heardOnce (reply : PushReply) : CaseBAnswers where
  discovered := ["AABBCC445566"]
  found := oneNetwork
  air _ := {reply}

/-- A selection of a device that is not known is pushed to the one that is heard, and a device
that refuses the push and is not seen again is not listed. -/
theorem caseB_strays :
    (¬ ∀ s oldRfConfig newRfConfig selection answers, selection ≠ [] →
      ∀ frame ∈ (caseBMigrate s oldRfConfig newRfConfig selection answers).frames,
        ∃ raw ∈ selection, upper (strip raw) = frame.mac) ∧
    ¬ ∀ s oldRfConfig newRfConfig selection answers, ∀ mac ∈ pushedTo s selection answers,
      ¬ SeenOnNew s answers mac →
        (caseBMigrate s oldRfConfig newRfConfig selection answers).result.stranded.count mac = 1 := by
  constructor
  · intro hclaim
    exact absurd (hclaim oneNetwork ((channelRfConfig "EU868" 1).getD []) channelTwo.target ["AABBCC778899"]
      (heardOnce (.acked 0)) (by decide)) (by decide +kernel)
  · intro hclaim
    have hunseen : ¬ SeenOnNew oneNetwork (heardOnce (.acked 2)) "AABBCC445566" := fun h =>
      absurd h.2 (by decide +kernel)
    exact absurd (hclaim oneNetwork ((channelRfConfig "EU868" 1).getD []) channelTwo.target []
      (heardOnce (.acked 2)) "AABBCC445566" (by decide +kernel) hunseen) (by decide +kernel)

end RaceLink.Gateways
