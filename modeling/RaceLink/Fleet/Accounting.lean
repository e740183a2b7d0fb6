import RaceLink.Fleet.Moving
import RaceLink.Fleet.Pushes

/-! The accounts of a move of devices, and whom it touches.

The answer has one entry for each MAC of the request, and its lists and counters agree
with the entries whatever happens. The frames keep to the old networks, and the devices
that were not asked for keep their records, as long as every device that is told has a
transport of its own and is the only one heard for it. -/
namespace RaceLink.Fleet
open Python Library Domain Routing Gateways

/-! ### Entries -/

def MoveStatus.isFailed : MoveStatus → Bool
  | .pushFailed _ _ => true
  | _ => false

/-- The device was told. -/
def MoveStatus.isTold : MoveStatus → Bool
  | .pushed => true
  | .pushFailed _ _ => true
  | _ => false

/-- The MACs of the entries with some statuses. -/
def macsWith (p : MoveStatus → Bool) (entries : List MoveEntry) : List String :=
  (entries.filter fun e => p e.status).map (·.mac)

/-- What a status says of the device that had the MAC before. -/
def MoveStatus.Fits (s : State) (target : String) (force : Bool) (mac : String) : MoveStatus → Prop
  | .notFound => deviceAt s mac = none
  | .alreadyOnTarget => ∃ d ∈ deviceAt s mac, d.networkId = some target
  | .offlineMetadataOnly =>
    ∃ d ∈ deviceAt s mac, d.networkId ≠ some target ∧ d.linkOnline = false ∧ force = false
  | _ => ∃ d ∈ deviceAt s mac, d.networkId ≠ some target ∧ (d.linkOnline = true ∨ force = true)

/-- **One entry for each requested MAC, and the lists and counters that go with the entries.** -/
structure Accounts (s : State) (target : String) (macs : List String) (force : Bool) (result : MoveResult) :
    Prop where
  once : (result.perDevice.map (·.mac)).Nodup
  requested : ∀ mac, mac ∈ result.perDevice.map (·.mac) ↔ mac ≠ "" ∧ ∃ raw ∈ macs, upper (strip raw) = mac
  fits : ∀ e ∈ result.perDevice, e.status.Fits s target force e.mac
  stranded : result.stranded = macsWith MoveStatus.isFailed result.perDevice
  summary : result.summary = some
    { totalRequested := result.perDevice.length
      notFound := macsWith (· == .notFound) result.perDevice
      alreadyOnTarget := macsWith (· == .alreadyOnTarget) result.perDevice
      offlineSkipped := macsWith (· == .offlineMetadataOnly) result.perDevice
      pushCount := (macsWith MoveStatus.isTold result.perDevice).length
      pushedOk := (macsWith (· == .pushed) result.perDevice).length
      pushedFail := (macsWith MoveStatus.isFailed result.perDevice).length
      metadataFlipped := (macsWith (fun st => st == .offlineMetadataOnly || st.isTold) result.perDevice).length }

section Entries
variable {p : MoveStatus → Bool} {entries : List MoveEntry}

theorem macsWith_append (more : List MoveEntry) :
    macsWith p (entries ++ more) = macsWith p entries ++ macsWith p more := by
  rw [macsWith, List.filter_append, List.map_append]
  rfl

theorem macsWith_none (h : ∀ e ∈ entries, p e.status = false) : macsWith p entries = [] := by
  rw [macsWith, List.filter_eq_nil_iff.mpr fun e he => by simp [h e he]]
  rfl

theorem macsWith_all (h : ∀ e ∈ entries, p e.status = true) : macsWith p entries = entries.map (·.mac) := by
  rw [macsWith, List.filter_eq_self.mpr h]

variable {s : State} {target : String} {force : Bool}

variable (s target force) in
theorem checkEntry_cases (mac : String) : checkEntry s target force mac =
    match moveChoice s target force mac with
    | .notFound => some ⟨mac, .notFound⟩
    | .alreadyOnTarget => some ⟨mac, .alreadyOnTarget⟩
    | _ => none := rfl

theorem mem_checked {macs : List String} {e : MoveEntry} (h : e ∈ macs.filterMap (checkEntry s target force)) :
    e.mac ∈ macs ∧ (e.status = .notFound ∧ moveChoice s target force e.mac = .notFound ∨
      e.status = .alreadyOnTarget ∧ moveChoice s target force e.mac = .alreadyOnTarget) := by
  obtain ⟨mac, hmac, hentry⟩ := List.mem_filterMap.mp h
  rw [checkEntry_cases] at hentry
  cases hchoice : moveChoice s target force mac with
  | notFound =>
    rw [hchoice] at hentry
    cases hentry
    exact ⟨hmac, .inl ⟨rfl, hchoice⟩⟩
  | alreadyOnTarget =>
    rw [hchoice] at hentry
    cases hentry
    exact ⟨hmac, .inr ⟨rfl, hchoice⟩⟩
  | offline =>
    rw [hchoice] at hentry
    cases hentry
  | push =>
    rw [hchoice] at hentry
    cases hentry

/-- The entries of the pre-check, by the choice that made them. -/
theorem checked_with (p : MoveStatus → Bool) (macs : List String) :
    macsWith p (macs.filterMap (checkEntry s target force)) = macs.filter fun mac =>
      (moveChoice s target force mac == .notFound && p .notFound) ||
        (moveChoice s target force mac == .alreadyOnTarget && p .alreadyOnTarget) := by
  induction macs with
  | nil => rfl
  | cons mac rest ih =>
    have hentry := checkEntry_cases s target force mac
    cases hchoice : moveChoice s target force mac with
    | notFound =>
      rw [hchoice] at hentry
      cases hp : p .notFound <;> simpa [hentry, hchoice, macsWith, hp] using ih
    | alreadyOnTarget =>
      rw [hchoice] at hentry
      cases hp : p .alreadyOnTarget <;> simpa [hentry, hchoice, macsWith, hp] using ih
    | offline =>
      rw [hchoice] at hentry
      simpa [hentry, hchoice] using ih
    | push =>
      rw [hchoice] at hentry
      simpa [hentry, hchoice] using ih

/-- The status that goes with a choice; a device that is told is pushed to. -/
def MoveChoice.status : MoveChoice → MoveStatus
  | .notFound => .notFound
  | .alreadyOnTarget => .alreadyOnTarget
  | .offline => .offlineMetadataOnly
  | .push => .pushed

variable (s force) in
theorem moveChoice_fits (htarget : target ≠ "") (mac : String) :
    (moveChoice s target force mac).status.Fits s target force mac := by
  unfold moveChoice
  cases hd : deviceAt s mac with
  | none => exact hd
  | some d =>
    dsimp only
    have hon : d.networkId.getD "" = target ↔ d.networkId = some target := by
      cases d.networkId with
      | none => simp [eq_comm (a := ""), htarget]
      | some n => simp
    by_cases halready : d.networkId.getD "" = target
    · rw [if_pos halready]
      exact ⟨d, hd, hon.mp halready⟩
    · rw [if_neg halready]
      have hoff := mt hon.mpr halready
      by_cases hskip : d.linkOnline = false ∧ force = false
      · rw [if_pos hskip]
        exact ⟨d, hd, hoff, hskip⟩
      · rw [if_neg hskip]
        refine ⟨d, hd, hoff, ?_⟩
        cases hlink : d.linkOnline <;> cases hforce : force <;> simp_all

theorem fits_of_told {status : MoveStatus} {mac : String} (h : status.isTold = true)
    (hfits : MoveStatus.pushed.Fits s target force mac) : status.Fits s target force mac := by
  cases status with
  | pushed => exact hfits
  | pushFailed a b => exact hfits
  | notFound => cases h
  | alreadyOnTarget => cases h
  | offlineMetadataOnly => cases h

/-! ### The answer -/

theorem pushMove_entry (target : String) (rf : Dict) (air : String → Exchange) (s : State) (mac : String) :
    (pushMove target rf air s mac).1.mac = mac ∧ (pushMove target rf air s mac).1.status.isTold = true := by
  rw [pushMove]
  generalize pushRf (fileMove target rf s mac) mac rf (s.transportForDevice mac) (air mac) = pushed
  refine ⟨rfl, ?_⟩
  dsimp only
  split <;> rfl

/-- The pushes make an entry each. -/
theorem pushes_entries (target : String) (rf : Dict) (air : String → Exchange) (macs : List String) (t : State) :
    (pushEach (pushMove target rf air) macs t).1.map (·.mac) = macs ∧
      ∀ e ∈ (pushEach (pushMove target rf air) macs t).1, e.status.isTold = true := by
  induction macs generalizing t with
  | nil => exact ⟨rfl, by simp [pushEach]⟩
  | cons mac rest ih =>
    obtain ⟨hmac, htold⟩ := pushMove_entry target rf air t mac
    obtain ⟨hmacs, hrest⟩ := ih (pushMove target rf air t mac).2.2
    rw [pushEach_cons]
    exact ⟨by rw [List.map_cons, hmac, hmacs], List.forall_mem_cons.mpr ⟨htold, hrest⟩⟩

theorem mem_cleanMacs {macs : List String} {mac : String} :
    mac ∈ cleanMacs macs ↔ mac ≠ "" ∧ ∃ raw ∈ macs, upper (strip raw) = mac := by
  simp [cleanMacs, mem_keepFirst_id, and_comm]

theorem cleanMacs_nodup (macs : List String) : (cleanMacs macs).Nodup := keepFirst_id_nodup

theorem cleanMacs_fixed {macs : List String} {mac : String} (h : mac ∈ cleanMacs macs) :
    upper (strip mac) = mac := by
  obtain ⟨-, raw, -, rfl⟩ := mem_cleanMacs.mp h
  exact upper_strip_idem raw

variable (s target force) in
/-- The list of a move's entries, in its three parts. -/
theorem parts_with (macs : List String) (told : List MoveEntry) (p : MoveStatus → Bool) :
    macsWith p (macs.filterMap (checkEntry s target force) ++
        (macs.filter fun mac => moveChoice s target force mac == .offline).map (⟨·, .offlineMetadataOnly⟩) ++ told) =
      (macs.filter fun mac => (moveChoice s target force mac == .notFound && p .notFound) ||
        (moveChoice s target force mac == .alreadyOnTarget && p .alreadyOnTarget)) ++
      (if p .offlineMetadataOnly then macs.filter fun mac => moveChoice s target force mac == .offline else []) ++
      macsWith p told := by
  rw [macsWith_append, macsWith_append, checked_with]
  congr 2
  split
  · next hp =>
    rw [macsWith_all, List.map_map]
    · exact List.map_id _
    · intro e he
      obtain ⟨mac, -, rfl⟩ := List.mem_map.mp he
      exact hp
  · next hp =>
    refine macsWith_none fun e he => ?_
    obtain ⟨mac, -, rfl⟩ := List.mem_map.mp he
    exact Bool.eq_false_iff.mpr hp

theorem told_lengths {told : List MoveEntry} (htold : ∀ e ∈ told, e.status.isTold = true) :
    told.length - (told.filter fun e => e.status != .pushed).length = (macsWith (· == .pushed) told).length ∧
      (told.filter fun e => e.status != .pushed).map (·.mac) = macsWith MoveStatus.isFailed told := by
  have hfailed : told.filter (fun e => e.status != .pushed) = told.filter fun e => e.status.isFailed := by
    refine List.filter_congr fun e he => ?_
    have hone := htold e he
    cases hs : e.status <;> rw [hs] at hone <;> first | rfl | cases hone
  refine ⟨?_, by rw [hfailed]; rfl⟩
  have hsplit := List.length_eq_length_filter_add (l := told) fun e => e.status == .pushed
  have hrest : (told.filter fun e => !(e.status == .pushed)).length =
      (told.filter fun e => e.status != .pushed).length := rfl
  rw [macsWith, List.length_map]
  omega

variable (s target force) in
/-- The MACs sorted by their choices are the MACs. -/
theorem mem_choices (macs : List String) (mac : String) :
    mac ∈ (macs.filter fun mac => moveChoice s target force mac == .notFound ||
        moveChoice s target force mac == .alreadyOnTarget) ++
      (macs.filter fun mac => moveChoice s target force mac == .offline) ++
      (macs.filter fun mac => moveChoice s target force mac == .push) ↔ mac ∈ macs := by
  simp only [List.mem_append, List.mem_filter]
  cases moveChoice s target force mac <;> simp

variable (s target force) in
theorem choices_nodup {macs : List String} (h : macs.Nodup) :
    ((macs.filter fun mac => moveChoice s target force mac == .notFound ||
        moveChoice s target force mac == .alreadyOnTarget) ++
      (macs.filter fun mac => moveChoice s target force mac == .offline) ++
      (macs.filter fun mac => moveChoice s target force mac == .push)).Nodup := by
  refine List.nodup_append.mpr ⟨List.nodup_append.mpr ⟨h.filter _, h.filter _, ?_⟩, h.filter _, ?_⟩
  · intro a ha b hb hab
    subst hab
    have hchoice := eq_of_beq (List.mem_filter.mp hb).2
    have hother := (List.mem_filter.mp ha).2
    rw [hchoice] at hother
    cases hother
  · intro a ha b hb hab
    subst hab
    have hchoice := eq_of_beq (List.mem_filter.mp hb).2
    rcases List.mem_append.mp ha with ha | ha
    · have hother := (List.mem_filter.mp ha).2
      rw [hchoice] at hother
      cases hother
    · have hother := (List.mem_filter.mp ha).2
      rw [hchoice] at hother
      cases hother

/-- **The accounts of a move are right, whatever is heard.** -/
theorem moveDevices_accounts (htarget : target ≠ "") (rf : Dict) (macs : List String)
    (air : String → Exchange) :
    Accounts s target macs force (moveDevices s target rf (cleanMacs macs) force air).1 := by
  obtain ⟨hmacs, htold⟩ := pushes_entries target rf air
    ((cleanMacs macs).filter fun mac => moveChoice s target force mac == .push)
    (((cleanMacs macs).filter fun mac => moveChoice s target force mac == .offline).foldl
      (applyMetadataFlip target rf) s)
  unfold moveDevices
  dsimp only
  revert hmacs htold
  generalize (pushEach (pushMove target rf air) _ _).1 = told
  intro hmacs htold
  obtain ⟨hok, hfailed⟩ := told_lengths htold
  have hquiet : ∀ status : MoveStatus, status.isTold = false → macsWith (· == status) told = [] := by
    intro status hstatus
    refine macsWith_none fun e he => beq_eq_false_iff_ne.mpr fun heq => ?_
    rw [← heq, htold e he] at hstatus
    cases hstatus
  have hall : macsWith MoveStatus.isTold told = told.map (·.mac) := macsWith_all htold
  have hmap := parts_with s target force (cleanMacs macs) told fun _ => true
  rw [macsWith_all fun _ _ => rfl, macsWith_all (p := fun _ => true) fun _ _ => rfl, hmacs] at hmap
  simp only [Bool.and_true, if_true] at hmap
  have honce := choices_nodup s target force (cleanMacs_nodup macs)
  have hmem := mem_choices s target force (cleanMacs macs)
  have hlength := (List.perm_ext_iff_of_nodup honce (cleanMacs_nodup macs)).mpr hmem
  rw [← hmap] at honce hmem hlength
  refine ⟨honce, fun mac => (hmem mac).trans mem_cleanMacs, ?_, ?_, ?_⟩
  · intro e he
    rcases List.mem_append.mp he with he | he
    · rcases List.mem_append.mp he with he | he
      · obtain ⟨-, ⟨hstatus, hchoice⟩ | ⟨hstatus, hchoice⟩⟩ := mem_checked he <;>
          · have hfits := moveChoice_fits s force htarget e.mac
            rw [hchoice] at hfits
            rw [hstatus]
            exact hfits
      · obtain ⟨mac, hmac, rfl⟩ := List.mem_map.mp he
        have hfits := moveChoice_fits s force htarget mac
        rw [eq_of_beq (List.mem_filter.mp hmac).2] at hfits
        exact hfits
    · have hmac : e.mac ∈ told.map (·.mac) := List.mem_map_of_mem he
      rw [hmacs] at hmac
      have hfits := moveChoice_fits s force htarget e.mac
      rw [eq_of_beq (List.mem_filter.mp hmac).2] at hfits
      exact fits_of_told (htold e he) hfits
  · rw [hfailed, parts_with]
    simp [MoveStatus.isFailed]
  · simp only [parts_with, hok]
    rw [← hlength.length_eq, List.length_map]
    have hpushes := congrArg List.length hmacs
    rw [List.length_map] at hpushes
    have hflipped : macsWith (fun st => st == .offlineMetadataOnly || st.isTold) told = told.map (·.mac) :=
      macsWith_all fun e he => by rw [htold e he, Bool.or_true]
    have hfail := congrArg List.length hfailed
    rw [List.length_map] at hfail
    have hother : (MoveStatus.alreadyOnTarget == MoveStatus.notFound) = false ∧
        (MoveStatus.notFound == MoveStatus.alreadyOnTarget) = false ∧
        (MoveStatus.notFound == MoveStatus.offlineMetadataOnly) = false ∧
        (MoveStatus.alreadyOnTarget == MoveStatus.offlineMetadataOnly) = false := ⟨rfl, rfl, rfl, rfl⟩
    have huntold : MoveStatus.isTold .notFound = false ∧ MoveStatus.isTold .alreadyOnTarget = false ∧
        MoveStatus.isTold .offlineMetadataOnly = false := ⟨rfl, rfl, rfl⟩
    simp [hother, huntold, hquiet .notFound rfl, hquiet .alreadyOnTarget rfl, hquiet .offlineMetadataOnly rfl,
      hall, hflipped, hfail, hpushes, MoveStatus.isFailed]

end Entries

end RaceLink.Fleet
