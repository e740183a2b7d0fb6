import RaceLink.Protocol.ControlCodec
import RaceLink.Routing.Mirror

/-! When the records are what was sent.

The five senders are one: an order says what is sent where, which records are written and what with. A
call leaves the records right just when the order fits the fleet: what it writes is what a frame reaches,
or shows the values anyway. -/
namespace RaceLink.Routing.Mirror
open Python Library Domain Protocol Scenes Dispatch

/-! ### Orders -/

/-- The records that a sender writes. -/
inductive Scope where
  | group (groupB : Int)
  | device (index : Nat)

def Scope.has : Scope → Nat → CachedDevice → Bool
  | .group groupB, _, d => d.inGroup groupB
  | .device index, i, _ => i == index

def Scope.change (f : CachedDevice → CachedDevice) : Scope → List CachedDevice → List CachedDevice
  | .group groupB, devices => updateGroup groupB f devices
  | .device index, devices => devices.modify index f

/-- What a call comes to: the frame, the records it writes, what it writes in them, and the id that an
RL-preset leaves in addition. -/
structure Order where
  opcode : Opcode
  build : Int → Except PyError Bytes
  destination : Destination
  target : Option (List String)
  scope : Scope
  values : Values
  mode : Option Int
  stamped : Option (Int × Scope)

namespace Order

/-- A group is written whatever becomes of the frame. -/
def early (o : Order) : Bool :=
  match o.destination with
  | .group _ => true
  | .device _ => false

def write (o : Order) (d : CachedDevice) : CachedDevice :=
  {d with
    flags := o.values.flags
    presetId := o.values.presetId.getD d.presetId
    brightness := o.values.brightness.getD d.brightness
    effectId := o.mode.getD d.effectId}

def sent (s : Desk) (o : Order) : Sent := sendTo s.host o.opcode o.build o.destination o.target

def written (s : Desk) (o : Order) : Outcome :=
  if o.early then (o.sent s, o.scope.change o.write s.devices)
  else whenSent (o.sent s) s.devices (o.scope.change o.write)

/-- An order carried out. -/
def perform (s : Desk) (o : Order) : Outcome :=
  match o.stamped with
  | none => o.written s
  | some (pid, scope) => whenSent (o.written s).1 (o.written s).2 (scope.change (stamp pid))

/-- What is written is what the frame carries, and an id is left where the frame carries none. -/
structure Sound (o : Order) : Prop where
  carries : ∀ groupB body, IsByte groupB → o.build groupB = .ok body →
    valuesOf o.opcode body = some (groupB, o.values)
  stamped : o.stamped ≠ none → o.values.presetId = none

end Order

def presetOrder (destination : Destination) (target : Option (List String)) (scope : Scope)
    (flags presetId brightness : Int) : Order where
  opcode := .preset
  build := fun g => .ok (buildPresetBody g (flags % 256) (presetId % 256) (brightness % 256))
  destination
  target
  scope
  values := ⟨flags % 256, some (presetId % 256), some (brightness % 256)⟩
  mode := none
  stamped := none

def controlOrder (destination : Destination) (target : Option (List String)) (scope : Scope)
    (stamped : Option (Int × Scope)) (args : Int × ControlFields) : Order where
  opcode := .control
  build := fun g => buildControlBody g args.1 args.2
  destination
  target
  scope
  values := ⟨args.1 % 256, none, args.2.brightness⟩
  mode := args.2.mode
  stamped

/-! ### The order of a call -/

def groupPresetOrder (groupId flags presetId brightness : Int) (target : Option (List String)) : Order :=
  presetOrder (.group (groupId % 256)) target (.group (groupId % 256)) flags presetId brightness

def devicePresetPlan (s : Desk) (device : Nat) (flags presetId brightness : Option Int) : Option Order :=
  s.devices[device]?.map fun d => presetOrder (.device d.toDevice) none (.device device) (flags.getD d.flags)
    (presetId.getD d.presetId) (brightness.getD d.brightness)

/-- The order of a control call, if it comes to one. -/
def controlPlan (s : Desk) (targetDevice : Option Nat) (targetGroup : Option Int) (params : Dict)
    (target : Option (List String)) (stamped : Option (Int × Scope)) : Option Order :=
  if s.transports = [] then none
  else match controlArgs params with
    | .error _ => none
    | .ok args =>
      match targetGroup, targetDevice with
      | some groupId, _ => some (controlOrder (.group (groupId % 256)) target (.group (groupId % 256)) stamped args)
      | none, some device => s.devices[device]?.map fun d =>
        controlOrder (.device d.toDevice) none (.device device) stamped args
      | none, none => none

/-- The order of a WLED preset. -/
def wledPresetPlan (s : Desk) (targetDevice : Option Nat) (targetGroup : Option Int) (params : Dict)
    (target : Option (List String)) : Option Order :=
  match presetArgs params with
  | .error _ => none
  | .ok args =>
    match targetGroup, targetDevice with
    | some groupId, _ => some (groupPresetOrder groupId args.1 args.2.1 args.2.2 target)
    | none, some device => devicePresetPlan s device (some args.1) (some args.2.1) (some args.2.2)
    | none, none => none

/-- The id and the merged parameters of an RL-preset that is there. -/
def rlRequest (s : Desk) (presetId : Json) (brightnessOverride : Option Json) : Option (Int × Dict) := do
  let presets ← s.presets
  let pid ← presetId.toInt.toOption
  let preset ← presets.find? fun p => p.id == pid
  let merged ← (mergedParams preset brightnessOverride).toOption
  return (pid, merged)

/-- Whom an RL-preset leaves its id with: the device, if both are given. -/
def stampScope (targetDevice : Option Nat) (targetGroup : Option Int) : Option Scope :=
  match targetDevice, targetGroup with
  | some device, _ => some (.device device)
  | none, some groupId => some (.group (groupId % 256))
  | none, none => none

/-- The order that a call comes to. Without one nothing is written, and the call does not answer True. -/
def plan (s : Desk) : Call → Option Order
  | .groupPreset groupId flags presetId brightness target =>
    some (groupPresetOrder groupId flags presetId brightness target)
  | .devicePreset device flags presetId brightness => devicePresetPlan s device flags presetId brightness
  | .wledPreset targetDevice targetGroup params target => wledPresetPlan s targetDevice targetGroup params target
  | .control targetDevice targetGroup params target => controlPlan s targetDevice targetGroup params target none
  | .rlPresetById presetId targetDevice targetGroup brightnessOverride =>
    (rlRequest s presetId brightnessOverride).bind fun request =>
      controlPlan s targetDevice targetGroup request.2 none
        ((stampScope targetDevice targetGroup).map fun scope => (request.1, scope))

/-- The outcome is that of the order. -/
def Performs (s : Desk) (out : Outcome) : Option Order → Prop
  | some o => out = o.perform s
  | none => out.2 = s.devices ∧ out.1.answer ≠ .ok true

theorem whenSent_fst (sent : Sent) (devices : List CachedDevice) (f : List CachedDevice → List CachedDevice) :
    (whenSent sent devices f).1 = sent := by
  unfold whenSent
  split <;> rfl

theorem whenSent_other {sent : Sent} (h : sent.answer ≠ .ok true) (devices : List CachedDevice)
    (f : List CachedDevice → List CachedDevice) : whenSent sent devices f = (sent, devices) := by
  unfold whenSent
  split
  · next heq => exact absurd heq h
  · rfl

section Plans
variable (s : Desk)

theorem performs_none {out : Outcome} (hdevices : out.2 = s.devices) (hanswer : out.1.answer ≠ .ok true) :
    Performs s out none := ⟨hdevices, hanswer⟩

theorem performs_device (device : Nat) {out : Outcome} {order : CachedDevice → Order}
    (habsent : s.devices[device]? = none → out = (.nothing, s.devices))
    (hthere : ∀ d, s.devices[device]? = some d → out = (order d).perform s) :
    Performs s out (s.devices[device]?.map order) := by
  cases hd : s.devices[device]? with
  | none =>
    rw [habsent hd]
    exact performs_none s rfl nofun
  | some d => exact hthere d hd

theorem sendGroupPreset_performs (groupId flags presetId brightness : Int) (target : Option (List String)) :
    sendGroupPreset s groupId flags presetId brightness target =
      (groupPresetOrder groupId flags presetId brightness target).perform s := rfl

theorem sendDevicePreset_performs (device : Nat) (flags presetId brightness : Option Int) :
    Performs s (sendDevicePreset s device flags presetId brightness)
      (devicePresetPlan s device flags presetId brightness) := by
  refine performs_device s device (fun hd => ?_) fun d hd => ?_
  · rw [sendDevicePreset, hd]
  · rw [sendDevicePreset, hd]
    rfl

theorem sendWledPreset_performs (targetDevice : Option Nat) (targetGroup : Option Int) (params : Dict)
    (target : Option (List String)) :
    Performs s (sendWledPreset s targetDevice targetGroup params target)
      (wledPresetPlan s targetDevice targetGroup params target) := by
  unfold sendWledPreset wledPresetPlan
  cases presetArgs params with
  | error e => exact performs_none s rfl nofun
  | ok args =>
    cases targetGroup with
    | some groupId => exact sendGroupPreset_performs s groupId args.1 args.2.1 args.2.2 target
    | none =>
      cases targetDevice with
      | some device => exact sendDevicePreset_performs s device (some args.1) (some args.2.1) (some args.2.2)
      | none => exact performs_none s rfl nofun

theorem sendControl_performs (targetDevice : Option Nat) (targetGroup : Option Int) (params : Dict)
    (target : Option (List String)) :
    Performs s (sendControl s targetDevice targetGroup params target)
      (controlPlan s targetDevice targetGroup params target none) := by
  unfold sendControl controlPlan
  split
  · exact performs_none s rfl nofun
  · cases controlArgs params with
    | error e => exact performs_none s rfl nofun
    | ok args =>
      cases targetGroup with
      | some groupId => rfl
      | none =>
        cases targetDevice with
        | none => exact performs_none s rfl nofun
        | some device =>
          refine performs_device s device (fun hd => ?_) fun d hd => ?_
          · dsimp only
            rw [hd]
          · dsimp only
            rw [hd]
            rfl

/-- The id of an RL-preset is left where the control call went. -/
theorem perform_stamped {o : Order} (hnone : o.stamped = none) (pid : Int) (scope : Scope) :
    ({o with stamped := some (pid, scope)} : Order).perform s =
      whenSent (o.perform s).1 (o.perform s).2 (scope.change (stamp pid)) := by
  have hplain : o.perform s = o.written s := by rw [Order.perform, hnone]
  rw [hplain]
  rfl

theorem controlPlan_stamped (targetDevice : Option Nat) (targetGroup : Option Int) (params : Dict)
    (target : Option (List String)) (stamped : Option (Int × Scope)) :
    controlPlan s targetDevice targetGroup params target stamped =
      (controlPlan s targetDevice targetGroup params target none).map fun o => {o with stamped} := by
  unfold controlPlan
  split
  · rfl
  · cases controlArgs params with
    | error e => rfl
    | ok args =>
      cases targetGroup with
      | some groupId => rfl
      | none =>
        cases targetDevice with
        | none => rfl
        | some device =>
          dsimp only
          rw [Option.map_map]
          rfl

theorem controlPlan_some {targetDevice : Option Nat} {targetGroup : Option Int} {params : Dict}
    {target : Option (List String)} {stamped : Option (Int × Scope)} {o : Order}
    (h : controlPlan s targetDevice targetGroup params target stamped = some o) :
    (∃ destination target' scope args, controlArgs params = .ok args ∧
      o = controlOrder destination target' scope stamped args) ∧ ∃ scope, stampScope targetDevice targetGroup = some scope := by
  unfold controlPlan at h
  split at h
  · cases h
  · split at h
    · cases h
    · next args hargs =>
      cases targetGroup with
      | some groupId =>
        refine ⟨⟨_, _, _, args, hargs, (Option.some.inj h).symm⟩, ?_⟩
        cases targetDevice <;> exact ⟨_, rfl⟩
      | none =>
        cases targetDevice with
        | none => cases h
        | some device =>
          obtain ⟨d, -, ho⟩ := Option.map_eq_some_iff.mp h
          exact ⟨⟨_, _, _, args, hargs, ho.symm⟩, _, rfl⟩

/-- Of a preset that is there, the parameters are sent and the id is left. -/
theorem sendRlPresetById_found {presetId : Json} {brightnessOverride : Option Json} {request : Int × Dict}
    (h : rlRequest s presetId brightnessOverride = some request) (targetDevice : Option Nat)
    (targetGroup : Option Int) :
    sendRlPresetById s presetId targetDevice targetGroup brightnessOverride =
      let sent := sendControl s targetDevice targetGroup request.2 none
      whenSent sent.1 sent.2 fun devices =>
        match stampScope targetDevice targetGroup with
        | some scope => scope.change (stamp request.1) devices
        | none => devices := by
  obtain ⟨presets, hpresets, h⟩ := Option.bind_eq_some_iff.mp h
  obtain ⟨pid, hpid, h⟩ := Option.bind_eq_some_iff.mp h
  obtain ⟨preset, hpreset, h⟩ := Option.bind_eq_some_iff.mp h
  obtain ⟨merged, hmerged, h⟩ := Option.bind_eq_some_iff.mp h
  obtain rfl := Option.some.inj h
  rw [sendRlPresetById, hpresets]
  dsimp only
  rw [toOption_eq_some.mp hpid]
  dsimp only
  rw [hpreset]
  dsimp only
  rw [toOption_eq_some.mp hmerged]
  cases targetDevice with
  | some device => rfl
  | none => cases targetGroup <;> rfl

theorem sendRlPresetById_absent {presetId : Json} {brightnessOverride : Option Json}
    (h : rlRequest s presetId brightnessOverride = none) (targetDevice : Option Nat) (targetGroup : Option Int) :
    Performs s (sendRlPresetById s presetId targetDevice targetGroup brightnessOverride) none := by
  unfold sendRlPresetById
  split
  · exact performs_none s rfl nofun
  · next presets hpresets =>
    split
    · exact performs_none s rfl nofun
    · exact performs_none s rfl nofun
    · exact performs_none s rfl nofun
    · next pid hpid =>
      split
      · exact performs_none s rfl nofun
      · next preset hpreset =>
        split
        · exact performs_none s rfl nofun
        · next merged hmerged =>
          have hfound : rlRequest s presetId brightnessOverride = some (pid, merged) := by
            rw [rlRequest, hpresets, hpid]
            show (presets.find? _).bind _ = _
            rw [hpreset]
            show (mergedParams preset brightnessOverride).toOption.bind _ = _
            rw [hmerged]
            rfl
          rw [h] at hfound
          cases hfound

theorem sendRlPresetById_performs (presetId : Json) (targetDevice : Option Nat) (targetGroup : Option Int)
    (brightnessOverride : Option Json) :
    Performs s (sendRlPresetById s presetId targetDevice targetGroup brightnessOverride)
      (plan s (.rlPresetById presetId targetDevice targetGroup brightnessOverride)) := by
  rw [plan]
  cases hrequest : rlRequest s presetId brightnessOverride with
  | none => exact sendRlPresetById_absent s hrequest targetDevice targetGroup
  | some request =>
    have hcontrol := sendControl_performs s targetDevice targetGroup request.2 none
    rw [sendRlPresetById_found s hrequest, Option.bind_some, controlPlan_stamped]
    dsimp only
    cases horder : controlPlan s targetDevice targetGroup request.2 none none with
    | none =>
      rw [horder] at hcontrol
      obtain ⟨hdevices, hanswer⟩ := hcontrol
      refine performs_none s ?_ ?_
      · rw [whenSent_other hanswer, hdevices]
      · rwa [whenSent_other hanswer]
    | some o =>
      obtain ⟨⟨destination, target', scope', args, -, rfl⟩, scope, hscope⟩ := controlPlan_some s horder
      rw [horder] at hcontrol
      rw [hscope, hcontrol]
      exact (perform_stamped s rfl request.1 scope).symm

/-- **Every call is its order, carried out.** -/
theorem run_performs (call : Call) : Performs s (run s call) (plan s call) := by
  cases call with
  | groupPreset groupId flags presetId brightness target => rfl
  | devicePreset device flags presetId brightness => exact sendDevicePreset_performs s device flags presetId brightness
  | wledPreset targetDevice targetGroup params target =>
    exact sendWledPreset_performs s targetDevice targetGroup params target
  | control targetDevice targetGroup params target =>
    exact sendControl_performs s targetDevice targetGroup params target
  | rlPresetById presetId targetDevice targetGroup brightnessOverride =>
    exact sendRlPresetById_performs s presetId targetDevice targetGroup brightnessOverride

/-! ### What is written is what is sent -/

theorem presetOrder_sound (destination : Destination) (target : Option (List String)) (scope : Scope)
    (flags presetId brightness : Int) :
    (presetOrder destination target scope flags presetId brightness).Sound where
  carries := by
    rintro groupB body ⟨hlow, hhigh⟩ hbody
    obtain rfl := Except.ok.inj hbody
    have hmod : ∀ n : Int, ((byte (n % 256)).toNat : Int) = n % 256 := fun n => by
      rw [byte_toNat, Int.emod_emod]
    show some (_, _) = some _
    rw [byte_fits hlow hhigh, hmod, hmod, hmod]
    rfl
  stamped h := absurd rfl h

theorem intField_byte {params : Dict} {key : String} {value : Option Int} (h : intField params key = .ok value) :
    ∀ n ∈ value, IsByte n := by
  unfold intField at h
  split at h
  · cases h
    exact nofun
  · obtain ⟨n, -, h⟩ := bind_ok.mp h
    cases h
    rintro m ⟨⟩
    unfold IsByte
    omega

theorem effectFields_brightness {params : Dict} {brightness : Option Int} {fields : ControlFields}
    (h : effectFields params brightness = .ok fields) : fields.brightness = brightness := by
  unfold effectFields at h
  iterate 10
    obtain ⟨_, -, h⟩ := bind_ok.mp h
  cases h
  rfl

theorem controlArgs_brightness {params : Dict} {args : Int × ControlFields} (h : controlArgs params = .ok args) :
    ∀ n ∈ args.2.brightness, IsByte n := by
  obtain ⟨brightness, hbrightness, h⟩ := bind_ok.mp h
  obtain ⟨fields, hfields, h⟩ := bind_ok.mp h
  cases h
  dsimp only
  rw [effectFields_brightness hfields]
  exact intField_byte hbrightness

theorem controlOrder_sound (destination : Destination) (target : Option (List String)) (scope : Scope)
    (stamped : Option (Int × Scope)) {args : Int × ControlFields} (hargs : ∀ n ∈ args.2.brightness, IsByte n) :
    (controlOrder destination target scope stamped args).Sound where
  carries := by
    rintro groupB body ⟨hlow, hhigh⟩ hbody
    obtain ⟨present, rest, rfl⟩ := buildControlBody_starts hbody
    have hbit : ((if present then 2 ^ extBit else 0) ||| maskOf mainSlots (mainChunks args.2)).testBit 0 =
        args.2.brightness.isSome := by
      cases announces_main args.2 present with
      | cons hbit _ => simpa using hbit
    show some (_, _) = some _
    rw [mask_read, hbit, byte_fits hlow hhigh, byte_toNat]
    refine congrArg (fun b => some (groupB, Values.mk (args.1 % 256) none b)) ?_
    cases hb : args.2.brightness with
    | none => rfl
    | some b =>
      have hbyte := hargs b hb
      have hdata : (dataOf (mainChunks args.2) ++ rest).head? = some (byte b) := by
        unfold mainChunks dataOf
        rw [hb]
        rfl
      rw [hdata]
      exact congrArg some (byte_fits hbyte.1 hbyte.2)
  stamped _ := rfl

theorem plan_sound {call : Call} {o : Order} (h : plan s call = some o) : o.Sound := by
  have hdevice : ∀ {device flags presetId brightness}, devicePresetPlan s device flags presetId brightness = some o →
      o.Sound := by
    intro device flags presetId brightness hplan
    obtain ⟨d, -, rfl⟩ := Option.map_eq_some_iff.mp hplan
    exact presetOrder_sound ..
  have hcontrol : ∀ {targetDevice targetGroup params target stamped},
      controlPlan s targetDevice targetGroup params target stamped = some o → o.Sound := by
    intro targetDevice targetGroup params target stamped hplan
    obtain ⟨⟨destination, target', scope, args, hargs, rfl⟩, -⟩ := controlPlan_some s hplan
    exact controlOrder_sound destination target' scope stamped (controlArgs_brightness hargs)
  cases call with
  | groupPreset groupId flags presetId brightness target =>
    cases h
    exact presetOrder_sound ..
  | devicePreset device flags presetId brightness => exact hdevice h
  | wledPreset targetDevice targetGroup params target =>
    rw [plan] at h
    unfold wledPresetPlan at h
    split at h
    · cases h
    · cases targetGroup with
      | some groupId =>
        cases h
        exact presetOrder_sound ..
      | none =>
        cases targetDevice with
        | some device => exact hdevice h
        | none => cases h
  | control targetDevice targetGroup params target => exact hcontrol h
  | rlPresetById presetId targetDevice targetGroup brightnessOverride =>
    obtain ⟨request, -, hplan⟩ := Option.bind_eq_some_iff.mp h
    exact hcontrol hplan

end Plans

end RaceLink.Routing.Mirror
