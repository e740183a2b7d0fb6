import RaceLink.Dispatch.PlannerProofs
import RaceLink.Routing.Orders

/-! The flags byte of an effect, from the action to the frame (`_merge_flags`, then the senders).

The planner writes what the override and the preset say into the parameters; the sender reads them
again, whichever opcode it writes, and adds what follows from the brightness. -/
namespace RaceLink.Routing
open Python Library Domain Protocol Scenes Dispatch
open Mirror (Values valuesOf)

/-! ### The law -/

/-- The place of a flag in the byte (`racelink_proto.h`). -/
def flagPlace : UserFlag → Nat
  | .armOnSync => 1
  | .forceTt0 => 3
  | .forceReapply => 4
  | .offsetMode => 5

/-- The place of POWER_ON. -/
def powerPlace : Nat := 0

/-- The flags that the preset of an effect persists. -/
def persistedFlags (inputs : PlannerInputs) (e : Effect) : Dict :=
  match e.kind, inputs.presetLookup with
  | .rlPreset, some find => ((find (e.params.get "presetId")).map (·.flags)).getD []
  | _, _ => []

/-- What the override says of a flag, else the preset, else no. -/
def chosenFlag (persisted : Dict) (override : FlagsOverride) (flag : UserFlag) : Bool :=
  match override.get flag with
  | some value => value
  | none => (persisted.get flag.key).truthy

/-- What a flag is to be: a container decides on OFFSET_MODE itself. -/
def lawfulFlag (container : Option OffsetBlock) (persisted : Dict) (override : FlagsOverride) (flag : UserFlag) : Bool :=
  match container, flag with
  | some offset, .offsetMode => decide (offset ≠ .none)
  | _, _ => chosenFlag persisted override flag

/-- An op of an effect, at the top level of a scene or as a child of a container with this offset. -/
inductive OpOf (inputs : PlannerInputs) (e : Effect) : Option OffsetBlock → WireOp → Prop
  | top {plan : ActionDispatchPlan} {op : WireOp} (hplan : planActionDispatch inputs (.effect e) = .ok plan)
      (hop : op ∈ plan.ops) : OpOf inputs e none op
  | child {target : Target} {offset : OffsetBlock} {actions : List Effect} {plan : ActionDispatchPlan} {op : WireOp}
      {i : Nat} {name : String} (hplan : planActionDispatch inputs (.offsetGroup target offset actions) = .ok plan)
      (hop : op ∈ plan.ops) (hphase : op.phase = .child i name) (he : actions[i]? = some e) :
      OpOf inputs e (some offset) op

/-- A frame of an effect, sent for one of its ops, and the values in it. -/
def FlagsSent (inputs : PlannerInputs) (e : Effect) (container : Option OffsetBlock) (v : Values) : Prop :=
  ∃ op env target w, OpOf inputs e container op ∧ ∃ frame ∈ (sendOp env target op w).frames,
    ∃ g, valuesOf frame.opcode frame.body = some (g, v)

/-- **The flags of a frame.** -/
structure FlagLaw (inputs : PlannerInputs) (e : Effect) (container : Option OffsetBlock) (v : Values) : Prop where
  user : ∀ flag, v.flags.toNat.testBit (flagPlace flag) =
    lawfulFlag container (persistedFlags inputs e) e.flagsOverride flag
  power : v.flags.toNat.testBit powerPlace = true ↔ ∃ b ∈ v.brightness, b ≠ 0
  alike : ∀ inputs' e' container' v', FlagsSent inputs' e' container' v' →
    persistedFlags inputs' e' = persistedFlags inputs e → e'.flagsOverride = e.flagsOverride →
    container'.map (decide <| · ≠ .none) = container.map (decide <| · ≠ .none) →
    ∀ flag, v'.flags.toNat.testBit (flagPlace flag) = v.flags.toNat.testBit (flagPlace flag)

/-! ### Through the planner -/

theorem get?_mergeFlag (persisted : Dict) (override : FlagsOverride) (merged : Dict) (flag : UserFlag) (key : String) :
    (mergeFlag persisted override merged flag).get? key =
      if key = flag.key then (if chosenFlag persisted override flag then some (.bool true) else none)
      else merged.get? key := by
  have hchosen : (override.get flag).getD (persisted.getD flag.key (.bool false)).truthy =
      chosenFlag persisted override flag := by
    rw [chosenFlag]
    cases override.get flag with
    | some value => rfl
    | none =>
      show (persisted.getD flag.key (.bool false)).truthy = (persisted.get flag.key).truthy
      rw [Dict.get, Dict.getD]
      cases persisted.get? flag.key <;> rfl
  rw [mergeFlag, hchosen]
  cases chosenFlag persisted override flag with
  | true => rw [if_pos rfl, Dict.get?_set]; rfl
  | false => rw [if_neg (by simp), Dict.get?_pop]; rfl

/-- A flag that is read from the merged parameters is the chosen one. -/
theorem flag_mergeFlags (baseParams persisted : Dict) (override : FlagsOverride) (flag : UserFlag) :
    ((mergeFlags baseParams persisted override).get flag.key).truthy = chosenFlag persisted override flag := by
  have hread : (mergeFlags baseParams persisted override).get? flag.key =
      if chosenFlag persisted override flag then some (.bool true) else none := by
    unfold mergeFlags userFlags
    simp only [List.foldl_cons, List.foldl_nil, get?_mergeFlag]
    cases flag <;> simp [UserFlag.key]
  rw [Dict.get, hread]
  cases chosenFlag persisted override flag <;> rfl

/-- The other parameters pass through. -/
theorem get?_mergeFlags {key : String} (hkey : ∀ flag : UserFlag, key ≠ flag.key) (baseParams persisted : Dict)
    (override : FlagsOverride) : (mergeFlags baseParams persisted override).get? key = baseParams.get? key := by
  unfold mergeFlags
  induction userFlags generalizing baseParams with
  | nil => rfl
  | cons flag rest ih => rw [List.foldl_cons, ih, get?_mergeFlag, if_neg (hkey flag)]

theorem materialise_flags {inputs : PlannerInputs} {e : Effect} {m : Materialised}
    (h : materialise inputs (some e.kind) e.params = .ok (some m)) :
    m.flags = persistedFlags inputs e ∧ (e.kind ≠ .rlPreset → m.params = e.params) := by
  unfold persistedFlags
  cases hkind : e.kind with
  | rlPreset =>
    rw [hkind] at h
    refine ⟨?_, fun hne => absurd rfl hne⟩
    simp only [materialise, materializeRlPreset] at h
    split at h
    · cases h
    · cases hlookup : inputs.presetLookup with
      | none =>
        rw [hlookup] at h
        cases h
        rfl
      | some find =>
        simp only [hlookup] at h
        cases hfind : find (e.params.get "presetId") with
        | none =>
          rw [hfind] at h
          cases h
        | some preset =>
          simp only [hfind] at h
          obtain ⟨merged, -, h⟩ := bind_ok.mp h
          cases h
          simp [hfind]
  | _ =>
    rw [hkind] at h
    cases h
    exact ⟨rfl, fun _ => rfl⟩

/-- An effect is planned with the offset flag of its container. -/
theorem opOf_planned {inputs : PlannerInputs} {e : Effect} {container : Option OffsetBlock} {op : WireOp}
    (h : OpOf inputs e container op) :
    ∃ plan op', planEffect inputs (some e.kind) e.target e.params e.flagsOverride
        (container.map (decide <| · ≠ .none)) = .ok plan ∧ op' ∈ plan.ops ∧ op'.payload = op.payload := by
  cases h with
  | top hplan hop => exact ⟨_, op, hplan, hop, rfl⟩
  | child hplan hop hphase he =>
    obtain ⟨setup, childPlans, -, hchildren, hops, -⟩ := planOffsetGroup_ok hplan
    rw [hops] at hop
    cases List.mem_append.mp hop with
    | inl hsetup =>
      obtain ⟨op', -, rfl⟩ := mem_tagOps.mp hsetup
      cases hphase
    | inr hchild =>
      obtain ⟨j, p, hp, hmem⟩ := mem_childOps.mp hchild
      obtain ⟨op', hop', rfl⟩ := mem_tagOps.mp hmem
      obtain ⟨hindex, -⟩ := Phase.child.inj hphase
      rw [Nat.zero_add] at hindex
      subst hindex
      have hplanned := forall₂_getElem? hchildren he hp
      exact ⟨p, op', hplanned, hop', rfl⟩

/-- **What an op of an effect carries to its sender**: the merged parameters. -/
theorem opOf_payload {inputs : PlannerInputs} {e : Effect} {container : Option OffsetBlock} {op : WireOp}
    (h : OpOf inputs e container op) :
    ∃ m destination, materialise inputs (some e.kind) e.params = .ok (some m) ∧
      op.payload = effectSend (some e.kind) (mergeFlags m.params m.flags
        (overrideWith e.flagsOverride (container.map (decide <| · ≠ .none)))) destination := by
  obtain ⟨plan, op', hplan, hop, hpayload⟩ := opOf_planned h
  obtain ⟨-, hdegraded, hplanned⟩ := planEffect_ok hplan
  cases hd : plan.degraded with
  | true =>
    rw [hdegraded hd] at hop
    cases hop
  | false =>
    obtain ⟨destinations, m, -, hm, hbuilt⟩ := (hplanned hd).destinations
    obtain ⟨destination, -, hbuild⟩ := exists_of_forall₂_right hbuilt hop
    exact ⟨m, destination, hm, by rw [← hpayload, (buildEffectOp_ok hbuild).2]⟩

theorem chosenFlag_forced (container : Option OffsetBlock) (persisted : Dict) (override : FlagsOverride)
    (flag : UserFlag) :
    chosenFlag persisted (overrideWith override (container.map (decide <| · ≠ .none))) flag =
      lawfulFlag container persisted override flag := by
  cases container <;> cases flag <;> rfl

/-! ### Through the senders -/

theorem flagsOf_place (params : Dict) (powerOn : Bool) (flag : UserFlag) :
    (flagsOf params powerOn % 256).toNat.testBit (flagPlace flag) = (params.get flag.key).truthy := by
  have hbits : ∀ (p a t r o : Bool), ((buildFlagsByte p true a t r o : Int) % 256).toNat.testBit (flagPlace flag) =
      match flag with
      | .armOnSync => a
      | .forceTt0 => t
      | .forceReapply => r
      | .offsetMode => o := by
    cases flag <;> decide
  rw [flagsOf, hbits]
  cases flag <;> rfl

theorem flagsOf_power (params : Dict) (powerOn : Bool) :
    (flagsOf params powerOn % 256).toNat.testBit powerPlace = powerOn := by
  have hbits : ∀ p a t r o : Bool, ((buildFlagsByte p true a t r o : Int) % 256).toNat.testBit powerPlace = p := by
    decide
  exact hbits ..

/-- The body of a frame is what the builder gives for some group byte. -/
theorem sendTo_built {h : Host} {opcode : Opcode} {build : Int → Except PyError Bytes} {destination : Destination}
    {target : Option (List String)} {frame : Frame} (hframe : frame ∈ (sendTo h opcode build destination target).frames) :
    ∃ g, IsByte (g % 256) ∧ build (g % 256) = .ok frame.body := by
  have hbyte : ∀ g : Int, IsByte (g % 256) := fun g => by
    unfold IsByte
    omega
  cases destination with
  | device d =>
    obtain ⟨t, -, hsend⟩ := mem_sendOn.mp hframe
    obtain ⟨recv3, -, hsend⟩ := bind_ok.mp hsend
    obtain ⟨body, hbody, hsend⟩ := bind_ok.mp hsend
    rw [sendM2n_ok hsend]
    exact ⟨d.groupId, hbyte d.groupId, hbody⟩
  | group groupId =>
    cases target with
    | none =>
      obtain ⟨t, -, hsend⟩ := mem_sendOn.mp hframe
      obtain ⟨body, hbody, hsend⟩ := bind_ok.mp hsend
      rw [sendM2n_ok hsend]
      exact ⟨groupId, hbyte groupId, hbody⟩
    | some networkIds =>
      obtain ⟨t, -, hsend⟩ := mem_fanOut.mp hframe
      obtain ⟨body, hbody, hsend⟩ := bind_ok.mp hsend
      rw [sendM2n_ok hsend]
      exact ⟨groupId, hbyte groupId, hbody⟩

/-- Does the sender of a kind set POWER_ON: a preset looks at the number it is given, the others at the
byte they send. -/
def PowerOf (kind : EffectKind) (params : Dict) (v : Values) : Prop :=
  if kind = .wledPreset then
    ∃ n, (params.getD "brightness" (.int 0)).toInt = .ok n ∧ v.brightness = some (n % 256) ∧
      v.flags.toNat.testBit powerPlace = decide (0 < n)
  else v.flags.toNat.testBit powerPlace = true ↔ ∃ b ∈ v.brightness, b ≠ 0

/-- A frame carries the flags of the parameters. -/
structure CarriesFlags (kind : EffectKind) (params : Dict) (v : Values) : Prop where
  user : ∀ flag, v.flags.toNat.testBit (flagPlace flag) = (params.get flag.key).truthy
  power : PowerOf kind params v

theorem sendControl_flags {h : Host} {kind : EffectKind} (hkind : kind ≠ .wledPreset) {params : Dict}
    {destination : Destination} {target : Option (List String)} {frame : Frame}
    (hframe : frame ∈ (sendControl h params destination target).frames) :
    ∃ g v, valuesOf frame.opcode frame.body = some (g, v) ∧ CarriesFlags kind params v := by
  unfold sendControl at hframe
  split at hframe
  · cases hframe
  · split at hframe
    · cases hframe
    · next args hargs =>
      have hbytes := Mirror.controlArgs_brightness hargs
      obtain ⟨g, hg, hbuilt⟩ := sendTo_built hframe
      have hvalues := (Mirror.controlOrder_sound destination target (.device 0) none hbytes).carries _ _ hg hbuilt
      rw [show frame.opcode = .control from (sendTo_routes hframe).2.1]
      refine ⟨_, _, hvalues, ?_⟩
      obtain ⟨brightness, hbrightness, hargs⟩ := bind_ok.mp hargs
      obtain ⟨fields, hfields, hargs⟩ := bind_ok.mp hargs
      cases hargs
      have hkept := Mirror.effectFields_brightness hfields
      refine ⟨fun flag => flagsOf_place params _ flag, ?_⟩
      rw [PowerOf, if_neg hkind]
      show (flagsOf params _ % 256).toNat.testBit powerPlace = true ↔ ∃ b ∈ fields.brightness, b ≠ 0
      rw [flagsOf_power, hkept, decide_eq_true_iff]
      cases hb : brightness with
      | none => simp
      | some b =>
        have hbyte := hbytes b (by rw [hkept, hb]; rfl)
        unfold IsByte at hbyte
        simp only [Option.getD_some, Option.mem_def, Option.some.injEq, exists_eq_left']
        omega

theorem sendWledPreset_flags {h : Host} {params : Dict} {destination : Destination} {target : Option (List String)}
    {frame : Frame} (hframe : frame ∈ (sendWledPreset h params destination target).frames) :
    ∃ g v, valuesOf frame.opcode frame.body = some (g, v) ∧ CarriesFlags .wledPreset params v := by
  unfold sendWledPreset at hframe
  split at hframe
  · cases hframe
  · next args hargs =>
    obtain ⟨presetId, -, hargs⟩ := bind_ok.mp hargs
    obtain ⟨n, hn, hargs⟩ := bind_ok.mp hargs
    cases hargs
    obtain ⟨g, hg, hbuilt⟩ := sendTo_built hframe
    have hmasked : ∀ m : Int, byte (m % 256) = byte m := fun m => by
      rw [byte, byte, Int.emod_emod]
    have hvalues := (Mirror.presetOrder_sound destination target (.device 0) (flagsOf params (0 < n)) presetId n).carries
      (g % 256) frame.body hg (by
        rw [← hbuilt]
        simp only [Mirror.presetOrder, buildPresetBody, hmasked])
    rw [show frame.opcode = .preset from (sendTo_routes hframe).2.1]
    refine ⟨_, _, hvalues, fun flag => flagsOf_place params _ flag, ?_⟩
    rw [PowerOf, if_pos rfl]
    exact ⟨n, hn, rfl, flagsOf_power params _⟩

/-- **A frame of an effect carries the flags of the parameters that were planned.** -/
theorem sendOp_flags {env : Environment} {target : Option (List String)} {op : WireOp} {w : World} {kind : EffectKind}
    {params : Dict} {destination : Destination} (hpayload : op.payload = effectSend (some kind) params destination)
    {frame : Frame} (hframe : frame ∈ (sendOp env target op w).frames) :
    ∃ g v, valuesOf frame.opcode frame.body = some (g, v) ∧ CarriesFlags kind params v := by
  unfold sendOp at hframe
  rw [hpayload] at hframe
  cases kind with
  | wledPreset => exact sendWledPreset_flags hframe
  | rlPreset => exact sendControl_flags (by decide) hframe
  | rlEffect => exact sendControl_flags (by decide) hframe

/-! ### From the action to the frame -/

/-- The brightness of a WLED preset is a positive number that is no multiple of 256, or a multiple that is
not positive. -/
def PowerAgrees (e : Effect) : Prop :=
  e.kind = .wledPreset → ∀ n, (e.params.getD "brightness" (.int 0)).toInt = .ok n →
    if 0 < n then ¬ 256 ∣ n else 256 ∣ n

section Effects
variable {inputs : PlannerInputs} {e : Effect} {container : Option OffsetBlock} {op : WireOp}

theorem opOf_flags (hop : OpOf inputs e container op) {env : Environment} {target : Option (List String)} {w : World}
    {frame : Frame} (hframe : frame ∈ (sendOp env target op w).frames) :
    ∃ g v, valuesOf frame.opcode frame.body = some (g, v) ∧
      (∀ flag, v.flags.toNat.testBit (flagPlace flag) =
        lawfulFlag container (persistedFlags inputs e) e.flagsOverride flag) ∧ PowerOf e.kind e.params v := by
  obtain ⟨m, destination, hm, hpayload⟩ := opOf_payload hop
  obtain ⟨hflags, hparams⟩ := materialise_flags hm
  obtain ⟨g, v, hvalues, hcarries⟩ := sendOp_flags hpayload hframe
  refine ⟨g, v, hvalues, fun flag => ?_, ?_⟩
  · rw [hcarries.user, flag_mergeFlags, hflags, chosenFlag_forced]
  · have hpower := hcarries.power
    unfold PowerOf at hpower ⊢
    split
    · next hkind =>
      have hbrightness : (mergeFlags m.params m.flags (overrideWith e.flagsOverride
          (container.map (decide <| · ≠ .none)))).getD "brightness" (.int 0) = e.params.getD "brightness" (.int 0) := by
        have hother : ∀ flag : UserFlag, "brightness" ≠ flag.key := fun flag => by
          cases flag <;> decide
        rw [Dict.getD, get?_mergeFlags hother, hparams (by rw [hkind]; decide), Dict.getD]
      rwa [if_pos hkind, hbrightness] at hpower
    · next hkind => rwa [if_neg hkind] at hpower

theorem user_alike {v : Values} (huser : ∀ flag, v.flags.toNat.testBit (flagPlace flag) =
      lawfulFlag container (persistedFlags inputs e) e.flagsOverride flag) {inputs' : PlannerInputs} {e' : Effect}
    {container' : Option OffsetBlock} {v' : Values} (hsent : FlagsSent inputs' e' container' v')
    (hpersisted : persistedFlags inputs' e' = persistedFlags inputs e) (hoverride : e'.flagsOverride = e.flagsOverride)
    (hcontainer : container'.map (decide <| · ≠ .none) = container.map (decide <| · ≠ .none)) (flag : UserFlag) :
    v'.flags.toNat.testBit (flagPlace flag) = v.flags.toNat.testBit (flagPlace flag) := by
  obtain ⟨op', env, target, w, hop, frame, hframe, g, hvalues⟩ := hsent
  obtain ⟨g', v'', hvalues', huser', -⟩ := opOf_flags hop hframe
  obtain rfl : v'' = v' := congrArg Prod.snd (Option.some.inj (hvalues'.symm.trans hvalues))
  rw [huser', huser, hpersisted, hoverride, ← chosenFlag_forced, ← chosenFlag_forced, hcontainer]

/-- **The flag merge law**: a frame of an effect has the user flags of the override, of the preset and of the
container, whatever its opcode, and POWER_ON as its brightness says just when the number behind that byte agrees
with it. -/
theorem flagLaw_iff (hop : OpOf inputs e container op) {env : Environment} {target : Option (List String)} {w : World}
    {frame : Frame} (hframe : frame ∈ (sendOp env target op w).frames) :
    ∃ g v, valuesOf frame.opcode frame.body = some (g, v) ∧ (FlagLaw inputs e container v ↔ PowerAgrees e) := by
  obtain ⟨g, v, hvalues, huser, hpower⟩ := opOf_flags hop hframe
  refine ⟨g, v, hvalues, ?_⟩
  have hlaw : FlagLaw inputs e container v ↔ (v.flags.toNat.testBit powerPlace = true ↔ ∃ b ∈ v.brightness, b ≠ 0) :=
    ⟨(·.power), fun h => ⟨huser, h, fun _ _ _ _ => user_alike huser⟩⟩
  rw [hlaw]
  unfold PowerOf at hpower
  split at hpower
  · next hkind =>
    obtain ⟨n, hn, hbrightness, hbit⟩ := hpower
    have hagrees : PowerAgrees e ↔ if 0 < n then ¬ 256 ∣ n else 256 ∣ n :=
      ⟨fun h => h hkind n hn, fun h _ n' hn' => Except.ok.inj (hn.symm.trans hn') ▸ h⟩
    rw [hagrees, hbit, hbrightness, decide_eq_true_iff]
    simp only [Option.mem_def, Option.some.injEq, exists_eq_left']
    split <;> omega
  · next hkind => exact iff_of_true hpower fun h => absurd h hkind

end Effects

/-! ### A number past the byte -/

/-- A WLED preset with a brightness, for everyone. -/
def wledPresetOf (brightness : Int) : Effect where
  kind := .wledPreset
  target := .broadcast
  params := [(.str "presetId", .int 1), (.str "brightness", .int brightness)]
  flagsOverride := {armOnSync := some true}

/-- One gateway, and nobody to answer. -/
def oneGateway : World := ⟨⟨[⟨"A", .rf, none⟩], [⟨none⟩, ⟨some "A"⟩], [], [⟨0, some "A", "AABBCCDDEEFF"⟩]⟩, []⟩

def silent : Environment where
  inputs := fun _ => ⟨[1], none, fun _ => none⟩
  clockMs := fun _ => 0
  streams := fun _ _ _ => (.ok (), [])

def presetOp (brightness : Int) : WireOp :=
  ⟨255, .wledPreset ((wledPresetOf brightness).params ++ [(.str "arm_on_sync", .bool true)]) (.group 255), 4, .top⟩

def presetFrame (flags brightness : UInt8) : Frame :=
  ⟨⟨0, some "A", "AABBCCDDEEFF"⟩, .preset, some (.group 255), everyone, [255, flags, 1, brightness]⟩

theorem presetOp_opOf (brightness : Int) : OpOf (silent.inputs oneGateway.host) (wledPresetOf brightness) none (presetOp brightness) :=
  .top rfl (List.mem_singleton.mpr rfl)

theorem flagLaw_iff_twoHundred : ∃ g v, valuesOf .preset [255, 7, 1, 200] = some (g, v) ∧
    (FlagLaw (silent.inputs oneGateway.host) (wledPresetOf 200) none v ↔ PowerAgrees (wledPresetOf 200)) :=
  flagLaw_iff (presetOp_opOf 200) (show presetFrame 7 200 ∈ (sendOp silent none (presetOp 200) oneGateway).frames by
    decide +kernel)

/-- Of brightness 256 the frame carries 0, with POWER_ON set. -/
theorem power_past_byte : presetFrame 7 0 ∈ (sendOp silent none (presetOp 256) oneGateway).frames ∧
    OpOf (silent.inputs oneGateway.host) (wledPresetOf 256) none (presetOp 256) ∧
    valuesOf .preset [255, 7, 1, 0] = some (255, ⟨7, some 1, some 0⟩) ∧
    ¬ FlagLaw (silent.inputs oneGateway.host) (wledPresetOf 256) none ⟨7, some 1, some 0⟩ := by
  refine ⟨by decide +kernel, presetOp_opOf 256, rfl, fun h => ?_⟩
  obtain ⟨b, hb, hne⟩ := h.power.mp rfl
  exact hne (Option.some.inj hb).symm

end RaceLink.Routing
