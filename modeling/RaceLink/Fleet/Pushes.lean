import RaceLink.Fleet.Moves
import RaceLink.Fleet.Records

/-! What the pushes of a move do, in terms of the fleet before it.

A push takes its transport before the device is filed, so a device goes over the transport
of its old network; if that has none, over the target's, and else over the first. What is
heard puts the first device online that ends in the address of the frame. -/
namespace RaceLink.Fleet
open Python Library Domain Routing Gateways

/-- The route of the push to a device, when those of `earlier` were moved before. -/
def moveRoute (s : State) (target : String) (earlier : List String) (mac : String) : Option Attached :=
  let source := if ∃ a ∈ earlier, denotes s a = denotes s mac then s.transportForNetwork target
    else s.transportForDevice mac
  (source.or (s.transportForNetwork target)).or s.transports.head?

/-- The reply to the push at `mac` puts the device online. -/
def Marks (s : State) (target : String) (air : String → Exchange) (d : DeviceRecord)
    (earlier : List String) (mac : String) : Prop :=
  ∃ u recv3 status, reached (moveRoute s target earlier mac) mac = some (u, recv3) ∧
    (air mac).reply = .acked status ∧ denotes s (hexUpper recv3) = some d.addr

/-- The push at `mac` writes the frame. -/
def Writes (s : State) (target : String) (rf : Dict) (air : String → Exchange) (frame : RfFrame)
    (earlier : List String) (mac : String) : Prop :=
  ∃ u recv3, reached (moveRoute s target earlier mac) mac = some (u, recv3) ∧ (air mac).sent ≠ 0 ∧
    frame = ⟨u.toTransport, mac, recv3, rf⟩

/-- **The records after the devices of `done` were moved and those with `marked` were heard.** -/
structure MoveEffect (s : State) (target : String) (done : List String) (marked : DeviceRecord → Prop)
    (F : DeviceRecord → DeviceRecord) : Prop where
  network : ∀ d, (F d).networkId = if Hit s done d then some target else d.networkId
  kept : ∀ d, ¬ Hit s done d → ¬ marked d → F d = d

section Step
variable {s t : State} {target mac : String} {rf : Dict} {air : String → Exchange} {done : List String}
  {marked : DeviceRecord → Prop} {F : DeviceRecord → DeviceRecord}

theorem hit_append {d : DeviceRecord} {more : List String} :
    Hit s (done ++ more) d ↔ Hit s done d ∨ Hit s more d := by
  simp only [Hit, List.mem_append, or_and_right, exists_or]

theorem hit_singleton {d : DeviceRecord} : Hit s [mac] d ↔ denotes s mac = some d.addr := by
  simp [Hit]

theorem atAddress_of_ne {f : DeviceRecord → DeviceRecord} {d : DeviceRecord} (h : ¬ Hit s [mac] d) :
    atAddress s mac f d = d :=
  if_neg fun heq => h (hit_singleton.mpr heq)

/-- A device is filed, and put offline. -/
theorem fileMove_mapped (target : String) (rf : Dict) (h : Mapped F s t) (mac : String) :
    Mapped (atAddress s mac (markOffline ∘ filedUnder target rf) ∘ F) s (fileMove target rf t mac) := by
  have hfiled := h.changeDevice mac (f := filedUnder target rf) fun _ => rfl
  rw [← atAddress_comp s mac markOffline (g := filedUnder target rf) fun _ => rfl]
  exact hfiled.changeDevice mac (f := markOffline) fun _ => rfl

/-- The network of the device of a MAC, when those of `done` were moved. -/
theorem MoveEffect.networkAt (he : MoveEffect s target done marked F) {d : DeviceRecord}
    (hd : deviceAt s mac = some d) : (F d).networkId =
      if ∃ a ∈ done, denotes s a = denotes s mac then some target else d.networkId := by
  have hdenotes : denotes s mac = some d.addr := by rw [denotes_deviceAt, hd, Option.map_some]
  rw [he.network, hdenotes]
  rfl

/-- The source of a push, as it is resolved before the device is filed. -/
theorem source_eq (h : Mapped F s t) (he : MoveEffect s target done marked F) {d : DeviceRecord}
    (hd : deviceAt s mac = some d) : t.transportForDevice mac =
      if ∃ a ∈ done, denotes s a = denotes s mac then s.transportForNetwork target
      else s.transportForDevice mac := by
  rw [h.transportForDevice, hd, Option.bind_some, he.networkAt hd, transportForDevice_eq, hd, Option.bind_some]
  split <;> rfl

/-- The route of a push, as it is resolved after the device is filed. -/
theorem pushRoute_eq (h : Mapped F s t) (he : MoveEffect s target done marked F) {d : DeviceRecord}
    (hd : deviceAt s mac = some d) :
    (fileMove target rf t mac).pushRoute mac (t.transportForDevice mac) = moveRoute s target done mac := by
  have hfiled := fileMove_mapped target rf h mac
  have hdenotes : denotes s mac = some d.addr := by rw [denotes_deviceAt, hd, Option.map_some]
  have hroute : (fileMove target rf t mac).transportForDevice mac = s.transportForNetwork target := by
    rw [hfiled.transportForDevice, hd, Option.bind_some]
    have hat : atAddress s mac (markOffline ∘ filedUnder target rf) (F d) =
        markOffline (filedUnder target rf (F d)) := if_pos (by rw [h.addr, hdenotes])
    rw [Function.comp_apply, hat]
    rfl
  rw [State.pushRoute, source_eq h he hd, hroute, hfiled.transports]
  rfl

theorem MoveEffect.congr {marked' : DeviceRecord → Prop} (he : MoveEffect s target done marked F)
    (hmarked : ∀ d, marked' d ↔ marked d) : MoveEffect s target done marked' F where
  network := he.network
  kept d hd hn := he.kept d hd fun h => hn ((hmarked d).mpr h)

/-- One more device is filed under the target. -/
theorem MoveEffect.file (he : MoveEffect s target done marked F) (haddr : ∀ d, (F d).addr = d.addr)
    {f : DeviceRecord → DeviceRecord} (hf : ∀ d, (f d).networkId = some target) (mac : String) :
    MoveEffect s target (done ++ [mac]) marked (atAddress s mac f ∘ F) := by
  have hmiss : ∀ d, ¬ Hit s (done ++ [mac]) d → ¬ Hit s done d ∧ ¬ Hit s [mac] (F d) := by
    intro d hd
    rw [hit_append, not_or] at hd
    refine ⟨hd.1, fun h => hd.2 ?_⟩
    rw [hit_singleton] at h ⊢
    rwa [haddr] at h
  have hkeep : ∀ d, ¬ Hit s (done ++ [mac]) d → (atAddress s mac f ∘ F) d = F d := by
    intro d hd
    rw [Function.comp_apply, atAddress_of_ne (hmiss d hd).2]
  refine ⟨fun d => ?_, fun d hd hn => ?_⟩
  · by_cases hmac : denotes s mac = some d.addr
    · rw [if_pos (hit_append.mpr (.inr (hit_singleton.mpr hmac)))]
      simp [atAddress, haddr, hmac, hf]
    · have hiff : Hit s (done ++ [mac]) d ↔ Hit s done d := by
        rw [hit_append, hit_singleton, or_iff_left hmac]
      simp [atAddress, haddr, hmac, hiff, he.network]
  · rw [hkeep d hd, he.kept d (hmiss d hd).1 hn]

/-- One more device is heard. -/
theorem MoveEffect.hear (he : MoveEffect s target done marked F) (a : String) :
    MoveEffect s target done (fun d => marked d ∨ denotes s a = some d.addr)
      (atAddress s a markOnline ∘ F) := by
  refine ⟨fun d => ?_, fun d hd hn => ?_⟩
  · rw [← he.network d, Function.comp_apply, atAddress]
    split <;> rfl
  · obtain ⟨hn, ha⟩ := not_or.mp hn
    rw [Function.comp_apply, he.kept d hd hn, atAddress, if_neg ha]

variable (rf air) in
/-- **One push**, of a device that is there. -/
theorem pushMove_step (h : Mapped F s t) (he : MoveEffect s target done marked F)
    (hfixed : upper (strip mac) = mac) {d : DeviceRecord} (hd : deviceAt s mac = some d) :
    (∀ frame, frame ∈ (pushMove target rf air t mac).2.1 ↔ Writes s target rf air frame done mac) ∧
      ∃ G, Mapped G s (pushMove target rf air t mac).2.2 ∧
        MoveEffect s target (done ++ [mac]) (fun d => marked d ∨ Marks s target air d done mac) G := by
  have hfiled := fileMove_mapped target rf h mac
  have heffect := he.file h.addr (f := markOffline ∘ filedUnder target rf) (fun _ => rfl) mac
  have hroute : (fileMove target rf t mac).pushRoute (upper (strip mac)) (t.transportForDevice mac) =
      moveRoute s target done mac := by
    rw [hfixed]
    exact pushRoute_eq h he hd
  rw [pushMove_state]
  cases hreached : reached (moveRoute s target done mac) mac with
  | none =>
    rw [(pushRf_stopped (by rw [hroute, hfixed]; exact hreached)).2]
    refine ⟨fun frame => iff_of_false List.not_mem_nil ?_, _, hfiled, heffect.congr fun d => or_iff_left ?_⟩
    · rintro ⟨u, recv3, hr, -⟩
      rw [hreached] at hr
      cases hr
    · rintro ⟨u, recv3, status, hr, -⟩
      rw [hreached] at hr
      cases hr
  | some pair =>
    obtain ⟨u, recv3⟩ := pair
    rw [(pushRf_reached (by rw [hroute, hfixed]; exact hreached)).2, hfixed]
    constructor
    · intro frame
      rw [List.mem_replicate]
      constructor
      · rintro ⟨hsent, rfl⟩
        exact ⟨u, recv3, hreached, hsent, rfl⟩
      · rintro ⟨u', recv3', hr, hsent, rfl⟩
        rw [hreached] at hr
        cases hr
        exact ⟨hsent, rfl⟩
    · have hmarks : ∀ d, Marks s target air d done mac ↔
          (∃ status, (air mac).reply = .acked status) ∧ denotes s (hexUpper recv3) = some d.addr := by
        intro d
        constructor
        · rintro ⟨u', recv3', status, hr, hreply, hdenotes⟩
          rw [hreached] at hr
          cases hr
          exact ⟨⟨status, hreply⟩, hdenotes⟩
        · rintro ⟨⟨status, hreply⟩, hdenotes⟩
          exact ⟨u, recv3, status, hreached, hreply, hdenotes⟩
      cases hreply : (air mac).reply with
      | acked status =>
        refine ⟨_, hfiled.changeDevice (hexUpper recv3) (f := markOnline) fun _ => rfl,
          (heffect.hear (hexUpper recv3)).congr fun d => ?_⟩
        rw [hmarks, hreply]
        simp
      | silent =>
        refine ⟨_, hfiled, heffect.congr fun d => or_iff_left ?_⟩
        rw [hmarks, hreply]
        simp
      | raised e =>
        refine ⟨_, hfiled, heffect.congr fun d => or_iff_left ?_⟩
        rw [hmarks, hreply]
        simp

/-- Whom the ACK of one push is taken for. -/
theorem acknowledged_marks (h : Mapped F s t) (he : MoveEffect s target done marked F)
    (hfixed : upper (strip mac) = mac) {d : DeviceRecord} (hd : deviceAt s mac = some d) {e : DeviceRecord} :
    acknowledged (fileMove target rf t mac) mac (t.transportForDevice mac) (air mac) = some e.addr ↔
      Marks s target air e done mac := by
  have hroute : (fileMove target rf t mac).pushRoute (upper (strip mac)) (t.transportForDevice mac) =
      moveRoute s target done mac := by
    rw [hfixed]
    exact pushRoute_eq h he hd
  have hdenotes : denotes (fileMove target rf t mac) = denotes s := (fileMove_mapped target rf h mac).denotes
  unfold acknowledged Marks
  dsimp only
  rw [hroute, hfixed, hdenotes]
  cases hreached : reached (moveRoute s target done mac) mac with
  | none => simp
  | some pair =>
    obtain ⟨u, recv3⟩ := pair
    cases hreply : (air mac).reply with
    | acked status => simp
    | silent => simp
    | raised e => simp

/-! ### Runs -/

theorem effect_refl (s : State) (target : String) : MoveEffect s target [] (fun _ => False) id := by
  refine ⟨fun d => (if_neg ?_).symm, fun _ _ _ => rfl⟩
  rintro ⟨a, ha, -⟩
  cases ha

/-- Devices that are filed without being told. -/
theorem filed_effect (rf : Dict) (h : Mapped F s t) (he : MoveEffect s target done marked F)
    (macs : List String) : ∃ G, Mapped G s (macs.foldl (applyMetadataFlip target rf) t) ∧
      MoveEffect s target (done ++ macs) marked G := by
  induction macs generalizing t done F with
  | nil => exact ⟨F, h, by rwa [List.append_nil]⟩
  | cons mac rest ih =>
    have hfiled := h.changeDevice mac (f := filedUnder target rf) fun _ => rfl
    obtain ⟨G, hG, hGe⟩ := ih hfiled (he.file h.addr (fun _ => rfl) mac)
    exact ⟨G, hG, by rwa [List.append_assoc] at hGe⟩

/-- **The pushes of a move**, one after the other. -/
theorem pushes_effect (rf : Dict) (air : String → Exchange) {macs : List String}
    (hmacs : ∀ mac ∈ macs, upper (strip mac) = mac ∧ ∃ d, deviceAt s mac = some d) (h : Mapped F s t)
    (he : MoveEffect s target done marked F) :
    (∀ frame, frame ∈ (pushEach (pushMove target rf air) macs t).2.1 ↔
        AtTurn (Writes s target rf air frame) done macs) ∧
      ∃ G, Mapped G s (pushEach (pushMove target rf air) macs t).2.2 ∧
        MoveEffect s target (done ++ macs) (fun d => marked d ∨ AtTurn (Marks s target air d) done macs) G := by
  induction macs generalizing t done marked F with
  | nil =>
    refine ⟨fun frame => iff_of_false List.not_mem_nil id, F, h, ?_⟩
    rw [List.append_nil]
    exact he.congr fun d => or_iff_left id
  | cons mac rest ih =>
    obtain ⟨hmac, hrest⟩ := List.forall_mem_cons.mp hmacs
    obtain ⟨hfixed, d, hd⟩ := hmac
    obtain ⟨hframes, G, hG, hGe⟩ := pushMove_step rf air h he hfixed hd
    obtain ⟨hlater, G', hG', hGe'⟩ := ih hrest hG hGe
    rw [pushEach_cons]
    refine ⟨fun frame => ?_, G', hG', ?_⟩
    · rw [List.mem_append, hframes, hlater]
      rfl
    · rw [List.append_assoc] at hGe'
      exact hGe'.congr fun d => or_assoc.symm

/-- **The ACKs of the pushes of a move**, one after the other. -/
theorem mem_ackedBy (rf : Dict) (air : String → Exchange) {macs : List String}
    (hmacs : ∀ mac ∈ macs, upper (strip mac) = mac ∧ ∃ d, deviceAt s mac = some d) (h : Mapped F s t)
    (he : MoveEffect s target done marked F) {e : DeviceRecord} :
    e.addr ∈ ackedBy target rf air macs t ↔ AtTurn (Marks s target air e) done macs := by
  induction macs generalizing t done marked F with
  | nil => exact iff_of_false List.not_mem_nil id
  | cons mac rest ih =>
    obtain ⟨hmac, hrest⟩ := List.forall_mem_cons.mp hmacs
    obtain ⟨hfixed, d, hd⟩ := hmac
    obtain ⟨-, G, hG, hGe⟩ := pushMove_step rf air h he hfixed hd
    rw [ackedBy, List.mem_append, Option.mem_toList, acknowledged_marks h he hfixed hd,
      ih hrest hG hGe]
    rfl

end Step

end RaceLink.Fleet
