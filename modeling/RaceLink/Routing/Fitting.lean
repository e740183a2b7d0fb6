import RaceLink.Routing.Orders

/-! A call leaves the records right just when its order fits the fleet.

Each record is taken by itself: whether the order writes it is read off its scope and the routes, whether
a frame reaches it off the network it is on. -/
namespace RaceLink.Routing.Mirror
open Python Library Domain Protocol Scenes Dispatch

/-! ### Whom an order reaches, and whom it writes -/

namespace Order

def routes (s : Desk) (o : Order) : List Transport := Routing.routes s.host o.destination o.target

/-- The group byte of the frames. -/
def groupB (o : Order) : Int :=
  match o.destination with
  | .group groupId => groupId % 256
  | .device d => d.groupId % 256

/-- The receiver bytes of the frames. -/
def receiver (o : Order) : Except PyError Bytes :=
  match o.destination with
  | .group _ => .ok everyone
  | .device d => macLast3FromHex d.addr

/-- A frame of the order reaches a device: a route is its transport, and the frame, if one can be built, is
for it. -/
def Reaches (s : Desk) (o : Order) (d : Device) : Prop :=
  ∃ t ∈ o.routes s, ∃ recv3 body, o.receiver = .ok recv3 ∧ recv3.length = 3 ∧ o.build o.groupB = .ok body ∧
    Hears s.host d t ∧ Receives d recv3 ∧ ForGroup d o.groupB

/-- The order writes a record: a group whatever becomes of the frame, a device if there is a route. -/
def Writes (s : Desk) (o : Order) (i : Nat) (d : CachedDevice) : Prop :=
  o.scope.has i d = true ∧ (o.early = true ∨ o.routes s ≠ [])

/-- The order leaves the id of an RL-preset in a record. -/
def Stamps (s : Desk) (o : Order) (pid : Int) (i : Nat) (d : CachedDevice) : Prop :=
  ∃ scope, o.stamped = some (pid, scope) ∧ scope.has i d = true ∧ o.routes s ≠ []

/-- The record is as the order would leave it. -/
structure Already (o : Order) (d : CachedDevice) : Prop where
  shows : Shows d o.values
  effectId : ∀ mode ∈ o.mode, d.effectId = mode

/-- **What an order reaches it writes, and what it writes it reaches**, but for a record that is already so. -/
structure FitsAt (s : Desk) (o : Order) (i : Nat) (d : CachedDevice) : Prop where
  reached : o.Reaches s d.toDevice → o.Writes s i d ∨ Shows d o.values
  written : ¬ o.Reaches s d.toDevice → o.Writes s i d → o.Already d
  stamped : ¬ o.Reaches s d.toDevice → ∀ pid, o.Stamps s pid i d → d.presetId = pid % 256

instance (s : Desk) (o : Order) (i : Nat) (d : CachedDevice) : Decidable (o.Writes s i d) :=
  inferInstanceAs (Decidable (_ ∧ _))

def afterWrite (s : Desk) (o : Order) (i : Nat) (d : CachedDevice) : CachedDevice :=
  if o.Writes s i d then o.write d else d

/-- A record after the order, if the call answers. -/
def after (s : Desk) (o : Order) (i : Nat) (d : CachedDevice) : CachedDevice :=
  match o.stamped with
  | none => o.afterWrite s i d
  | some (pid, scope) =>
    if scope.has i d = true ∧ o.routes s ≠ [] then stamp pid (o.afterWrite s i d) else o.afterWrite s i d

/-- Every record of the fleet fits. -/
def Fits (s : Desk) (o : Order) : Prop := ∀ i d, s.devices[i]? = some d → o.FitsAt s i d

end Order

/-! ### The frames of an order -/

theorem sendM2n_eq_ok {opcode : Opcode} {destination : Option Destination} {recv3 body : Bytes} {t : Transport}
    {frame : Frame} : sendM2n opcode destination recv3 body t = .ok frame ↔
      recv3.length = 3 ∧ frame = ⟨t, opcode, destination, recv3, body⟩ := by
  unfold sendM2n
  split
  · next h => simp [h, eq_comm]
  · next h => simp [h]

theorem built_eq_ok {opcode : Opcode} {destination : Option Destination} {receiver built : Except PyError Bytes}
    {t : Transport} {frame : Frame} :
    (receiver >>= fun recv3 => built >>= fun body => sendM2n opcode destination recv3 body t) = .ok frame ↔
      ∃ recv3 body, receiver = .ok recv3 ∧ recv3.length = 3 ∧ built = .ok body ∧
        frame = ⟨t, opcode, destination, recv3, body⟩ := by
  simp only [bind_ok, sendM2n_eq_ok]
  grind

section Answered
variable {s : Desk} {o : Order}

/-- The frames are those of the routes. -/
theorem mem_frames {frame : Frame} : frame ∈ (o.sent s).frames ↔ ∃ t ∈ o.routes s, ∃ recv3 body,
    o.receiver = .ok recv3 ∧ recv3.length = 3 ∧ o.build o.groupB = .ok body ∧
      frame = ⟨t, o.opcode, some o.destination, recv3, body⟩ := by
  unfold Order.sent Order.routes Order.receiver Order.groupB routes sendTo
  cases o.destination with
  | device d => exact mem_sendOn.trans (exists_congr fun t => and_congr_right fun _ => built_eq_ok)
  | group groupId =>
    have hbuilt : ∀ t, ((o.build (groupId % 256) >>= fun body =>
        sendM2n o.opcode (some (.group groupId)) everyone body t) = .ok frame ↔ _) := fun t =>
      @built_eq_ok o.opcode (some (.group groupId)) (.ok everyone) (o.build (groupId % 256)) t frame
    cases o.target with
    | none => exact mem_sendOn.trans (exists_congr fun t => and_congr_right fun _ => hbuilt t)
    | some networkIds => exact mem_fanOut.trans (exists_congr fun t => and_congr_right fun _ => hbuilt t)

theorem sendOn_answer {send : Transport → Except PyError Frame} {t : Option Transport} {b : Bool}
    (h : (sendOn send t).answer = .ok b) : b = true ↔ t.toList ≠ [] := by
  cases t with
  | none =>
    obtain rfl := Except.ok.inj h
    simp
  | some t =>
    rw [sendOn] at h
    split at h
    · obtain rfl := Except.ok.inj h
      simp
    · cases h

theorem fanOut_answer {send : Transport → Except PyError Frame} {transports : List Transport} {b : Bool}
    (h : (fanOut send transports).answer = .ok b) : b = true ↔ transports ≠ [] := by
  cases transports with
  | nil =>
    obtain rfl := Except.ok.inj h
    simp
  | cons t rest =>
    obtain rfl := Except.ok.inj h
    simp

/-- A sender that answers says whether there was a route. -/
theorem sent_answer {b : Bool} (h : (o.sent s).answer = .ok b) : b = true ↔ o.routes s ≠ [] := by
  unfold Order.sent sendTo at h
  unfold Order.routes routes
  cases hdestination : o.destination with
  | device d =>
    rw [hdestination] at h
    exact sendOn_answer h
  | group groupId =>
    rw [hdestination] at h
    cases htarget : o.target with
    | none =>
      rw [htarget] at h
      exact sendOn_answer h
    | some networkIds =>
      rw [htarget] at h
      exact fanOut_answer h

/-! ### The records after an order -/

theorem change_at (scope : Scope) (f : CachedDevice → CachedDevice) (devices : List CachedDevice) (i : Nat) :
    (scope.change f devices)[i]? = devices[i]?.map fun d => if scope.has i d = true then f d else d := by
  cases scope with
  | group groupB => exact List.getElem?_map
  | device index =>
    rw [Scope.change, List.getElem?_modify]
    by_cases h : index = i
    · simp [Scope.has, h]
    · simp [Scope.has, h, Ne.symm h]

/-- A write keeps the group. -/
theorem has_afterWrite (scope : Scope) (i : Nat) (d : CachedDevice) : scope.has i (o.afterWrite s i d) = scope.has i d := by
  unfold Order.afterWrite
  split
  · cases scope <;> rfl
  · rfl

theorem written_fst : (o.written s).1 = o.sent s := by
  unfold Order.written
  split
  · rfl
  · exact whenSent_fst ..

theorem perform_fst : (o.perform s).1 = o.sent s := by
  unfold Order.perform
  split
  · exact written_fst
  · rw [whenSent_fst, written_fst]

theorem whenSent_snd {sent : Sent} {b : Bool} (h : sent.answer = .ok b) (devices : List CachedDevice)
    (f : List CachedDevice → List CachedDevice) : (whenSent sent devices f).2 = if b then f devices else devices := by
  unfold whenSent
  rw [h]
  cases b <;> rfl

theorem written_at {b : Bool} (hb : (o.sent s).answer = .ok b) (i : Nat) :
    (o.written s).2[i]? = s.devices[i]?.map (o.afterWrite s i) := by
  have hroutes := sent_answer hb
  have hwrites : ∀ d, o.Writes s i d ↔ (if o.early = true ∨ b = true then o.scope.has i d = true else False) := by
    intro d
    unfold Order.Writes
    rw [← hroutes]
    split <;> simp_all
  unfold Order.written Order.afterWrite
  simp only [hwrites]
  by_cases hearly : o.early = true
  · rw [if_pos hearly, change_at]
    simp [hearly]
  · rw [if_neg hearly, whenSent_snd hb]
    cases b with
    | true =>
      rw [if_pos rfl, change_at]
      simp
    | false => simp [hearly]

/-- **The records after a call that answers.** -/
theorem perform_at {b : Bool} (hb : (o.sent s).answer = .ok b) (i : Nat) :
    (o.perform s).2[i]? = s.devices[i]?.map (o.after s i) := by
  have hroutes := sent_answer hb
  unfold Order.perform Order.after
  cases hstamped : o.stamped with
  | none => exact written_at hb i
  | some stamped =>
    obtain ⟨pid, scope⟩ := stamped
    dsimp only
    rw [whenSent_snd (written_fst ▸ hb)]
    cases b with
    | true =>
      rw [if_pos rfl, change_at, written_at hb, Option.map_map]
      refine congrFun (congrArg _ (funext fun d => ?_)) _
      simp [has_afterWrite, hroutes.mp rfl]
    | false =>
      have hnone : o.routes s = [] := by simpa using hroutes
      rw [if_neg Bool.false_ne_true, written_at hb]
      simp [hnone]

variable {d : CachedDevice}

theorem shows_write (o : Order) (d : CachedDevice) : Shows (o.write d) o.values where
  flags := rfl
  presetId p hp := by rw [Order.write, Option.mem_def.mp hp, Option.getD_some]
  brightness b hb := by rw [Order.write, Option.mem_def.mp hb, Option.getD_some]

theorem write_self : o.write d = d ↔ o.Already d := by
  constructor
  · intro h
    refine ⟨h ▸ shows_write o d, fun mode hmode => ?_⟩
    rw [← h, Order.write, Option.mem_def.mp hmode, Option.getD_some]
  · intro h
    have hget : ∀ {value : Option Int} {n : Int}, (∀ m ∈ value, n = m) → value.getD n = n := by
      rintro (_ | m) n hm
      · rfl
      · exact (hm m rfl).symm
    rw [Order.write, ← h.shows.flags, hget h.shows.presetId, hget h.shows.brightness, hget h.effectId]

theorem shows_stamp {v : Values} (h : v.presetId = none) (pid : Int) : Shows (stamp pid d) v ↔ Shows d v := by
  constructor
  · exact fun hshows => ⟨hshows.flags, by rw [h]; nofun, hshows.brightness⟩
  · exact fun hshows => ⟨hshows.flags, by rw [h]; nofun, hshows.brightness⟩

theorem stamp_self {pid : Int} : stamp pid d = d ↔ d.presetId = pid % 256 := by
  constructor
  · intro h
    rw [← h]
    rfl
  · intro h
    rw [stamp, ← h]

/-- An id is left beside the values. -/
theorem stamp_write_self (hsound : o.Sound) (hstamped : o.stamped ≠ none) {pid : Int} :
    stamp pid (o.write d) = d ↔ o.Already d ∧ d.presetId = pid % 256 := by
  have hvalues := hsound.stamped hstamped
  constructor
  · intro h
    have hid : d.presetId = pid % 256 := by
      rw [← h]
      rfl
    refine ⟨write_self.mp ?_, hid⟩
    have hkept : (o.write d).presetId = d.presetId := by
      rw [Order.write, hvalues]
      rfl
    rw [← stamp_self.mpr (hkept.trans hid), h]
  · rintro ⟨halready, hid⟩
    rw [write_self.mpr halready, stamp_self.mpr hid]

theorem stamps_none (h : o.stamped = none) {pid : Int} {i : Nat} : ¬ o.Stamps s pid i d := by
  rintro ⟨scope, hscope, -⟩
  rw [h] at hscope
  cases hscope

theorem stamps_some {stamped : Int × Scope} (h : o.stamped = some stamped) {pid : Int} {i : Nat} :
    o.Stamps s pid i d ↔ pid = stamped.1 ∧ stamped.2.has i d = true ∧ o.routes s ≠ [] := by
  constructor
  · rintro ⟨scope, hscope, hhas⟩
    cases h.symm.trans hscope
    exact ⟨rfl, hhas⟩
  · rintro ⟨rfl, hhas⟩
    exact ⟨stamped.2, h, hhas⟩

/-- A record that the order writes shows the values, and no other does that did not before. -/
theorem shows_after (hsound : o.Sound) {i : Nat} :
    Shows (o.after s i d) o.values ↔ o.Writes s i d ∨ Shows d o.values := by
  have hwrite : Shows (o.afterWrite s i d) o.values ↔ o.Writes s i d ∨ Shows d o.values := by
    unfold Order.afterWrite
    split
    · next h => exact iff_of_true (shows_write o d) (.inl h)
    · next h => exact ⟨.inr, fun hor => hor.resolve_left h⟩
  unfold Order.after
  split
  · exact hwrite
  · next pid scope hstamped =>
    split
    · rw [shows_stamp (hsound.stamped (by rw [hstamped]; nofun)), hwrite]
    · exact hwrite

/-- A record stays as it is if it was already as the order would leave it. -/
theorem after_self (hsound : o.Sound) {i : Nat} : o.after s i d = d ↔
    (o.Writes s i d → o.Already d) ∧ ∀ pid, o.Stamps s pid i d → d.presetId = pid % 256 := by
  have hplain : o.afterWrite s i d = d ↔ (o.Writes s i d → o.Already d) := by
    unfold Order.afterWrite
    split
    · next h => rw [write_self, imp_iff_right h]
    · next h => exact iff_of_true rfl fun hw => absurd hw h
  unfold Order.after
  split
  · next hnone =>
    rw [hplain, and_iff_left fun pid hstamps => absurd hstamps (stamps_none hnone)]
  · next pid scope hstamped =>
    simp only [stamps_some hstamped]
    split
    · next h =>
      have hid : (∀ n, n = pid ∧ scope.has i d = true ∧ o.routes s ≠ [] → d.presetId = n % 256) ↔
          d.presetId = pid % 256 := ⟨fun hall => hall pid ⟨rfl, h⟩, fun heq n hn => hn.1 ▸ heq⟩
      rw [hid]
      unfold Order.afterWrite
      split
      · next hw => rw [stamp_write_self hsound (by rw [hstamped]; nofun), imp_iff_right hw]
      · next hw => rw [stamp_self, and_iff_right fun h' => absurd h' hw]
    · next h => rw [hplain, and_iff_left fun n hn => absurd hn.2 h]

/-! ### Right just when it fits -/

theorem groupB_byte (o : Order) : IsByte o.groupB := by
  unfold Order.groupB IsByte
  split <;> omega

theorem reaches_of_addressed (hsound : o.Sound) {frame : Frame} (hframe : frame ∈ (o.sent s).frames) {e : Device}
    {v : Values} (h : Addressed s.host frame e v) : v = o.values ∧ o.Reaches s e := by
  obtain ⟨t, ht, recv3, body, hrecv3, hthree, hbody, rfl⟩ := mem_frames.mp hframe
  obtain ⟨groupB, hvalues, hgroup⟩ := h.values
  have hread := hsound.carries o.groupB body (groupB_byte o) hbody
  cases hvalues.symm.trans hread
  exact ⟨rfl, t, ht, recv3, body, hrecv3, hthree, hbody, h.hears, h.receives, hgroup⟩

theorem addressed_of_reaches (hsound : o.Sound) {e : Device} (h : o.Reaches s e) :
    ∃ frame ∈ (o.sent s).frames, Addressed s.host frame e o.values := by
  obtain ⟨t, ht, recv3, body, hrecv3, hthree, hbody, hhears, hreceives, hgroup⟩ := h
  refine ⟨⟨t, o.opcode, some o.destination, recv3, body⟩, mem_frames.mpr ⟨t, ht, recv3, body, hrecv3, hthree, hbody, rfl⟩,
    hhears, hreceives, o.groupB, hsound.carries o.groupB body (groupB_byte o) hbody, hgroup⟩

theorem fitsAt_iff (hsound : o.Sound) {i : Nat} : o.FitsAt s i d ↔
    (o.Reaches s d.toDevice → Shows (o.after s i d) o.values) ∧
      (¬ o.Reaches s d.toDevice → o.after s i d = d) := by
  rw [shows_after hsound, after_self hsound]
  exact ⟨fun h => ⟨h.reached, fun hnot => ⟨h.written hnot, h.stamped hnot⟩⟩,
    fun h => ⟨h.1, fun hnot => (h.2 hnot).1, fun hnot => (h.2 hnot).2⟩⟩

/-- Without a route nothing is reached. -/
theorem not_reaches {e : Device} (h : o.routes s = []) : ¬ o.Reaches s e := by
  rintro ⟨t, ht, -⟩
  rw [h] at ht
  cases ht

/-- **An order that is answered leaves the records right just when it fits.** -/
theorem perform_right (hsound : o.Sound) {b : Bool} (hb : (o.perform s).1.answer = .ok b) :
    Right s (o.perform s) ↔ o.Fits s := by
  have hanswer : (o.sent s).answer = .ok b := perform_fst ▸ hb
  have hroutes := sent_answer hanswer
  have hat : ∀ i d d', s.devices[i]? = some d → ((o.perform s).2[i]? = some d' ↔ d' = o.after s i d) := by
    intro i d d' hd
    rw [perform_at hanswer, hd, Option.map_some, Option.some.injEq, eq_comm]
  constructor
  · intro h i d hd
    have hafter := (hat i d _ hd).mpr rfl
    refine (fitsAt_iff hsound).mpr ⟨fun hreaches => ?_, fun hnot => ?_⟩
    · obtain ⟨frame, hframe, haddressed⟩ := addressed_of_reaches hsound hreaches
      have htrue : b = true := hroutes.mpr fun hnone => not_reaches hnone hreaches
      exact h.shows (htrue ▸ hb) i d _ hd hafter frame (perform_fst.symm ▸ hframe) o.values haddressed
    · cases b with
      | false => exact h.refused hb i d _ hd hafter
      | true =>
        refine h.others hb i d _ hd hafter fun frame hframe v haddressed => hnot ?_
        exact (reaches_of_addressed hsound (perform_fst ▸ hframe) haddressed).2
  · intro h
    constructor
    · intro htrue i d d' hd hd' frame hframe v haddressed
      obtain ⟨rfl, hreaches⟩ := reaches_of_addressed hsound (perform_fst ▸ hframe) haddressed
      rw [(hat i d d' hd).mp hd']
      exact ((fitsAt_iff hsound).mp (h i d hd)).1 hreaches
    · intro htrue i d d' hd hd' hnone
      rw [(hat i d d' hd).mp hd']
      refine ((fitsAt_iff hsound).mp (h i d hd)).2 fun hreaches => ?_
      obtain ⟨frame, hframe, haddressed⟩ := addressed_of_reaches hsound hreaches
      exact hnone frame (perform_fst.symm ▸ hframe) o.values haddressed
    · intro hfalse i d d' hd hd'
      rw [(hat i d d' hd).mp hd']
      have hnone : o.routes s = [] := by
        cases hb.symm.trans hfalse
        simpa using hroutes
      exact ((fitsAt_iff hsound).mp (h i d hd)).2 (not_reaches hnone)

end Answered

/-- Without an order the records stay. -/
theorem right_of_unchanged {s : Desk} {out : Outcome} (hdevices : out.2 = s.devices)
    (hanswer : out.1.answer ≠ .ok true) : Right s out where
  shows htrue := absurd htrue hanswer
  others htrue := absurd htrue hanswer
  refused _ i d d' hd hd' := by
    rw [hdevices, hd] at hd'
    exact (Option.some.inj hd').symm

/-- **The optimistic mirror**: a call that answers leaves the records right just when its order fits the
fleet. -/
theorem records_right (s : Desk) (call : Call) {b : Bool} (hb : (run s call).1.answer = .ok b) :
    Right s (run s call) ↔ ∀ o, plan s call = some o → o.Fits s := by
  have hperforms := run_performs s call
  cases horder : plan s call with
  | none =>
    rw [horder] at hperforms
    exact iff_of_true (right_of_unchanged hperforms.1 hperforms.2) fun o ho => absurd ho.symm (Option.some_ne_none o)
  | some o =>
    rw [horder] at hperforms
    have hout : run s call = o.perform s := hperforms
    rw [hout] at hb ⊢
    rw [perform_right (plan_sound s horder) hb]
    exact ⟨fun h o' ho' => Option.some.inj ho' ▸ h, fun h => h o rfl⟩

/-! ### A group, everyone, and a group that nothing is attached for -/

def first : CachedDevice := { addr := "AABBCC000001", groupId := 1, networkId := some "A", flags := 0, presetId := 0, brightness := 0 }
def second : CachedDevice := { addr := "AABBCC000002", groupId := 2, networkId := some "A", flags := 0, presetId := 0, brightness := 0 }

/-- Two devices of different groups on one network. -/
def fleet : Desk where
  networks := [⟨"A", .rf, none⟩]
  groups := [⟨none⟩, ⟨some "A"⟩, ⟨some "A"⟩]
  transports := [⟨0, some "A", "AABBCCDDEEFF"⟩]
  devices := [first, second]

/-- The same without a gateway. -/
def unplugged : Desk := {fleet with transports := []}

/-- Preset 3 for a group. -/
def presetThree (groupId : Int) : Call := .groupPreset groupId 5 3 200 none

theorem presetThree_fits : (groupPresetOrder 1 5 3 200 none).Fits fleet := by
  have hfirst : (groupPresetOrder 1 5 3 200 none).Reaches fleet first.toDevice :=
    ⟨⟨0, some "A", "AABBCCDDEEFF"⟩, by decide +kernel, everyone, [1, 5, 3, 200], rfl, rfl, rfl, rfl, .inl rfl, .inl rfl⟩
  have hsecond : ¬ (groupPresetOrder 1 5 3 200 none).Reaches fleet second.toDevice := by
    rintro ⟨-, -, -, -, -, -, -, -, -, hgroup⟩
    revert hgroup
    unfold ForGroup
    decide
  intro i d hd
  match i with
  | 0 =>
    obtain rfl := Option.some.inj hd
    exact ⟨fun _ => .inl ⟨rfl, .inl rfl⟩, fun h => absurd hfirst h, fun h => absurd hfirst h⟩
  | 1 =>
    obtain rfl := Option.some.inj hd
    exact ⟨fun h => absurd h hsecond, fun _ h => absurd h.1 (by decide), fun _ pid h => absurd h (stamps_none rfl)⟩
  | i + 2 => cases hd

theorem records_right_group : (run fleet (presetThree 1)).1.answer = .ok true ∧ Right fleet (run fleet (presetThree 1)) :=
  have hanswer : (run fleet (presetThree 1)).1.answer = .ok true := by decide +kernel
  ⟨hanswer, (records_right fleet (presetThree 1) hanswer).mpr fun _ ho => Option.some.inj ho ▸ presetThree_fits⟩

/-- A preset for group 255 is for every device, and no record shows it; a preset for a group is refused, and
its members show it. -/
theorem records_wrong :
    ((run fleet (presetThree 255)).1.answer = .ok true ∧ ¬ Right fleet (run fleet (presetThree 255))) ∧
      (run unplugged (presetThree 1)).1.answer = .ok false ∧ ¬ Right unplugged (run unplugged (presetThree 1)) := by
  refine ⟨⟨by decide +kernel, fun h => ?_⟩, by decide +kernel, fun h => ?_⟩
  · have hshows := h.shows (by decide +kernel) 0 first first rfl (by decide +kernel)
      ⟨⟨0, some "A", "AABBCCDDEEFF"⟩, .preset, some (.group 255), everyone, [255, 5, 3, 200]⟩ (by decide +kernel)
      ⟨5, some 3, some 200⟩ ⟨rfl, .inl rfl, 255, rfl, .inr rfl⟩
    exact absurd hshows.flags (by decide)
  · have hkept := h.refused (by decide +kernel) 0 first {first with flags := 5, presetId := 3, brightness := 200} rfl
      (by decide +kernel)
    exact absurd hkept (by decide)

end RaceLink.Routing.Mirror
