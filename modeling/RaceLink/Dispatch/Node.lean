import RaceLink.Dispatch.Optimizer

/-! A node in the field, as `racelink_proto.h` describes it: its group and its
effective offset state. OPC_OFFSET alone changes the state; an OPC_CONTROL or
OPC_PRESET is accepted when its group fits and its OFFSET_MODE flag equals the
state. -/
namespace RaceLink.Dispatch
open Python Library Domain Protocol Scenes

structure Node where
  groupId : UInt8
  offset : OffsetConfig
deriving DecidableEq, Repr

/-- The group as the host names it. -/
def Node.group (d : Node) : Int := d.groupId.toNat

/-- An offset is configured. -/
def Node.Active (d : Node) : Prop := d.offset ≠ .none

instance (d : Node) : Decidable d.Active := inferInstanceAs (Decidable (d.offset ≠ .none))

def Node.offsetMs (d : Node) : Int := computeOffsetMs d.offset d.groupId

/-- The filter on the first byte of a body. -/
def Node.Hears (d : Node) (groupId : UInt8) : Prop := groupId = d.groupId ∨ groupId = 255

instance (d : Node) (groupId : UInt8) : Decidable (d.Hears groupId) :=
  inferInstanceAs (Decidable (groupId = d.groupId ∨ groupId = 255))

/-- An OPC_OFFSET body arrives. -/
def Node.receiveOffset (d : Node) (body : Bytes) : Node :=
  match parseOffsetBody body with
  | .ok (groupId, config) => if d.Hears groupId then {d with offset := config} else d
  | .error _ => d

/-- An op arrives: the other opcodes leave the offset state. -/
def Node.receive (d : Node) (op : WireOp) : Node :=
  match op.payload with
  | .offset config => d.receiveOffset (buildOffsetBody op.targetGroup config)
  | _ => d

/-- The ops arrive in order. -/
def Node.deliver (d : Node) (ops : List WireOp) : Node := ops.foldl Node.receive d

/-! ### What OPC_OFFSET does -/

@[simp] theorem deliver_nil (d : Node) : d.deliver [] = d := rfl

@[simp] theorem deliver_cons (d : Node) (op : WireOp) (ops : List WireOp) :
    d.deliver (op :: ops) = (d.receive op).deliver ops := rfl

theorem deliver_append (d : Node) (ops ops' : List WireOp) :
    d.deliver (ops ++ ops') = (d.deliver ops).deliver ops' := List.foldl_append ..

/-- Parameters that fit are passed on as they are. -/
theorem offsetPayloadKwargs_fits {config : OffsetConfig} (h : config.Fits) :
    offsetPayloadKwargs config = config := by
  cases config with
  | modulo base step cycle => exact congrArg (OffsetConfig.modulo base step) (max_eq_right h.2.1)
  | _ => rfl

theorem receive_offset (d : Node) (gid : Int) {config : OffsetConfig} (h : config.Fits) :
    d.receive (makeOffsetOp gid config) =
      if d.Hears (byte gid) then {d with offset := config} else d := by
  show d.receiveOffset (buildOffsetBody gid (offsetPayloadKwargs config)) = _
  rw [offsetPayloadKwargs_fits h, Node.receiveOffset, parseOffsetBody_build gid h]

/-- A broadcast configures every node. -/
theorem receive_broadcast (d : Node) {config : OffsetConfig} (h : config.Fits) :
    d.receive (makeOffsetOp 255 config) = {d with offset := config} := by
  rw [receive_offset d 255 h, if_pos (.inr rfl)]

/-- The ids a group can have. -/
def GroupId (gid : Int) : Prop := 0 ≤ gid ∧ gid ≤ 254

/-- A frame for one group is heard by that group alone. -/
theorem hears_group {d : Node} {gid : Int} (h : GroupId gid) : d.Hears (byte gid) ↔ d.group = gid := by
  obtain ⟨hlo, hhi⟩ := h
  have hbyte : ((byte gid).toNat : Int) = gid := byte_fits hlo (by omega)
  have h255 : byte gid ≠ 255 := fun heq => by
    rw [heq] at hbyte
    have : ((255 : UInt8).toNat : Int) = 255 := rfl
    omega
  rw [Node.Hears, Node.group, or_iff_left h255, ← UInt8.toNat_inj]
  omega

/-- Frames for single groups: a node that is among them ends with its own configuration,
the others are left alone. -/
theorem deliver_groups {gids : List Int} (hgids : ∀ gid ∈ gids, GroupId gid) {f : Int → OffsetConfig}
    (hf : ∀ gid ∈ gids, (f gid).Fits) (d : Node) :
    d.deliver (gids.map fun gid => makeOffsetOp gid (f gid)) =
      if d.group ∈ gids then {d with offset := f d.group} else d := by
  induction gids generalizing d with
  | nil => rfl
  | cons gid rest ih =>
    have hgid := hgids gid (List.mem_cons_self ..)
    have hrest := ih (fun g hg => hgids g (List.mem_cons_of_mem _ hg))
      (fun g hg => hf g (List.mem_cons_of_mem _ hg))
    rw [List.map_cons, deliver_cons, receive_offset d gid (hf gid (List.mem_cons_self ..)), hrest]
    by_cases hd : d.group = gid
    · rw [if_pos ((hears_group hgid).mpr hd), if_pos (List.mem_cons.mpr (.inl hd)), ← hd]
      -- a later frame for the same group carries the same configuration
      show (if d.group ∈ rest then _ else _) = _
      split <;> rfl
    · rw [if_neg (mt (hears_group hgid).mp hd)]
      simp only [List.mem_cons, hd, false_or]

end RaceLink.Dispatch
