import RaceLink.Dispatch.Node
import RaceLink.Scenes.CanonicalProofs

/-! What the setup of a container leaves behind in the nodes, whichever strategy won.

`choosePlan_cases` says which plans can be chosen, `setup_deliver` what each does
to a node. On a canonical container every participating node ends with the offset
its block assigns, and the others are never switched on — unless the table of an
explicit block has no row for a known group that takes part: the validator counts
the rows but lets an id repeat, and such a group is sent an explicit 0. -/
namespace RaceLink.Dispatch
open Python Library Domain Protocol Scenes

/-! ### What the validator promises of a block -/

theorem specOf_fits {groupIds : Option (List Int)} {offset : OffsetBlock} (h : offset.Valid groupIds) :
    (specOf offset).Fits := by
  cases offset with
  | none => trivial
  | explicit values => exact ⟨Int.le_refl 0, show (0 : Int) ≤ 65535 by decide⟩
  | linear base step => exact ⟨h.1, h.2⟩
  | vshape base step center => exact ⟨⟨h.1.1, h.1.2⟩, h.2.1, h.2.2⟩
  | modulo base step cycle => exact ⟨⟨h.1.1, h.1.2⟩, h.2.1, h.2.2⟩

/-- A row of the table decides the value of its group; the last one does. -/
theorem tableValue_mem {values : List OffsetEntry} {gid : Int} (h : ∃ e ∈ values, e.id = gid) :
    ⟨gid, tableValue values gid⟩ ∈ values := by
  obtain ⟨e, he, rfl⟩ := h
  have hsome : (values.reverse.find? fun e' => e'.id == e.id).isSome := by
    rw [List.find?_isSome]
    exact ⟨e, List.mem_reverse.mpr he, beq_self_eq_true _⟩
  obtain ⟨e', hfind⟩ := Option.isSome_iff_exists.mp hsome
  have hid : e'.id = e.id := eq_of_beq (List.find?_some (p := fun e' : OffsetEntry => e'.id == e.id) hfind)
  have hmem : e' ∈ values := List.mem_reverse.mp (List.mem_of_find?_eq_some hfind)
  rw [tableValue, hfind, ← hid]
  exact hmem

/-- A group without a row gets 0. -/
theorem tableValue_of_not_mem {values : List OffsetEntry} {gid : Int} (h : ∀ e ∈ values, e.id ≠ gid) :
    tableValue values gid = 0 := by
  have hnone : (values.reverse.find? fun e => e.id == gid) = none := by
    rw [List.find?_eq_none]
    exact fun e he => by simpa using h e (List.mem_reverse.mp he)
  rw [tableValue, hnone]
  rfl

theorem explicitValue_formula {offset : OffsetBlock} (h : formulaMode offset = true) (gid : Int) :
    explicitValue offset gid = evaluateOffsetMs (specOf offset) gid := by
  cases offset with
  | explicit values => cases h
  | _ => rfl

theorem explicitValue_fits {groupIds : Option (List Int)} {offset : OffsetBlock}
    (h : offset.Valid groupIds) (gid : Int) : (OffsetConfig.explicit (explicitValue offset gid)).Fits := by
  cases offset with
  | explicit values =>
    obtain ⟨ids, -, htable⟩ := h
    by_cases hrow : ∃ e ∈ values, e.id = gid
    · exact (htable.entries _ (tableValue_mem hrow)).offset_range
    · push Not at hrow
      rw [explicitValue, tableValue_of_not_mem hrow]
      exact ⟨Int.le_refl 0, show (0 : Int) ≤ 65535 by decide⟩
  | _ =>
    rw [explicitValue_formula rfl]
    exact evaluateOffsetMs_range _ gid

/-! ### The chosen plan -/

instance : IsTrans OptimizerPlan Cheaper := ⟨fun _ _ _ h h' => by unfold Cheaper at *; omega⟩

instance : Std.Total Cheaper := ⟨fun _ _ => by unfold Cheaper; omega⟩

/-- A chosen plan is a candidate, and no candidate is cheaper. -/
theorem choosePlan_spec {isAll : Bool} {participants known : List Int} {offset : OffsetBlock}
    (h : candidates isAll participants known offset ≠ []) :
    choosePlan isAll participants known offset ∈ candidates isAll participants known offset ∧
      ∀ q ∈ candidates isAll participants known offset,
        Cheaper (choosePlan isAll participants known offset) q := by
  obtain ⟨p, hp⟩ := exists_least (r := Cheaper) h
  rw [choosePlan, hp]
  exact ⟨least_mem hp, fun q hq => least_le hp hq⟩

theorem mem_candidates {isAll : Bool} {participants known : List Int} {offset : OffsetBlock}
    {p : OptimizerPlan} : p ∈ candidates isAll participants known offset ↔
      planA isAll offset = some p ∨ planB isAll (if isAll then known else participants) offset = some p ∨
        planC isAll participants known offset = some p := by
  simp only [candidates, List.mem_filterMap, List.mem_cons, List.not_mem_nil, or_false, id]
  constructor
  · rintro ⟨a, rfl | rfl | rfl, h⟩
    · exact .inl h
    · exact .inr (.inl h)
    · exact .inr (.inr h)
  · rintro (h | h | h)
    · exact ⟨_, .inl rfl, h⟩
    · exact ⟨_, .inr (.inl rfl), h⟩
    · exact ⟨_, .inr (.inr rfl), h⟩

/-- Whatever is chosen, it is a list of OPC_OFFSETs: to all, to a participant, or to a known group. -/
theorem choosePlan_ops {isAll : Bool} {participants known : List Int} {offset : OffsetBlock} {op : WireOp}
    (hop : op ∈ (choosePlan isAll participants known offset).ops) :
    ∃ gid config, op = makeOffsetOp gid config ∧ (gid = 255 ∨ gid ∈ participants ∨ gid ∈ known) := by
  by_cases hne : candidates isAll participants known offset = []
  · rw [choosePlan, hne] at hop
    cases hop
  rcases mem_candidates.mp (choosePlan_spec hne).1 with h | h | h
  · unfold planA at h
    split at h
    · rw [← Option.some.inj h] at hop
      exact ⟨255, specOf offset, List.mem_singleton.mp hop, .inl rfl⟩
    · cases h
  · have hgroups : ∀ gid ∈ (if isAll = true then known else participants), gid ∈ participants ∨ gid ∈ known := by
      intro gid hgid
      split at hgid
      · exact .inr hgid
      · exact .inl hgid
    generalize (if isAll = true then known else participants) = groups at h hgroups
    unfold planB at h
    split at h
    · rw [← Option.some.inj h] at hop
      obtain ⟨gid, hgid, rfl⟩ := List.mem_map.mp hop
      exact ⟨gid, .none, rfl, .inr (hgroups gid hgid)⟩
    · split at h
      · cases h
      · rw [← Option.some.inj h] at hop
        obtain ⟨gid, hgid, rfl⟩ := List.mem_map.mp hop
        exact ⟨gid, .explicit (explicitValue offset gid), rfl, .inr (hgroups gid hgid)⟩
  · unfold planC at h
    split at h
    · rw [← Option.some.inj h] at hop
      rcases List.mem_cons.mp hop with rfl | hop
      · exact ⟨255, specOf offset, rfl, .inl rfl⟩
      · obtain ⟨gid, hgid, rfl⟩ := List.mem_map.mp hop
        exact ⟨gid, .none, rfl, .inr (.inr (List.mem_filter.mp hgid).1)⟩
    · cases h

/-- For a broadcast container: the formula itself, or an explicit offset for each known
group. The latter is never taken for mode none: one NONE is shorter. -/
theorem choosePlan_broadcast (known : List Int) {offset : OffsetBlock} (hmode : formulaMode offset = true) :
    choosePlan true [] known offset = ⟨.broadcastFormula, [makeOffsetOp 255 (specOf offset)]⟩ ∨
      offset ≠ .none ∧ known ≠ [] ∧ choosePlan true [] known offset = ⟨.perGroupExplicit,
        known.map fun gid => makeOffsetOp gid (.explicit (explicitValue offset gid))⟩ := by
  have hA : planA true offset = some ⟨.broadcastFormula, [makeOffsetOp 255 (specOf offset)]⟩ := by
    rw [planA, hmode]
    rfl
  have hmemA := mem_candidates.mpr (.inl hA : _ ∨ planB true (if true then known else []) offset = _ ∨
    planC true [] known offset = _)
  obtain ⟨hmem, hmin⟩ := choosePlan_spec (List.ne_nil_of_mem hmemA)
  rcases mem_candidates.mp hmem with h | h | h
  · exact .inl (Option.some.inj (h.symm.trans hA))
  · rw [if_pos rfl, planB, if_neg (by simp)] at h
    split at h
    case isTrue => cases h
    case isFalse hne =>
      have hB := (Option.some.inj h).symm
      refine .inr ⟨fun hnone => ?_, hne, hB⟩
      -- one packet of 2 bytes against at least one of 4
      have hcheap := hmin _ hmemA
      rw [hB, hnone] at hcheap
      obtain ⟨gid, rest, rfl⟩ := List.exists_cons_of_ne_nil hne
      simp only [Cheaper, OptimizerPlan.packetCount, OptimizerPlan.totalBytes, makeOffsetOp,
        length_buildOffsetBody, specOf, offsetPayloadKwargs, OffsetConfig.bodyLength, List.length_map,
        List.length_cons, List.length_nil, List.map_cons, List.map_nil, List.sum_cons, List.sum_nil]
        at hcheap
      omega
  · rw [planC, if_neg (by simp)] at h
    cases h

/-- For a list of groups: a frame for each of them, or the formula for everyone and a NONE
for each known group that is not listed. -/
theorem choosePlan_groups {value : List Int} (known : List Int) (offset : OffsetBlock) (hvalue : value ≠ []) :
    (offset = .none ∧ choosePlan false value known offset =
        ⟨.perGroupExplicit, value.map fun gid => makeOffsetOp gid .none⟩) ∨
      (offset ≠ .none ∧ choosePlan false value known offset = ⟨.perGroupExplicit,
        value.map fun gid => makeOffsetOp gid (.explicit (explicitValue offset gid))⟩) ∨
      (offset ≠ .none ∧ formulaMode offset = true ∧ choosePlan false value known offset =
        ⟨.formulaPlusOverrides, makeOffsetOp 255 (specOf offset) ::
          (known.filter (· ∉ value)).map fun gid => makeOffsetOp gid .none⟩) := by
  obtain ⟨b, hb⟩ : ∃ b, planB false value offset = some b := by
    rw [planB, if_neg hvalue]
    split <;> exact ⟨_, rfl⟩
  have hmemB := mem_candidates.mpr (.inr (.inl hb) : planA false offset = some b ∨
    planB false (if false then known else value) offset = some b ∨
    planC false value known offset = some b)
  obtain ⟨hmem, -⟩ := choosePlan_spec (List.ne_nil_of_mem hmemB)
  rcases mem_candidates.mp hmem with h | h | h
  · cases h
  · rw [planB] at h
    split at h
    · next hnone => exact .inl ⟨hnone.1, (Option.some.inj h).symm⟩
    · next hnone =>
      rw [if_neg (by simpa using hvalue)] at h
      exact .inr (.inl ⟨fun h => hnone ⟨h, rfl⟩, (Option.some.inj h).symm⟩)
  · rw [planC] at h
    split at h
    case isFalse => cases h
    case isTrue hC => exact .inr (.inr ⟨hC.2.2.1, hC.2.1, (Option.some.inj h).symm⟩)

/-- A broadcast container has no table. -/
theorem formulaMode_broadcast {offset : OffsetBlock} {actions : List Effect}
    (h : Container .broadcast offset actions) : formulaMode offset = true := by
  cases offset with
  | explicit values =>
    obtain ⟨ids, hids, -⟩ := h.block
    cases hids
  | _ => rfl

/-- A canonical container always has a setup. -/
theorem planOffsetSetup_total {target : Target} {offset : OffsetBlock} {actions : List Effect}
    (h : Container target offset actions) (known : List Int) :
    ∃ plan, planOffsetSetup target offset known = .ok plan := by
  cases target with
  | device value => exact absurd rfl (h.not_device value)
  | _ => exact ⟨_, rfl⟩

/-- Every setup has a frame. -/
theorem planOffsetSetup_ops {target : Target} {offset : OffsetBlock} {actions : List Effect}
    (h : Container target offset actions) {known : List Int} {plan : OptimizerPlan}
    (hplan : planOffsetSetup target offset known = .ok plan) : plan.ops ≠ [] := by
  cases target with
  | device value => exact absurd rfl (h.not_device value)
  | broadcast =>
    cases hplan
    rcases choosePlan_broadcast known (formulaMode_broadcast h) with hplan | ⟨-, hknown, hplan⟩ <;> rw [hplan]
    · exact List.cons_ne_nil _ _
    · exact mt List.map_eq_nil_iff.mp hknown
  | groups value =>
    have hvalue : ValidIds value := h.scope
    cases hplan
    rcases choosePlan_groups known offset hvalue.nonempty with
      ⟨-, hplan⟩ | ⟨-, hplan⟩ | ⟨-, -, hplan⟩ <;> rw [hplan]
    · exact mt List.map_eq_nil_iff.mp hvalue.nonempty
    · exact mt List.map_eq_nil_iff.mp hvalue.nonempty
    · exact List.cons_ne_nil _ _

/-! ### What it leaves behind -/

/-- A node of this group takes part in the container. -/
def Participates : Target → Int → Prop
  | .broadcast, _ => True
  | .groups value, gid => gid ∈ value
  | .device _, _ => False

/-- A configuration that a strategy gives to the groups that take part. -/
def Configures (offset : OffsetBlock) (gid : Int) (config : OffsetConfig) : Prop :=
  (formulaMode offset = true ∧ config = specOf offset) ∨
    (offset ≠ .none ∧ config = .explicit (explicitValue offset gid))

/-- The effect of a setup on one node. -/
structure Delivered (target : Target) (offset : OffsetBlock) (strategy : Strategy) (d d' : Node) :
    Prop where
  groupId : d'.groupId = d.groupId
  participant : Participates target d.group → Configures offset d.group d'.offset
  other : ¬ Participates target d.group →
    d'.offset = if strategy = .formulaPlusOverrides then .none else d.offset

theorem Delivered.group {target : Target} {offset : OffsetBlock} {strategy : Strategy} {d d' : Node}
    (h : Delivered target offset strategy d d') : d'.group = d.group := by
  rw [Node.group, h.groupId, Node.group]

/-- Frames for single groups, by strategy B. -/
theorem deliver_perGroup {target : Target} {offset : OffsetBlock} {gids : List Int}
    (hgids : ∀ gid ∈ gids, GroupId gid) {f : Int → OffsetConfig} (hf : ∀ gid, (f gid).Fits)
    (hconf : ∀ gid, Configures offset gid (f gid)) {d : Node}
    (hmem : d.group ∈ gids ↔ Participates target d.group) :
    Delivered target offset .perGroupExplicit d
      (d.deliver (gids.map fun gid => makeOffsetOp gid (f gid))) := by
  rw [deliver_groups hgids (fun gid _ => hf gid)]
  by_cases hd : d.group ∈ gids
  · rw [if_pos hd]
    exact ⟨rfl, fun _ => hconf d.group, fun h => absurd (hmem.mp hd) h⟩
  · rw [if_neg hd]
    exact ⟨rfl, fun h => absurd (hmem.mpr h) hd, fun _ => rfl⟩

/-- **The setup of a canonical container, on a node of a known group.** -/
theorem setup_deliver {target : Target} {offset : OffsetBlock} {actions : List Effect}
    (h : Container target offset actions) {known : List Int} (hknown : ∀ gid ∈ known, GroupId gid) :
    ∃ plan, planOffsetSetup target offset known = .ok plan ∧
      ∀ d : Node, d.group ∈ known → Delivered target offset plan.strategy d (d.deliver plan.ops) := by
  have hspec := specOf_fits h.block
  have hfits := explicitValue_fits h.block
  cases target with
  | device value => exact absurd rfl (h.not_device value)
  | broadcast =>
    have hmode := formulaMode_broadcast h
    refine ⟨_, rfl, fun d hd => ?_⟩
    rcases choosePlan_broadcast known hmode with hplan | ⟨hne, -, hplan⟩ <;> rw [hplan]
    · rw [deliver_cons, deliver_nil, receive_broadcast d hspec]
      exact ⟨rfl, fun _ => .inl ⟨hmode, rfl⟩, fun hno => absurd trivial hno⟩
    · exact deliver_perGroup hknown hfits (fun _ => .inr ⟨hne, rfl⟩) ⟨fun _ => trivial, fun _ => hd⟩
  | groups value =>
    have hvalue : ValidIds value := h.scope
    refine ⟨_, rfl, fun d hd => ?_⟩
    rcases choosePlan_groups known offset hvalue.nonempty with
      ⟨rfl, hplan⟩ | ⟨hne, hplan⟩ | ⟨hne, hmode, hplan⟩ <;> rw [hplan]
    · exact deliver_perGroup (f := fun _ => .none) hvalue.range (fun _ => trivial)
        (fun _ => .inl ⟨rfl, rfl⟩) Iff.rfl
    · exact deliver_perGroup hvalue.range hfits (fun _ => .inr ⟨hne, rfl⟩) Iff.rfl
    · have hothers : ∀ gid ∈ known.filter (· ∉ value), GroupId gid :=
        fun gid hgid => hknown gid (List.mem_of_mem_filter hgid)
      rw [deliver_cons, receive_broadcast d hspec,
        deliver_groups hothers (f := fun _ => .none) (fun _ _ => trivial)]
      have hiff : d.group ∈ known.filter (· ∉ value) ↔ ¬ Participates (.groups value) d.group := by
        simp [List.mem_filter, hd, Participates]
      show Delivered _ _ _ d (if d.group ∈ known.filter (· ∉ value) then _ else _)
      by_cases hpart : Participates (.groups value) d.group
      · rw [if_neg (fun hmem => hiff.mp hmem hpart)]
        exact ⟨rfl, fun _ => .inl ⟨hmode, rfl⟩, fun hno => absurd hpart hno⟩
      · rw [if_pos (hiff.mpr hpart)]
        exact ⟨rfl, fun hp => absurd hp hpart, fun _ => rfl⟩

/-! ### The offset of each node -/

/-- A node holds what the block assigns to its group. -/
def Assigned (offset : OffsetBlock) (d : Node) : Prop :=
  match offset with
  | .none => ¬ d.Active
  | .explicit values => d.Active ∧ ⟨d.group, d.offsetMs⟩ ∈ values
  | formula => d.Active ∧ d.offsetMs = evaluateOffsetMs (specOf formula) d.group

/-- The purpose of a setup, for one node before and after it. -/
structure SetUp (target : Target) (offset : OffsetBlock) (before after : Node) : Prop where
  participant : Participates target before.group → Assigned offset after
  other : ¬ Participates target before.group → ¬ before.Active → ¬ after.Active

/-- A table has a row for every known group that takes part. -/
def TableCovers (target : Target) (offset : OffsetBlock) (known : List Int) : Prop :=
  ∀ values, offset = .explicit values →
    ∀ gid ∈ known, Participates target gid → ∃ e ∈ values, e.id = gid

theorem byte_group (d : Node) : byte d.group = d.groupId := by
  rw [← UInt8.toNat_inj]
  have hlt := d.groupId.toNat_lt
  have hbyte : ((byte d.group).toNat : Int) = d.group := byte_fits (by rw [Node.group]; omega)
    (by rw [Node.group]; omega)
  rw [Node.group] at hbyte ⊢
  omega

/-- The two ways to configure a group give its assigned offset. -/
theorem Configures.assigned {groupIds : Option (List Int)} {offset : OffsetBlock} {d : Node}
    (hvalid : offset.Valid groupIds) (h : Configures offset d.group d.offset)
    (hrow : ∀ values, offset = .explicit values → ∃ e ∈ values, e.id = d.group) :
    Assigned offset d := by
  have hformula : formulaMode offset = true → d.offsetMs = evaluateOffsetMs (specOf offset) d.group := by
    intro hmode
    rcases h with ⟨-, hconf⟩ | ⟨-, hconf⟩
    · rw [Node.offsetMs, hconf, ← byte_group d, computeOffsetMs_eq (specOf_fits hvalid)]
    · rw [Node.offsetMs, hconf, ← explicitValue_formula hmode]
      rfl
  have hactive : offset ≠ .none → d.Active := by
    rintro hne hnone
    rcases h with ⟨-, hconf⟩ | ⟨-, hconf⟩ <;> rw [hnone] at hconf
    · cases offset <;> first | exact hne rfl | cases hconf
    · cases hconf
  cases offset with
  | none =>
    rcases h with ⟨-, hconf⟩ | ⟨hne, -⟩
    · exact fun hact => hact hconf
    · exact absurd rfl hne
  | explicit values =>
    refine ⟨hactive (by simp), ?_⟩
    rcases h with ⟨hmode, -⟩ | ⟨-, hconf⟩
    · cases hmode
    · rw [Node.offsetMs, hconf]
      exact tableValue_mem (hrow values rfl)
  | _ => exact ⟨hactive (by simp), hformula rfl⟩

/-- **The setup of a canonical container does what it is for, on every node of a known
group, exactly if the table has a row for each of these groups that takes part.** -/
theorem setup_iff {target : Target} {offset : OffsetBlock} {actions : List Effect}
    (h : (Action.offsetGroup target offset actions).Canonical) {known : List Int}
    (hknown : ∀ gid ∈ known, GroupId gid) :
    ∃ plan, planOffsetSetup target offset known = .ok plan ∧
      ((∀ d : Node, d.group ∈ known → SetUp target offset d (d.deliver plan.ops)) ↔
        TableCovers target offset known) := by
  have hcontainer : Container target offset actions := h.1
  obtain ⟨plan, hplan, hall⟩ := setup_deliver hcontainer hknown
  refine ⟨plan, hplan, fun hset values hvalues gid hgid hpart => ?_, fun hcovers d hd => ?_⟩
  · subst hvalues
    obtain ⟨hlo, hhi⟩ := hknown gid hgid
    have hgroup : (⟨byte gid, .none⟩ : Node).group = gid := byte_fits hlo (by omega)
    have hassigned := (hset ⟨byte gid, .none⟩ (by rwa [hgroup])).participant (by rwa [hgroup])
    refine ⟨_, hassigned.2, ?_⟩
    exact ((hall ⟨byte gid, .none⟩ (by rwa [hgroup])).group).trans hgroup
  · have hdel := hall d hd
    refine ⟨fun hpart => ?_, fun hno hinactive => ?_⟩
    · refine Configures.assigned hcontainer.block (hdel.group ▸ hdel.participant hpart) ?_
      intro values hvalues
      rw [hdel.group]
      exact hcovers values hvalues d.group hd hpart
    · rw [Node.Active, hdel.other hno]
      split
      · exact fun h => h rfl
      · exact hinactive

/-- A container over groups 1 and 2 with two rows for the given ids. -/
def twoRows (first second : Int) : Action :=
  .offsetGroup (.groups [1, 2]) (.explicit [⟨first, 10⟩, ⟨second, 20⟩]) []

/-- The validator accepts two rows for group 1, and group 2 is sent an offset it has no row for. -/
theorem setup_repeated_row :
    canonicalAction (twoRows 1 1).toJson = .ok (twoRows 1 1) ∧
      ∃ plan, planOffsetSetup (.groups [1, 2]) (.explicit [⟨1, 10⟩, ⟨1, 20⟩]) [1, 2] = .ok plan ∧
        ¬ SetUp (.groups [1, 2]) (.explicit [⟨1, 10⟩, ⟨1, 20⟩]) ⟨2, .none⟩
          (Node.deliver ⟨2, .none⟩ plan.ops) := by
  refine ⟨rfl, _, rfl, fun h => ?_⟩
  have hassigned := h.participant (show (2 : Int) ∈ [1, 2] by decide)
  exact absurd hassigned.2 (by decide)

/-- With a row for each group, the setup is right for all nodes. -/
theorem setup_two_rows :
    ∃ plan, planOffsetSetup (.groups [1, 2]) (.explicit [⟨1, 10⟩, ⟨2, 20⟩]) [1, 2, 3] = .ok plan ∧
      ∀ d : Node, d.group ∈ ([1, 2, 3] : List Int) →
        SetUp (.groups [1, 2]) (.explicit [⟨1, 10⟩, ⟨2, 20⟩]) d (d.deliver plan.ops) := by
  have hcanonical : (twoRows 1 2).Canonical :=
    canonicalAction_canonical (show canonicalAction (twoRows 1 2).toJson = .ok (twoRows 1 2) from rfl)
  obtain ⟨plan, hplan, hiff⟩ := setup_iff hcanonical
    (show ∀ gid ∈ ([1, 2, 3] : List Int), GroupId gid by unfold GroupId; decide)
  refine ⟨plan, hplan, hiff.mpr ?_⟩
  intro values hvalues gid hgid hpart
  cases hvalues
  have hpart : gid = 1 ∨ gid = 2 := by simpa [Participates] using hpart
  rcases hpart with rfl | rfl
  · exact ⟨⟨1, 10⟩, by decide, rfl⟩
  · exact ⟨⟨2, 20⟩, by decide, rfl⟩

end RaceLink.Dispatch
