import RaceLink.Protocol.Packets

/-! OPC_OFFSET both ways (`protocol/packets.py`): what `build_offset_body` makes of its arguments, and
which byte strings `parse_offset_body` takes for a body. The parser follows the layout of
`racelink_proto.h`, where the centre of a vshape and the cycle of a modulo may be any byte; the builder
makes no centre 255 and no cycle 0. -/
namespace RaceLink.Protocol
open Python Library

/-! ### The arguments -/

/-- The `mode` argument. -/
inductive ModeArg where
  | int (n : Int)
  | str (s : String)
  | other
deriving DecidableEq, Repr

def OFFSET_MODE_NAMES : List (UInt8 × String) :=
  [(OFFSET_MODE_NONE, "none"), (OFFSET_MODE_EXPLICIT, "explicit"), (OFFSET_MODE_LINEAR, "linear"),
    (OFFSET_MODE_VSHAPE, "vshape"), (OFFSET_MODE_MODULO, "modulo")]

/-- `_coerce_mode`. -/
def coerceMode : ModeArg → Except PyError UInt8
  | .int n =>
    match OFFSET_MODE_NAMES.find? fun e => (e.1.toNat : Int) == n with
    | some e => .ok e.1
    | none => .error (.valueError "unknown offset mode int: %s" [.int n])
  | .str s =>
    match OFFSET_MODE_NAMES.find? fun e => e.2 == lower s with
    | some e => .ok e.1
    | none => .error (.valueError
        "unknown offset mode %r; expected one of ['explicit', 'linear', 'modulo', 'none', 'vshape']" [.str s])
  | .other => .error .typeError

/-- The keyword arguments of `build_offset_body`, with their defaults. -/
structure OffsetArgs where
  offsetMs : Int := 0
  baseMs : Int := 0
  stepMs : Int := 0
  center : Int := 0
  cycle : Int := 1
deriving DecidableEq, Repr

/-- The arguments that a mode takes. -/
def OffsetArgs.config (args : OffsetArgs) (m : UInt8) : OffsetConfig :=
  if m = OFFSET_MODE_EXPLICIT then .explicit args.offsetMs
  else if m = OFFSET_MODE_LINEAR then .linear args.baseMs args.stepMs
  else if m = OFFSET_MODE_VSHAPE then .vshape args.baseMs args.stepMs args.center
  else if m = OFFSET_MODE_MODULO then .modulo args.baseMs args.stepMs args.cycle
  else .none

/-- `build_offset_body` with the arguments as they are given. -/
def buildOffset (groupId : Int) (mode : ModeArg) (args : OffsetArgs) : Except PyError Bytes := do
  let m ← coerceMode mode
  return buildOffsetBody groupId (args.config m)

/-- The parameters as a body can carry them. -/
def OffsetConfig.clamped : OffsetConfig → OffsetConfig
  | .none => .none
  | .explicit offsetMs => .explicit (clamp OFFSET_MS_MIN OFFSET_MS_MAX offsetMs)
  | .linear base step =>
    .linear (clamp OFFSET_BASE_MIN OFFSET_BASE_MAX base) (clamp OFFSET_STEP_MIN OFFSET_STEP_MAX step)
  | .vshape base step center =>
    .vshape (clamp OFFSET_BASE_MIN OFFSET_BASE_MAX base) (clamp OFFSET_STEP_MIN OFFSET_STEP_MAX step)
      (clamp OFFSET_CENTER_MIN OFFSET_CENTER_MAX center)
  | .modulo base step cycle =>
    .modulo (clamp OFFSET_BASE_MIN OFFSET_BASE_MAX base) (clamp OFFSET_STEP_MIN OFFSET_STEP_MAX step)
      (clamp OFFSET_CYCLE_MIN OFFSET_CYCLE_MAX cycle)

/-- What the parser returns, as arguments of the builder. -/
def OffsetConfig.mode : OffsetConfig → String
  | .none => "none"
  | .explicit _ => "explicit"
  | .linear .. => "linear"
  | .vshape .. => "vshape"
  | .modulo .. => "modulo"

def OffsetConfig.args : OffsetConfig → OffsetArgs
  | .none => {}
  | .explicit offsetMs => { offsetMs }
  | .linear baseMs stepMs => { baseMs, stepMs }
  | .vshape baseMs stepMs center => { baseMs, stepMs, center }
  | .modulo baseMs stepMs cycle => { baseMs, stepMs, cycle }

/-- `build_offset_body(**parsed)`. -/
def rebuild (parsed : UInt8 × OffsetConfig) : Except PyError Bytes :=
  buildOffset parsed.1.toNat (.str parsed.2.mode) parsed.2.args

/-! ### From the arguments to the body and back -/

variable {config : OffsetConfig} {groupId : Int} {body : Bytes}

theorem clamped_fits (config : OffsetConfig) : config.clamped.Fits := by
  have hformula : ∀ base step, FitsFormula (clamp OFFSET_BASE_MIN OFFSET_BASE_MAX base)
      (clamp OFFSET_STEP_MIN OFFSET_STEP_MAX step) := fun base step =>
    ⟨clamp_range (by decide) base, clamp_range (by decide) step⟩
  cases config with
  | none => trivial
  | explicit offsetMs => exact clamp_range (by decide) offsetMs
  | linear base step => exact hformula base step
  | vshape base step center => exact ⟨hformula base step, clamp_range (by decide) center⟩
  | modulo base step cycle => exact ⟨hformula base step, clamp_range (by decide) cycle⟩

theorem clamp_clamp {lo hi : Int} (h : lo ≤ hi) (n : Int) : clamp lo hi (clamp lo hi n) = clamp lo hi n :=
  clamp_fits (clamp_range h n).1 (clamp_range h n).2

/-- A body carries the clamped parameters. -/
theorem buildOffsetBody_clamped (groupId : Int) (config : OffsetConfig) :
    buildOffsetBody groupId config.clamped = buildOffsetBody groupId config := by
  have hformula : ∀ base step, formulaBytes (clamp OFFSET_BASE_MIN OFFSET_BASE_MAX base)
      (clamp OFFSET_STEP_MIN OFFSET_STEP_MAX step) = formulaBytes base step := fun base step => by
    rw [formulaBytes, clamp_clamp (by decide), clamp_clamp (by decide), formulaBytes]
  cases config with
  | none => rfl
  | explicit offsetMs =>
    rw [OffsetConfig.clamped, buildOffsetBody, clamp_clamp (by decide), buildOffsetBody]
  | linear base step => rw [OffsetConfig.clamped, buildOffsetBody, hformula, buildOffsetBody]
  | vshape base step center =>
    rw [OffsetConfig.clamped, buildOffsetBody, hformula, clamp_clamp (by decide), buildOffsetBody]
  | modulo base step cycle =>
    rw [OffsetConfig.clamped, buildOffsetBody, hformula, clamp_clamp (by decide), buildOffsetBody]

/-- **The parser reads the mode and the clamped parameters.** -/
theorem parse_buildOffset (groupId : Int) (mode : ModeArg) (args : OffsetArgs) :
    ((buildOffset groupId mode args).bind parseOffsetBody) =
      (coerceMode mode).map fun m => (byte groupId, (args.config m).clamped) := by
  unfold buildOffset
  cases hmode : coerceMode mode with
  | error e => rfl
  | ok m =>
    show parseOffsetBody (buildOffsetBody groupId (args.config m)) = .ok (byte groupId, (args.config m).clamped)
    rw [← buildOffsetBody_clamped]
    exact parseOffsetBody_build groupId (clamped_fits _)

/-- The names of the modes are in lower case. -/
theorem lower_names : ∀ e ∈ OFFSET_MODE_NAMES, lower e.2 = e.2 := by
  decide +kernel

/-- What the parser returns selects the mode and the arguments it was made of. -/
theorem rebuild_eq (g : UInt8) (config : OffsetConfig) :
    rebuild (g, config) = .ok (buildOffsetBody g.toNat config) := by
  have hlower : lower config.mode = config.mode := by
    cases config with
    | none => exact lower_names (OFFSET_MODE_NONE, "none") (by decide)
    | explicit _ => exact lower_names (OFFSET_MODE_EXPLICIT, "explicit") (by decide)
    | linear _ _ => exact lower_names (OFFSET_MODE_LINEAR, "linear") (by decide)
    | vshape _ _ _ => exact lower_names (OFFSET_MODE_VSHAPE, "vshape") (by decide)
    | modulo _ _ _ => exact lower_names (OFFSET_MODE_MODULO, "modulo") (by decide)
  unfold rebuild buildOffset coerceMode
  dsimp only
  rw [hlower]
  cases config <;> rfl

/-! ### What the parser accepts -/

/-- A body that the builder does not make: a vshape with centre 255, a modulo with cycle 0. -/
def Stray : Bytes → Prop
  | [_, m, _, _, _, _, last] => (m = OFFSET_MODE_VSHAPE ∧ last = 255) ∨ (m = OFFSET_MODE_MODULO ∧ last = 0)
  | _ => False

/-- The bodies with the layout of `racelink_proto.h`. -/
inductive Layout : Bytes → UInt8 × OffsetConfig → Prop where
  | none (g : UInt8) : Layout [g, OFFSET_MODE_NONE] (g, .none)
  | explicit (g ms0 ms1 : UInt8) : Layout [g, OFFSET_MODE_EXPLICIT, ms0, ms1] (g, .explicit (readU16 ms0 ms1))
  | linear (g b0 b1 s0 s1 : UInt8) :
    Layout [g, OFFSET_MODE_LINEAR, b0, b1, s0, s1] (g, .linear (readI16 b0 b1) (readI16 s0 s1))
  | vshape (g b0 b1 s0 s1 c : UInt8) :
    Layout [g, OFFSET_MODE_VSHAPE, b0, b1, s0, s1, c] (g, .vshape (readI16 b0 b1) (readI16 s0 s1) c.toNat)
  | modulo (g b0 b1 s0 s1 cy : UInt8) :
    Layout [g, OFFSET_MODE_MODULO, b0, b1, s0, s1, cy] (g, .modulo (readI16 b0 b1) (readI16 s0 s1) cy.toNat)

theorem layout_of_params {g m : UInt8} {rest : Bytes} (h : parseOffsetParams m rest = .ok config) :
    Layout (g :: m :: rest) (g, config) := by
  unfold parseOffsetParams at h
  split at h
  · next hm =>
    subst hm
    split at h <;> cases h
    exact .none g
  · split at h
    · next hm =>
      subst hm
      split at h <;> cases h
      exact .explicit ..
    · split at h
      · next hm =>
        subst hm
        split at h <;> cases h
        exact .linear ..
      · split at h
        · next hm =>
          subst hm
          split at h <;> cases h
          exact .vshape ..
        · split at h
          · next hm =>
            subst hm
            split at h <;> cases h
            exact .modulo ..
          · cases h

/-- **The parser accepts the bodies of that layout, and reads them by it.** -/
theorem parseOffsetBody_ok_iff {parsed : UInt8 × OffsetConfig} :
    parseOffsetBody body = .ok parsed ↔ Layout body parsed := by
  constructor
  · intro h
    match body with
    | [] => cases h
    | [_] => cases h
    | g :: m :: rest =>
      obtain ⟨config, hparams, hparsed⟩ := bind_ok.mp h
      cases hparsed
      exact layout_of_params hparams
  · intro h
    cases h <;> rfl

/-! ### From the body to the arguments and back -/

/-- A stray body with the byte in its last place that the builder writes. -/
def mended : Bytes → Bytes
  | [g, m, b0, b1, s0, s1, _] => [g, m, b0, b1, s0, s1, if m = OFFSET_MODE_VSHAPE then 254 else 1]
  | body => body

theorem formulaBytes_read (b0 b1 s0 s1 : UInt8) :
    formulaBytes (readI16 b0 b1) (readI16 s0 s1) = [b0, b1, s0, s1] := by
  have hbase : clamp OFFSET_BASE_MIN OFFSET_BASE_MAX (readI16 b0 b1) = readI16 b0 b1 :=
    clamp_fits (readI16_range b0 b1).1 (readI16_range b0 b1).2
  have hstep : clamp OFFSET_STEP_MIN OFFSET_STEP_MAX (readI16 s0 s1) = readI16 s0 s1 :=
    clamp_fits (readI16_range s0 s1).1 (readI16_range s0 s1).2
  rw [formulaBytes, hbase, hstep, le16_readI16, le16_readI16]
  rfl

/-- **An accepted body is built again as it was, but for the last byte of a stray one.** -/
theorem build_of_layout {parsed : UInt8 × OffsetConfig} (h : Layout body parsed) :
    (¬ Stray body → buildOffsetBody parsed.1.toNat parsed.2 = body) ∧
      (Stray body → buildOffsetBody parsed.1.toNat parsed.2 = mended body) := by
  cases h with
  | none g => exact ⟨fun _ => by rw [buildOffsetBody, byte_of_toNat], fun hstray => hstray.elim⟩
  | explicit g ms0 ms1 =>
    refine ⟨fun _ => ?_, fun hstray => hstray.elim⟩
    have hms : clamp OFFSET_MS_MIN OFFSET_MS_MAX (readU16 ms0 ms1) = readU16 ms0 ms1 :=
      clamp_fits (readU16_range ms0 ms1).1 (readU16_range ms0 ms1).2
    rw [buildOffsetBody, hms, le16_readU16, byte_of_toNat]
    rfl
  | linear g b0 b1 s0 s1 =>
    refine ⟨fun _ => ?_, fun hstray => hstray.elim⟩
    rw [buildOffsetBody, formulaBytes_read, byte_of_toNat]
    rfl
  | vshape g b0 b1 s0 s1 c =>
    have hc : c.toNat < 256 := c.toNat_lt
    rw [buildOffsetBody, formulaBytes_read, byte_of_toNat]
    refine ⟨fun hnot => ?_, fun hstray => ?_⟩
    · have hne : c.toNat ≠ 255 := fun heq => hnot (.inl ⟨rfl, UInt8.toNat_inj.mp heq⟩)
      have hclamp : clamp OFFSET_CENTER_MIN OFFSET_CENTER_MAX c.toNat = c.toNat :=
        clamp_fits (Int.natCast_nonneg _) (show (c.toNat : Int) ≤ 254 by omega)
      rw [hclamp, byte_of_toNat]
      rfl
    · obtain rfl : c = 255 := by
        rcases hstray with ⟨-, hlast⟩ | ⟨hm, -⟩
        · exact hlast
        · exact absurd hm (by decide)
      rfl
  | modulo g b0 b1 s0 s1 cy =>
    have hcy : cy.toNat < 256 := cy.toNat_lt
    rw [buildOffsetBody, formulaBytes_read, byte_of_toNat]
    refine ⟨fun hnot => ?_, fun hstray => ?_⟩
    · have hne : cy.toNat ≠ 0 := fun heq => hnot (.inr ⟨rfl, UInt8.toNat_inj.mp heq⟩)
      have hclamp : clamp OFFSET_CYCLE_MIN OFFSET_CYCLE_MAX cy.toNat = cy.toNat :=
        clamp_fits (show (1 : Int) ≤ cy.toNat by omega) (show (cy.toNat : Int) ≤ 255 by omega)
      rw [hclamp, byte_of_toNat]
      rfl
    · obtain rfl : cy = 0 := by
        rcases hstray with ⟨hm, -⟩ | ⟨-, hlast⟩
        · exact absurd hm (by decide)
        · exact hlast
      rfl

/-- The builder makes no stray body. -/
theorem not_stray_build (groupId : Int) (config : OffsetConfig) : ¬ Stray (buildOffsetBody groupId config) := by
  cases config with
  | vshape base step center =>
    rintro (⟨-, hlast⟩ | ⟨hm, -⟩)
    · have hrange := clamp_range (show OFFSET_CENTER_MIN ≤ OFFSET_CENTER_MAX by decide) center
      have hread : ((byte (clamp OFFSET_CENTER_MIN OFFSET_CENTER_MAX center)).toNat : Int) = 255 := by
        rw [hlast]
        rfl
      simp only [OFFSET_CENTER_MIN, OFFSET_CENTER_MAX] at hrange hread
      rw [byte_fits hrange.1 (by omega)] at hread
      omega
    · exact absurd hm (by decide)
  | modulo base step cycle =>
    rintro (⟨hm, -⟩ | ⟨-, hlast⟩)
    · exact absurd hm (by decide)
    · have hrange := clamp_range (show OFFSET_CYCLE_MIN ≤ OFFSET_CYCLE_MAX by decide) cycle
      have hread : ((byte (clamp OFFSET_CYCLE_MIN OFFSET_CYCLE_MAX cycle)).toNat : Int) = 0 := by
        rw [hlast]
        rfl
      simp only [OFFSET_CYCLE_MIN, OFFSET_CYCLE_MAX] at hrange hread
      rw [byte_fits (by omega) hrange.2] at hread
      omega
  | none => exact id
  | explicit _ => exact id
  | linear _ _ => exact id

/-- A body that the builder makes of some arguments. -/
def Built (body : Bytes) : Prop := ∃ groupId mode args, buildOffset groupId mode args = .ok body

def Accepted (body : Bytes) : Prop := ∃ parsed, parseOffsetBody body = .ok parsed

theorem Built.not_stray (h : Built body) : ¬ Stray body := by
  obtain ⟨groupId, mode, args, hbuild⟩ := h
  obtain ⟨m, -, hbody⟩ := bind_ok.mp hbuild
  cases hbody
  exact not_stray_build groupId _

theorem Built.accepted (h : Built body) : Accepted body := by
  obtain ⟨groupId, mode, args, hbuild⟩ := h
  obtain ⟨m, -, hbody⟩ := bind_ok.mp hbuild
  cases hbody
  exact ⟨_, buildOffsetBody_clamped groupId _ ▸ parseOffsetBody_build groupId (clamped_fits _)⟩

theorem Stray.accepted (h : Stray body) : Accepted body := by
  match body with
  | [g, m, b0, b1, s0, s1, last] =>
    rcases h with ⟨rfl, rfl⟩ | ⟨rfl, rfl⟩
    · exact ⟨_, parseOffsetBody_ok_iff.mpr (.vshape g b0 b1 s0 s1 255)⟩
    · exact ⟨_, parseOffsetBody_ok_iff.mpr (.modulo g b0 b1 s0 s1 0)⟩

/-- What is accepted and not stray is what the builder makes of what was read. -/
theorem Accepted.built (h : Accepted body) (hnot : ¬ Stray body) : Built body := by
  obtain ⟨parsed, hparsed⟩ := h
  have hbuild := (build_of_layout (parseOffsetBody_ok_iff.mp hparsed)).1 hnot
  exact ⟨_, _, _, (rebuild_eq parsed.1 parsed.2).trans (congrArg Except.ok hbuild)⟩

/-- **The offset codec**: the parser reads what the builder was given, clamped; it accepts what the
builder makes, and the stray bodies; and an accepted body is built again unless it is stray. -/
theorem offset_codec :
    (∀ groupId mode args, ((buildOffset groupId mode args).bind parseOffsetBody) =
      (coerceMode mode).map fun m => (byte groupId, (args.config m).clamped)) ∧
    (∀ body, Accepted body ↔ Built body ∨ Stray body) ∧ (∀ body, Stray body → ¬ Built body) ∧
    ∀ body parsed, parseOffsetBody body = .ok parsed →
      (¬ Stray body → rebuild parsed = .ok body) ∧ (Stray body → rebuild parsed = .ok (mended body)) := by
  refine ⟨parse_buildOffset, fun body => ⟨fun h => ?_, fun h => h.elim Built.accepted Stray.accepted⟩,
    fun body hstray hbuilt => hbuilt.not_stray hstray, fun body parsed hparsed => ?_⟩
  · by_cases hstray : Stray body
    · exact .inr hstray
    · exact .inl (h.built hstray)
  · have hbuild := build_of_layout (parseOffsetBody_ok_iff.mp hparsed)
    rw [rebuild_eq]
    exact ⟨fun hnot => congrArg _ (hbuild.1 hnot), fun hstray => congrArg _ (hbuild.2 hstray)⟩

theorem offset_codec_linear :
    rebuild (1, .linear (readI16 0 0) (readI16 156 255)) = .ok [1, OFFSET_MODE_LINEAR, 0, 0, 156, 255] :=
  (offset_codec.2.2.2 [1, OFFSET_MODE_LINEAR, 0, 0, 156, 255] _
    (parseOffsetBody_ok_iff.mpr (.linear 1 0 0 156 255))).1 id

/-- A vshape whose centre is the last byte value there is: it is read with it, and built with another. -/
theorem offset_codec_stray : Accepted [1, OFFSET_MODE_VSHAPE, 0, 0, 100, 0, 255] ∧
    ¬ Built [1, OFFSET_MODE_VSHAPE, 0, 0, 100, 0, 255] :=
  have hstray : Stray [1, OFFSET_MODE_VSHAPE, 0, 0, 100, 0, 255] := .inl ⟨rfl, rfl⟩
  ⟨hstray.accepted, fun h => h.not_stray hstray⟩

end RaceLink.Protocol
