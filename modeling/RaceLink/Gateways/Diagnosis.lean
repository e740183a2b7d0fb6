import RaceLink.Gateways.Steps

/-! What a bind record says of its gateway (`services/gateway_bind_service.py`).

A record is right if it shows a conflict just where the settings that the gateway
reported differ from those its network expects, and lists the fields in which they do.
As long as settings can be compared, every call leaves such a record but a rebind. That
names the new network first and looks at the settings then: refused in between, it leaves
the state and the fields that were found against the old network. And it takes a gateway
that has not reported anything for one that differs in all fields, which `evaluate` parks
as pending. -/
namespace RaceLink.Gateways.Diagnosis
open Python Library Domain Routing

/-! ### The property -/

/-- `_rf_diff` finds fields in which the settings disagree. -/
def Differ (actual expected : Option Dict) : Prop := ∃ diffs, rfDiff actual expected = .ok diffs ∧ diffs ≠ []

/-- What a record shows is what its settings say. -/
structure Diagnosed (r : BindRecord) : Prop where
  conflict : r.state = .conflict ↔
    r.networkId ≠ none ∧ r.rfConfigActual ≠ none ∧ Differ r.rfConfigActual r.rfConfigExpected
  fields : r.state = .conflict → rfDiff r.rfConfigActual r.rfConfigExpected = .ok r.conflictFields
  bound : r.state = .bound → r.networkId ≠ none ∧
    (r.rfConfigActual ≠ none → rfDiff r.rfConfigActual r.rfConfigExpected = .ok [])
  clear : r.state ≠ .conflict → r.conflictFields = []

theorem not_differ_nil {actual expected : Option Dict} (h : rfDiff actual expected = .ok []) :
    ¬ Differ actual expected := by
  intro hdiffer
  obtain ⟨diffs, hdiffs, hne⟩ := hdiffer
  rw [h] at hdiffs
  exact hne (Except.ok.inj hdiffs).symm

theorem not_differ_error {actual expected : Option Dict} {e : PyError} (h : rfDiff actual expected = .error e) :
    ¬ Differ actual expected := by
  intro hdiffer
  obtain ⟨diffs, hdiffs, -⟩ := hdiffer
  rw [h] at hdiffs
  cases hdiffs

section States
variable {r : BindRecord}

theorem diagnosed_bound (hstate : r.state = .bound) (hnetwork : r.networkId ≠ none) (hfields : r.conflictFields = []) :
    Diagnosed r ↔ (r.rfConfigActual ≠ none → rfDiff r.rfConfigActual r.rfConfigExpected = .ok []) := by
  have hne : r.state ≠ .conflict := by
    rw [hstate]
    decide
  refine ⟨fun h => (h.bound hstate).2, fun h => ⟨⟨fun hc => absurd hc hne, fun hc => ?_⟩, fun hc => absurd hc hne,
    fun _ => ⟨hnetwork, h⟩, fun _ => hfields⟩⟩
  exact absurd hc.2.2 (not_differ_nil (h hc.2.1))

theorem diagnosed_conflict (hstate : r.state = .conflict) (hnetwork : r.networkId ≠ none)
    (hfields : r.conflictFields ≠ []) :
    Diagnosed r ↔ r.rfConfigActual ≠ none ∧
      rfDiff r.rfConfigActual r.rfConfigExpected = .ok r.conflictFields := by
  have hne : r.state ≠ .bound := by
    rw [hstate]
    decide
  refine ⟨fun h => ⟨(h.conflict.mp hstate).2.1, h.fields hstate⟩, fun ⟨hactual, hdiff⟩ => ?_⟩
  exact ⟨⟨fun _ => ⟨hnetwork, hactual, _, hdiff, hfields⟩, fun _ => hstate⟩, fun _ => hdiff,
    fun hb => absurd hb hne, fun hc => absurd hstate hc⟩

theorem diagnosed_open (hstate : r.state = .pending ∨ r.state = .unbound) (hfields : r.conflictFields = []) :
    Diagnosed r ↔
      ¬ (r.networkId ≠ none ∧ r.rfConfigActual ≠ none ∧ Differ r.rfConfigActual r.rfConfigExpected) := by
  have hconflict : r.state ≠ .conflict := by
    rcases hstate with h | h <;> rw [h] <;> decide
  have hbound : r.state ≠ .bound := by
    rcases hstate with h | h <;> rw [h] <;> decide
  refine ⟨fun h hc => hconflict (h.conflict.mpr hc), fun h => ?_⟩
  exact ⟨⟨fun hc => absurd hc hconflict, fun hc => absurd hc h⟩, fun hc => absurd hc hconflict,
    fun hb => absurd hb hbound, fun _ => hfields⟩

/-- A conflict has fields. -/
theorem Diagnosed.fields_ne_nil (h : Diagnosed r) (hstate : r.state = .conflict) : r.conflictFields ≠ [] := by
  obtain ⟨-, -, diffs, hdiffs, hne⟩ := h.conflict.mp hstate
  rw [h.fields hstate] at hdiffs
  rwa [Except.ok.inj hdiffs]

end States

/-! ### Settings that can be compared -/

/-- Settings that agree with themselves, as those with a NaN or an infinite value do not. -/
def Comparable (cfg : Dict) : Prop := rfDiff (some cfg) (some cfg) = .ok []

/-- What is known of the gateway can be compared. -/
def Readable (r : BindRecord) : Prop := ∀ cfg, r.rfConfigActual = some cfg → Comparable cfg

/-- What a gateway reports can be compared. -/
theorem comparable_settings (settings : RfSettings) : Comparable settings.toDict := by
  simp [Comparable, rfDiff, RF_FIELDS, RfSettings.toDict, Dict.get, fieldAgrees, Json.toInt]

theorem comparable_channel {region : String} {channelId : Int} {cfg : Dict}
    (h : channelRfConfig region channelId = some cfg) : Comparable cfg := by
  obtain ⟨c, -, rfl⟩ := Option.map_eq_some_iff.mp h
  exact comparable_settings _

theorem comparable_seeded {params : ResolveParams} {actual seeded : Dict} (hactual : Comparable actual)
    (h : seededConfig params actual = .ok seeded) : Comparable seeded := by
  unfold seededConfig at h
  split at h
  · cases h
    exact hactual
  · split at h
    · cases h
    · cases h
    · split at h
      · cases h
      · next cfg hcfg =>
        cases h
        exact comparable_channel hcfg

/-! ### The condition -/

/-- What a record shows for its network is right for another one as well. -/
def Carries (record : BindRecord) (network : NetworkRecord) : Prop :=
  record.rfConfigActual = none ∨
    match record.state with
    | .conflict => rfDiff record.rfConfigActual network.rfConfig = .ok record.conflictFields
    | _ => ¬ Differ record.rfConfigActual network.rfConfig

/-- A rebind that goes through finds known settings if it asks, and settings that can be
compared if it pushes them. -/
structure Answered (record : BindRecord) (network : NetworkRecord) (onMismatch : String) : Prop where
  asked : onMismatch = "ask" → record.rfConfigActual = none → rfDiff none network.rfConfig = .ok []
  pushed : onMismatch = "retune_gateway" → ∀ target, network.rfConfig = some target →
    Differ record.rfConfigActual (some target) → Comparable target

/-- Where a rebind that passes its checks leaves a right record. -/
structure RebindKeeps (s : State) (record : BindRecord) (network : NetworkRecord) (onMismatch : String)
    (refusal : Option String) : Prop where
  blocked : Blocked s record network onMismatch refusal → Carries record network
  answered : ¬ Blocked s record network onMismatch refusal → Answered record network onMismatch

/-- Where an action leaves a right record. -/
def ActKeeps (s : State) (record : BindRecord) (action : Action) (params : ResolveParams) (answers : Answers) :
    Prop :=
  match action with
  | .retuneGateway => record.state = .conflict → ¬ Refused s record answers.refusal →
      ∀ target, record.rfConfigExpected = some target → target ≠ [] → Comparable target
  | .rebind => ∀ network, Admissible s record params network →
      RebindKeeps s record network (strip params.onMismatch) answers.refusal
  | _ => True

/-- Neither a match nor a conflict. -/
def Undecided (r : BindRecord) : Prop := r.state ≠ .bound ∧ r.state ≠ .conflict

/-- Where an evaluation does: settings that cannot be compared leave the state that was there. -/
def EvaluateKeeps (s : State) (t : Attached) (report : Option RfSettings) : Prop :=
  ∀ network settings expected e, s.homeOf t = some network → network.rfConfig = some expected →
    report = some settings → rfDiff (some settings.toDict) (some expected) = .error e →
    ∀ record, s.recordFor t.identMac = some record → Undecided record

/-! ### Evaluation -/

/-- A record that has not been evaluated is right. -/
theorem diagnosed_new (identMac token : String) : Diagnosed { identMac, token } :=
  (diagnosed_open (.inl rfl) rfl).mpr fun h => h.1 rfl

theorem undecided_new (identMac token : String) : Undecided { identMac, token } := by
  simp [Undecided]

/-- Settings that cannot be compared are neither a conflict nor a match. -/
theorem diagnosed_raising {known r : BindRecord} {e : PyError} (hknown : Diagnosed known)
    (hstate : r.state = known.state) (hfields : r.conflictFields = known.conflictFields)
    (hactual : r.rfConfigActual ≠ none) (herror : rfDiff r.rfConfigActual r.rfConfigExpected = .error e) :
    Diagnosed r ↔ Undecided known := by
  unfold Undecided
  cases hcase : known.state with
  | conflict =>
    rw [hcase] at hstate
    refine iff_of_false (fun h => ?_) fun h => h.2 rfl
    exact not_differ_error herror (h.conflict.mp hstate).2.2
  | bound =>
    rw [hcase] at hstate
    refine iff_of_false (fun h => ?_) fun h => h.1 rfl
    have hagree := (h.bound hstate).2 hactual
    rw [herror] at hagree
    cases hagree
  | pending =>
    have hclear := hknown.clear (by rw [hcase]; decide)
    refine iff_of_true ((diagnosed_open (.inl (hstate.trans hcase)) (hfields.trans hclear)).mpr ?_) (by decide)
    exact fun h => not_differ_error herror h.2.2
  | unbound =>
    have hclear := hknown.clear (by rw [hcase]; decide)
    refine iff_of_true ((diagnosed_open (.inr (hstate.trans hcase)) (hfields.trans hclear)).mpr ?_) (by decide)
    exact fun h => not_differ_error herror h.2.2

/-- What an evaluation makes of the record of its gateway. -/
structure Judged (s : State) (t : Attached) (report : Option RfSettings) (uuid : String) (s' : State)
    (r : BindRecord) : Prop where
  records : s'.records = (s.putRecord r).records
  ident : r.identMac = t.ident
  token : r.token = uuid
  readable : Readable r
  diagnosed : (∀ record, s.recordFor t.identMac = some record → Diagnosed record) →
    (Diagnosed r ↔ EvaluateKeeps s t report)

theorem readable_report {r : BindRecord} (report : Option RfSettings)
    (h : r.rfConfigActual = report.map RfSettings.toDict) : Readable r := by
  intro cfg hcfg
  rw [h] at hcfg
  obtain ⟨settings, -, rfl⟩ := Option.map_eq_some_iff.mp hcfg
  exact comparable_settings settings

/-- What holds of a new record and of the one that is known holds of the one that is evaluated. -/
theorem getD_iff (P : BindRecord → Prop) (known : Option BindRecord) {new : BindRecord} (hnew : P new) :
    P (known.getD new) ↔ ∀ record, known = some record → P record := by
  cases known <;> simp [hnew]

theorem evaluateKeeps_of_compared {s : State} {t : Attached} {report : Option RfSettings}
    (h : ∀ network settings expected, s.homeOf t = some network → network.rfConfig = some expected →
      report = some settings → ∃ diffs, rfDiff (some settings.toDict) (some expected) = .ok diffs) :
    EvaluateKeeps s t report := by
  intro network settings expected e hhome hexpected hreport herror
  obtain ⟨diffs, hdiffs⟩ := h network settings expected hhome hexpected hreport
  rw [hdiffs] at herror
  cases herror

theorem evaluate_judged (s : State) {t : Attached} (report : Option RfSettings) (token : String)
    (hident : t.ident ≠ "") : ∃ r, Judged s t report token (evaluate s t report token).2 r := by
  have hfound : findKey (·.identMac) t.ident s.records = s.recordFor t.identMac := rfl
  have hstamp : (nonEmpty t.networkId).bind s.networkById = s.homeOf t := rfl
  rw [evaluate, if_neg hident, hfound, hstamp]
  dsimp only
  have hname : ((s.recordFor t.identMac).getD { identMac := t.ident, token }).identMac = t.ident :=
    (getD_iff (fun r => r.identMac = t.ident) _ rfl).mpr fun record hrecord => (recordFor_some hrecord).2
  have hright := getD_iff Diagnosed (s.recordFor t.identMac) (diagnosed_new t.ident token)
  have hstate := getD_iff Undecided (s.recordFor t.identMac) (undecided_new t.ident token)
  generalize (s.recordFor t.identMac).getD { identMac := t.ident, token } = known at hname hright hstate ⊢
  -- settings that were compared, or did not have to be: what was known does not matter
  have hplain : ∀ r s', s'.records = (s.putRecord r).records → r.identMac = t.ident → r.token = token →
      r.rfConfigActual = report.map RfSettings.toDict → Diagnosed r → EvaluateKeeps s t report →
      ∃ r, Judged s t report token s' r := fun r s' hrecords hid htoken hactual hdiagnosed hkeeps =>
    ⟨r, hrecords, hid, htoken, readable_report report hactual, fun _ => iff_of_true hdiagnosed hkeeps⟩
  cases hhome : s.homeOf t with
  | none =>
    refine hplain _ _ rfl hname rfl rfl (Iff.mpr (diagnosed_open (.inr rfl) rfl) fun h => h.1 rfl) ?_
    exact evaluateKeeps_of_compared fun network _ _ hnetwork => by simp [hhome] at hnetwork
  | some network =>
    have hnetwork : some network.id ≠ none := Option.some_ne_none _
    dsimp only
    cases hexpected : network.rfConfig with
    | none =>
      have hkeeps : EvaluateKeeps s t report := evaluateKeeps_of_compared fun other _ _ hother hcfg => by
        rw [hhome] at hother
        cases hother
        rw [hexpected] at hcfg
        cases hcfg
      cases report with
      | none =>
        exact hplain _ _ rfl hname rfl rfl (Iff.mpr (diagnosed_bound rfl hnetwork rfl) fun h => absurd rfl h) hkeeps
      | some settings =>
        refine hplain _ _ rfl hname rfl rfl (Iff.mpr (diagnosed_bound rfl hnetwork rfl) fun _ => ?_) hkeeps
        exact comparable_settings settings
    | some expected =>
      cases report with
      | none =>
        refine hplain _ _ rfl hname rfl rfl (Iff.mpr (diagnosed_open (.inl rfl) rfl) fun h => h.2.1 rfl) ?_
        exact evaluateKeeps_of_compared fun _ _ _ _ _ hreport => by cases hreport
      | some settings =>
        have hkeeps : ∀ diffs, rfDiff (some settings.toDict) (some expected) = .ok diffs →
            EvaluateKeeps s t (some settings) := fun diffs hdiffs =>
          evaluateKeeps_of_compared fun other _ _ hother hcfg hreport => by
            rw [hhome] at hother
            cases hother
            rw [hexpected] at hcfg
            cases hcfg
            cases hreport
            exact ⟨diffs, hdiffs⟩
        have hreported : some settings.toDict ≠ none := Option.some_ne_none _
        dsimp only [Option.map_some]
        split
        · next e herror =>
          refine ⟨_, rfl, hname, rfl, readable_report (some settings) rfl, fun hall => ?_⟩
          refine Iff.trans (diagnosed_raising (hright.mpr hall) rfl rfl hreported herror) (hstate.trans ?_)
          constructor
          · exact fun h _ _ _ _ _ _ _ _ => h
          · exact fun h => h network settings expected e hhome hexpected rfl herror
        · next hnil =>
          have hagreed := hkeeps [] hnil
          exact hplain _ _ rfl hname rfl rfl (Iff.mpr (diagnosed_bound rfl hnetwork rfl) fun _ => hnil) hagreed
        · next diffs hne hdiffs =>
          refine hplain _ _ rfl hname rfl rfl (Iff.mpr (diagnosed_conflict rfl hnetwork ?_) ⟨hreported, hdiffs⟩)
            (hkeeps diffs hdiffs)
          exact hne

/-! ### Actions -/

/-- What an action makes of the record of its gateway; `Keeps` stands for where that is right. -/
structure Wrote (s : State) (record : BindRecord) (uuid : String) (Keeps : Prop)
    (out : Except BindError Reply × State) (r : BindRecord) : Prop where
  records : out.2.records = (s.putRecord r).records
  ident : r.identMac = record.identMac
  token : r.token = uuid ∨ r.token = record.token
  renewed : ∀ reply, out.1 = .ok reply → r.token = uuid
  diagnosed : Diagnosed record → Readable record → (Diagnosed r ↔ Keeps)
  readable : Readable record → Keeps → Readable r

section Actions
variable {s : State} {identMac : String} {record : BindRecord}

/-- A record that is put where it was. -/
theorem putRecord_known (h : s.recordFor identMac = some record) : (s.putRecord record).records = s.records := by
  apply putKey_eq_self
  rw [(recordFor_some h).2]
  exact h

/-- An action that is refused before it writes. -/
theorem wrote_refused {token : String} {Keeps : Prop} (e : BindError) (hknown : s.recordFor identMac = some record)
    (hkeeps : Keeps) : Wrote s record token Keeps (.error e, s) record where
  records := (putRecord_known hknown).symm
  ident := rfl
  token := .inr rfl
  renewed reply h := by cases h
  diagnosed hright _ := iff_of_true hright hkeeps
  readable hread _ := hread

theorem actionRetuneGateway_wrote (hknown : s.recordFor identMac = some record) (params : ResolveParams)
    (answers : Answers) :
    ∃ r, Wrote s record answers.token (ActKeeps s record .retuneGateway params answers)
      (actionRetuneGateway s record answers) r := by
  unfold actionRetuneGateway
  dsimp only
  split
  · next e hcheck =>
    refine ⟨record, wrote_refused e hknown fun hstate htaken target htarget hne => ?_⟩
    have hpush := (pushRfToGateway_ok (u := ())).mpr htaken
    rw [(requireState_ok (u := ())).mpr (by simp [hstate]), ok_bind, htarget, Option.getD_some, if_neg hne, hpush,
      ok_bind] at hcheck
    cases hcheck
  · next target hcheck =>
    obtain ⟨u, hstate, hcheck⟩ := bind_ok.mp hcheck
    obtain ⟨hne, hcheck⟩ := guard_ok.mp hcheck
    obtain ⟨v, hpush, hcheck⟩ := bind_ok.mp hcheck
    have hconflict : record.state = .conflict := by simpa using requireState_ok.mp hstate
    have htarget : record.rfConfigExpected = some target := by
      rw [← Except.ok.inj hcheck]
      cases hexpected : record.rfConfigExpected with
      | none => exact absurd (by rw [hexpected]; rfl) hne
      | some cfg => rfl
    rw [htarget, Option.getD_some] at hne
    have hkeeps : ActKeeps s record .retuneGateway params answers ↔ Comparable target := by
      refine ⟨fun h => h hconflict (pushRfToGateway_ok.mp hpush) target htarget hne, fun h _ _ other hother _ => ?_⟩
      rw [htarget] at hother
      rwa [← Option.some.inj hother]
    refine ⟨_, rfl, rfl, .inl rfl, fun _ _ => rfl, fun hright _ => ?_, fun _ h cfg hcfg => ?_⟩
    · rw [hkeeps]
      refine Iff.trans (diagnosed_bound rfl (hright.conflict.mp hconflict).1 rfl) ?_
      dsimp only
      rw [htarget]
      exact ⟨fun h => h (Option.some_ne_none _), fun h _ => h⟩
    · rw [← Option.some.inj hcfg]
      exact hkeeps.mp h

/-- A gateway whose settings were adopted is bound, and they agree with themselves. -/
theorem adoptGatewayConfig_right {s' : State} {record' : BindRecord} {network : NetworkRecord}
    (h : adoptGatewayConfig s record network = .ok (s', record')) :
    ∃ cfg, record.rfConfigActual = some cfg ∧ s'.records = s.records ∧
      record' = {record with rfConfigExpected := some cfg, state := .bound, conflictFields := [],
                             migrationPending := false} := by
  unfold adoptGatewayConfig at h
  split at h
  · cases h
  · next cfg hcfg =>
    obtain ⟨clash, -, h⟩ := bind_ok.mp h
    obtain ⟨-, h⟩ := guard_ok.mp h
    cases h
    exact ⟨cfg, hcfg, rfl, rfl⟩

theorem actionAcceptGateway_wrote (hknown : s.recordFor identMac = some record) (params : ResolveParams)
    (answers : Answers) :
    ∃ r, Wrote s record answers.token (ActKeeps s record .acceptGateway params answers)
      (actionAcceptGateway s record answers) r := by
  unfold actionAcceptGateway
  dsimp only
  split
  · next e _ => exact ⟨record, wrote_refused e hknown trivial⟩
  · next s' record' hcheck =>
    obtain ⟨u, hstate, hcheck⟩ := bind_ok.mp hcheck
    obtain ⟨-, hcheck⟩ := guard_ok.mp hcheck
    obtain ⟨network, -, hadopt⟩ := bind_ok.mp hcheck
    obtain ⟨cfg, hactual, hrecords, rfl⟩ := adoptGatewayConfig_right hadopt
    have hconflict : record.state = .conflict := by simpa using requireState_ok.mp hstate
    refine ⟨_, congrArg (putKey _ _) hrecords, rfl, .inl rfl, fun _ _ => rfl, fun hright hread => ?_,
      fun hread _ => hread⟩
    refine iff_of_true (Iff.mpr (diagnosed_bound rfl (hright.conflict.mp hconflict).1 rfl) fun _ => ?_) trivial
    dsimp only
    rw [hactual]
    exact hread cfg hactual

theorem actionAcceptHost_wrote (hknown : s.recordFor identMac = some record) (params : ResolveParams)
    (answers : Answers) :
    ∃ r, Wrote s record answers.token (ActKeeps s record .acceptHost params answers)
      (actionAcceptHost s record answers) r := by
  have hkeep : ∀ (out : Except BindError Reply) (pending : Bool),
      Wrote s record answers.token True
        (out, s.putRecord {record with token := answers.token, migrationPending := pending})
        {record with token := answers.token, migrationPending := pending} := fun out pending =>
    ⟨rfl, rfl, .inl rfl, fun _ _ => rfl,
      fun hright _ => iff_of_true ⟨hright.conflict, hright.fields, hright.bound, hright.clear⟩ trivial,
      fun hread _ => hread⟩
  unfold actionAcceptHost
  dsimp only
  split
  · next e _ => exact ⟨record, wrote_refused e hknown trivial⟩
  · split
    · exact ⟨_, hkeep _ true⟩
    · exact ⟨_, hkeep _ false⟩

/-- The settings of a new network are those of a channel, or the gateway's. -/
theorem checkCreate_seeded {params : ResolveParams} {answers : Answers} {name : String} {seeded : Dict}
    {retuned : Bool} (h : checkCreate s record params answers = .ok (name, seeded, retuned)) :
    ∃ actual, record.rfConfigActual = some actual ∧ seededConfig params actual = .ok seeded := by
  unfold checkCreate at h
  obtain ⟨-, -, h⟩ := bind_ok.mp h
  dsimp only at h
  obtain ⟨-, h⟩ := guard_ok.mp h
  split at h
  · cases h
  · next actual hactual =>
    obtain ⟨cfg, hcfg, h⟩ := bind_ok.mp h
    obtain ⟨clash, -, h⟩ := bind_ok.mp h
    obtain ⟨-, h⟩ := guard_ok.mp h
    obtain ⟨diffs, -, h⟩ := bind_ok.mp h
    have hseeded : cfg = seeded := by
      split at h
      · cases h
        rfl
      · obtain ⟨-, -, h⟩ := bind_ok.mp h
        cases h
        rfl
    exact ⟨actual, hactual, hseeded ▸ hcfg⟩

theorem actionCreateNetwork_wrote (hknown : s.recordFor identMac = some record) (params : ResolveParams)
    (answers : Answers) :
    ∃ r, Wrote s record answers.token (ActKeeps s record .createNetwork params answers)
      (actionCreateNetwork s record params answers) r := by
  unfold actionCreateNetwork
  split
  · next e _ => exact ⟨record, wrote_refused e hknown trivial⟩
  · next name seeded retuned hcheck =>
    obtain ⟨actual, hactual, hseeded⟩ := checkCreate_seeded hcheck
    have hcomparable : Readable record → Comparable seeded := fun hread =>
      comparable_seeded (hread actual hactual) hseeded
    refine ⟨_, rfl, rfl, .inl rfl, fun _ _ => rfl, fun _ hread => ?_, fun hread _ cfg hcfg => ?_⟩
    · exact iff_of_true (Iff.mpr (diagnosed_bound rfl (Option.some_ne_none _) rfl) fun _ => hcomparable hread) trivial
    · rw [← Option.some.inj hcfg]
      exact hcomparable hread

/-- The record after a rebind that goes through. -/
inductive Settled (record : BindRecord) (onMismatch : String) : BindRecord → Prop
  | adopted {cfg : Dict} {pending : Bool} (hactual : record.rfConfigActual = some cfg)
      (hmode : record.rfConfigExpected = none ∨ onMismatch ≠ "retune_gateway") :
      Settled record onMismatch
        {record with rfConfigExpected := some cfg, state := .bound, conflictFields := [], migrationPending := pending}
  | agreed (hdiffs : rfDiff record.rfConfigActual record.rfConfigExpected = .ok []) :
      Settled record onMismatch {record with state := .bound, conflictFields := []}
  | pushed (hmode : onMismatch = "retune_gateway")
      (hdiffer : Differ record.rfConfigActual record.rfConfigExpected) :
      Settled record onMismatch
        {record with rfConfigActual := record.rfConfigExpected, state := .bound, conflictFields := []}
  | asked {diffs : List String} (hretune : onMismatch ≠ "retune_gateway") (haccept : onMismatch ≠ "accept_gateway")
      (hdiffs : rfDiff record.rfConfigActual record.rfConfigExpected = .ok diffs) (hne : diffs ≠ []) :
      Settled record onMismatch {record with state := .conflict, conflictFields := diffs}

theorem settle_settled {s' : State} {record' : BindRecord} {network : NetworkRecord} {onMismatch : String}
    {answers : Answers} {reply : Reply} (h : settle s record network onMismatch answers = .ok (reply, s', record')) :
    s'.records = s.records ∧ Settled record onMismatch record' := by
  unfold settle at h
  split at h
  · next cfg hexpected hactual =>
    obtain ⟨⟨s₁, r₁⟩, hadopt, h⟩ := bind_ok.mp h
    unfold adoptFirst at hadopt
    obtain ⟨clash, -, hadopt⟩ := bind_ok.mp hadopt
    obtain ⟨-, hadopt⟩ := guard_ok.mp hadopt
    cases hadopt
    cases h
    exact ⟨rfl, .adopted hactual (.inl hexpected)⟩
  · obtain ⟨diffs, hdiffs, h⟩ := bind_ok.mp h
    have hdiffs := raising_ok.mp hdiffs
    by_cases hnil : diffs = []
    · rw [if_pos hnil] at h
      cases h
      exact ⟨rfl, .agreed (hnil ▸ hdiffs)⟩
    · rw [if_neg hnil, settleMismatch] at h
      split at h
      · next hretune =>
        obtain ⟨-, -, h⟩ := bind_ok.mp h
        cases h
        exact ⟨rfl, .pushed hretune ⟨diffs, hdiffs, hnil⟩⟩
      · next hretune =>
        split at h
        · obtain ⟨⟨s₁, r₁⟩, hadopt, h⟩ := bind_ok.mp h
          obtain ⟨cfg, hactual, hrecords, rfl⟩ := adoptGatewayConfig_right hadopt
          cases h
          exact ⟨hrecords, .adopted hactual (.inr hretune)⟩
        · next haccept =>
          cases h
          exact ⟨rfl, .asked hretune haccept hdiffs hnil⟩

/-- A rebind that goes through leaves a right record just where it is answered. -/
theorem Settled.diagnosed {record' : BindRecord} {network : NetworkRecord} {onMismatch : String}
    (h : Settled (boundRecord record network) onMismatch record') (hread : Readable record)
    (hmode : onMismatch ∈ ["ask", "retune_gateway", "accept_gateway"]) :
    (Diagnosed record' ↔ Answered record network onMismatch) ∧
      (Answered record network onMismatch → Readable record') := by
  have hnetwork : (boundRecord record network).networkId ≠ none := Option.some_ne_none _
  cases h with
  | adopted hactual hretune =>
    have hknown : record.rfConfigActual ≠ none := by
      rw [show record.rfConfigActual = _ from hactual]
      exact Option.some_ne_none _
    refine ⟨iff_of_true (Iff.mpr (diagnosed_bound rfl hnetwork rfl) fun _ => ?_) ⟨fun _ hnone => absurd hnone hknown,
      fun hpush target htarget _ => ?_⟩, fun _ => hread⟩
    · show rfDiff record.rfConfigActual _ = _
      rw [show record.rfConfigActual = _ from hactual]
      exact hread _ hactual
    · rcases hretune with hnone | hne
      · rw [show network.rfConfig = none from hnone] at htarget
        cases htarget
      · exact absurd hpush hne
  | agreed hdiffs =>
    have hagree : rfDiff record.rfConfigActual network.rfConfig = .ok [] := hdiffs
    refine ⟨iff_of_true (Iff.mpr (diagnosed_bound rfl hnetwork rfl) fun _ => hdiffs) ⟨fun _ hnone => ?_,
      fun _ target htarget hdiffer => ?_⟩, fun _ => hread⟩
    · rwa [hnone] at hagree
    · rw [htarget] at hagree
      exact absurd hdiffer (not_differ_nil hagree)
  | pushed hretune hdiffer =>
    have hne : onMismatch ≠ "ask" := by
      rw [hretune]
      decide
    have hanswered : Answered record network onMismatch ↔
        ∀ target, network.rfConfig = some target → Comparable target := by
      refine ⟨fun h target htarget => h.pushed hretune target htarget ?_,
        fun h => ⟨fun hask => absurd hask hne, fun _ target htarget _ => h target htarget⟩⟩
      rw [← htarget]
      exact hdiffer
    rw [hanswered]
    refine ⟨Iff.trans (diagnosed_bound rfl hnetwork rfl) ⟨fun h target htarget => ?_, fun h hknown => ?_⟩,
      fun h cfg hcfg => h cfg hcfg⟩
    · have hagree : network.rfConfig ≠ none → rfDiff network.rfConfig network.rfConfig = .ok [] := h
      rw [htarget] at hagree
      exact hagree (Option.some_ne_none _)
    · obtain ⟨target, htarget⟩ := Option.ne_none_iff_exists'.mp hknown
      show rfDiff network.rfConfig network.rfConfig = .ok []
      rw [show network.rfConfig = some target from htarget]
      exact h target htarget
  | asked hretune haccept hdiffs hne =>
    have hask : onMismatch = "ask" := by simpa [hretune, haccept] using hmode
    refine ⟨Iff.trans (diagnosed_conflict rfl hnetwork hne) ?_, fun _ => hread⟩
    constructor
    · intro h
      exact ⟨fun _ hnone => absurd hnone h.1, fun hpush => absurd hpush hretune⟩
    · intro h
      refine ⟨fun hnone => ?_, hdiffs⟩
      have hagree := h.asked hask hnone
      have hdiffs' : rfDiff record.rfConfigActual network.rfConfig = .ok _ := hdiffs
      rw [show record.rfConfigActual = none from hnone, hagree] at hdiffs'
      exact hne (Except.ok.inj hdiffs').symm

/-- What a rebind that is refused late leaves is right where the record carries over. -/
theorem diagnosed_boundRecord {network : NetworkRecord} (hright : Diagnosed record)
    (hstate : record.state = .unbound ∨ record.state = .conflict) :
    Diagnosed (boundRecord record network) ↔ Carries record network := by
  unfold Carries
  rcases hstate with hunbound | hconflict
  · have hclear := hright.clear (by rw [hunbound]; decide)
    rw [hunbound]
    refine Iff.trans (diagnosed_open (.inr hunbound) hclear) ?_
    show ¬ (some network.id ≠ none ∧ record.rfConfigActual ≠ none ∧ Differ record.rfConfigActual network.rfConfig) ↔ _
    simp [imp_iff_not_or]
  · have hknown := (hright.conflict.mp hconflict).2.1
    rw [hconflict]
    refine Iff.trans (diagnosed_conflict hconflict (Option.some_ne_none _) (hright.fields_ne_nil hconflict)) ?_
    show record.rfConfigActual ≠ none ∧ rfDiff record.rfConfigActual network.rfConfig = .ok record.conflictFields ↔ _
    simp [hknown]

theorem actionRebind_wrote (hknown : s.recordFor identMac = some record) (params : ResolveParams)
    (answers : Answers) :
    ∃ r, Wrote s record answers.token (ActKeeps s record .rebind params answers)
      (actionRebind s record params answers) r := by
  unfold actionRebind
  cases htarget : rebindTarget s record params with
  | error e =>
    refine ⟨record, wrote_refused e hknown fun network hadm => ?_⟩
    rw [rebindTarget_ok.mpr hadm] at htarget
    cases htarget
  | ok network =>
    have hadm := rebindTarget_ok.mp htarget
    have hkeeps : ActKeeps s record .rebind params answers ↔
        RebindKeeps s record network (strip params.onMismatch) answers.refusal := by
      refine ⟨fun h => h network hadm, fun h other hother => ?_⟩
      rw [rebindTarget_ok.mpr hother] at htarget
      rwa [Except.ok.inj htarget]
    rw [hkeeps]
    dsimp only
    cases hsettle : settle (bindTo s record network) (boundRecord record network) network
        (strip params.onMismatch) answers with
    | error e =>
      have hblocked := settle_error.mp ⟨e, hsettle⟩
      refine ⟨_, rfl, rfl, .inr rfl, (fun reply h => by cases h), fun hright _ => ?_, fun hread _ => hread⟩
      rw [diagnosed_boundRecord hright hadm.state]
      exact ⟨fun h => ⟨fun _ => h, fun hfree => absurd hblocked hfree⟩, fun h => h.blocked hblocked⟩
    | ok out =>
      obtain ⟨reply, s', record'⟩ := out
      have hfree : ¬ Blocked s record network (strip params.onMismatch) answers.refusal := fun hblocked => by
        obtain ⟨e, he⟩ := settle_error.mpr hblocked
        rw [hsettle] at he
        cases he
      obtain ⟨hrecords, hsettled⟩ := settle_settled hsettle
      have hident : record'.identMac = record.identMac := (settle_does hsettle).1.1
      have hrebind : RebindKeeps s record network (strip params.onMismatch) answers.refusal ↔
          Answered record network (strip params.onMismatch) :=
        ⟨fun h => h.answered hfree, fun h => ⟨fun hblocked => absurd hblocked hfree, fun _ => h⟩⟩
      rw [hrebind]
      refine ⟨{record' with token := answers.token}, congrArg (putKey _ _) hrecords, hident, .inl rfl,
        fun _ _ => rfl, fun _ hread => ?_, fun hread h => (hsettled.diagnosed hread hadm.mismatch).2 h⟩
      rw [← (hsettled.diagnosed hread hadm.mismatch).1]
      exact ⟨fun h => ⟨h.conflict, h.fields, h.bound, h.clear⟩, fun h => ⟨h.conflict, h.fields, h.bound, h.clear⟩⟩

/-- **An action leaves a right record of a gateway just where it keeps one.** -/
theorem act_wrote (hknown : s.recordFor identMac = some record) (action : Action) (params : ResolveParams)
    (answers : Answers) :
    ∃ r, Wrote s record answers.token (ActKeeps s record action params answers)
      (act s record action params answers) r := by
  cases action with
  | retuneGateway => exact actionRetuneGateway_wrote hknown params answers
  | acceptGateway => exact actionAcceptGateway_wrote hknown params answers
  | acceptHost => exact actionAcceptHost_wrote hknown params answers
  | createNetwork => exact actionCreateNetwork_wrote hknown params answers
  | rebind => exact actionRebind_wrote hknown params answers
  | other name => exact ⟨record, wrote_refused _ hknown trivial⟩

end Actions

end RaceLink.Gateways.Diagnosis
