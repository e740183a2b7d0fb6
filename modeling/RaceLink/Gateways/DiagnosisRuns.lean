import RaceLink.Library.Runs
import RaceLink.Gateways.Diagnosis

/-! The bind records in every run of calls.

The calls come in any order, for any gateways, and each finds whatever networks and
transports the host has by then: only the records are the service's own. Every record is
right after every call just if every call meets its condition (`diagnosis_right`). A token
is good until its gateway is evaluated or resolved with success again. That needs no
condition, only that a UUID is never given twice. -/
namespace RaceLink.Gateways.Diagnosis
open Python Library Domain Routing

/-! ### Calls -/

/-- The calls that write bind records. -/
inductive Call where
  | evaluate (transport : Attached) (report : Option RfSettings) (token : String)
  | resolve (identMac : String) (action : Action) (params : ResolveParams) (answers : Answers)
  | forget (identMac : String)
deriving DecidableEq, Repr

namespace Call

def run (s : State) : Call → State
  | .evaluate t report token => (Gateways.evaluate s t report token).2
  | .resolve identMac action params answers => (Gateways.resolve s identMac action params answers).2
  | .forget identMac => s.forget identMac

/-- The UUID that a call makes a token of. -/
def uuid : Call → Option String
  | .evaluate _ _ token => some token
  | .resolve _ _ _ answers => some answers.token
  | .forget _ => none

/-- An evaluation of a gateway, or a resolution that succeeds. -/
def Renews (s : State) (ident : String) : Call → Prop
  | .evaluate t _ _ => t.ident = ident ∧ ident ≠ ""
  | .resolve identMac action params answers => upper identMac = ident ∧
      ∃ reply, (Gateways.resolve s identMac action params answers).1 = .ok reply ∧ reply.ok = true
  | .forget _ => False

/-- Where a call keeps the records right. -/
def Keeps (s : State) : Call → Prop
  | .evaluate t report _ => t.ident ≠ "" → EvaluateKeeps s t report
  | .resolve identMac action params answers => ∀ record, s.recordFor identMac = some record →
      params.token = none ∨ params.token = some record.token → ActKeeps s record action params answers
  | .forget _ => True

end Call

/-- Whether `resolve` lets a request through to a record. -/
def Admits (s : State) (identMac : String) (params : ResolveParams) (record : BindRecord) : Prop :=
  s.recordFor identMac = some record ∧ (params.token = none ∨ params.token = some record.token)

/-- A request that is not let through is refused, and changes nothing. -/
theorem resolve_refused {s : State} {identMac : String} {params : ResolveParams} (action : Action)
    (answers : Answers) (h : ∀ record, ¬ Admits s identMac params record) :
    (resolve s identMac action params answers).2 = s ∧
      ∃ reply, (resolve s identMac action params answers).1 = .ok reply ∧ reply.ok = false := by
  unfold resolve
  cases hknown : s.recordFor identMac with
  | none => exact ⟨rfl, _, rfl, rfl⟩
  | some record =>
    have hstale : params.token ≠ none ∧ params.token ≠ some record.token :=
      not_or.mp fun htoken => h record ⟨hknown, htoken⟩
    dsimp only
    rw [if_pos hstale]
    exact ⟨rfl, _, rfl, rfl⟩

/-- A request that is let through does what its action does; it succeeds only if that does. -/
theorem resolve_admitted {s : State} {identMac : String} {params : ResolveParams} {record : BindRecord}
    (action : Action) (answers : Answers) (h : Admits s identMac params record) :
    (resolve s identMac action params answers).2 = (act s record action params answers).2 ∧
      ∀ reply, (resolve s identMac action params answers).1 = .ok reply → reply.ok = true →
        (act s record action params answers).1 = .ok reply := by
  have hfresh : ¬ (params.token ≠ none ∧ params.token ≠ some record.token) := fun hne => h.2.elim hne.1 hne.2
  unfold resolve
  rw [h.1]
  dsimp only
  rw [if_neg hfresh]
  obtain ⟨out, t⟩ := act s record action params answers
  match out with
  | .ok reply =>
    refine ⟨rfl, fun other hother _ => ?_⟩
    cases hother
    rfl
  | .error (.action text args) =>
    refine ⟨rfl, fun reply hreply hok => ?_⟩
    cases hreply
    cases hok
  | .error (.raised e) =>
    refine ⟨rfl, fun reply hreply _ => ?_⟩
    cases hreply

/-! ### What a call does to the records -/

/-- Records that are right, of settings that can be compared. -/
def Right (records : List BindRecord) : Prop := ∀ r ∈ records, Diagnosed r ∧ Readable r

/-- A call that puts a record. -/
structure Puts (s : State) (c : Call) (r : BindRecord) : Prop where
  records : (c.run s).records = (s.putRecord r).records
  token : c.uuid = some r.token ∨
    ∃ old, findKey (·.identMac) r.identMac s.records = some old ∧ old.token = r.token
  renewed : ∀ ident, c.Renews s ident → r.identMac = ident ∧ c.uuid = some r.token
  diagnosed : Right s.records → (Diagnosed r ↔ c.Keeps s)
  readable : Right s.records → c.Keeps s → Readable r

/-- A call that puts none. -/
structure Leaves (s : State) (c : Call) : Prop where
  records : ∀ r ∈ (c.run s).records, r ∈ s.records
  found : ∀ ident r, findKey (·.identMac) ident (c.run s).records = some r →
    findKey (·.identMac) ident s.records = some r
  idle : ∀ ident, ¬ c.Renews s ident
  keeps : c.Keeps s

/-- The record that is put is the one that is found then. -/
theorem Puts.found {s : State} {c : Call} {r : BindRecord} (h : Puts s c r) :
    findKey (·.identMac) r.identMac (c.run s).records = some r := by
  rw [h.records]
  exact findKey_putKey r s.records

theorem Puts.found_other {s : State} {c : Call} {r : BindRecord} {ident : String} (h : Puts s c r)
    (hne : r.identMac ≠ ident) :
    findKey (·.identMac) ident (c.run s).records = findKey (·.identMac) ident s.records := by
  rw [h.records]
  exact findKey_putKey_of_ne hne

theorem evaluate_puts (s : State) (t : Attached) (report : Option RfSettings) (token : String) :
    Leaves s (.evaluate t report token) ∨ ∃ r, Puts s (.evaluate t report token) r := by
  by_cases hident : t.ident = ""
  · have hsame : (Call.evaluate t report token).run s = s := by
      show (evaluate s t report token).2 = s
      rw [evaluate, if_pos hident]
    refine .inl ⟨fun r hr => ?_, fun ident r hr => ?_, fun ident h => ?_, fun hne => absurd hident hne⟩
    · rwa [hsame] at hr
    · rwa [hsame] at hr
    · exact h.2 (h.1 ▸ hident)
  · obtain ⟨r, hjudged⟩ := evaluate_judged s report token hident
    have huuid : some token = some r.token := congrArg some hjudged.token.symm
    refine .inr ⟨r, hjudged.records, .inl huuid, fun ident h => ⟨hjudged.ident.trans h.1, huuid⟩, fun hright => ?_,
      fun _ _ => hjudged.readable⟩
    rw [hjudged.diagnosed fun record hrecord => (hright record (recordFor_some hrecord).1).1]
    exact ⟨fun h _ => h, fun h => h hident⟩

theorem resolve_puts (s : State) (identMac : String) (action : Action) (params : ResolveParams) (answers : Answers) :
    Leaves s (.resolve identMac action params answers) ∨ ∃ r, Puts s (.resolve identMac action params answers) r := by
  by_cases hadmits : ∃ record, Admits s identMac params record
  · obtain ⟨record, hadmits⟩ := hadmits
    obtain ⟨r, hwrote⟩ := act_wrote hadmits.1 action params answers
    obtain ⟨hstate, hreply⟩ := resolve_admitted action answers hadmits
    obtain ⟨hmem, hident⟩ := recordFor_some hadmits.1
    have hkeeps : (Call.resolve identMac action params answers).Keeps s ↔ ActKeeps s record action params answers := by
      refine ⟨fun h => h record hadmits.1 hadmits.2, fun h other hother _ => ?_⟩
      rw [hadmits.1] at hother
      rwa [← Option.some.inj hother]
    refine .inr ⟨r, (congrArg State.records hstate).trans hwrote.records, ?_, fun ident h => ?_, fun hright => ?_,
      fun hright h => hwrote.readable (hright record hmem).2 (hkeeps.mp h)⟩
    · refine hwrote.token.imp (fun h => congrArg some h.symm) fun h => ⟨record, ?_, h.symm⟩
      rw [hwrote.ident, hident]
      exact hadmits.1
    · obtain ⟨heq, reply, hanswer, hok⟩ := h
      have hrenewed := hwrote.renewed reply (hreply reply hanswer hok)
      exact ⟨(hwrote.ident.trans hident).trans heq, congrArg some hrenewed.symm⟩
    · rw [hkeeps]
      exact hwrote.diagnosed (hright record hmem).1 (hright record hmem).2
  · have hnone := not_exists.mp hadmits
    obtain ⟨hsame, reply, hreply, hok⟩ := resolve_refused action answers hnone
    have hrun : (Call.resolve identMac action params answers).run s = s := hsame
    refine .inl ⟨fun r hr => ?_, fun ident r hr => ?_, fun ident h => ?_, fun record hrecord htoken =>
      absurd ⟨hrecord, htoken⟩ (hnone record)⟩
    · rwa [hrun] at hr
    · rwa [hrun] at hr
    · obtain ⟨-, other, hother, hsuccess⟩ := h
      rw [hreply] at hother
      cases hother
      rw [hok] at hsuccess
      cases hsuccess

/-- **A call puts a record, or leaves those that are there.** -/
theorem Call.does (s : State) (c : Call) : Leaves s c ∨ ∃ r, Puts s c r := by
  cases c with
  | evaluate t report token => exact evaluate_puts s t report token
  | resolve identMac action params answers => exact resolve_puts s identMac action params answers
  | forget identMac =>
    exact .inl ⟨fun r hr => List.mem_of_mem_filter hr, fun ident r hr => findKey_of_filter_ne hr, fun _ h => h, trivial⟩

/-- Where the records are right, a call leaves them so just if it keeps them. -/
theorem Call.diagnosed_iff {s : State} (c : Call) (hright : Right s.records) :
    (∀ r ∈ (c.run s).records, Diagnosed r) ↔ c.Keeps s := by
  rcases c.does s with hleaves | ⟨r, hputs⟩
  · exact iff_of_true (fun r hr => (hright r (hleaves.records r hr)).1) hleaves.keeps
  · rw [← hputs.diagnosed hright]
    constructor
    · intro h
      exact h r (findKey_some hputs.found).1
    · intro h other hother
      rw [hputs.records] at hother
      rcases mem_putKey hother with heq | hmem
      · rwa [heq]
      · exact (hright other hmem).1

theorem Call.run_right {s : State} (c : Call) (hright : Right s.records)
    (h : ∀ r ∈ (c.run s).records, Diagnosed r) : Right (c.run s).records := by
  have hkeeps := (c.diagnosed_iff hright).mp h
  intro r hr
  refine ⟨h r hr, ?_⟩
  rcases c.does s with hleaves | ⟨put, hputs⟩
  · exact (hright r (hleaves.records r hr)).2
  · rw [hputs.records] at hr
    rcases mem_putKey hr with heq | hmem
    · rw [heq]
      exact hputs.readable hright hkeeps
    · exact (hright r hmem).2

/-- The token of a gateway is the call's, or the one it had. -/
theorem Call.token_run {s : State} {c : Call} {ident : String} {r : BindRecord}
    (h : findKey (·.identMac) ident (c.run s).records = some r) :
    c.uuid = some r.token ∨ ∃ old, findKey (·.identMac) ident s.records = some old ∧ old.token = r.token := by
  rcases c.does s with hleaves | ⟨put, hputs⟩
  · exact .inr ⟨r, hleaves.found ident r h, rfl⟩
  · by_cases hident : put.identMac = ident
    · subst hident
      rw [hputs.found] at h
      cases h
      exact hputs.token
    · rw [hputs.found_other hident] at h
      exact .inr ⟨r, h, rfl⟩

/-- After a call that renews it, the token of a gateway is the call's. -/
theorem Call.token_renewed {s : State} {c : Call} {ident : String} {r : BindRecord} (hrenews : c.Renews s ident)
    (h : findKey (·.identMac) ident (c.run s).records = some r) : c.uuid = some r.token := by
  rcases c.does s with hleaves | ⟨put, hputs⟩
  · exact absurd hrenews (hleaves.idle ident)
  · obtain ⟨hident, huuid⟩ := hputs.renewed ident hrenews
    subst hident
    rw [hputs.found] at h
    cases h
    exact huuid

/-! ### Runs -/

/-- A call, and the host at that time. -/
structure Event where
  host : State
  call : Call
deriving DecidableEq, Repr

/-- What a call finds: the records are the service's own. -/
def Event.found (records : List BindRecord) (e : Event) : State := {e.host with records}

def after (records : List BindRecord) (e : Event) : List BindRecord := (e.call.run (e.found records)).records

/-- The records after a run of the service. -/
def recordsOf (events : List Event) : List BindRecord := events.foldl after []

/-- The UUIDs of a run. -/
def uuids (events : List Event) : List String := events.filterMap fun e => e.call.uuid

/-- What holds of a run of calls. -/
structure DiagnosisRight (events : List Event) : Prop where
  /-- After each call, every record shows what its settings say. -/
  diagnosed : Along after (fun records e => ∀ r ∈ after records e, Diagnosed r) [] events
  /-- A token from before an evaluation or a successful resolution of a gateway changes nothing. -/
  stale : ∀ earlier e later identMac, events = earlier ++ e :: later →
    e.call.Renews (e.found (recordsOf earlier)) (upper identMac) → ∀ token ∈ uuids earlier,
    ∀ (host : State) (action : Action) (params : ResolveParams) (answers : Answers), params.token = some token →
      (resolve {host with records := recordsOf events} identMac action params answers).2 =
        {host with records := recordsOf events}

/-- The token of a gateway comes from a call of the run, or was there. -/
theorem token_foldl {events : List Event} {records : List BindRecord} {ident : String} {r : BindRecord}
    (h : findKey (·.identMac) ident (events.foldl after records) = some r) :
    r.token ∈ uuids events ∨ ∃ old, findKey (·.identMac) ident records = some old ∧ old.token = r.token := by
  induction events generalizing records with
  | nil => exact .inr ⟨r, h, rfl⟩
  | cons e rest ih =>
    have hsplit : ∀ token, token ∈ uuids (e :: rest) ↔ e.call.uuid = some token ∨ token ∈ uuids rest := by
      intro token
      simp [uuids, List.mem_filterMap]
    rw [hsplit]
    rcases ih h with hrest | ⟨old, hold, htoken⟩
    · exact .inl (.inr hrest)
    · rcases Call.token_run hold with huuid | ⟨first, hfirst, heq⟩
      · exact .inl (.inl (htoken ▸ huuid))
      · exact .inr ⟨first, hfirst, heq.trans htoken⟩

/-- After a run that renews it, the token of a gateway is none of those from before. -/
theorem token_not_earlier {earlier later : List Event} {e : Event} {ident : String} {r : BindRecord}
    (hfresh : (uuids (earlier ++ e :: later)).Nodup) (hrenews : e.call.Renews (e.found (recordsOf earlier)) ident)
    (h : findKey (·.identMac) ident (recordsOf (earlier ++ e :: later)) = some r) : r.token ∉ uuids earlier := by
  have hlate : r.token ∈ uuids (e :: later) := by
    rw [recordsOf, List.foldl_append, List.foldl_cons] at h
    rcases token_foldl h with hlater | ⟨old, hold, htoken⟩
    · exact List.Sublist.subset (List.Sublist.filterMap _ (List.sublist_cons_self e later)) hlater
    · have huuid := Call.token_renewed hrenews hold
      exact List.mem_filterMap.mpr ⟨e, List.mem_cons_self .., htoken ▸ huuid⟩
  intro hearly
  rw [uuids, List.filterMap_append] at hfresh
  exact (List.nodup_append.mp hfresh).2.2 _ hearly _ hlate rfl

/-- **Every record is right after every call of a run just if each call meets its condition;
and a token from before a gateway was evaluated, or resolved with success, is refused.** -/
theorem diagnosis_right (events : List Event) (hfresh : (uuids events).Nodup) :
    DiagnosisRight events ↔ Along after (fun records e => e.call.Keeps (e.found records)) [] events := by
  have hdiagnosed : Along after (fun records e => ∀ r ∈ after records e, Diagnosed r) [] events ↔
      Along after (fun records e => e.call.Keeps (e.found records)) [] events :=
    along_congr_of_kept (I := Right) (fun records e hright h => e.call.run_right (s := e.found records) hright h)
      (fun records e hright => e.call.diagnosed_iff (s := e.found records) hright) (List.forall_mem_nil _) events
  rw [← hdiagnosed]
  refine ⟨fun h => h.diagnosed, fun h => ⟨h, ?_⟩⟩
  intro earlier e later identMac hsplit hrenews token htoken host action params answers hparams
  refine (resolve_refused action answers fun record hadmits => ?_).1
  have hrecord : findKey (·.identMac) (upper identMac) (recordsOf (earlier ++ e :: later)) = some record :=
    hsplit ▸ hadmits.1
  have hnot := token_not_earlier (hsplit ▸ hfresh) hrenews hrecord
  rcases hadmits.2 with hnone | hsame
  · rw [hparams] at hnone
    cases hnone
  · rw [hparams] at hsame
    exact hnot (Option.some.inj hsame ▸ htoken)

/-! ### A gateway that was not read, and one that refuses -/

/-- A gateway without a network that does not answer is bound to one by a rebind that asks. -/
def unread : List Event :=
  [⟨unboundGateway, .evaluate ⟨⟨1, none, "AABBCC"⟩, .rf⟩ none "t1"⟩,
    ⟨unboundGateway, .resolve "AABBCC" .rebind { token := some "t1", networkId := "net-a" }
      { token := "t2", networkId := "" }⟩]

/-- Its settings are unknown, and it is in conflict with those of the network. -/
theorem unread_conflict : ¬ ∀ events, (uuids events).Nodup → DiagnosisRight events := by
  intro h
  obtain ⟨-, hlast, -⟩ := (h unread (by decide)).diagnosed
  have hconflict : ∃ r ∈ recordsOf unread, r.state = .conflict ∧ r.rfConfigActual = none := by decide +kernel
  obtain ⟨r, hr, hstate, hactual⟩ := hconflict
  exact ((hlast r hr).conflict.mp hstate).2.1 hactual

/-- A gateway that reports the first channel is to be moved onto the third, and does not answer. -/
def unanswered : List Event :=
  [⟨unboundGateway, .evaluate ⟨⟨1, none, "AABBCC"⟩, .rf⟩ (some ⟨867700000, 1250, 7, 5, 0x12, 14, 8⟩) "t1"⟩,
    ⟨unboundGateway, .resolve "AABBCC" .rebind
      { token := some "t1", networkId := "net-a", onMismatch := "retune_gateway" }
      { refusal := some "no reply within timeout", token := "t2", networkId := "" }⟩]

/-- The rebind is refused; the record has the network, whose settings differ, and no conflict. -/
theorem unanswered_unbound : ¬ DiagnosisRight unanswered := by
  intro h
  obtain ⟨-, hlast, -⟩ := h.diagnosed
  have hunbound : ∃ r ∈ recordsOf unanswered, r.state = .unbound ∧ r.networkId ≠ none ∧ r.rfConfigActual ≠ none ∧
      rfDiff r.rfConfigActual r.rfConfigExpected = .ok ["freq_hz"] := by decide +kernel
  obtain ⟨r, hr, hstate, hnetwork, hactual, hdiff⟩ := hunbound
  have hconflict := (hlast r hr).conflict.mpr ⟨hnetwork, hactual, _, hdiff, by decide⟩
  rw [hstate] at hconflict
  cases hconflict

/-- A gateway in conflict with its network is read, its settings are adopted, and the operator's
second answer to the same question is late. -/
def answered : List Event :=
  [⟨unboundGateway, .evaluate ⟨⟨1, some "net-a", "AABBCC"⟩, .rf⟩ (some ⟨867700000, 1250, 7, 5, 0x12, 14, 8⟩) "t1"⟩,
    ⟨unboundGateway, .resolve "AABBCC" .acceptGateway { token := some "t1" } { token := "t2", networkId := "" }⟩,
    ⟨unboundGateway, .resolve "AABBCC" .retuneGateway { token := some "t1" } { token := "t3", networkId := "" }⟩]

example : (recordsOf answered).map (fun r => (r.state, r.token)) = [(.bound, "t2")] := by decide +kernel

theorem answered_right : DiagnosisRight answered := by
  refine (diagnosis_right answered (by decide)).mpr ⟨?_, ?_, ?_, trivial⟩
  · intro _ _ _ _ _ _ _ _ _ record hrecord
    cases hrecord
  · exact fun _ _ _ => trivial
  · intro record hrecord htoken
    have hbound : ∀ r ∈ recordsOf (answered.take 2), r.token ≠ "t1" := by decide +kernel
    rcases htoken with hnone | hsame
    · cases hnone
    · exact absurd (Option.some.inj hsame).symm (hbound record (recordFor_some hrecord).1)

end RaceLink.Gateways.Diagnosis
