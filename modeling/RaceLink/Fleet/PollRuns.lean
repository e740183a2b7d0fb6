import RaceLink.Fleet.AddressEnds
import RaceLink.Fleet.PollSteps

/-! Whole runs of the polls of a fleet.

A worker that is done has marked offline just those devices of its own gateway that are not among the replies
its waits were left with, whatever the other workers and the readers did meanwhile. Once everyone is at rest, a
device that nobody heard is offline if it was polled, and one that answered each poll, and was heard through its
own gateway alone, is online. -/
namespace RaceLink.Fleet.Polling
open Python Library Domain Routing Pending Scenes

variable {h : Host} {online : Nat → Bool} {s s' : Desk} {w w' : Worker} {i : Nat}

/-! ### What a reply names -/

/-- A reply that names a device has the end of its address. -/
theorem named_end (hmacs : ∀ d ∈ h.devices, isMac12 d.addr = true) {d : Device} (hd : h.devices[i]? = some d)
    {ev : ReplyEvent} {sender3 : Bytes} (hsender : ev.sender3 = some sender3) (hnamed : Named h i ev) :
    sender3.length = 3 ∧ hexUpper sender3 = lastSix (mac h i) := by
  obtain ⟨x, hx, hname⟩ := hnamed
  rw [responderOf, hsender] at hx
  obtain ⟨bytes, hbytes, rfl⟩ := Option.map_eq_some_iff.mp hx
  obtain ⟨heq, hlength⟩ := Option.filter_eq_some_iff.mp hbytes
  cases heq
  have hthree : sender3.length = 3 := of_decide_eq_true hlength
  refine ⟨hthree, hname.resolve_left fun hwhole => ?_⟩
  have hlong := mac_length hmacs hd
  rw [← hwhole, hexUpper_length, hthree] at hlong
  omega

/-- A retry names the device that it was for. -/
theorem named_target {e : Wait × ReplyEvent} {j : Nat} (hmacs : ∀ d ∈ h.devices, isMac12 d.addr = true)
    (hof : e.1.Of h w) (haccepts : e.1.matcher.accepts e.2 = true) (htarget : e.1.target = some j)
    {d : Device} (hd : h.devices[i]? = some d) (hnamed : Named h i e.2) : lastSix (mac h j) = lastSix (mac h i) := by
  obtain ⟨d', recv3, hd', hrecv, hfilter⟩ := hof.sender j htarget
  have hsender : e.2.sender3 = some recv3 := by
    simp only [PendingMatcher.accepts, Bool.and_eq_true] at haccepts
    have hsender := haccepts.1.1.2
    rw [PendingMatcher.acceptsSender, hfilter] at hsender
    cases hsome : e.2.sender3 with
    | none =>
      rw [hsome] at hsender
      cases hsender
    | some sender =>
      rw [hsome] at hsender
      simpa using hsender
  have hj : hexUpper recv3 = lastSix (mac h j) := by
    rw [mac, hd']
    exact hexUpper_last3 (hmacs d' (List.mem_of_getElem? hd')) hrecv
  exact hj.symm.trans (named_end hmacs hd hsender hnamed).2

/-! ### What polls come to -/

theorem mem_wrote {v : Write} (hauthor : v.author = some w) : (i, v) ∈ s.wrote w ↔ (i, v) ∈ s.writes := by
  simp [Desk.wrote, hauthor]

/-- What a wait of a worker was left with came through its gateway. -/
theorem Holds.heard {s : System} (hs : Holds h online s) {e : Wait × ReplyEvent} (he : e ∈ s.shared.got w)
    (hof : e.1.Of h w) : ∃ t, (t, e.2) ∈ s.shared.heard ∧ (ident w.transport = none ∨ ident t = ident w.transport) := by
  obtain ⟨haccepts, t, ht⟩ := hs.kept.taken (List.mem_filter.mp he).1
  refine ⟨t, ht, ?_⟩
  obtain ⟨sender3, -, hev⟩ := hs.kept.replies ht
  cases hgateway : ident w.transport with
  | none => exact .inl rfl
  | some g =>
    have hmatch : e.1.matcher.acceptsGateway e.2 = true := by
      simp only [PendingMatcher.accepts, Bool.and_eq_true] at haccepts
      exact haccepts.1.1.1
    rw [PendingMatcher.acceptsGateway, hof.gateway, hgateway, hev] at hmatch
    exact .inr (eq_of_beq hmatch)

/-- **A worker that is done has marked offline just those devices of its gateway and group that no reply names
which its waits were left with, and answers how many these were, and from whom. They came through its gateway.** -/
theorem polled_run (h : Host) (online : Nat → Bool) (acts : List Act) (w : Worker) {report : Report}
    (hdone : (run h online acts).pc w = .done (some report)) :
    (∀ i, (i, .silent w) ∈ (run h online acts).shared.writes ↔
      i ∈ snapshotTargets h w ∧ ∀ e ∈ (run h online acts).shared.got w, ¬ Named h i e.2) ∧
    (∀ i, (i, .missed w) ∈ (run h online acts).shared.writes → i ∈ snapshotTargets h w) ∧
    report.Counts (((run h online acts).shared.got w).map Prod.snd) ∧
    ∀ e ∈ (run h online acts).shared.got w, ∃ t, (t, e.2) ∈ (run h online acts).shared.heard ∧
      (ident w.transport = none ∨ ident t = ident w.transport) := by
  have hs := holds_run h online acts
  have hm := hs.placed w
  rw [hdone] at hm
  refine ⟨fun i => ?_, fun i hi => (hm.missed i ((mem_wrote rfl).mpr hi)).1, hm.counts,
    fun e he => hs.heard he (hm.waits e he)⟩
  rw [← mem_wrote (v := .silent w) rfl, hm.silent i, hm.counts.responders, answers_iff]
  have hmac : i ∈ snapshotTargets h w → mac h i ≠ "" := by
    intro hi
    obtain ⟨d, hd, haddr, -⟩ := mem_snapshotTargets.mp hi
    rw [mac, hd]
    exact Gateways.upper_ne_empty haddr
  constructor
  · rintro ⟨hi, -, hnone⟩
    exact ⟨hi, fun e he hnamed => hnone ⟨e.2, List.mem_map_of_mem he, hnamed⟩⟩
  · rintro ⟨hi, hnone⟩
    refine ⟨hi, hmac hi, fun hsome => ?_⟩
    obtain ⟨ev, hev, hnamed⟩ := hsome
    obtain ⟨e, he, rfl⟩ := List.mem_map.mp hev
    exact hnone e he hnamed

theorem add_foldl (reports : List Report) (total : Report) :
    (reports.foldl Report.add total).updated = total.updated + (reports.map Report.updated).sum ∧
      ∀ x, x ∈ (reports.foldl Report.add total).responders ↔
        x ∈ total.responders ∨ ∃ r ∈ reports, x ∈ r.responders := by
  induction reports generalizing total with
  | nil => simp
  | cons r rest ih =>
    obtain ⟨hupdated, hresponders⟩ := ih (total.add r)
    refine ⟨?_, fun x => ?_⟩
    · rw [List.foldl_cons, hupdated, Report.add, List.map_cons, List.sum_cons, Nat.add_assoc]
    · rw [List.foldl_cons, hresponders]
      simp [Report.add, or_assoc]

theorem report_some {job : Job} {report : Report} (hreport : job.report = some report) :
    job = .done (some report) := by
  cases job with
  | done answered => exact congrArg Job.done hreport
  | idle => cases hreport
  | looking rest before => cases hreport
  | waiting wait after => cases hreport
  | closed wait after => cases hreport
  | retrying rest r => cases hreport
  | marking rest r => cases hreport

/-- **A poll answers as many as its workers that were done by then were left with, and from whom.** -/
theorem answer_run (h : Host) (online : Nat → Bool) (acts : List Act) (workers : List Worker) :
    (answer (run h online acts) workers).updated = ((workers.filter fun w => ((run h online acts).pc w).report.isSome).map
        fun w => ((run h online acts).shared.got w).length).sum ∧
      ∀ x, x ∈ (answer (run h online acts) workers).responders ↔ ∃ w ∈ workers,
        ((run h online acts).pc w).report.isSome = true ∧
          ∃ e ∈ (run h online acts).shared.got w, responderOf e.2 = some x := by
  have hcounts : ∀ {w report}, ((run h online acts).pc w).report = some report →
      report.Counts (((run h online acts).shared.got w).map Prod.snd) := by
    intro w report hreport
    exact (polled_run h online acts w (report_some hreport)).2.2.1
  obtain ⟨hupdated, hresponders⟩ := add_foldl (workers.filterMap fun w => ((run h online acts).pc w).report) {}
  refine ⟨?_, fun x => ?_⟩
  · rw [answer, hupdated, Nat.zero_add]
    clear hupdated hresponders
    induction workers with
    | nil => rfl
    | cons w rest ih =>
      cases hreport : ((run h online acts).pc w).report with
      | none => simpa [hreport] using ih
      | some report =>
        have hlength := (hcounts hreport).updated
        rw [List.length_map] at hlength
        simpa [hreport, hlength] using ih
  · rw [answer, hresponders]
    simp only [Finset.notMem_empty, false_or, List.mem_filterMap]
    constructor
    · rintro ⟨report, ⟨w, hw, hreport⟩, hx⟩
      refine ⟨w, hw, Option.isSome_of_eq_some hreport, ?_⟩
      rw [(hcounts hreport).responders, respondersOf, List.mem_toFinset, List.filterMap_map, List.mem_filterMap] at hx
      exact hx
    · rintro ⟨w, hw, hsome, e, he, hx⟩
      obtain ⟨report, hreport⟩ := Option.isSome_iff_exists.mp hsome
      refine ⟨report, ⟨w, hw, hreport⟩, ?_⟩
      rw [(hcounts hreport).responders, respondersOf, List.mem_toFinset, List.filterMap_map, List.mem_filterMap]
      exact ⟨e, he, hx⟩

/-- No worker and no reader has anything left to do. -/
structure AtRest (s : System) : Prop where
  workers : ∀ w, s.pc w = .idle ∨ ∃ report, s.pc w = .done report
  readers : ∀ t, s.shared.readers t = .idle

/-- What a worker at rest has written, it wrote by the time it was done. -/
theorem Holds.rest {s : System} (hs : Holds h online s) (hrest : AtRest s) {v : Write} (hauthor : v.author = some w)
    (hmem : (i, v) ∈ s.shared.writes) : ∃ report, s.pc w = .done (some report) ∧
      Marked h w (s.shared.got w) (s.shared.wrote w) (snapshotTargets h w) report := by
  have hwrote := (mem_wrote hauthor).mpr hmem
  have hplace := hs.placed w
  rcases hrest.workers w with hidle | ⟨report, hdone⟩
  · rw [hidle] at hplace
    rw [hplace.2] at hwrote
    cases hwrote
  · rw [hdone] at hplace
    cases report with
    | none =>
      rw [hplace.2] at hwrote
      cases hwrote
    | some report => exact ⟨report, hdone, hplace⟩

/-- The link of a device, if all that was written of it agrees. -/
theorem Kept.agreed (hs : Kept h online s) {b : Bool} (hall : ∀ v, (i, v) ∈ s.writes → v.online = b)
    (hsome : ∃ v, (i, v) ∈ s.writes) : s.online i = b := by
  have hmem : ∀ {e}, e ∈ s.writes.filter (fun e => e.1 = i) → (i, e.2) ∈ s.writes := by
    intro e he
    obtain ⟨hmem, hi⟩ := List.mem_filter.mp he
    rw [← of_decide_eq_true hi]
    exact hmem
  rw [hs.last]
  cases hlast : (s.writes.filter fun e => e.1 = i).getLast? with
  | none =>
    obtain ⟨v, hv⟩ := hsome
    have hnil := List.getLast?_eq_none_iff.mp hlast
    have hin : (i, v) ∈ s.writes.filter fun e => e.1 = i := List.mem_filter.mpr ⟨hv, decide_eq_true rfl⟩
    rw [hnil] at hin
    cases hin
  | some e => exact hall e.2 (hmem (List.mem_of_getLast? hlast))

theorem Kept.unwritten (hs : Kept h online s) (hnone : ∀ v, (i, v) ∉ s.writes) : s.online i = online i := by
  have hnil : (s.writes.filter fun e => e.1 = i) = [] := by
    refine List.filter_eq_nil_iff.mpr fun e he hi => hnone e.2 ?_
    rw [← of_decide_eq_true hi]
    exact he
  rw [hs.last, hnil]
  rfl

/-- **Once everyone is at rest, a device that no gateway heard is offline if a worker that is done polled it, and
as it was if none did. One that was heard, through its own gateway alone, and answered each worker that is done
and polled it, is online.** -/
theorem links_run (h : Host) (online : Nat → Bool) (acts : List Act) (hrest : AtRest (run h online acts))
    (hmacs : ∀ d ∈ h.devices, isMac12 d.addr = true) (i : Nat)
    (hends : ∀ j, lastSix (mac h j) = lastSix (mac h i) → j = i)
    (hother : ∀ b, (i, .other b) ∉ (run h online acts).shared.writes) :
    ((∀ t ev, (t, ev) ∈ (run h online acts).shared.heard → position h (senderHex ev) ≠ some i) →
      (∀ w report, (run h online acts).pc w = .done (some report) → i ∈ snapshotTargets h w →
        (run h online acts).shared.online i = false) ∧
      ((∀ w report, (run h online acts).pc w = .done (some report) → i ∉ snapshotTargets h w) →
        (run h online acts).shared.online i = online i)) ∧
    ((∃ t ev, (t, ev) ∈ (run h online acts).shared.heard ∧ position h (senderHex ev) = some i) →
      (∀ t ev, (t, ev) ∈ (run h online acts).shared.heard → position h (senderHex ev) = some i →
        welcome h ev = true) →
      (∀ w report, (run h online acts).pc w = .done (some report) → i ∈ snapshotTargets h w →
        ∃ e ∈ (run h online acts).shared.got w, Named h i e.2) →
      (run h online acts).shared.online i = true) := by
  have hs := holds_run h online acts
  -- What was written of the device, and by whom.
  have hreply : ∀ {t b}, (i, .reply t b) ∈ (run h online acts).shared.writes → ∃ ev,
      (t, ev) ∈ (run h online acts).shared.heard ∧ position h (senderHex ev) = some i ∧ b = welcome h ev :=
    hs.kept.written
  constructor
  · intro hunheard
    have hnoreply : ∀ t b, (i, .reply t b) ∉ (run h online acts).shared.writes := by
      intro t b hmem
      obtain ⟨ev, hev, hposition, -⟩ := hreply hmem
      exact hunheard t ev hev hposition
    constructor
    · intro w report hdone hi
      refine hs.kept.agreed (fun v hv => ?_) ⟨.silent w, ?_⟩
      · cases v with
        | missed w' => rfl
        | silent w' => rfl
        | reply t b => exact absurd hv (hnoreply t b)
        | other b => exact absurd hv (hother b)
      · have hmarked := (polled_run h online acts w hdone).1 i
        refine hmarked.mpr ⟨hi, fun e he hnamed => ?_⟩
        obtain ⟨-, t, ht⟩ := hs.kept.taken (List.mem_filter.mp he).1
        obtain ⟨sender3, -, hev⟩ := hs.kept.replies ht
        obtain ⟨d, hd, -⟩ := mem_snapshotTargets.mp hi
        have hsender : e.2.sender3 = some sender3 := by rw [hev, statusReply]
        obtain ⟨hthree, hname⟩ := named_end hmacs hd hsender hnamed
        refine hunheard t e.2 ht ?_
        rw [senderHex, hsender]
        exact position_eq hd hends hthree hname
    · intro hunpolled
      refine hs.kept.unwritten fun v hv => ?_
      cases v with
      | missed w =>
        obtain ⟨report, hdone, hm⟩ := hs.rest hrest rfl hv
        exact hunpolled w report hdone (hm.missed i ((mem_wrote rfl).mpr hv)).1
      | silent w =>
        obtain ⟨report, hdone, hm⟩ := hs.rest hrest rfl hv
        exact hunpolled w report hdone ((hm.silent i).mp ((mem_wrote rfl).mpr hv)).1
      | reply t b => exact hnoreply t b hv
      | other b => exact hother b hv
  · intro hheard hwelcome hanswered
    refine hs.kept.agreed (fun v hv => ?_) ?_
    · cases v with
      | missed w =>
        obtain ⟨report, hdone, hm⟩ := hs.rest hrest rfl hv
        obtain ⟨hi, hnone⟩ := hm.missed i ((mem_wrote rfl).mpr hv)
        obtain ⟨e, he, hnamed⟩ := hanswered w report hdone hi
        cases htarget : e.1.target with
        | none => exact absurd hnamed (hnone e he (.inl htarget))
        | some j =>
          have haccepts := (hs.kept.taken (List.mem_filter.mp he).1).1
          obtain ⟨d, hd, -⟩ := mem_snapshotTargets.mp hi
          have hj := hends j (named_target hmacs (hm.waits e he) haccepts htarget hd hnamed)
          exact absurd hnamed (hnone e he (.inr (hj ▸ htarget)))
      | silent w =>
        obtain ⟨report, hdone, hm⟩ := hs.rest hrest rfl hv
        obtain ⟨hi, hnone⟩ := ((polled_run h online acts w hdone).1 i).mp hv
        obtain ⟨e, he, hnamed⟩ := hanswered w report hdone hi
        exact absurd hnamed (hnone e he)
      | reply t b =>
        obtain ⟨ev, hev, hposition, rfl⟩ := hreply hv
        exact hwelcome t ev hev hposition
      | other b => exact absurd hv (hother b)
    · obtain ⟨t, ev, hev, hposition⟩ := hheard
      have hnot : ((run h online acts).shared.readers t).event ≠ some ev := by
        rw [hrest.readers t]
        exact (Option.some_ne_none ev).symm
      exact ⟨_, (hs.kept.recorded hev).resolve_left hnot i hposition⟩

/-! ### A poll of two devices -/

/-- A worker that was not started, and a reader that heard nothing, is idle. -/
theorem idle_run (h : Host) (online : Nat → Bool) (acts : List Act) (hpoll : Act.poll w ∉ acts) :
    (run h online acts).pc w = .idle := by
  have hbegun : (begun online).pc w = .idle := rfl
  refine List.foldlRecOn (motive := fun s => s.pc w = .idle) acts (step h) hbegun fun s hs a ha => ?_
  have hmove : ∀ (w' : Worker) (next : Job × Desk), (w' = w → next.1 = .idle) → (s.move w' next).pc w = .idle := by
    intro w' next hnext
    by_cases hw : w = w'
    · rw [hw, Threads.pc_move]
      exact hnext hw.symm
    · rw [Threads.pc_move_of_ne hw]
      exact hs
  cases a with
  | poll w' =>
    simp only [step]
    split
    · exact hmove w' _ fun heq => absurd (heq ▸ ha) hpoll
    · exact hs
  | next w' =>
    refine hmove w' _ fun heq => ?_
    rw [heq, hs]
    rfl
  | fail w' =>
    simp only [step]
    split
    · next hwaiting =>
      refine hmove w' _ fun heq => ?_
      rw [heq, hs] at hwaiting
      cases hwaiting
    · exact hs
  | hear t sender3 =>
    simp only [step]
    split
    · split
      · exact hs
      · exact hs
    · exact hs
  | read t => exact hs
  | write i b => exact hs

theorem idle_reader (h : Host) (online : Nat → Bool) (acts : List Act) {t : Transport}
    (hhear : ∀ sender3, Act.hear t sender3 ∉ acts) : (run h online acts).shared.readers t = .idle := by
  have hbegun : (begun online).shared.readers t = .idle := rfl
  refine List.foldlRecOn (motive := fun s => s.shared.readers t = .idle) acts (step h) hbegun fun s hs a ha => ?_
  have hwork : ∀ (w : Worker) (job : Job), (work h w s.shared job).2.readers t = s.shared.readers t := by
    intro w job
    cases job with
    | idle => rfl
    | looking rest before =>
      cases rest with
      | nil => rfl
      | cons i rest => rfl
    | waiting wait after => rfl
    | closed wait after =>
      cases after with
      | collected before => rfl
      | retried i rest report =>
        simp only [work]
        split
        · rfl
        · rfl
    | retrying rest report =>
      cases rest with
      | nil => rfl
      | cons i rest =>
        simp only [work]
        split
        · rfl
        · rfl
        · rfl
    | marking rest report =>
      cases rest with
      | nil => rfl
      | cons i rest =>
        simp only [work]
        split
        · rfl
        · rfl
    | done report => rfl
  cases a with
  | poll w =>
    simp only [step]
    split
    · exact hs
    · exact hs
  | next w => exact (hwork w (s.pc w)).trans hs
  | fail w =>
    simp only [step]
    split
    · exact hs
    · exact hs
  | hear t' sender3 =>
    simp only [step]
    split
    · split
      · have ht : t ≠ t' := fun heq => hhear sender3 (heq ▸ ha)
        simp only [Function.update_of_ne ht]
        exact hs
      · exact hs
    · exact hs
  | read t' =>
    simp only [step]
    by_cases ht : t = t'
    · subst ht
      rw [hs]
      exact Function.update_self ..
    · simp only [Function.update_of_ne ht]
      cases hreading : s.shared.readers t' with
      | idle => exact hs
      | heard ev keys =>
        cases keys with
        | nil => exact (congrFun (readers_record t' ev s.shared) t).trans hs
        | cons key keys => exact hs
      | offered ev key keys => exact hs
  | write i b => exact hs

/-- A gateway with two devices. -/
def pair : Host where
  networks := [⟨"A", .rf, some "AABBCCDDEE01"⟩]
  groups := [⟨none⟩]
  devices := [⟨"AABBCCDDEE11", 0, some "A"⟩, ⟨"AABBCCDDEE12", 0, some "A"⟩]
  transports := [⟨1, some "A", "AABBCCDDEE01"⟩]

def pairWorker : Worker := ⟨1, ⟨1, some "A", "AABBCCDDEE01"⟩, 255⟩

/-- The first device answers, the second one neither at once nor when it is asked again. -/
def pollPair : List Act :=
  .poll pairWorker :: List.replicate 3 (.next pairWorker) ++
    .hear pairWorker.transport [0xDD, 0xEE, 0x11] :: List.replicate 5 (.read pairWorker.transport) ++
    List.replicate 9 (.next pairWorker)

theorem polled_pair :
    (∀ i, (i, .silent pairWorker) ∈ (run pair (fun _ => true) pollPair).shared.writes ↔
      i ∈ snapshotTargets pair pairWorker ∧
        ∀ e ∈ (run pair (fun _ => true) pollPair).shared.got pairWorker, ¬ Named pair i e.2) ∧
      Report.Counts ⟨1, {"DDEE11"}, 1, ∅⟩
        (((run pair (fun _ => true) pollPair).shared.got pairWorker).map Prod.snd) := by
  have hdone : (run pair (fun _ => true) pollPair).pc pairWorker = .done (some ⟨1, {"DDEE11"}, 1, ∅⟩) := by
    decide +kernel
  have hpolled := polled_run pair (fun _ => true) pollPair pairWorker hdone
  exact ⟨hpolled.1, hpolled.2.2.1⟩

theorem rest_pair : AtRest (run pair (fun _ => true) pollPair) := by
  refine ⟨fun w => ?_, fun t => ?_⟩
  · by_cases hw : w = pairWorker
    · rw [hw]
      exact .inr ⟨some ⟨1, {"DDEE11"}, 1, ∅⟩, by decide +kernel⟩
    · exact .inl (idle_run pair _ pollPair (by simp [pollPair, hw]))
  · by_cases ht : t = pairWorker.transport
    · rw [ht]
      decide +kernel
    · exact idle_reader pair _ pollPair fun sender3 => by simp [pollPair, ht]

theorem ends_pair (i j : Nat) (hi : i < 2) (hends : lastSix (mac pair j) = lastSix (mac pair i)) : j = i := by
  by_cases hj : j < 2
  · have hall : ∀ i < 2, ∀ j < 2, lastSix (mac pair j) = lastSix (mac pair i) → j = i := by decide +kernel
    exact hall i hi j hj hends
  · have hnone : pair.devices[j]? = none := List.getElem?_eq_none (Nat.le_of_not_lt hj)
    have hempty : lastSix (mac pair j) = "" := by
      rw [mac, hnone]
      rfl
    have hsome : ∀ i < 2, lastSix (mac pair i) ≠ "" := by decide +kernel
    rw [hempty] at hends
    exact absurd hends.symm (hsome i hi)

theorem links_pair : (run pair (fun _ => true) pollPair).shared.online 0 = true ∧
    (run pair (fun _ => true) pollPair).shared.online 1 = false := by
  have hmacs : ∀ d ∈ pair.devices, isMac12 d.addr = true := by decide +kernel
  have hheard : (run pair (fun _ => true) pollPair).shared.heard =
      [(pairWorker.transport, statusReply pairWorker.transport [0xDD, 0xEE, 0x11])] := by decide +kernel
  have hwrites : (run pair (fun _ => true) pollPair).shared.writes =
      [(0, .reply pairWorker.transport true), (1, .missed pairWorker), (1, .silent pairWorker)] := by decide +kernel
  have hdone : (run pair (fun _ => true) pollPair).pc pairWorker = .done (some ⟨1, {"DDEE11"}, 1, ∅⟩) := by
    decide +kernel
  have hother : ∀ i b, (i, .other b) ∉ (run pair (fun _ => true) pollPair).shared.writes := by simp [hwrites]
  have hposition : position pair (senderHex (statusReply pairWorker.transport [0xDD, 0xEE, 0x11])) = some 0 := by
    decide +kernel
  constructor
  · have hlinks := links_run pair (fun _ => true) pollPair rest_pair hmacs 0 (fun j => ends_pair 0 j (by decide))
      (hother 0)
    refine hlinks.2 ?_ ?_ ?_
    · rw [hheard]
      exact ⟨_, _, List.mem_singleton_self _, hposition⟩
    · intro t ev hev
      rw [hheard] at hev
      cases List.mem_singleton.mp hev
      intro hzero
      decide +kernel
    · intro w report hw hzero
      have hpaired : w = pairWorker := by
        by_contra hne
        rw [idle_run pair _ pollPair (by simp [pollPair, hne])] at hw
        cases hw
      have hgot : (broadcastWait pair pairWorker, statusReply pairWorker.transport [0xDD, 0xEE, 0x11]) ∈
          (run pair (fun _ => true) pollPair).shared.got pairWorker := by decide +kernel
      rw [hpaired]
      exact ⟨_, hgot, "DDEE11", by decide +kernel, .inr (by decide +kernel)⟩
  · have hlinks := links_run pair (fun _ => true) pollPair rest_pair hmacs 1 (fun j => ends_pair 1 j (by decide))
      (hother 1)
    refine (hlinks.1 ?_).1 pairWorker _ hdone (by decide +kernel)
    intro t ev hev
    rw [hheard] at hev
    cases List.mem_singleton.mp hev
    rw [hposition]
    decide

/-- A device that was offline and answers while the other one is asked again is marked offline all the same. -/
example : let acts := .poll pairWorker :: List.replicate 6 (.next pairWorker) ++
      .hear pairWorker.transport [0xDD, 0xEE, 0x11] :: List.replicate 5 (.read pairWorker.transport) ++
      List.replicate 6 (.next pairWorker)
    (run pair (fun i => i = 1) acts).shared.writes = [(0, .reply pairWorker.transport true), (1, .missed pairWorker),
      (0, .silent pairWorker), (1, .silent pairWorker)] := by decide +kernel

end RaceLink.Fleet.Polling
