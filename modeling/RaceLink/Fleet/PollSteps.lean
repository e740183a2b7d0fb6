import RaceLink.Fleet.Polling
import RaceLink.Library.Runs

/-! What each step of a poll keeps.

A worker marks offline those devices of its own gateway that are not among the replies its waits were left with.
Of each device there is what was last written about it, and who has written it. -/
namespace RaceLink.Fleet.Polling
open Python Library Domain Routing Pending Scenes

variable {h : Host} {online : Nat → Bool} {s s' : Desk} {w w' : Worker} {i : Nat}

/-! ### What is heard, collected and written -/

/-- The sender of a reply in the digits that a record is looked up by. -/
def senderHex (ev : ReplyEvent) : String := hexUpper (ev.sender3.getD [])

/-- A reply that some transport passed on. -/
def Passed (s : Desk) (ev : ReplyEvent) : Prop := ∃ t, (t, ev) ∈ s.heard

/-- The reply that a reader is at. -/
def Reading.event : Reading → Option ReplyEvent
  | .idle => none
  | .heard ev _ => some ev
  | .offered ev _ _ => some ev

/-- The link of a device is as it was last written. Waits collect only replies that they accept and a transport
passed on. A reader is at a reply until it is written. -/
structure Kept (h : Host) (online : Nat → Bool) (s : Desk) : Prop where
  last : ∀ i, s.online i = ((s.writes.filter fun e => e.1 = i).getLast?.map fun e => e.2.online).getD (online i)
  replies : ∀ {t ev}, (t, ev) ∈ s.heard → ∃ sender3, sender3.length = 3 ∧ ev = statusReply t sender3
  reading : ∀ {t ev}, (s.readers t).event = some ev → (t, ev) ∈ s.heard
  serving : ∀ {key t ev candidates}, (s.registry key).serving t = some (ev, candidates) → Passed s ev
  collected : ∀ {key wait ev}, ev ∈ (s.registry key).collected wait →
    wait.matcher.accepts ev = true ∧ Passed s ev
  taken : ∀ {wait ev}, (wait, ev) ∈ s.taken → wait.matcher.accepts ev = true ∧ Passed s ev
  recorded : ∀ {t ev}, (t, ev) ∈ s.heard → (s.readers t).event = some ev ∨
    ∀ i, position h (senderHex ev) = some i → (i, .reply t (welcome h ev)) ∈ s.writes
  written : ∀ {i t b}, (i, .reply t b) ∈ s.writes →
    ∃ ev, (t, ev) ∈ s.heard ∧ position h (senderHex ev) = some i ∧ b = welcome h ev

theorem kept_begun : Kept h online { online } := by
  refine ⟨fun i => rfl, ?_, ?_, ?_, ?_, ?_, ?_, ?_⟩
  all_goals
    intros
    rename_i hmem
    cases hmem

theorem last_write (s : Desk) (j : Nat) (v : Write) (hlast : ∀ i, s.online i =
    ((s.writes.filter fun e => e.1 = i).getLast?.map fun e => e.2.online).getD (online i)) (i : Nat) :
    (s.write j v).online i =
      (((s.write j v).writes.filter fun e => e.1 = i).getLast?.map fun e => e.2.online).getD (online i) := by
  by_cases hi : i = j
  · simp [Desk.write, List.filter_append, hi]
  · simp [Desk.write, List.filter_append, hi, Ne.symm hi, hlast i]

/-- The link of a device is written. -/
theorem Kept.write (hs : Kept h online s) (j : Nat) {v : Write} (hv : ∀ t b, v = .reply t b →
    ∃ ev, (t, ev) ∈ s.heard ∧ position h (senderHex ev) = some j ∧ b = welcome h ev) :
    Kept h online (s.write j v) := by
  refine ⟨last_write s j v hs.last, hs.replies, hs.reading, hs.serving, hs.collected, hs.taken,
    fun hmem => ?_, fun hmem => ?_⟩
  · exact (hs.recorded hmem).imp id fun hall i hi => List.mem_append_left _ (hall i hi)
  · rcases List.mem_append.mp hmem with hmem | hmem
    · exact hs.written hmem
    · cases List.mem_singleton.mp hmem
      exact hv _ _ rfl

theorem Kept.take (hs : Kept h online s) (wait : Wait) : Kept h online (s.take wait) := by
  refine ⟨hs.last, hs.replies, hs.reading, hs.serving, hs.collected, fun hmem => ?_, hs.recorded, hs.written⟩
  rcases List.mem_append.mp hmem with hmem | hmem
  · exact hs.taken hmem
  · obtain ⟨ev, hev, heq⟩ := List.mem_map.mp hmem
    cases heq
    exact hs.collected hev

theorem serving_deliver (r : Registry Wait Transport) (t : Transport) :
    (r.deliver Wait.matcher t).serving = Function.update r.serving t none := by
  unfold Registry.deliver
  split
  · next hnone => rw [← hnone, Function.update_eq_self]
  · dsimp only
    split
    · rfl
    · rfl

/-- What a registry serves was offered to it. -/
theorem next_serving {r : Registry Wait Transport} {c : Call Wait Transport} {t : Transport}
    {served : ReplyEvent × List Wait} (hserving : (r.next Wait.matcher c).serving t = some served) :
    r.serving t = some served ∨ c = .offer t served.1 := by
  cases c with
  | register wait =>
    simp only [Registry.next, Registry.register] at hserving
    grind
  | cancel wait =>
    simp only [Registry.next, Registry.cancel] at hserving
    grind
  | offer t' ev =>
    simp only [Registry.next, Registry.offer] at hserving
    by_cases ht : t = t'
    · subst ht
      rw [Function.update_self] at hserving
      cases hserving
      exact .inr rfl
    · rw [Function.update_of_ne ht] at hserving
      exact .inl hserving
  | deliver t' =>
    rw [Registry.next, serving_deliver] at hserving
    by_cases ht : t = t'
    · subst ht
      rw [Function.update_self] at hserving
      cases hserving
    · rw [Function.update_of_ne ht] at hserving
      exact .inl hserving

theorem Kept.call (hs : Kept h online s) (key : Option String) {c : Call Wait Transport}
    (hc : ∀ t ev, c = .offer t ev → Passed s ev) : Kept h online (s.call key c) := by
  refine ⟨hs.last, hs.replies, hs.reading, fun {key' t ev candidates} hserving => ?_, fun {key' wait ev} hev => ?_,
    hs.taken, hs.recorded, hs.written⟩
  · by_cases hkey : key' = key
    · subst hkey
      simp only [Desk.call, Function.update_self] at hserving
      rcases next_serving hserving with hold | hoffer
      · exact hs.serving hold
      · exact hc t ev hoffer
    · simp only [Desk.call, Function.update_of_ne hkey] at hserving
      exact hs.serving hserving
  · by_cases hkey : key' = key
    · subst hkey
      simp only [Desk.call, Function.update_self] at hev
      rcases next_collected Wait.matcher (s.registry key') c wait with hsame | hnew
      · rw [hsame] at hev
        exact hs.collected hev
      · obtain ⟨t, ev', candidates, -, hserving, htaker, hcollected⟩ := hnew
        rw [hcollected] at hev
        rcases List.mem_append.mp hev with hev | hev
        · exact hs.collected hev
        · cases List.mem_singleton.mp hev
          have haccepts := List.find?_some htaker
          exact ⟨haccepts, hs.serving hserving⟩
    · simp only [Desk.call, Function.update_of_ne hkey] at hev
      exact hs.collected hev

theorem Kept.ask (hs : Kept h online s) (wait : Wait) (frame : StatusFrame) : Kept h online (s.ask wait frame) := by
  have hcall := hs.call wait.matcher.gatewayId (c := .register wait) fun _ _ heq => by cases heq
  exact ⟨hcall.last, hcall.replies, hcall.reading, hcall.serving, hcall.collected, hcall.taken, hcall.recorded,
    hcall.written⟩

theorem Kept.work (hs : Kept h online s) (w : Worker) (job : Job) : Kept h online (work h w s job).2 := by
  cases job with
  | idle => exact hs
  | looking rest before =>
    cases rest with
    | nil => exact hs.ask _ _
    | cons i rest => exact hs
  | waiting wait after => exact hs.call _ fun _ _ heq => by cases heq
  | closed wait after =>
    cases after with
    | collected before => exact hs.take wait
    | retried i rest report =>
      simp only [Polling.work]
      split
      · exact (hs.take wait).write i fun _ _ heq => by cases heq
      · exact hs.take wait
  | retrying rest report =>
    cases rest with
    | nil => exact hs
    | cons i rest =>
      simp only [Polling.work]
      split
      · exact hs
      · exact hs
      · exact hs.ask _ _
  | marking rest report =>
    cases rest with
    | nil => exact hs
    | cons i rest =>
      simp only [Polling.work]
      split
      · exact hs.write i fun _ _ heq => by cases heq
      · exact hs
  | done report => exact hs

theorem Kept.hear (hs : Kept h online s) {t : Transport} {sender3 : Bytes} (hidle : s.readers t = .idle)
    (hlength : sender3.length = 3) : Kept h online
      {s with
        readers := Function.update s.readers t (.heard (statusReply t sender3) (keysOf t))
        heard := s.heard ++ [(t, statusReply t sender3)]} := by
  have hpassed : ∀ {ev}, Passed s ev → ∃ t', (t', ev) ∈ s.heard ++ [(t, statusReply t sender3)] := by
    intro ev hev
    obtain ⟨t', ht'⟩ := hev
    exact ⟨t', List.mem_append_left _ ht'⟩
  refine ⟨hs.last, fun hmem => ?_, fun {t' ev} hev => ?_, fun hserving => hpassed (hs.serving hserving),
    fun hev => (hs.collected hev).imp id hpassed, fun hmem => (hs.taken hmem).imp id hpassed,
    fun {t' ev} hmem => ?_, fun hmem => ?_⟩
  · rcases List.mem_append.mp hmem with hmem | hmem
    · exact hs.replies hmem
    · cases List.mem_singleton.mp hmem
      exact ⟨sender3, hlength, rfl⟩
  · by_cases ht : t' = t
    · subst ht
      simp only [Function.update_self, Reading.event, Option.some.injEq] at hev
      rw [← hev]
      exact List.mem_append_right _ (List.mem_singleton_self _)
    · simp only [Function.update_of_ne ht] at hev
      exact List.mem_append_left _ (hs.reading hev)
  · rcases List.mem_append.mp hmem with hold | hnew
    · by_cases ht : t' = t
      · subst ht
        have hnot : (s.readers t').event ≠ some ev := by
          rw [hidle]
          exact (Option.some_ne_none ev).symm
        exact .inr ((hs.recorded hold).resolve_left hnot)
      · simp only [Function.update_of_ne ht]
        exact hs.recorded hold
    · cases List.mem_singleton.mp hnew
      simp only [Function.update_self]
      exact .inl rfl
  · obtain ⟨ev, hev, hrest⟩ := hs.written hmem
    exact ⟨ev, List.mem_append_left _ hev, hrest⟩

/-- A reader goes on with the same reply, or has written it. -/
theorem Kept.readers (hs : Kept h online s) {t : Transport} {next : Reading}
    (hnext : next.event = (s.readers t).event ∨ next = .idle ∧ ∀ ev, (s.readers t).event = some ev →
      ∀ i, position h (senderHex ev) = some i → (i, .reply t (welcome h ev)) ∈ s.writes) :
    Kept h online {s with readers := Function.update s.readers t next} := by
  refine ⟨hs.last, hs.replies, fun {t' ev} hev => ?_, hs.serving, hs.collected, hs.taken, fun {t' ev} hmem => ?_,
    hs.written⟩
  · by_cases ht : t' = t
    · subst ht
      simp only [Function.update_self] at hev
      rcases hnext with hsame | ⟨rfl, -⟩
      · exact hs.reading (hsame ▸ hev)
      · cases hev
    · simp only [Function.update_of_ne ht] at hev
      exact hs.reading hev
  · by_cases ht : t' = t
    · subst ht
      simp only [Function.update_self]
      rcases hs.recorded hmem with hat | hwritten
      · rcases hnext with hsame | ⟨-, hdone⟩
        · exact .inl (hsame.trans hat)
        · exact .inr (hdone ev hat)
      · exact .inr hwritten
    · simp only [Function.update_of_ne ht]
      exact hs.recorded hmem

theorem readers_record (t : Transport) (ev : ReplyEvent) (s : Desk) : (record h t ev s).readers = s.readers := by
  unfold record
  split
  · rfl
  · rfl

theorem Kept.read (hs : Kept h online s) (t : Transport) :
    Kept h online {(read h t s (s.readers t)).2 with
      readers := Function.update (read h t s (s.readers t)).2.readers t (read h t s (s.readers t)).1} := by
  cases hreading : s.readers t with
  | idle => exact hs.readers (.inl (by rw [hreading]; rfl))
  | heard ev keys =>
    have hmem : (t, ev) ∈ s.heard := hs.reading (by rw [hreading]; rfl)
    cases keys with
    | cons key keys =>
      have hcall := hs.call key (c := .offer t ev) fun t' ev' heq => by
        cases heq
        exact ⟨t, hmem⟩
      refine hcall.readers (.inl ?_)
      show some ev = (s.readers t).event
      rw [hreading]
      rfl
    | nil =>
      have hrecord : Kept h online (record h t ev s) := by
        unfold record
        split
        · exact hs
        · next i hi =>
          refine hs.write i fun t' b heq => ?_
          cases heq
          exact ⟨ev, hmem, hi, rfl⟩
      refine hrecord.readers (.inr ⟨rfl, fun ev' hev' i hi => ?_⟩)
      rw [readers_record, hreading] at hev'
      cases hev'
      have hposition : position h (hexUpper (ev.sender3.getD [])) = some i := hi
      rw [record, hposition]
      exact List.mem_append_right _ (List.mem_singleton_self _)
  | offered ev key keys =>
    have hcall := hs.call key (c := .deliver t) fun t' ev' heq => by cases heq
    refine hcall.readers (.inl ?_)
    show some ev = (s.readers t).event
    rw [hreading]
    rfl

/-! ### What a worker has, and has written -/

def Write.author : Write → Option Worker
  | .missed w => some w
  | .silent w => some w
  | .reply _ _ => none
  | .other _ => none

/-- The replies that the waits of a worker were left with, and what it wrote. -/
def Desk.got (s : Desk) (w : Worker) : List (Wait × ReplyEvent) := s.taken.filter fun e => e.1.owner = w

def Desk.wrote (s : Desk) (w : Worker) : List (Nat × Write) := s.writes.filter fun e => e.2.author = some w

theorem wrote_write (s : Desk) (i : Nat) (v : Write) (w : Worker) :
    (s.write i v).wrote w = s.wrote w ++ if v.author = some w then [(i, v)] else [] := by
  by_cases hw : v.author = some w
  · simp [Desk.wrote, Desk.write, List.filter_append, hw]
  · simp [Desk.wrote, Desk.write, List.filter_append, hw]

theorem got_take (s : Desk) (wait : Wait) (w : Worker) : (s.take wait).got w =
    s.got w ++ if wait.owner = w then (s.replies wait).map fun ev => (wait, ev) else [] := by
  by_cases hw : wait.owner = w
  · simp [Desk.got, Desk.take, List.filter_append, List.filter_map, Function.comp_def, hw]
  · simp [Desk.got, Desk.take, List.filter_append, List.filter_map, Function.comp_def, hw]

/-- A reply is from the device at a place, as far as the count goes. -/
def Named (h : Host) (i : Nat) (ev : ReplyEvent) : Prop :=
  ∃ x ∈ responderOf ev, x = mac h i ∨ x = lastSix (mac h i)

theorem answers_iff {replies : List ReplyEvent} :
    Answers (respondersOf replies) (mac h i) ↔ ∃ ev ∈ replies, Named h i ev := by
  simp only [Answers, respondersOf, List.mem_toFinset, List.mem_filterMap, Named, Option.mem_def]
  constructor
  · intro hanswers
    rcases hanswers with ⟨ev, hev, hx⟩ | ⟨ev, hev, hx⟩
    · exact ⟨ev, hev, _, hx, .inl rfl⟩
    · exact ⟨ev, hev, _, hx, .inr rfl⟩
  · rintro ⟨ev, hev, x, hx, rfl | rfl⟩
    · exact .inl ⟨ev, hev, hx⟩
    · exact .inr ⟨ev, hev, hx⟩

theorem respondersOf_append (evs replies : List ReplyEvent) :
    respondersOf (evs ++ replies) = respondersOf evs ∪ respondersOf replies := by
  ext x
  simp [respondersOf, List.filterMap_append]

/-- A report counts these replies. -/
structure Report.Counts (r : Report) (evs : List ReplyEvent) : Prop where
  updated : r.updated = evs.length
  responders : r.responders = respondersOf evs

theorem Report.Counts.retry {r : Report} {evs replies : List ReplyEvent} (hr : r.Counts evs)
    (hsenders : ∀ ev ∈ replies, (responderOf ev).isSome = true) : (r.retry replies).Counts (evs ++ replies) := by
  unfold Report.retry
  split
  · next hnone =>
    have hreplies : replies = [] := by
      by_contra hsome
      obtain ⟨ev, hev⟩ := List.exists_mem_of_ne_nil replies hsome
      obtain ⟨x, hx⟩ := Option.isSome_iff_exists.mp (hsenders ev hev)
      have hmem : x ∈ respondersOf replies := List.mem_toFinset.mpr (List.mem_filterMap.mpr ⟨ev, hev, hx⟩)
      rw [hnone] at hmem
      exact Finset.notMem_empty x hmem
    rw [hreplies, List.append_nil]
    exact ⟨hr.updated, hr.responders⟩
  · refine ⟨?_, ?_⟩
    · rw [List.length_append, ← hr.updated]
    · rw [respondersOf_append, ← hr.responders]

/-! ### The waits of a worker -/

/-- A wait of a worker is for its gateway, and if it is for one device, for the end of its address. -/
structure Wait.Of (h : Host) (w : Worker) (wait : Wait) : Prop where
  owner : wait.owner = w
  gateway : wait.matcher.gatewayId = ident w.transport
  sender : ∀ j ∈ wait.target, ∃ d recv3, h.devices[j]? = some d ∧ macLast3FromHex d.addr = .ok recv3 ∧
    wait.matcher.senderFilter = some [recv3]

theorem of_broadcastWait (h : Host) (w : Worker) : (broadcastWait h w).Of h w :=
  ⟨rfl, rfl, fun _ hj => by cases hj⟩

theorem mem_snapshotTargets : i ∈ snapshotTargets h w ↔ ∃ d, h.devices[i]? = some d ∧ d.addr ≠ "" ∧
    h.transportForDevice d.addr = some w.transport ∧ (w.groupFilter = 255 ∨ d.groupId = w.groupFilter) := by
  simp only [snapshotTargets, List.mem_filter, List.mem_range, Option.any_eq_true, decide_eq_true_eq]
  constructor
  · rintro ⟨-, d, hd, hrest⟩
    exact ⟨d, hd, hrest⟩
  · rintro ⟨d, hd, hrest⟩
    exact ⟨(List.getElem?_eq_some_iff.mp hd).1, d, hd, hrest⟩

theorem snapshotTargets_nodup (h : Host) (w : Worker) : (snapshotTargets h w).Nodup := List.nodup_range.filter _

/-- A retry asks through the gateway of its worker. -/
theorem unicast_some {wait : Wait} {frame : StatusFrame} (hi : i ∈ snapshotTargets h w)
    (hunicast : unicast h w i = .ok (some (wait, frame))) : wait.Of h w ∧ wait.target = some i := by
  obtain ⟨d, hd, -, hroute, -⟩ := mem_snapshotTargets.mp hi
  rw [unicast, hd] at hunicast
  simp only [hroute, Option.some_or] at hunicast
  cases hrecv : macLast3FromHex d.addr with
  | error e =>
    rw [hrecv] at hunicast
    cases hunicast
  | ok recv3 =>
    rw [hrecv] at hunicast
    by_cases hident : ident w.transport = none
    · simp [hident, pure, Except.pure, bind, Except.bind] at hunicast
    · simp only [hident, if_false, bind, Except.bind, pure, Except.pure, Except.ok.injEq, Option.some.injEq,
        Prod.mk.injEq] at hunicast
      obtain ⟨rfl, -⟩ := hunicast
      refine ⟨⟨rfl, rfl, fun j hj => ?_⟩, rfl⟩
      cases hj
      exact ⟨d, recv3, hd, hrecv, rfl⟩

/-! ### What the place of a worker says -/

/-- A worker has asked everyone, and has these devices still to ask. Whoever it wrote missed its retry. -/
structure Asking (h : Host) (w : Worker) (got : List (Wait × ReplyEvent)) (wrote : List (Nat × Write))
    (rest : List Nat) (report : Report) : Prop where
  counts : report.Counts (got.map Prod.snd)
  waits : ∀ e ∈ got, e.1.Of h w
  nodup : rest.Nodup
  targets : ∀ i ∈ rest, i ∈ snapshotTargets h w
  later : ∀ e ∈ got, ∀ i ∈ rest, e.1.target ≠ some i
  missed : ∀ e ∈ wrote, e.2 = .missed w ∧ e.1 ∈ snapshotTargets h w ∧ e.1 ∉ rest ∧
    ∀ g ∈ got, g.1.target ≠ some e.1
  unanswered : ∀ i, i ∈ rest ∨ (i, .missed w) ∈ wrote → ∀ g ∈ got, g.1.target = none → ¬ Named h i g.2

/-- A worker has marked these devices, as far as they had not answered. -/
structure Marked (h : Host) (w : Worker) (got : List (Wait × ReplyEvent)) (wrote : List (Nat × Write))
    (before : List Nat) (report : Report) : Prop where
  counts : report.Counts (got.map Prod.snd)
  waits : ∀ e ∈ got, e.1.Of h w
  missed : ∀ i, (i, .missed w) ∈ wrote → i ∈ snapshotTargets h w ∧
    ∀ g ∈ got, g.1.target = none ∨ g.1.target = some i → ¬ Named h i g.2
  silent : ∀ i, (i, .silent w) ∈ wrote ↔ i ∈ before ∧ mac h i ≠ "" ∧ ¬ Answers report.responders (mac h i)

/-- What the place of a worker says of what it has and has written. -/
def Says (h : Host) (w : Worker) (got : List (Wait × ReplyEvent)) (wrote : List (Nat × Write)) : Job → Prop
  | .idle => got = [] ∧ wrote = []
  | .looking _ _ => got = [] ∧ wrote = []
  | .waiting wait (.collected _) => wait = broadcastWait h w ∧ got = [] ∧ wrote = []
  | .closed wait (.collected _) => wait = broadcastWait h w ∧ got = [] ∧ wrote = []
  | .waiting wait (.retried i rest report) =>
    wait.Of h w ∧ wait.target = some i ∧ Asking h w got wrote (i :: rest) report
  | .closed wait (.retried i rest report) =>
    wait.Of h w ∧ wait.target = some i ∧ Asking h w got wrote (i :: rest) report
  | .retrying rest report => Asking h w got wrote rest report
  | .marking rest report => ∃ before, snapshotTargets h w = before ++ rest ∧ Marked h w got wrote before report
  | .done none => got = [] ∧ wrote = []
  | .done (some report) => Marked h w got wrote (snapshotTargets h w) report

section Places
variable {got : List (Wait × ReplyEvent)} {wrote : List (Nat × Write)} {rest : List Nat} {report : Report}

/-- The next device is not asked, or its retry came to nothing. -/
theorem Asking.skip (ha : Asking h w got wrote (i :: rest) report) (retried : Nat) :
    Asking h w got wrote rest {report with retried} := by
  refine ⟨⟨ha.counts.updated, ha.counts.responders⟩, ha.waits, (List.nodup_cons.mp ha.nodup).2,
    fun j hj => ha.targets j (List.mem_cons_of_mem _ hj), fun e he j hj => ha.later e he j (List.mem_cons_of_mem _ hj),
    fun e he => ?_, fun j hj => ha.unanswered j (hj.imp (List.mem_cons_of_mem _) id)⟩
  obtain ⟨hmissed, htarget, hrest, hnone⟩ := ha.missed e he
  exact ⟨hmissed, htarget, fun hmem => hrest (List.mem_cons_of_mem _ hmem), hnone⟩

/-- The next device is asked again, and answers. -/
theorem Asking.answered {wait : Wait} {replies : List ReplyEvent} (ha : Asking h w got wrote (i :: rest) report)
    (hwait : wait.Of h w) (htarget : wait.target = some i)
    (hsenders : ∀ ev ∈ replies, (responderOf ev).isSome = true) :
    Asking h w (got ++ replies.map fun ev => (wait, ev)) wrote rest (report.retry replies) := by
  have hnew : ∀ {e}, e ∈ got ++ replies.map (fun ev => (wait, ev)) → e ∈ got ∨ e.1 = wait := by
    intro e he
    rcases List.mem_append.mp he with he | he
    · exact .inl he
    · obtain ⟨ev, -, rfl⟩ := List.mem_map.mp he
      exact .inr rfl
  refine ⟨?_, fun e he => ?_, (List.nodup_cons.mp ha.nodup).2, fun j hj => ha.targets j (List.mem_cons_of_mem _ hj),
    fun e he j hj => ?_, fun e he => ?_, fun j hj e he hnone => ?_⟩
  · have hcounts := ha.counts.retry hsenders
    simpa [List.map_append, Function.comp_def] using hcounts
  · rcases hnew he with he | rfl
    · exact ha.waits e he
    · exact hwait
  · rcases hnew he with he | rfl
    · exact ha.later e he j (List.mem_cons_of_mem _ hj)
    · rw [htarget]
      intro heq
      exact (List.nodup_cons.mp ha.nodup).1 (Option.some.inj heq ▸ hj)
  · obtain ⟨hmissed, hin, hrest, hnone⟩ := ha.missed e he
    refine ⟨hmissed, hin, fun hmem => hrest (List.mem_cons_of_mem _ hmem), fun g hg => ?_⟩
    rcases hnew hg with hg | rfl
    · exact hnone g hg
    · rw [htarget]
      intro heq
      exact hrest (Option.some.inj heq ▸ List.mem_cons_self ..)
  · rcases hnew he with he | rfl
    · exact ha.unanswered j (hj.imp (List.mem_cons_of_mem _) id) e he hnone
    · rw [htarget] at hnone
      cases hnone

/-- The next device is asked again, and does not answer. -/
theorem Asking.silent (ha : Asking h w got wrote (i :: rest) report) (retried : Nat) :
    Asking h w got (wrote ++ [(i, .missed w)]) rest {report with retried} := by
  have hskip := ha.skip retried
  refine ⟨hskip.counts, hskip.waits, hskip.nodup, hskip.targets, hskip.later, fun e he => ?_, fun j hj => ?_⟩
  · rcases List.mem_append.mp he with he | he
    · exact hskip.missed e he
    · cases List.mem_singleton.mp he
      exact ⟨rfl, ha.targets i (List.mem_cons_self ..), (List.nodup_cons.mp ha.nodup).1,
        fun g hg => ha.later g hg i (List.mem_cons_self ..)⟩
  · refine ha.unanswered j ?_
    rcases hj with hj | hj
    · exact .inl (List.mem_cons_of_mem _ hj)
    · rcases List.mem_append.mp hj with hj | hj
      · exact .inr hj
      · cases List.mem_singleton.mp hj
        exact .inl (List.mem_cons_self ..)

/-- Everyone was asked, and those are left that were online and have not answered. -/
theorem asking_collected (before : Finset String) (replies : List ReplyEvent) :
    Asking h w (replies.map fun ev => (broadcastWait h w, ev)) []
      (missing h w before (respondersOf replies))
      { updated := replies.length, responders := respondersOf replies } := by
  have hmissing : ∀ j ∈ missing h w before (respondersOf replies),
      j ∈ snapshotTargets h w ∧ ¬ Answers (respondersOf replies) (mac h j) := by
    intro j hj
    obtain ⟨hmem, hleft⟩ := List.mem_filter.mp hj
    exact ⟨hmem, (of_decide_eq_true hleft).2.2⟩
  refine ⟨⟨?_, ?_⟩, fun e he => ?_, (snapshotTargets_nodup h w).filter _, fun j hj => (hmissing j hj).1,
    fun e he j hj => ?_, fun e he => (by cases he), fun j hj e he _ hnamed => ?_⟩
  · simp
  · simp [Function.comp_def]
  · obtain ⟨ev, -, rfl⟩ := List.mem_map.mp he
    exact of_broadcastWait h w
  · obtain ⟨ev, -, rfl⟩ := List.mem_map.mp he
    exact (Option.some_ne_none j).symm
  · obtain ⟨ev, hev, rfl⟩ := List.mem_map.mp he
    rcases hj with hj | hj
    · exact (hmissing j hj).2 (answers_iff.mpr ⟨ev, hev, hnamed⟩)
    · cases hj

/-- Everyone that was to be asked again was. -/
theorem Asking.marked (ha : Asking h w got wrote [] report) : Marked h w got wrote [] report := by
  refine ⟨ha.counts, ha.waits, fun j hj => ?_, fun j => ?_⟩
  · obtain ⟨-, hin, -, hnone⟩ := ha.missed _ hj
    refine ⟨hin, fun g hg htarget => ?_⟩
    rcases htarget with hall | hone
    · exact ha.unanswered j (.inr hj) g hg hall
    · exact absurd hone (hnone g hg)
  · refine iff_of_false (fun hj => ?_) fun hj => by cases hj.1
    have hmissed := (ha.missed _ hj).1
    cases hmissed

/-- The next device is marked, unless it answered. -/
theorem Marked.mark {before : List Nat} (hm : Marked h w got wrote before report) (i : Nat) :
    Marked h w got
      (wrote ++ if mac h i ≠ "" ∧ ¬ Answers report.responders (mac h i) then [(i, .silent w)] else [])
      (before ++ [i]) report := by
  refine ⟨hm.counts, hm.waits, fun j hj => ?_, fun j => ?_⟩
  · refine hm.missed j ?_
    rcases List.mem_append.mp hj with hj | hj
    · exact hj
    · split at hj
      · cases List.mem_singleton.mp hj
      · cases hj
  · rw [List.mem_append, hm.silent j, List.mem_append, List.mem_singleton]
    by_cases hleft : mac h i ≠ "" ∧ ¬ Answers report.responders (mac h i)
    · rw [if_pos hleft, List.mem_singleton]
      constructor
      · rintro (hj | hj)
        · exact ⟨.inl hj.1, hj.2⟩
        · cases hj
          exact ⟨.inr rfl, hleft⟩
      · rintro ⟨hj | rfl, hrest⟩
        · exact .inl ⟨hj, hrest⟩
        · exact .inr rfl
    · rw [if_neg hleft]
      constructor
      · rintro (hj | hj)
        · exact ⟨.inl hj.1, hj.2⟩
        · cases hj
      · rintro ⟨hj | rfl, hrest⟩
        · exact .inl ⟨hj, hrest⟩
        · exact absurd hrest hleft

end Places

/-! ### Steps -/

/-- Who answers has three bytes to its name. -/
theorem Kept.senders (hs : Kept h online s) (wait : Wait) :
    ∀ ev ∈ s.replies wait, (responderOf ev).isSome = true := by
  intro ev hev
  obtain ⟨-, t, ht⟩ := hs.collected hev
  obtain ⟨sender3, hlength, rfl⟩ := hs.replies ht
  simp [responderOf, statusReply, hlength]

theorem says_work (hs : Kept h online s) {job : Job} (hplace : Says h w (s.got w) (s.wrote w) job) :
    Says h w ((work h w s job).2.got w) ((work h w s job).2.wrote w) (work h w s job).1 := by
  cases job with
  | idle => exact hplace
  | looking rest before =>
    cases rest with
    | nil => exact ⟨rfl, hplace⟩
    | cons i rest => exact hplace
  | waiting wait after =>
    cases after with
    | collected before => exact hplace
    | retried i rest report => exact hplace
  | closed wait after =>
    cases after with
    | collected before =>
      obtain ⟨rfl, hgot, hwrote⟩ := hplace
      have hnew : (s.take (broadcastWait h w)).got w =
          (s.replies (broadcastWait h w)).map fun ev => (broadcastWait h w, ev) := by
        rw [got_take, hgot, List.nil_append]
        exact if_pos rfl
      have hsame : (s.take (broadcastWait h w)).wrote w = [] := hwrote
      simp only [work, Says, hnew, hsame]
      exact asking_collected before _
    | retried i rest report =>
      obtain ⟨hwait, htarget, ha⟩ := hplace
      have hnew : (s.take wait).got w = s.got w ++ (s.replies wait).map fun ev => (wait, ev) := by
        rw [got_take, if_pos hwait.owner]
      simp only [work]
      by_cases hreplies : s.replies wait = []
      · rw [if_pos hreplies, hreplies]
        have hgot : ((s.take wait).write i (.missed w)).got w = s.got w := by
          show (s.take wait).got w = s.got w
          rw [hnew, hreplies, List.map_nil, List.append_nil]
        have hwrote : ((s.take wait).write i (.missed w)).wrote w = s.wrote w ++ [(i, .missed w)] := by
          rw [wrote_write, Write.author, if_pos rfl]
          rfl
        rw [hgot, hwrote]
        exact ha.silent _
      · rw [if_neg hreplies, hnew]
        exact ha.answered hwait htarget (hs.senders wait)
  | retrying rest report =>
    cases rest with
    | nil => exact ⟨[], rfl, Asking.marked hplace⟩
    | cons i rest =>
      have ha : Asking h w (s.got w) (s.wrote w) (i :: rest) report := hplace
      simp only [work]
      split
      · exact ha.skip report.retried
      · exact ha.skip _
      · next wait frame hunicast =>
        obtain ⟨hwait, htarget⟩ := unicast_some (ha.targets i (List.mem_cons_self ..)) hunicast
        exact ⟨hwait, htarget, ha⟩
  | marking rest report =>
    obtain ⟨before, hbefore, hm⟩ := hplace
    cases rest with
    | nil =>
      rw [List.append_nil] at hbefore
      simp only [work, Says, hbefore]
      exact hm
    | cons i rest =>
      have hmark := hm.mark i
      refine ⟨before ++ [i], by rw [hbefore, List.append_assoc, List.singleton_append], ?_⟩
      simp only [work]
      by_cases hleft : mac h i ≠ "" ∧ ¬ Answers report.responders (mac h i)
      · rw [if_pos hleft] at hmark ⊢
        have hwrote : (s.write i (.silent w)).wrote w = s.wrote w ++ [(i, .silent w)] := by
          rw [wrote_write, Write.author, if_pos rfl]
        rw [hwrote]
        exact hmark
      · rw [if_neg hleft, List.append_nil] at hmark
        rw [if_neg hleft]
        exact hmark
  | done report =>
    cases report with
    | none => exact hplace
    | some report => exact hplace

/-- What is said of one worker is not said of another. -/
theorem same_work {job : Job} (hplace : Says h w (s.got w) (s.wrote w) job) (hne : w' ≠ w) :
    (work h w s job).2.got w' = s.got w' ∧ (work h w s job).2.wrote w' = s.wrote w' := by
  have htake : ∀ {wait : Wait}, wait.owner = w → (s.take wait).got w' = s.got w' := by
    intro wait howner
    rw [got_take, howner, if_neg (Ne.symm hne), List.append_nil]
  have hwrite : ∀ (t : Desk) (i : Nat) {v : Write}, v.author = some w → (t.write i v).wrote w' = t.wrote w' := by
    intro t i v hauthor
    have hother : v.author ≠ some w' := fun heq => hne (Option.some.inj (heq.symm.trans hauthor))
    rw [wrote_write, if_neg hother, List.append_nil]
  cases job with
  | idle => exact ⟨rfl, rfl⟩
  | looking rest before =>
    cases rest with
    | nil => exact ⟨rfl, rfl⟩
    | cons i rest => exact ⟨rfl, rfl⟩
  | waiting wait after => exact ⟨rfl, rfl⟩
  | closed wait after =>
    cases after with
    | collected before =>
      obtain ⟨rfl, -, -⟩ := hplace
      exact ⟨htake rfl, rfl⟩
    | retried i rest report =>
      simp only [work]
      split
      · exact ⟨htake hplace.1.owner, hwrite _ i rfl⟩
      · exact ⟨htake hplace.1.owner, rfl⟩
  | retrying rest report =>
    cases rest with
    | nil => exact ⟨rfl, rfl⟩
    | cons i rest =>
      simp only [work]
      split
      · exact ⟨rfl, rfl⟩
      · exact ⟨rfl, rfl⟩
      · exact ⟨rfl, rfl⟩
  | marking rest report =>
    cases rest with
    | nil => exact ⟨rfl, rfl⟩
    | cons i rest =>
      simp only [work]
      split
      · exact ⟨rfl, hwrite s i rfl⟩
      · exact ⟨rfl, rfl⟩
  | done report => exact ⟨rfl, rfl⟩

theorem same_read (h : Host) (t : Transport) (s : Desk) (w : Worker) (reading : Reading) :
    (read h t s reading).2.got w = s.got w ∧ (read h t s reading).2.wrote w = s.wrote w := by
  have hrecord : ∀ ev, (record h t ev s).got w = s.got w ∧ (record h t ev s).wrote w = s.wrote w := by
    intro ev
    unfold record
    split
    · exact ⟨rfl, rfl⟩
    · refine ⟨rfl, ?_⟩
      rw [wrote_write, Write.author, if_neg (Option.some_ne_none w).symm, List.append_nil]
  cases reading with
  | idle => exact ⟨rfl, rfl⟩
  | heard ev keys =>
    cases keys with
    | nil => exact hrecord ev
    | cons key keys => exact ⟨rfl, rfl⟩
  | offered ev key keys => exact ⟨rfl, rfl⟩

/-! ### Runs -/

/-- The records are kept, and each worker is as its place says. -/
structure Holds (h : Host) (online : Nat → Bool) (s : System) : Prop where
  kept : Kept h online s.shared
  placed : ∀ w, Says h w (s.shared.got w) (s.shared.wrote w) (s.pc w)

theorem Holds.move {s : System} (hs : Holds h online s) {next : Job × Desk} (hkept : Kept h online next.2)
    (hnext : Says h w (next.2.got w) (next.2.wrote w) next.1)
    (hsame : ∀ w', w' ≠ w → next.2.got w' = s.shared.got w' ∧ next.2.wrote w' = s.shared.wrote w') :
    Holds h online (s.move w next) := by
  refine ⟨hkept, fun w' => ?_⟩
  by_cases hw : w' = w
  · rw [hw, Threads.pc_move]
    exact hnext
  · rw [Threads.pc_move_of_ne hw]
    obtain ⟨hgot, hwrote⟩ := hsame w' hw
    show Says h w' (next.2.got w') (next.2.wrote w') (s.pc w')
    rw [hgot, hwrote]
    exact hs.placed w'

/-- Nobody's place says more than before. -/
theorem Holds.change {s : System} (hs : Holds h online s) {d : Desk} (hkept : Kept h online d)
    (hsame : ∀ w, d.got w = s.shared.got w ∧ d.wrote w = s.shared.wrote w) : Holds h online ⟨d, s.pc⟩ := by
  refine ⟨hkept, fun w => ?_⟩
  obtain ⟨hgot, hwrote⟩ := hsame w
  show Says h w (d.got w) (d.wrote w) (s.pc w)
  rw [hgot, hwrote]
  exact hs.placed w

theorem Holds.step {s : System} (hs : Holds h online s) (a : Act) : Holds h online (step h s a) := by
  cases a with
  | poll w =>
    simp only [Polling.step]
    split
    · next hidle =>
      refine hs.move hs.kept ?_ fun _ _ => ⟨rfl, rfl⟩
      have hplace := hs.placed w
      rw [hidle] at hplace
      exact hplace
    · exact hs
  | next w =>
    exact hs.move (hs.kept.work w (s.pc w)) (says_work hs.kept (hs.placed w)) fun w' hw => same_work (hs.placed w) hw
  | fail w =>
    simp only [Polling.step]
    split
    · next wait after hwaiting =>
      have hplace := hs.placed w
      rw [hwaiting] at hplace
      refine hs.move (hs.kept.call _ fun _ _ heq => by cases heq) ?_ fun _ _ => ⟨rfl, rfl⟩
      cases after with
      | collected before => exact hplace.2
      | retried i rest report => exact hplace.2.2.skip report.retried
    · exact hs
  | hear t sender3 =>
    simp only [Polling.step]
    split
    · next hidle =>
      split
      · next hlength => exact hs.change (hs.kept.hear hidle hlength) fun _ => ⟨rfl, rfl⟩
      · exact hs
    · exact hs
  | read t => exact hs.change (hs.kept.read t) fun w => same_read h t s.shared w _
  | write i b =>
    refine hs.change (hs.kept.write i fun _ _ heq => by cases heq) fun w => ⟨rfl, ?_⟩
    rw [wrote_write, Write.author, if_neg (Option.some_ne_none w).symm, List.append_nil]

theorem holds_run (h : Host) (online : Nat → Bool) (acts : List Act) : Holds h online (run h online acts) :=
  List.foldlRecOn (motive := Holds h online) acts (step h) ⟨kept_begun, fun _ => ⟨rfl, rfl⟩⟩
    fun _ hs a _ => hs.step a

end RaceLink.Fleet.Polling
