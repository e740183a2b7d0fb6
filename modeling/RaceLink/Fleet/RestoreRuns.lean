import RaceLink.Fleet.Restore

/-! Whole runs of the workers that send devices their groups.

The readers keep to the cooldown of each device at each gateway. So two workers for one are two seconds apart,
and a device that has lost its group has a worker that was noted after that, or less than two seconds before.
Whoever waits for the worker of a device waits for the last one. -/
namespace RaceLink.Fleet.Restore
open Python Library Domain Gateways

abbrev Key := Option String × String

abbrev System := Threads (Option String) Reader Host

/-! ### The cooldown -/

/-- Where a reader is with the cooldown. -/
def Reader.place : Reader → Asker Key ℚ
  | .idle => .idle
  | .wanting key _ => .asking key
  | .asked key _ now => .asked key now
  | .passed key _ now => .passed key now
  | .noted _ _ _ => .idle

theorem cooling_advance (h : Host) (r : Reader) :
    ((advance h r).1.place, (advance h r).2.cache) = Cooldown.advance times h.cache r.place := by
  cases r with
  | idle => rfl
  | wanting key group => rfl
  | asked key group now =>
    by_cases hsuppressed : Cooldown.Suppressed times (Cooldown.prune times h.cache now) key now
    · simp only [advance, Reader.place, Cooldown.advance, if_pos hsuppressed]
    · simp only [advance, Reader.place, Cooldown.advance, if_neg hsuppressed]
  | passed key group now => rfl
  | noted key group time => rfl

/-- Seen from the cooldown, a step is one of its own. -/
theorem cooling_step (s : System) (a : Act) : ∃ acts : List (Cooldown.Act Key ℚ (Option String)),
    (step s a).view Reader.place Host.cache =
      acts.foldl (Cooldown.step times Prod.fst) (s.view Reader.place Host.cache) := by
  cases a with
  | identify g body discovering =>
    simp only [step]
    split
    · next hidle =>
      split
      · exact ⟨[], Threads.view_move_self (congrArg Reader.place hidle.symm) rfl⟩
      · next mac group _ =>
        have hplace : (s.view Reader.place Host.cache).pc g = .idle := congrArg Reader.place hidle
        refine ⟨[.ask (g, mac)], ?_⟩
        rw [Threads.view_move, List.foldl_cons, List.foldl_nil, Cooldown.step, hplace]
        rfl
    · exact ⟨[], rfl⟩
  | next g =>
    refine ⟨[.next g], ?_⟩
    rw [step, Threads.view_move, cooling_advance]
    rfl
  | wait d =>
    refine ⟨[.wait d], ?_⟩
    rw [step, List.foldl_cons, List.foldl_nil, Cooldown.step]
    split
    · rfl
    · rfl
  | finish i =>
    refine ⟨[], ?_⟩
    rw [step]
    split
    · rfl
    · rfl
  | change fleet => exact ⟨[], rfl⟩

theorem kept_cache (fleet : State) {clock : ℚ} (hclock : times.cooldown ≤ clock) (acts : List Act) :
    Cooldown.Kept times (run fleet clock acts).shared.cache := by
  obtain ⟨bs, hview⟩ := followed cooling_step (begun fleet clock) acts
  have hcache : (run fleet clock acts).shared.cache =
      (bs.foldl (Cooldown.step times Prod.fst) (Cooldown.begun clock)).shared := congrArg Threads.shared hview
  rw [hcache]
  exact Cooldown.kept_run hclock bs

/-! ### The workers -/

/-- The key a reader is at. -/
def Reader.key : Reader → Option Key
  | .idle => none
  | .wanting key _ => some key
  | .asked key _ _ => some key
  | .passed key _ _ => some key
  | .noted key _ _ => some key

/-- The time a reader has noted for a key, and not yet submitted a worker for. -/
def Reader.pending (k : Key) : Reader → List ℚ
  | .noted key _ time => if key = k then [time] else []
  | _ => []

/-- A reader is at a key that was found at a time, and will answer for it. -/
def Reader.Heard (k : Key) (c : ℚ) : Reader → Prop
  | .idle => False
  | .wanting key _ => key = k
  | .asked key _ now => key = k ∧ c ≤ now
  | .passed key _ now => key = k ∧ c ≤ now
  | .noted _ _ _ => False

/-- The times of a key's workers, and the times it was noted. -/
def Host.workers (h : Host) (k : Key) : List ℚ := (h.futures.filter fun w => w.key = k).map Worker.noted

def Host.noted (h : Host) (k : Key) : List ℚ := (h.cache.acted.filter fun e => e.1 = k).map Prod.snd

/-- A key with the reader of its gateway: a worker for each time it was noted, and an answer each time it was
found. -/
structure Settled (h : Host) (r : Reader) (k : Key) : Prop where
  workers : h.noted k = h.workers k ++ r.pending k
  past : ∀ {c}, (k, c) ∈ h.found → c ≤ h.cache.clock
  heard : ∀ {c}, (k, c) ∈ h.found → (∃ now, (k, now) ∈ h.cache.answered ∧ c ≤ now) ∨ r.Heard k c

/-- Each reader is at a key of its own gateway, and each key is settled with its reader. -/
structure Ready (s : System) : Prop where
  own : ∀ {g k}, (s.pc g).key = some k → k.1 = g
  settled : ∀ k, Settled s.shared (s.pc k.1) k

variable {s : System} {h h' : Host} {r : Reader} {k : Key}

/-- What other gateways do is nothing to a key. -/
structure Same (h h' : Host) (k : Key) : Prop where
  noted : h'.noted k = h.noted k
  workers : h'.workers k = h.workers k
  found : ∀ {c}, (k, c) ∈ h'.found → (k, c) ∈ h.found
  answered : ∀ {now}, (k, now) ∈ h.cache.answered → (k, now) ∈ h'.cache.answered
  clock : h.cache.clock ≤ h'.cache.clock

theorem Settled.same (hsettled : Settled h r k) (hsame : Same h h' k) : Settled h' r k := by
  refine ⟨?_, fun hfound => (hsettled.past (hsame.found hfound)).trans hsame.clock, fun hfound => ?_⟩
  · rw [hsame.noted, hsame.workers]
    exact hsettled.workers
  · refine (hsettled.heard (hsame.found hfound)).imp (fun hanswered => ?_) id
    obtain ⟨now, hnow, hle⟩ := hanswered
    exact ⟨now, hsame.answered hnow, hle⟩

theorem Same.refl (h : Host) (k : Key) : Same h h k := ⟨rfl, rfl, id, id, le_rfl⟩

theorem workers_submit (h : Host) (w : Worker) (k : Key) :
    (h.submit w).workers k = h.workers k ++ if w.key = k then [w.noted] else [] := by
  by_cases hk : w.key = k
  · simp [Host.workers, Host.submit, List.filter_append, hk]
  · simp [Host.workers, Host.submit, List.filter_append, hk]

theorem noted_mark (h : Host) (key : Key) (now : ℚ) (k : Key) :
    Host.noted {h with cache := Cooldown.answer (Cooldown.mark h.cache key) key now} k =
      h.noted k ++ if key = k then [h.cache.clock] else [] := by
  by_cases hk : key = k
  · simp [Host.noted, Cooldown.answer, Cooldown.mark, List.filter_append, hk]
  · simp [Host.noted, Cooldown.answer, Cooldown.mark, List.filter_append, hk]

/-- A reader that goes on changes nothing about other keys. -/
theorem same_advance (h : Host) (hk : r.key ≠ some k) : Same h (advance h r).2 k := by
  have hne : ∀ {key}, r.key = some key → key ≠ k := fun hkey heq => hk (heq ▸ hkey)
  cases r with
  | idle => exact .refl h k
  | wanting key group => exact .refl h k
  | asked key group now =>
    simp only [advance]
    split
    · exact ⟨rfl, rfl, id, fun h => List.mem_append_left _ h, le_rfl⟩
    · exact ⟨rfl, rfl, id, id, le_rfl⟩
  | passed key group now =>
    refine ⟨?_, rfl, id, fun h => List.mem_append_left _ h, le_rfl⟩
    rw [advance, noted_mark, if_neg (hne rfl), List.append_nil]
  | noted key group time =>
    refine ⟨rfl, ?_, id, id, le_rfl⟩
    rw [advance, workers_submit, if_neg (hne rfl), List.append_nil]

/-- A reader that goes on settles the keys of its own gateway. -/
theorem Settled.advance (h : Settled h' r k) : Settled (advance h' r).2 (advance h' r).1 k := by
  cases r with
  | idle => exact h
  | wanting key group =>
    refine ⟨h.workers, h.past, fun hfound => (h.heard hfound).imp id fun hkey => ⟨hkey, h.past hfound⟩⟩
  | asked key group now =>
    simp only [Restore.advance]
    split
    · refine ⟨h.workers, h.past, fun hfound => .inl ?_⟩
      rcases h.heard hfound with ⟨now', hnow', hle⟩ | ⟨rfl, hle⟩
      · exact ⟨now', List.mem_append_left _ hnow', hle⟩
      · exact ⟨now, List.mem_append_right _ (List.mem_singleton_self _), hle⟩
    · exact ⟨h.workers, h.past, h.heard⟩
  | passed key group now =>
    refine ⟨?_, h.past, fun hfound => .inl ?_⟩
    · have hworkers : h'.noted k = h'.workers k := h.workers.trans (List.append_nil _)
      rw [Restore.advance, noted_mark, hworkers]
      rfl
    · rcases h.heard hfound with ⟨now', hnow', hle⟩ | ⟨rfl, hle⟩
      · exact ⟨now', List.mem_append_left _ hnow', hle⟩
      · exact ⟨now, List.mem_append_right _ (List.mem_singleton_self _), hle⟩
  | noted key group time =>
    refine ⟨?_, h.past, h.heard⟩
    have hworkers : h'.noted k = h'.workers k ++ if key = k then [time] else [] := h.workers
    rw [Restore.advance, workers_submit]
    exact hworkers.trans (List.append_nil _).symm

/-- The reader of a gateway goes on. -/
theorem Ready.move {g : Option String} {next : Reader} (hs : Ready s) (hown : ∀ {k}, next.key = some k → k.1 = g)
    (hself : ∀ {k}, k.1 = g → Settled h next k) (hother : ∀ {k}, k.1 ≠ g → Same s.shared h k) :
    Ready (s.move g (next, h)) := by
  refine ⟨fun {g' k} hkey => ?_, fun k => ?_⟩
  · by_cases hg : g' = g
    · rw [hg, Threads.pc_move] at hkey
      exact (hown hkey).trans hg.symm
    · rw [Threads.pc_move_of_ne hg] at hkey
      exact hs.own hkey
  · by_cases hg : k.1 = g
    · rw [hg, Threads.pc_move]
      exact hself hg
    · rw [Threads.pc_move_of_ne hg]
      exact (hs.settled k).same (hother hg)

theorem key_advance {k : Key} (h : Host) (hkey : (advance h r).1.key = some k) : r.key = some k := by
  cases r with
  | idle => exact hkey
  | wanting key group => exact hkey
  | asked key group now =>
    simp only [advance] at hkey
    split at hkey
    · cases hkey
    · exact hkey
  | passed key group now => exact hkey
  | noted key group time => cases hkey

theorem Ready.step (hs : Ready s) (a : Act) : Ready (step s a) := by
  cases a with
  | identify g body discovering =>
    simp only [Restore.step]
    split
    · next hidle =>
      have hold : ∀ {k : Key}, k.1 = g → Settled s.shared .idle k := by
        intro k hk
        have hsettled := hs.settled k
        rw [hk, hidle] at hsettled
        exact hsettled
      split
      · exact hs.move (fun hkey => by cases hkey) (fun hk => ⟨(hold hk).workers, (hold hk).past, (hold hk).heard⟩)
          fun _ => ⟨rfl, rfl, id, id, le_rfl⟩
      · next mac group _ =>
        refine hs.move (fun hkey => ?_) (fun {k} hk => ⟨(hold hk).workers, fun hfound => ?_, fun hfound => ?_⟩)
          fun {k} hk => ⟨rfl, rfl, fun hfound => ?_, id, le_rfl⟩
        · cases hkey
          rfl
        · rcases List.mem_append.mp hfound with hfound | hfound
          · exact (hold hk).past hfound
          · cases List.mem_singleton.mp hfound
            exact le_rfl
        · rcases List.mem_append.mp hfound with hfound | hfound
          · exact ((hold hk).heard hfound).imp id False.elim
          · cases List.mem_singleton.mp hfound
            exact .inr rfl
        · rcases List.mem_append.mp hfound with hfound | hfound
          · exact hfound
          · cases List.mem_singleton.mp hfound
            exact absurd rfl hk
    · exact hs
  | next g =>
    refine hs.move (fun hkey => hs.own (key_advance _ hkey)) (fun {k} hk => ?_) fun {k} hk => ?_
    · have hsettled := hs.settled k
      rw [hk] at hsettled
      exact hsettled.advance
    · exact same_advance _ fun hkey => hk (hs.own hkey)
  | wait d =>
    rw [Restore.step]
    split
    · next hd =>
      exact ⟨hs.own, fun k => (hs.settled k).same ⟨rfl, rfl, id, id, le_add_of_nonneg_right hd⟩⟩
    · exact hs
  | finish i =>
    rw [Restore.step]
    split
    · exact ⟨hs.own, fun k => (hs.settled k).same ⟨rfl, rfl, id, id, le_rfl⟩⟩
    · exact hs
  | change fleet => exact ⟨hs.own, fun k => (hs.settled k).same ⟨rfl, rfl, id, id, le_rfl⟩⟩

theorem ready_run (fleet : State) (clock : ℚ) (acts : List Act) : Ready (run fleet clock acts) := by
  refine List.foldlRecOn (motive := Ready) acts step ?_ fun _ hs a _ => hs.step a
  refine ⟨fun hkey => ?_, fun k => ⟨rfl, fun hfound => ?_, fun hfound => ?_⟩⟩
  · cases hkey
  · cases hfound
  · cases hfound

theorem mem_noted {t : ℚ} : t ∈ h.noted k ↔ (k, t) ∈ h.cache.acted := by
  simp only [Host.noted, List.mem_map, List.mem_filter, decide_eq_true_eq]
  constructor
  · rintro ⟨e, ⟨he, rfl⟩, rfl⟩
    exact he
  · exact fun h => ⟨(k, t), ⟨h, rfl⟩, rfl⟩

theorem spaced_noted (hkept : Cooldown.Kept times h.cache) (k : Key) :
    (h.noted k).Pairwise fun t t' => t + times.cooldown ≤ t' := by
  refine List.pairwise_map.mpr ((hkept.spaced.filter _).imp_of_mem fun {a b} ha hb hspaced => hspaced ?_)
  have hkey : ∀ {e : Key × ℚ}, e ∈ h.cache.acted.filter (fun e => e.1 = k) → e.1 = k :=
    fun he => of_decide_eq_true (List.mem_filter.mp he).2
  rw [hkey ha, hkey hb]

/-- **Two workers for a device at a gateway are a cooldown apart. Once its reader is done, each time the device
was found to have lost its group there is a worker for it that was noted later, or less than a cooldown
before.** -/
theorem workers_run (fleet : State) {clock : ℚ} (hclock : times.cooldown ≤ clock) (acts : List Act) (k : Key) :
    ((run fleet clock acts).shared.workers k).Pairwise (fun t t' => t + times.cooldown ≤ t') ∧
      ((run fleet clock acts).pc k.1 = .idle → ∀ c, (k, c) ∈ (run fleet clock acts).shared.found →
        ∃ t ∈ (run fleet clock acts).shared.workers k, c < t + times.cooldown) := by
  have hkept := kept_cache fleet hclock acts
  have hsettled := (ready_run fleet clock acts).settled k
  constructor
  · have hspaced := spaced_noted hkept k
    rw [hsettled.workers] at hspaced
    exact (List.pairwise_append.mp hspaced).1
  · intro hidle c hfound
    rw [hidle] at hsettled
    have hworkers : Host.noted _ k = Host.workers _ k := hsettled.workers.trans (List.append_nil _)
    rcases hsettled.heard hfound with ⟨now, hnow, hle⟩ | hheard
    · obtain ⟨t, ht, hlt⟩ := hkept.preceded hnow
      exact ⟨t, hworkers ▸ mem_noted.mpr ht, hle.trans_lt hlt⟩
    · exact hheard.elim

/-- A track with a device in its group. -/
def track : State where
  networks := [⟨⟨"A", .rf, some "AABBCCDDEE01"⟩, "Track", "EU868", some 1, none, none, .finite 0⟩]
  devices := [{createDevice 10 { addr := "AABBCCDDEE11", name := "Left", groupId := 1 } [] with networkId := some "A"}]
  groups := [⟨⟨none⟩, "Unconfigured", 0, 0⟩, ⟨⟨some "A"⟩, "Gates", 0, 0⟩]
  transports := [⟨⟨1, some "A", "AABBCCDDEE01"⟩, .rf⟩]
  records := []
  saves := 0

/-- The device comes back without its group, and says so again a second later. -/
def returns : List Act :=
  let again := .identify (some "AABBCCDDEE01") [1, 10, 0, 0xAA, 0xBB, 0xCC, 0xDD, 0xEE, 0x11] false ::
    List.replicate 4 (.next (some "AABBCCDDEE01"))
  again ++ .wait 1 :: again

/-- It has one worker, from the first time. -/
theorem workers_returns :
    ((run track 100 returns).shared.workers (some "AABBCCDDEE01", "AABBCCDDEE11")).Pairwise
        (fun t t' => t + times.cooldown ≤ t') ∧
      (run track 100 returns).shared.workers (some "AABBCCDDEE01", "AABBCCDDEE11") = [100] ∧
      ∃ t ∈ (run track 100 returns).shared.workers (some "AABBCCDDEE01", "AABBCCDDEE11"),
        101 < t + times.cooldown := by
  have hclock : times.cooldown ≤ 100 := by decide +kernel
  have hruns := workers_run track hclock returns (some "AABBCCDDEE01", "AABBCCDDEE11")
  exact ⟨hruns.1, by decide +kernel, hruns.2 (by decide +kernel) 101 (by decide +kernel)⟩

/-! ### Waiting for a worker -/

/-- The last worker of a device. -/
def Host.IsLast (h : Host) (mac : String) (i : Nat) : Prop :=
  (∃ w, h.futures[i]? = some w ∧ normalizeMacKey w.key.2 = mac) ∧
    ∀ j w, i < j → h.futures[j]? = some w → normalizeMacKey w.key.2 ≠ mac

/-- Each device has its last worker, unless that is done. -/
structure Filed (h : Host) : Prop where
  started : ∀ {i}, h.done i = true → i < h.futures.length
  last : ∀ {mac i}, mac ≠ "" → h.byMac mac = some i → h.IsLast mac i
  rest : ∀ {mac i}, mac ≠ "" → h.byMac mac = none → h.IsLast mac i → h.done i = true

variable {mac : String} {i j : Nat}

theorem Host.IsLast.unique (hi : h.IsLast mac i) (hj : h.IsLast mac j) : i = j := by
  obtain ⟨⟨w, hw, hmac⟩, hlast⟩ := hi
  obtain ⟨⟨w', hw', hmac'⟩, hlast'⟩ := hj
  rcases Nat.lt_trichotomy i j with hlt | heq | hlt
  · exact absurd hmac' (hlast j w' hlt hw')
  · exact heq
  · exact absurd hmac (hlast' i w hlt hw)

/-- A worker for another device. -/
theorem isLast_submit (h : Host) {w : Worker} (hw : normalizeMacKey w.key.2 ≠ mac) :
    (h.submit w).IsLast mac i ↔ h.IsLast mac i := by
  have hat : ∀ {j : Nat} {v : Worker}, normalizeMacKey v.key.2 = mac →
      ((h.futures ++ [w])[j]? = some v ↔ h.futures[j]? = some v) := by
    intro j v hv
    rcases Nat.lt_trichotomy j h.futures.length with hlt | heq | hlt
    · rw [List.getElem?_append_left hlt]
    · refine iff_of_false (fun hj => ?_) fun hj => ?_
      · rw [heq, List.getElem?_concat_length] at hj
        exact hw (Option.some.inj hj ▸ hv)
      · rw [heq, List.getElem?_eq_none le_rfl] at hj
        cases hj
    · refine iff_of_false (fun hj => ?_) fun hj => ?_
      · have hlength : (h.futures ++ [w]).length ≤ j := by
          rw [List.length_append]
          exact hlt
        rw [List.getElem?_eq_none hlength] at hj
        cases hj
      · rw [List.getElem?_eq_none hlt.le] at hj
        cases hj
  constructor
  · rintro ⟨⟨v, hv, hmac⟩, hlast⟩
    exact ⟨⟨v, (hat hmac).mp hv, hmac⟩, fun j v hj hv hmac => hlast j v hj ((hat hmac).mpr hv) hmac⟩
  · rintro ⟨⟨v, hv, hmac⟩, hlast⟩
    exact ⟨⟨v, (hat hmac).mpr hv, hmac⟩, fun j v hj hv hmac => hlast j v hj ((hat hmac).mp hv) hmac⟩

theorem isLast_self (h : Host) (w : Worker) : (h.submit w).IsLast (normalizeMacKey w.key.2) h.futures.length := by
  refine ⟨⟨w, List.getElem?_concat_length, rfl⟩, fun j v hj hv => ?_⟩
  have hlength : (h.submit w).futures.length ≤ j := by
    rw [Host.submit, List.length_append]
    exact hj
  rw [List.getElem?_eq_none hlength] at hv
  cases hv

theorem byMac_submit (h : Host) (w : Worker) (hmac : mac ≠ "") : (h.submit w).byMac mac =
    if mac = normalizeMacKey w.key.2 then some h.futures.length else (h.byMac mac).filter fun i => !h.done i := by
  simp only [Host.submit]
  by_cases hw : mac = normalizeMacKey w.key.2
  · rw [if_pos hw, if_neg (hw ▸ hmac), hw]
    exact Function.update_self ..
  · rw [if_neg hw]
    split
    · rfl
    · exact Function.update_of_ne hw ..

theorem Filed.submit (hfiled : Filed h) (w : Worker) : Filed (h.submit w) := by
  have hlength : (h.submit w).futures.length = h.futures.length + 1 := List.length_append
  refine ⟨fun hdone => ?_, fun {mac i} hmac hby => ?_, fun {mac i} hmac hby hlast => ?_⟩
  · rw [hlength]
    exact (hfiled.started hdone).trans (Nat.lt_succ_self _)
  · rw [byMac_submit h w hmac] at hby
    split at hby
    · next hw =>
      rw [← Option.some.inj hby, hw]
      exact isLast_self h w
    · next hw => exact (isLast_submit h (Ne.symm hw)).mpr (hfiled.last hmac (Option.filter_eq_some_iff.mp hby).1)
  · rw [byMac_submit h w hmac] at hby
    split at hby
    · cases hby
    · next hw =>
      have hold : h.IsLast mac i := (isLast_submit h (Ne.symm hw)).mp hlast
      cases hfile : h.byMac mac with
      | none => exact hfiled.rest hmac hfile hold
      | some j =>
        rw [hfile] at hby
        rw [hold.unique (hfiled.last hmac hfile)]
        have hdone : h.done j = true := by simpa using Option.filter_eq_none_iff.mp hby j rfl
        exact hdone

theorem Filed.finish (hfiled : Filed h) (hi : i < h.futures.length) :
    Filed {h with done := Function.update h.done i true} := by
  refine ⟨fun {j} hdone => ?_, hfiled.last, fun {mac j} hmac hby hlast => ?_⟩
  · by_cases hj : j = i
    · exact hj ▸ hi
    · exact hfiled.started ((Function.update_of_ne hj ..).symm.trans hdone)
  · by_cases hj : j = i
    · rw [hj]
      exact Function.update_self ..
    · exact (Function.update_of_ne hj ..).trans (hfiled.rest hmac hby hlast)

theorem Filed.step {s : System} (hfiled : Filed s.shared) (a : Act) : Filed (step s a).shared := by
  cases a with
  | identify g body discovering =>
    simp only [Restore.step]
    split
    · split
      · exact ⟨hfiled.started, hfiled.last, hfiled.rest⟩
      · exact ⟨hfiled.started, hfiled.last, hfiled.rest⟩
    · exact hfiled
  | next g =>
    have hsame : ∀ {h : Host}, Filed h → ∀ r : Reader, Filed (advance h r).2 := by
      intro h hfiled r
      cases r with
      | idle => exact hfiled
      | wanting key group => exact hfiled
      | asked key group now =>
        simp only [advance]
        split
        · exact ⟨hfiled.started, hfiled.last, hfiled.rest⟩
        · exact ⟨hfiled.started, hfiled.last, hfiled.rest⟩
      | passed key group now => exact ⟨hfiled.started, hfiled.last, hfiled.rest⟩
      | noted key group time => exact hfiled.submit _
    exact hsame hfiled (s.pc g)
  | wait d =>
    rw [Restore.step]
    split
    · exact ⟨hfiled.started, hfiled.last, hfiled.rest⟩
    · exact hfiled
  | finish i =>
    rw [Restore.step]
    split
    · next hi => exact hfiled.finish hi
    · exact hfiled
  | change fleet => exact ⟨hfiled.started, hfiled.last, hfiled.rest⟩

/-- **Whoever waits for the worker of a device goes on at once just if the last one that was submitted for it is
done, or none was.** -/
theorem free_iff (fleet : State) (clock : ℚ) (acts : List Act) (mac : String) (hmac : normalizeMacKey mac ≠ "") :
    (run fleet clock acts).shared.free mac = true ↔
      ∀ i, (run fleet clock acts).shared.IsLast (normalizeMacKey mac) i →
        (run fleet clock acts).shared.done i = true := by
  have hfiled : Filed (run fleet clock acts).shared := by
    refine List.foldlRecOn (motive := fun s => Filed s.shared) acts step ?_ fun _ hs a _ => hs.step a
    refine ⟨fun h => ?_, fun _ h => ?_, fun _ _ h => ?_⟩
    · cases h
    · cases h
    · obtain ⟨⟨w, hw, -⟩, -⟩ := h
      cases hw
  rw [Host.free, if_neg hmac]
  cases hby : (run fleet clock acts).shared.byMac (normalizeMacKey mac) with
  | none => exact iff_of_true rfl fun i hlast => hfiled.rest hmac hby hlast
  | some j =>
    have hlast := hfiled.last hmac hby
    constructor
    · intro hdone i hi
      rw [hi.unique hlast]
      exact hdone
    · exact fun hall => hall j hlast

theorem free_returns : (run track 100 returns).shared.free "aabbccddee11" = true ↔
    ∀ i, (run track 100 returns).shared.IsLast (normalizeMacKey "aabbccddee11") i →
      (run track 100 returns).shared.done i = true :=
  free_iff track 100 returns "aabbccddee11" (by decide +kernel)

end RaceLink.Fleet.Restore
