import RaceLink.Update.Connect

/-! What there is to join in a scan, and what a run of `connect_ap` says to `nmcli`, as a small grammar: scans
one after another, each with an attempt behind it if there was something to join. -/
namespace RaceLink.Update
open Python Library Talk

/-! ### What there is to join -/

/-- An access point to join: the predicted one, the only new one, or any that shows a candidate. -/
inductive Wanted.Target (w : Wanted) (initial : List String) (aps : List Ap) (ssid bssid : String) : Prop where
  | predicted : w.bssid ≠ "" → bssid = w.bssid → (∃ ap ∈ w.shown aps, ap.ssid = ssid ∧ ap.bssid = bssid) →
      Target w initial aps ssid bssid
  | fresh {ap : Ap} : w.avoidBssid ≠ "" → (w.bssid ≠ "" → ∀ ap ∈ w.shown aps, ap.bssid ≠ w.bssid) →
      w.fresh initial aps = [ap] → ssid = ap.ssid → bssid = ap.bssid → Target w initial aps ssid bssid
  | any : w.bssid = "" → w.avoidBssid = "" → bssid = "" → (∃ ap ∈ w.shown aps, ap.ssid = ssid) →
      Target w initial aps ssid bssid

variable {w : Wanted} {initial : List String} {aps : List Ap} {ssid bssid : String}

theorem only_eq_some {α : Type} {xs : List α} {x : α} : only xs = some x ↔ xs = [x] := by
  unfold only
  split
  · simp
  · next hxs =>
    refine iff_of_false (fun h => by cases h) fun h => ?_
    exact hxs x h

theorem Wanted.predicted_some (h : w.predicted aps = some (ssid, bssid)) :
    w.bssid ≠ "" ∧ bssid = w.bssid ∧ ∃ ap ∈ w.shown aps, ap.ssid = ssid ∧ ap.bssid = bssid := by
  unfold Wanted.predicted at h
  split at h
  · cases h
  · next hbssid =>
    obtain ⟨ap, hap, heq⟩ := Option.map_eq_some_iff.mp h
    cases heq
    exact ⟨hbssid, rfl, ap, List.mem_of_find?_eq_some hap, rfl, by simpa using List.find?_some hap⟩

theorem Wanted.predicted_none : w.predicted aps = none ↔
    (w.bssid ≠ "" → ∀ ap ∈ w.shown aps, ap.bssid ≠ w.bssid) := by
  unfold Wanted.predicted
  split
  · next hbssid => exact iff_of_true rfl fun h => absurd hbssid h
  · next hbssid => simp [hbssid]

/-- What is chosen is there to join. -/
theorem Wanted.target_of_choose (h : w.choose initial aps = some (ssid, bssid)) :
    w.Target initial aps ssid bssid := by
  rw [Wanted.choose, Option.or_eq_some_iff, Option.or_eq_some_iff] at h
  rcases h with hpredicted | ⟨hpredicted, hfresh | ⟨-, hshown⟩⟩
  · obtain ⟨hbssid, heq, hap⟩ := Wanted.predicted_some hpredicted
    exact .predicted hbssid heq hap
  · unfold Wanted.onlyFresh at hfresh
    split at hfresh
    · cases hfresh
    · next havoid =>
      obtain ⟨ap, hap, heq⟩ := Option.map_eq_some_iff.mp hfresh
      cases heq
      exact .fresh havoid (Wanted.predicted_none.mp hpredicted) (only_eq_some.mp hap) rfl rfl
  · unfold Wanted.firstShown at hshown
    split at hshown
    · next hnone =>
      obtain ⟨found, hfound, heq⟩ := Option.map_eq_some_iff.mp hshown
      cases heq
      have hany := List.find?_some hfound
      simp only [List.any_eq_true, decide_eq_true_eq] at hany
      exact .any hnone.1 hnone.2 rfl hany
    · cases hshown

/-! ### What a run says -/

abbrev NmcliSaid : Type := Σ c, Answered c

def Nmcli.joins : Nmcli → Bool
  | .connect .. => true
  | _ => false

/-- The call joined an access point. -/
def Joined (said : NmcliSaid) : Prop := said.1.joins = true ∧ ∃ proc, said.2 = .ok proc ∧ proc.returncode = 0

/-- The scans that were listed. -/
def scansOf (calls : NmcliCalls) : List (List Ap) :=
  calls.filterMap fun
    | ⟨.listAps _, answer⟩ => some (scanned answer)
    | _ => none

@[simp] theorem scansOf_append (xs ys : NmcliCalls) : scansOf (xs ++ ys) = scansOf xs ++ scansOf ys :=
  List.filterMap_append

/-- Calls that neither list a scan nor join. -/
structure Quiet (calls : NmcliCalls) : Prop where
  scans : scansOf calls = []
  joins : ∀ said ∈ calls, said.1.joins = false

theorem quiet_nil : Quiet [] := ⟨rfl, by simp⟩

theorem Quiet.append {xs ys : NmcliCalls} (hxs : Quiet xs) (hys : Quiet ys) : Quiet (xs ++ ys) := by
  refine ⟨by rw [scansOf_append, hxs.scans, hys.scans, List.append_nil], fun said hsaid => ?_⟩
  exact (List.mem_append.mp hsaid).elim (hxs.joins said) (hys.joins said)

/-- One `nmcli dev wifi connect`, after the profile was deleted. -/
inductive Attempts (w : Wanted) (ssid bssid : String) (password : Option String) : NmcliCalls → Except Raised Proc → Prop where
  | kept {ex : Raised} : Attempts w ssid bssid password [⟨.deleteProfile ssid, .error ex⟩] (.error ex)
  | tried {deleted : Proc} {answer : Except Raised Proc} : Attempts w ssid bssid password
      [⟨.deleteProfile ssid, .ok deleted⟩, ⟨.connect ssid w.iface password (given bssid), answer⟩] answer

/-- An attempt to join. -/
inductive Connects (w : Wanted) (ssid bssid : String) : NmcliCalls → Except Raised Unit → Prop where
  | raised {calls : NmcliCalls} {ex : Raised} : Attempts w ssid bssid (given w.password) calls (.error ex) →
      Connects w ssid bssid calls (.error ex)
  | joined {calls : NmcliCalls} {proc : Proc} : Attempts w ssid bssid (given w.password) calls (.ok proc) →
      proc.returncode = 0 → Connects w ssid bssid calls (.ok ())
  | refused {calls : NmcliCalls} {proc : Proc} : Attempts w ssid bssid (given w.password) calls (.ok proc) →
      proc.returncode ≠ 0 → Connects w ssid bssid calls (.error (w.refusal proc))
  | raisedOpen {calls more : NmcliCalls} {proc : Proc} {ex : Raised} :
      Attempts w ssid bssid (given w.password) calls (.ok proc) → proc.returncode ≠ 0 → proc.isOpen = true →
      Attempts w ssid bssid none more (.error ex) → Connects w ssid bssid (calls ++ more) (.error ex)
  | joinedOpen {calls more : NmcliCalls} {proc proc' : Proc} :
      Attempts w ssid bssid (given w.password) calls (.ok proc) → proc.returncode ≠ 0 → proc.isOpen = true →
      Attempts w ssid bssid none more (.ok proc') → proc'.returncode = 0 →
      Connects w ssid bssid (calls ++ more) (.ok ())
  | refusedOpen {calls more : NmcliCalls} {proc proc' : Proc} :
      Attempts w ssid bssid (given w.password) calls (.ok proc) → proc.returncode ≠ 0 → proc.isOpen = true →
      Attempts w ssid bssid none more (.ok proc') → proc'.returncode ≠ 0 →
      Connects w ssid bssid (calls ++ more) (.error (w.refusal proc))

/-- The scans of a run, one after another. -/
inductive Dials (w : Wanted) (initial : List String) : NmcliCalls → Except NotJoined String → Prop where
  | expired {failure : NotJoined} : Dials w initial [] (.error failure)
  | nothing {rescanned scan : Except Raised Proc} {more : NmcliCalls} {answer : Except NotJoined String} :
      w.choose initial (scanned scan) = none → Dials w initial more answer →
      Dials w initial (⟨.rescan w.iface, rescanned⟩ :: ⟨.listAps w.iface, scan⟩ :: more) answer
  | joined {rescanned scan : Except Raised Proc} {ssid bssid : String} {tried : NmcliCalls} :
      w.choose initial (scanned scan) = some (ssid, bssid) → Connects w ssid bssid tried (.ok ()) →
      Dials w initial (⟨.rescan w.iface, rescanned⟩ :: ⟨.listAps w.iface, scan⟩ :: tried) (.ok ssid)
  | failed {rescanned scan : Except Raised Proc} {ssid bssid : String} {tried after : NmcliCalls} {ex : Raised}
      {failure : NotJoined} :
      w.choose initial (scanned scan) = some (ssid, bssid) → Connects w ssid bssid tried (.error ex) →
      Quiet after → lastFailure ssid ex = some failure →
      Dials w initial (⟨.rescan w.iface, rescanned⟩ :: ⟨.listAps w.iface, scan⟩ :: (tried ++ after)) (.error failure)
  | again {rescanned scan : Except Raised Proc} {ssid bssid : String} {tried after more : NmcliCalls} {ex : Raised}
      {answer : Except NotJoined String} :
      w.choose initial (scanned scan) = some (ssid, bssid) → Connects w ssid bssid tried (.error ex) →
      Quiet after → lastFailure ssid ex = none → Dials w initial more answer →
      Dials w initial (⟨.rescan w.iface, rescanned⟩ :: ⟨.listAps w.iface, scan⟩ :: (tried ++ (after ++ more))) answer

section Says
variable (o : NmcliWorld) {ε α β : Type}

/-- What a step says and answers; there is no state to change. -/
abbrev Yields (m : Dial ε α) (G : NmcliCalls → Except ε α → Prop) : Prop :=
  Says m fun _ new answer _ => G new answer

theorem yields_ask (c : Nmcli) :
    Yields (ask o c : Dial ε (Except Raised Proc)) fun new answer => ∃ a, new = [⟨c, a⟩] ∧ answer = .ok a :=
  (says_ask o c).mono fun s new answer t h => by
    obtain ⟨a, hnew, hanswer, -⟩ := h
    exact ⟨a, hnew, hanswer⟩

theorem yields_attempt (c : Nmcli) : Yields (attempt o c : Dial ε Unit) fun new answer =>
    ∃ a, new = [⟨c, a⟩] ∧ answer = .ok () := by
  refine (says_ask_bind (o := o) (c := c) fun _ => says_pure ()).mono fun s new answer t h => ?_
  obtain ⟨a, rest, rfl, rfl, rfl, -⟩ := h
  exact ⟨a, rfl, rfl⟩

theorem yields_bind {m : Dial ε α} {f : α → Dial ε β} {G : NmcliCalls → Except ε α → Prop}
    {H : α → NmcliCalls → Except ε β → Prop} (hm : Yields m G) (hf : ∀ a, Yields (f a) (H a)) :
    Yields (m >>= f) fun new answer => (∃ e, answer = .error e ∧ G new (.error e)) ∨
      ∃ a first rest, new = first ++ rest ∧ G first (.ok a) ∧ H a rest answer := by
  refine (hm.bind hf).mono fun s new answer t h => ?_
  rcases h with h | ⟨a, first, mid, rest, hnew, hfirst, hrest⟩
  · exact .inl h
  · exact .inr ⟨a, first, rest, hnew, hfirst, hrest⟩

theorem yields_demand (c : Nmcli) : Yields (demand o c) fun new answer => new = [⟨c, answer⟩] := by
  refine (says_ask_bind (o := o) (c := c) fun a => says_ofExcept a).mono fun s new answer t h => ?_
  obtain ⟨a, rest, rfl, rfl, rfl, -⟩ := h
  rfl

theorem yields_connectOnce (w : Wanted) (ssid bssid : String) (password : Option String) :
    Yields (connectOnce o w ssid password bssid) (Attempts w ssid bssid password) := by
  refine (yields_bind (yields_demand o _) fun _ => yields_demand o _).mono fun s new answer t h => ?_
  rcases h with ⟨ex, rfl, rfl⟩ | ⟨deleted, first, rest, rfl, rfl, rfl⟩
  · exact .kept
  · exact .tried

theorem yields_devWifiConnect (w : Wanted) (ssid bssid : String) :
    Yields (devWifiConnect o w ssid bssid) (Connects w ssid bssid) := by
  have hopen : ∀ proc : Proc, Yields (do
      let second ← connectOnce o w ssid none bssid
      if second.returncode = 0 then pure () else Action.raise (w.refusal proc))
      fun new answer => (∃ ex, answer = .error ex ∧ Attempts w ssid bssid none new (.error ex)) ∨
        ∃ proc', Attempts w ssid bssid none new (.ok proc') ∧
          answer = if proc'.returncode = 0 then .ok () else .error (w.refusal proc) := by
    intro proc
    refine (yields_bind (yields_connectOnce o w ssid bssid none)
      (H := fun proc' new answer => new = [] ∧
        answer = if proc'.returncode = 0 then .ok () else .error (w.refusal proc)) fun proc' => ?_).mono ?_
    · split
      · exact (says_pure ()).mono fun s new answer t h => ⟨h.1, h.2.1⟩
      · exact (says_raise _).mono fun s new answer t h => ⟨h.1, h.2.1⟩
    · intro s new answer t h
      rcases h with h | ⟨proc', first, rest, rfl, htries, rfl, hanswer⟩
      · exact .inl h
      · rw [List.append_nil]
        exact .inr ⟨proc', htries, hanswer⟩
  have hrest : ∀ first : Proc, Yields (do
      if first.returncode = 0 then pure ()
      else if first.isOpen then
        let second ← connectOnce o w ssid none bssid
        if second.returncode = 0 then pure () else Action.raise (w.refusal first)
      else Action.raise (w.refusal first)) fun more answer =>
        ∀ calls, Attempts w ssid bssid (given w.password) calls (.ok first) → Connects w ssid bssid (calls ++ more) answer := by
    intro first
    split
    · next hzero =>
      refine (says_pure ()).mono fun s new answer t h calls htries => ?_
      obtain ⟨rfl, rfl, -⟩ := h
      rw [List.append_nil]
      exact .joined htries hzero
    · next hzero =>
      split
      · next hisOpen =>
        refine (hopen first).mono fun s new answer t h calls htries => ?_
        rcases h with ⟨ex, rfl, hopened⟩ | ⟨proc', hopened, rfl⟩
        · exact .raisedOpen htries hzero hisOpen hopened
        · split
          · next hjoined => exact .joinedOpen htries hzero hisOpen hopened hjoined
          · next hjoined => exact .refusedOpen htries hzero hisOpen hopened hjoined
      · refine (says_raise _).mono fun s new answer t h calls htries => ?_
        obtain ⟨rfl, rfl, -⟩ := h
        rw [List.append_nil]
        exact .refused htries hzero
  refine (yields_bind (yields_connectOnce o w ssid bssid (given w.password)) hrest).mono fun s new answer t h => ?_
  rcases h with ⟨ex, rfl, htries⟩ | ⟨proc, first, rest, rfl, htries, hrest⟩
  · exact .raised htries
  · exact hrest first htries

/-- A step that neither lists a scan nor joins. -/
abbrev Still (m : Dial ε α) : Prop := Yields m fun new _ => Quiet new

theorem still_bind {m : Dial ε α} {f : α → Dial ε β} (hm : Still m) (hf : ∀ a, Still (f a)) : Still (m >>= f) := by
  refine (yields_bind hm hf).mono fun s new answer t h => ?_
  rcases h with ⟨e, -, h⟩ | ⟨a, first, rest, rfl, hfirst, hrest⟩
  · exact h
  · exact hfirst.append hrest

theorem still_pure (a : α) : Still (pure a : Dial ε α) :=
  (says_pure a).mono fun s new answer t h => by
    obtain ⟨rfl, -⟩ := h
    exact quiet_nil

theorem still_raise (e : ε) : Still (Action.raise e : Dial ε α) :=
  (says_raise e).mono fun s new answer t h => by
    obtain ⟨rfl, -⟩ := h
    exact quiet_nil

theorem still_ite {p : Prop} [Decidable p] {m m' : Dial ε α} (hm : Still m) (hm' : Still m') :
    Still (if p then m else m') := by
  split
  · exact hm
  · exact hm'

theorem still_ask {c : Nmcli} (hc : ∀ a, Quiet [⟨c, a⟩]) : Still (ask o c : Dial ε (Except Raised Proc)) :=
  (yields_ask o c).mono fun s new answer t h => by
    obtain ⟨a, rfl, -⟩ := h
    exact hc a

theorem quiet_one {c : Nmcli} {a : Except Raised Proc} (hscan : scansOf [⟨c, a⟩] = []) (hjoins : c.joins = false) :
    Quiet [⟨c, a⟩] := by
  refine ⟨hscan, fun said hsaid => ?_⟩
  rw [List.mem_singleton.mp hsaid]
  exact hjoins

theorem still_attempt {c : Nmcli} (hc : ∀ a, Quiet [⟨c, a⟩]) : Still (attempt o c : Dial ε Unit) :=
  still_bind (still_ask o hc) fun _ => still_pure ()

theorem yields_snapshot (iface : String) : Yields (wifiStateSnapshot o iface : Dial ε Unit) fun new answer =>
    Quiet new ∧ answer = .ok () := by
  refine (yields_bind (yields_attempt o .connections) fun _ => yields_attempt o (.showAps iface)).mono
    fun s new answer t h => ?_
  rcases h with ⟨e, -, a, -, h⟩ | ⟨_, first, rest, rfl, ⟨a, rfl, -⟩, b, rfl, hanswer⟩
  · cases h
  · exact ⟨(quiet_one rfl rfl).append (quiet_one rfl rfl), hanswer⟩

theorem still_waitIfaceReady (iface : String) (looks : Nat) (lastState : Option String) :
    Still (waitIfaceReady o iface looks lastState) := by
  induction looks generalizing lastState with
  | zero => exact still_raise _
  | succ looks ih =>
    refine still_bind ((yields_demand o .devStatus).mono fun s new answer t h => ?_) fun proc => ?_
    · rw [h]
      exact quiet_one rfl rfl
    · exact still_ite (still_pure ()) (ih _)

theorem still_disconnectIfaceFromSsid (iface ssid : String) :
    Still (disconnectIfaceFromSsid o iface ssid : Dial ε Unit) := by
  refine still_ite (still_pure ()) (still_bind (still_ask o fun _ => quiet_one rfl rfl) fun answer => ?_)
  cases answer with
  | error ex => exact still_pure ()
  | ok proc => exact still_ite (still_attempt o fun _ => quiet_one rfl rfl) (still_pure ())

theorem still_disconnectAll (iface : String) (ssids : List String) :
    Still (disconnectAll o iface ssids : Dial ε Unit) := by
  induction ssids with
  | nil => exact still_pure ()
  | cons ssid ssids ih => exact still_bind (still_disconnectIfaceFromSsid o iface ssid) fun _ => ih

theorem yields_listApsDetailed (iface : String) : Yields (listApsDetailed o iface : Dial ε (List Ap)) fun new answer =>
    ∃ scan, new = [⟨.listAps iface, scan⟩] ∧ answer = .ok (scanned scan) := by
  refine (says_ask_bind (o := o) (c := .listAps iface) fun a => says_pure (scanned a)).mono fun s new answer t h => ?_
  obtain ⟨scan, rest, rfl, rfl, rfl, -⟩ := h
  exact ⟨scan, rfl, rfl⟩

/-- What an attempt says, and the loop after it. -/
def TriesOn (w : Wanted) (ssid bssid : String) (G : NmcliCalls → Except NotJoined String → Prop)
    (new : NmcliCalls) (answer : Except NotJoined String) : Prop :=
  (answer = .ok ssid ∧ Connects w ssid bssid new (.ok ())) ∨
    ∃ ex tried after more, new = tried ++ (after ++ more) ∧ Connects w ssid bssid tried (.error ex) ∧ Quiet after ∧
      ((∃ failure, lastFailure ssid ex = some failure ∧ more = [] ∧ answer = .error failure) ∨
        (lastFailure ssid ex = none ∧ G more answer))

theorem yields_tryJoin (w : Wanted) (ssid bssid : String) {goOn : String → Dial NotJoined String}
    {G : NmcliCalls → Except NotJoined String → Prop} (hgoOn : ∀ lastErr, Yields (goOn lastErr) G) :
    Yields (tryJoin o w ssid bssid goOn) (TriesOn w ssid bssid G) := by
  refine (yields_bind (H := fun tried more answer => (tried = .ok () ∧ more = [] ∧ answer = .ok ssid) ∨
    ∃ ex after rest, tried = .error ex ∧ more = after ++ rest ∧ Quiet after ∧
      ((∃ failure, lastFailure ssid ex = some failure ∧ rest = [] ∧ answer = .error failure) ∨
        (lastFailure ssid ex = none ∧ G rest answer)))
    (yields_devWifiConnect o w ssid bssid).captured fun tried => ?_).mono ?_
  · cases tried with
    | ok joined =>
      refine (says_pure ssid).mono fun s new answer t h => ?_
      exact .inl ⟨rfl, h.1, h.2.1⟩
    | error ex =>
      refine (yields_bind (H := fun _ rest answer =>
        (∃ failure, lastFailure ssid ex = some failure ∧ rest = [] ∧ answer = .error failure) ∨
          (lastFailure ssid ex = none ∧ G rest answer)) (yields_snapshot o w.iface) fun _ => ?_).mono ?_
      · split
        · next failure hfailure =>
          refine (says_raise failure).mono fun s new answer t h => ?_
          exact .inl ⟨failure, hfailure, h.1, h.2.1⟩
        · next hnone => exact (hgoOn _).mono fun s new answer t h => .inr ⟨hnone, h⟩
      · intro s new answer t h
        rcases h with ⟨e, -, -, h⟩ | ⟨_, after, rest, rfl, ⟨hquiet, -⟩, h⟩
        · cases h
        · exact .inr ⟨ex, after, rest, rfl, rfl, hquiet, h⟩
  · intro s new answer t h
    rcases h with ⟨e, -, a, h, -⟩ | ⟨tried, first, rest, rfl, ⟨a, hok, hconnects⟩, h⟩
    · cases h
    · cases hok
      rcases h with ⟨rfl, rfl, rfl⟩ | ⟨ex, after, more, rfl, rfl, hquiet, h⟩
      · rw [List.append_nil]
        exact .inl ⟨rfl, hconnects⟩
      · exact .inr ⟨ex, first, after, more, rfl, hconnects, hquiet, h⟩

theorem yields_connectLoop (w : Wanted) (initial : List String) (scans : Nat) (lastErr : String) :
    Yields (connectLoop o w initial scans lastErr) (Dials w initial) := by
  induction scans generalizing lastErr with
  | zero =>
    refine (says_raise _).mono fun s new answer t h => ?_
    obtain ⟨rfl, rfl, -⟩ := h
    exact .expired
  | succ scans ih =>
    refine (yields_bind (yields_attempt o (.rescan w.iface)) fun _ => yields_bind (yields_listApsDetailed o w.iface)
      (H := fun aps new answer => ∀ rescanned scan, scanned scan = aps →
        Dials w initial (⟨.rescan w.iface, rescanned⟩ :: ⟨.listAps w.iface, scan⟩ :: new) answer) fun aps => ?_).mono ?_
    · split
      · next hnone =>
        refine (ih lastErr).mono fun s new answer t h rescanned scan hscan => ?_
        rw [← hscan] at hnone
        exact .nothing hnone h
      · next ssid bssid hchosen =>
        refine (yields_tryJoin o w ssid bssid fun lastErr => ih lastErr).mono
          fun s new answer t h rescanned scan hscan => ?_
        rw [← hscan] at hchosen
        rcases h with ⟨rfl, hconnects⟩ | ⟨ex, tried, after, more, rfl, hconnects, hquiet, h⟩
        · exact .joined hchosen hconnects
        · rcases h with ⟨failure, hfailure, rfl, rfl⟩ | ⟨hnone, hmore⟩
          · rw [List.append_nil]
            exact .failed hchosen hconnects hquiet hfailure
          · exact .again hchosen hconnects hquiet hnone hmore
    · intro s new answer t h
      rcases h with ⟨e, -, a, -, h⟩ | ⟨_, first, rest, rfl, ⟨rescanned, rfl, -⟩, h⟩
      · cases h
      · rcases h with ⟨e, -, scan, -, h⟩ | ⟨aps, second, more, rfl, ⟨scan, rfl, haps⟩, h⟩
        · cases h
        · cases haps
          exact h rescanned scan rfl

/-- A run up to its loop: it looks at the interface, lets go of the candidates, and lists a first scan. -/
theorem yields_joinAp (w : Wanted) (looks scans : Nat) : Yields (joinAp o w looks scans) fun new answer =>
    (Quiet new ∧ ∃ failure, answer = .error failure) ∨
      ∃ opening scan after more, new = opening ++ (⟨.listAps w.iface, scan⟩ :: (after ++ more)) ∧ Quiet opening ∧
        Quiet after ∧ Dials w (bssidsOf (scanned scan)) more answer := by
  refine (yields_bind (H := fun ready new answer => (Quiet new ∧ ∃ failure, answer = .error failure) ∨
      ∃ opening scan after more, new = opening ++ (⟨.listAps w.iface, scan⟩ :: (after ++ more)) ∧ Quiet opening ∧
        Quiet after ∧ Dials w (bssidsOf (scanned scan)) more answer)
    (still_waitIfaceReady o w.iface looks none).captured fun ready => ?_).mono ?_
  · cases ready with
    | error ex =>
      refine (says_raise _).mono fun s new answer t h => ?_
      obtain ⟨rfl, rfl, -⟩ := h
      exact .inl ⟨quiet_nil, _, rfl⟩
    | ok ready =>
      refine (yields_bind (still_disconnectAll o w.iface w.candidates) fun _ =>
        yields_bind (yields_listApsDetailed o w.iface) fun initial =>
        yields_bind (yields_snapshot o w.iface) fun _ =>
        yields_connectLoop o w (bssidsOf initial) scans "").mono fun s new answer t h => ?_
      rcases h with ⟨e, rfl, h⟩ | ⟨_, opening, rest, rfl, hopening, h⟩
      · exact .inl ⟨h, e, rfl⟩
      · rcases h with ⟨e, -, scan, -, h⟩ | ⟨initial, listed, rest, rfl, ⟨scan, rfl, hinitial⟩, h⟩
        · cases h
        · cases hinitial
          rcases h with ⟨e, -, -, h⟩ | ⟨_, after, more, rfl, ⟨hafter, -⟩, hdials⟩
          · cases h
          · exact .inr ⟨opening, scan, after, more, rfl, hopening, hafter, hdials⟩
  · intro s new answer t h
    rcases h with ⟨e, -, a, h, -⟩ | ⟨ready, first, rest, rfl, ⟨a, -, hfirst⟩, h⟩
    · cases h
    · rcases h with ⟨hrest, hfailure⟩ | ⟨opening, scan, after, more, rfl, hopening, hafter, hdials⟩
      · exact .inl ⟨hfirst.append hrest, hfailure⟩
      · exact .inr ⟨first ++ opening, scan, after, more, (List.append_assoc ..).symm, hfirst.append hopening, hafter, hdials⟩

end Says

end RaceLink.Update
