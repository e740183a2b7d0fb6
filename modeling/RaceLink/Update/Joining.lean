import RaceLink.Update.Dialing

/-! Whole runs of `connect_ap`, whatever `nmcli` answers.

The host is connected only where the last scan has something to join, and an open network is tried only
after the same one turned out to be open. The run answers an SSID just if its last call joined it, and no
call before did. -/
namespace RaceLink.Update
open Python Library Talk

/-! ### Where the host is connected -/

/-- The scan a run begins with, and the last one. -/
def firstScan (calls : NmcliCalls) : List Ap := (scansOf calls).head?.getD []

def lastScan (calls : NmcliCalls) : List Ap := (scansOf calls).getLast?.getD []

/-- The last attempt was refused because the network is an open one, and its profile is deleted. -/
def TurnedOutOpen (w : Wanted) (before : NmcliCalls) (ssid bssid : String) : Prop :=
  ∃ front first deleted, before = front ++ [⟨.connect ssid w.iface (given w.password) (given bssid), .ok first⟩,
    ⟨.deleteProfile ssid, .ok deleted⟩] ∧ first.returncode ≠ 0 ∧ first.isOpen = true

/-- What was said before an access point is joined. -/
structure Allowed (w : Wanted) (before : NmcliCalls) (ssid bssid : String) (password : Option String) : Prop where
  target : w.Target (bssidsOf (firstScan before)) (lastScan before) ssid bssid
  cleared : ∃ front deleted, before = front ++ [⟨.deleteProfile ssid, .ok deleted⟩]
  secured : password = given w.password ∨ password = none ∧ TurnedOutOpen w before ssid bssid

/-- A call that joins is allowed by what was said before it. -/
def Justified (w : Wanted) (before : NmcliCalls) (said : NmcliSaid) : Prop :=
  said.1.joins = true → ∃ ssid bssid password, said.1 = .connect ssid w.iface password (given bssid) ∧
    Allowed w before ssid bssid password

variable {w : Wanted} {initial : List String} {ssid bssid : String} {before new : NmcliCalls}
  {password : Option String}

theorem Quiet.each (h : Quiet new) : Each (Justified w) before new := by
  refine each_iff.mpr fun front said rest heq hjoins => ?_
  rw [h.joins said (by simp [heq])] at hjoins
  cases hjoins

/-- The first scan and the last one of calls that list none. -/
theorem Quiet.scan (h : Quiet new) : firstScan (before ++ new) = firstScan before ∧
    lastScan (before ++ new) = lastScan before := by
  simp only [firstScan, lastScan, scansOf_append, h.scans, List.append_nil, and_self]

theorem quiet_delete (ssid : String) (answer : Except Raised Proc) : Quiet [⟨.deleteProfile ssid, answer⟩] :=
  quiet_one rfl rfl

theorem Attempts.each {answer : Except Raised Proc} (h : Attempts w ssid bssid password new answer)
    (htarget : w.Target (bssidsOf (firstScan before)) (lastScan before) ssid bssid)
    (hsecured : ∀ deleted, password = given w.password ∨
      password = none ∧ TurnedOutOpen w (before ++ [⟨.deleteProfile ssid, .ok deleted⟩]) ssid bssid) :
    Each (Justified w) before new := by
  cases h with
  | kept => exact (quiet_delete ssid _).each
  | @tried deleted answer =>
    refine ⟨fun h => (by cases h), ⟨fun _ => ⟨ssid, bssid, password, rfl, ?_, ⟨before, deleted, rfl⟩, hsecured deleted⟩,
      trivial⟩⟩
    rw [(quiet_delete ssid _).scan.1, (quiet_delete ssid _).scan.2]
    exact htarget

theorem scansOf_tries {answer : Except Raised Proc} (h : Attempts w ssid bssid password new answer) :
    scansOf new = [] := by
  cases h <;> rfl

theorem Connects.each {answer : Except Raised Unit} (h : Connects w ssid bssid new answer)
    (htarget : w.Target (bssidsOf (firstScan before)) (lastScan before) ssid bssid) :
    Each (Justified w) before new := by
  have hfirst : ∀ {calls answer}, Attempts w ssid bssid (given w.password) calls answer → Each (Justified w) before calls :=
    fun h => h.each htarget fun _ => .inl rfl
  have hboth : ∀ {calls more proc answer}, Attempts w ssid bssid (given w.password) calls (.ok proc) →
      proc.returncode ≠ 0 → proc.isOpen = true → Attempts w ssid bssid none more answer →
      Each (Justified w) before (calls ++ more) := by
    intro calls more proc answer htries hzero hopen hmore
    have hscans := scansOf_tries htries
    refine each_append.mpr ⟨hfirst htries, hmore.each ?_ fun deleted => .inr ⟨rfl, ?_⟩⟩
    · simpa only [firstScan, lastScan, scansOf_append, hscans, List.append_nil] using htarget
    · cases htries with
      | @tried cleared _ =>
        exact ⟨before ++ [⟨.deleteProfile ssid, .ok cleared⟩], proc, deleted, by simp, hzero, hopen⟩
  cases h with
  | raised h => exact hfirst h
  | joined h _ => exact hfirst h
  | refused h _ => exact hfirst h
  | raisedOpen h hzero hopen hmore => exact hboth h hzero hopen hmore
  | joinedOpen h hzero hopen hmore _ => exact hboth h hzero hopen hmore
  | refusedOpen h hzero hopen hmore _ => exact hboth h hzero hopen hmore

theorem firstScan_append (h : scansOf before ≠ []) : firstScan (before ++ new) = firstScan before := by
  obtain ⟨first, rest, hfirst⟩ := List.exists_cons_of_ne_nil h
  simp only [firstScan, scansOf_append, hfirst, List.cons_append, List.head?_cons]

theorem scansOf_append_ne (h : scansOf before ≠ []) : scansOf (before ++ new) ≠ [] := by
  rw [scansOf_append]
  exact List.append_ne_nil_of_left_ne_nil h _

/-- The calls a scan begins with. -/
theorem scansOf_listed (rescanned scan : Except Raised Proc) (before : NmcliCalls) (iface : String) :
    scansOf (before ++ [⟨.rescan iface, rescanned⟩] ++ [⟨.listAps iface, scan⟩]) = scansOf before ++ [scanned scan] := by
  rw [scansOf_append, scansOf_append]
  exact congrArg (· ++ [scanned scan]) (List.append_nil _)

theorem Dials.each {answer : Except NotJoined String} (h : Dials w initial new answer) (hbegun : scansOf before ≠ [])
    (hinitial : bssidsOf (firstScan before) = initial) : Each (Justified w) before new := by
  have hscan : ∀ {before : NmcliCalls}, scansOf before ≠ [] → bssidsOf (firstScan before) = initial →
      ∀ rescanned scan, let listed : NmcliCalls :=
        before ++ [⟨.rescan w.iface, rescanned⟩] ++ [⟨.listAps w.iface, scan⟩]
      scansOf listed ≠ [] ∧ bssidsOf (firstScan listed) = initial ∧ lastScan listed = scanned scan := by
    intro before hbegun hinitial rescanned scan
    have hlisted := scansOf_listed rescanned scan before w.iface
    refine ⟨?_, ?_, ?_⟩
    · rw [hlisted]
      exact List.append_ne_nil_of_left_ne_nil hbegun _
    · rwa [List.append_assoc, firstScan_append hbegun]
    · rw [lastScan, hlisted, List.getLast?_concat, Option.getD_some]
  -- A scan itself joins nothing; what follows it goes by it.
  have hturn : ∀ {before : NmcliCalls} {rescanned scan : Except Raised Proc} {rest : NmcliCalls},
      Each (Justified w) (before ++ [⟨.rescan w.iface, rescanned⟩] ++ [⟨.listAps w.iface, scan⟩]) rest →
      Each (Justified w) before (⟨.rescan w.iface, rescanned⟩ :: ⟨.listAps w.iface, scan⟩ :: rest) := by
    intro before rescanned scan rest hrest
    exact ⟨fun h => (by cases h), fun h => (by cases h), hrest⟩
  have htried : ∀ {before : NmcliCalls} {scan : Except Raised Proc} {ssid bssid : String} {tried : NmcliCalls}
      {answer : Except Raised Unit}, bssidsOf (firstScan before) = initial → lastScan before = scanned scan →
      w.choose initial (scanned scan) = some (ssid, bssid) → Connects w ssid bssid tried answer →
      Each (Justified w) before tried := by
    intro before scan ssid bssid tried answer hfirst hlast hchosen hconnects
    refine hconnects.each ?_
    rw [hfirst, hlast]
    exact Wanted.target_of_choose hchosen
  induction h generalizing before with
  | expired => exact each_nil
  | nothing _ _ ih =>
    obtain ⟨hbegun', hinitial', -⟩ := hscan hbegun hinitial _ _
    exact hturn (ih hbegun' hinitial')
  | joined hchosen hconnects =>
    obtain ⟨-, hinitial', hlast⟩ := hscan hbegun hinitial _ _
    exact hturn (htried hinitial' hlast hchosen hconnects)
  | failed hchosen hconnects hquiet _ =>
    obtain ⟨-, hinitial', hlast⟩ := hscan hbegun hinitial _ _
    exact hturn (each_append.mpr ⟨htried hinitial' hlast hchosen hconnects, hquiet.each⟩)
  | again hchosen hconnects hquiet _ _ ih =>
    obtain ⟨hbegun', hinitial', hlast⟩ := hscan hbegun hinitial _ _
    refine hturn (each_append.mpr ⟨htried hinitial' hlast hchosen hconnects, each_append.mpr ⟨hquiet.each, ih ?_ ?_⟩⟩)
    · exact scansOf_append_ne (scansOf_append_ne hbegun')
    · rw [List.append_assoc, firstScan_append hbegun', hinitial']

/-- Wherever a run of `connect_ap` connects the host, it is to an access point that the last scan gives
reason to join; the network is joined without a password only after it turned out to be open. -/
theorem connectAp_justified (o : NmcliWorld) (setupCommand : String) (looks scans : Nat) (ssids : List String)
    (password iface bssid avoidBssid : String) :
    Each (Justified (wanted setupCommand ssids password iface bssid avoidBssid)) []
      (connectAp o setupCommand looks scans ssids password iface bssid avoidBssid ([], ())).2.1 := by
  unfold connectAp
  split
  · exact each_nil
  · split
    · exact each_nil
    · generalize wanted setupCommand ssids password iface bssid avoidBssid = w
      rcases (yields_joinAp o w looks scans).run () with ⟨hquiet, -⟩ | ⟨opening, scan, after, more, hnew, hopening, hafter, hdials⟩
      · exact hquiet.each
      · rw [hnew]
        have hlisted : scansOf (opening ++ [⟨.listAps w.iface, scan⟩]) = [scanned scan] := by
          rw [scansOf_append, hopening.scans]
          rfl
        have hfirst : bssidsOf (firstScan (opening ++ [⟨.listAps w.iface, scan⟩] ++ after)) = bssidsOf (scanned scan) := by
          rw [hafter.scan.1, firstScan, hlisted]
          rfl
        refine each_append.mpr ⟨hopening.each, fun h => (by cases h), each_append.mpr ⟨hafter.each, hdials.each ?_ hfirst⟩⟩
        refine scansOf_append_ne ?_
        rw [List.nil_append, hlisted]
        exact List.cons_ne_nil _ _

/-! ### What a run answers -/

/-- A run that answers an SSID has joined it with its last call; no call before did, nor any call of a run
that fails. -/
def Ends (w : Wanted) (calls : NmcliCalls) : Except NotJoined String → Prop
  | .ok ssid => ∃ front password bssid proc, calls = front ++ [⟨.connect ssid w.iface password bssid, .ok proc⟩] ∧
      proc.returncode = 0 ∧ ∀ said ∈ front, ¬ Joined said
  | .error _ => ∀ said ∈ calls, ¬ Joined said

theorem Quiet.not_joined (h : Quiet new) : ∀ said ∈ new, ¬ Joined said := by
  intro said hsaid hjoined
  exact absurd ((h.joins said hsaid).symm.trans hjoined.1) Bool.false_ne_true

theorem Ends.append {front : NmcliCalls} {answer : Except NotJoined String} (hfront : ∀ said ∈ front, ¬ Joined said)
    (h : Ends w new answer) : Ends w (front ++ new) answer := by
  cases answer with
  | error failure =>
    intro said hsaid
    exact (List.mem_append.mp hsaid).elim (hfront said) (h said)
  | ok ssid =>
    obtain ⟨front', password, bssid, proc, rfl, hzero, hfront'⟩ := h
    refine ⟨front ++ front', password, bssid, proc, (List.append_assoc ..).symm, hzero, fun said hsaid => ?_⟩
    exact (List.mem_append.mp hsaid).elim (hfront said) (hfront' said)

theorem Attempts.not_joined {answer : Except Raised Proc} (h : Attempts w ssid bssid password new answer)
    (hanswer : ∀ proc, answer = .ok proc → proc.returncode ≠ 0) : ∀ said ∈ new, ¬ Joined said := by
  have hdeleted : ∀ answer, ¬ Joined ⟨.deleteProfile ssid, answer⟩ := fun _ h => by cases h.1
  cases h with
  | kept =>
    intro said hsaid
    rw [List.mem_singleton.mp hsaid]
    exact hdeleted _
  | tried =>
    intro said hsaid
    rcases List.mem_cons.mp hsaid with rfl | hsaid
    · exact hdeleted _
    · rw [List.mem_singleton.mp hsaid]
      rintro ⟨-, proc, hproc, hzero⟩
      exact hanswer proc hproc hzero

/-- An attempt that was joined did so with its last call. -/
theorem Attempts.ends {proc : Proc} (h : Attempts w ssid bssid password new (.ok proc)) (hzero : proc.returncode = 0) :
    Ends w new (.ok ssid) := by
  cases h with
  | @tried deleted _ =>
    refine ⟨[⟨.deleteProfile ssid, .ok deleted⟩], password, given bssid, proc, rfl, hzero, fun said hsaid hjoined => ?_⟩
    rw [List.mem_singleton.mp hsaid] at hjoined
    cases hjoined.1

theorem Connects.ends {answer : Except Raised Unit} (h : Connects w ssid bssid new answer) :
    (answer = .ok () → Ends w new (.ok ssid)) ∧ (answer.toBool = false → ∀ said ∈ new, ¬ Joined said) := by
  have hrefused : ∀ {password calls proc}, Attempts w ssid bssid password calls (.ok proc) → proc.returncode ≠ 0 →
      ∀ said ∈ calls, ¬ Joined said := by
    intro password calls proc h hzero
    refine h.not_joined fun proc' heq => ?_
    cases heq
    exact hzero
  have hraised : ∀ {password calls ex}, Attempts w ssid bssid password calls (.error ex) → ∀ said ∈ calls, ¬ Joined said :=
    fun h => h.not_joined fun proc heq => by cases heq
  have hboth : ∀ {xs ys : NmcliCalls}, (∀ said ∈ xs, ¬ Joined said) → (∀ said ∈ ys, ¬ Joined said) →
      ∀ said ∈ xs ++ ys, ¬ Joined said := by
    intro xs ys hxs hys said hsaid
    exact (List.mem_append.mp hsaid).elim (hxs said) (hys said)
  cases h with
  | raised h => exact ⟨fun h => (by cases h), fun _ => hraised h⟩
  | joined h hzero => exact ⟨fun _ => h.ends hzero, fun h => (by cases h)⟩
  | refused h hzero => exact ⟨fun h => (by cases h), fun _ => hrefused h hzero⟩
  | raisedOpen h hzero _ hmore => exact ⟨fun h => (by cases h), fun _ => hboth (hrefused h hzero) (hraised hmore)⟩
  | joinedOpen h hzero _ hmore hjoined =>
    exact ⟨fun _ => (hmore.ends hjoined).append (hrefused h hzero), fun h => (by cases h)⟩
  | refusedOpen h hzero _ hmore hzero' =>
    exact ⟨fun h => (by cases h), fun _ => hboth (hrefused h hzero) (hrefused hmore hzero')⟩

theorem Dials.ends {answer : Except NotJoined String} (h : Dials w initial new answer) : Ends w new answer := by
  have hscan : ∀ (rescanned scan : Except Raised Proc) {rest : NmcliCalls} {answer : Except NotJoined String},
      Ends w rest answer → Ends w (⟨.rescan w.iface, rescanned⟩ :: ⟨.listAps w.iface, scan⟩ :: rest) answer := by
    intro rescanned scan rest answer h
    have hscan : ∀ said ∈ ([⟨.rescan w.iface, rescanned⟩, ⟨.listAps w.iface, scan⟩] : NmcliCalls), ¬ Joined said := by
      intro said hsaid hjoined
      rcases List.mem_cons.mp hsaid with rfl | hsaid
      · cases hjoined.1
      · rw [List.mem_singleton.mp hsaid] at hjoined
        cases hjoined.1
    exact Ends.append hscan h
  induction h with
  | expired =>
    intro said hsaid
    cases hsaid
  | nothing _ _ ih => exact hscan _ _ ih
  | joined _ hconnects => exact hscan _ _ (hconnects.ends.1 rfl)
  | @failed rescanned scan ssid bssid tried after ex failure _ hconnects hquiet _ =>
    have hafter : Ends w after (.error failure) := hquiet.not_joined
    exact hscan _ _ (hafter.append (hconnects.ends.2 rfl))
  | again _ hconnects hquiet _ _ ih => exact hscan _ _ ((ih.append hquiet.not_joined).append (hconnects.ends.2 rfl))

/-- A run of `connect_ap` answers an SSID just if its last call joined it, and no call before did. -/
theorem connectAp_ends (o : NmcliWorld) (setupCommand : String) (looks scans : Nat) (ssids : List String)
    (password iface bssid avoidBssid : String) :
    Ends (wanted setupCommand ssids password iface bssid avoidBssid)
      (connectAp o setupCommand looks scans ssids password iface bssid avoidBssid ([], ())).2.1
      (connectAp o setupCommand looks scans ssids password iface bssid avoidBssid ([], ())).1 := by
  have hnone : ∀ (w : Wanted) (failure : NotJoined), Ends w [] (.error failure) := by
    intro w failure said hsaid
    cases hsaid
  unfold connectAp
  split
  · exact hnone _ _
  · split
    · exact hnone _ _
    · generalize wanted setupCommand ssids password iface bssid avoidBssid = w
      rcases (yields_joinAp o w looks scans).run () with ⟨hquiet, failure, hfailure⟩ |
        ⟨opening, scan, after, more, hnew, hopening, hafter, hdials⟩
      · rw [hfailure]
        exact hquiet.not_joined
      · rw [hnew]
        have hlisted : ∀ said ∈ ([⟨.listAps w.iface, scan⟩] : NmcliCalls), ¬ Joined said := by
          intro said hsaid hjoined
          rw [List.mem_singleton.mp hsaid] at hjoined
          cases hjoined.1
        exact (Ends.append hlisted (hdials.ends.append hafter.not_joined)).append hopening.not_joined

end RaceLink.Update
