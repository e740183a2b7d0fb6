import RaceLink.Library.Keyed
import RaceLink.Saved.RoundTrip
import RaceLink.Scenes.Slugs

/-! Backups of the whole configuration (`services/config_backup_service.py`).

A backup is what `save_to_db` would write, in a file of its own. Restoring one puts it into the option and loads it
as ever; the configuration that goes is backed up before. -/
namespace RaceLink.Saved
open Python Library Domain Gateways

/-! ### The files -/

/-- The envelope of a backup, with its payload as what its text says. -/
structure Envelope where
  id : String
  createdTs : PyFloat
  label : String
  reason : String
  schemaVersion : Int
  devices : Nat
  groups : Nat
  networks : Nat
  state : Json
deriving DecidableEq, Repr

/-- What the backups work on: the repositories, the option `rl_state_v1`, and the files. -/
structure Configuration where
  fleet : State
  option : OptionText
  backups : List Envelope

/-- The clock: the time, and how it is spelled in an id. -/
structure Clock where
  now : PyFloat
  stamp : String

/-- `ConfigBackupError`, or what `load_from_db` raised. -/
inductive BackupError where
  | refused (text : String) (args : List Json)
  | load (error : LoadError)
deriving DecidableEq, Repr

/-! ### Creating -/

/-- The ids that are tried for a time, from the first on. -/
def backupIdAt (stamp : String) (suffix : Nat) : String :=
  let backupId := "state_" ++ stamp
  if suffix ≤ 1 then backupId else s!"{backupId}_{suffix}"

/-- The first id without a file. One more than there are files is enough to try (`freeBackupId_fresh`). -/
def freeBackupId (taken : List String) (stamp : String) : String :=
  (((List.range' 1 (taken.length + 1)).map (backupIdAt stamp)).find? (· ∉ taken)).getD ("state_" ++ stamp)

/-- `create`. -/
def create (keyText : Key → String) (clock : Clock) (label reason : String) (c : Configuration) :
    Envelope × Configuration :=
  let s := c.fleet
  let envelope : Envelope :=
    { id := freeBackupId (c.backups.map (·.id)) clock.stamp, createdTs := clock.now, label := strip label, reason
      schemaVersion := CURRENT_SCHEMA_VERSION, devices := s.devices.length, groups := s.groups.length
      networks := s.networks.length
      state := dumpState keyText s.devices s.groups s.networks CURRENT_SCHEMA_VERSION }
  (envelope, {c with backups := c.backups ++ [envelope]})

/-! ### Restoring -/

/-- `_swap_state`. A load that migrates saves as well; what is saved last is the same. -/
def swapState (keyText : Key → String) (r : Reader) (legacy : LegacyKeys) (blob : Json) (c : Configuration) :
    Except BackupError Unit × Configuration :=
  match loadFromDb r legacy (some (some blob)) c.fleet with
  | (.error e, s) => (.error (.load e), {c with option := some (some blob), fleet := s})
  | (.ok (), s) => (.ok (), {c with option := some (some (saveToDb keyText s)), fleet := s.save})

/-- `restore`, of a file as it is written. -/
def restore (keyText : Key → String) (r : Reader) (legacy : LegacyKeys) (clock : Clock) (backupId : String)
    (force : Bool) (c : Configuration) : Except BackupError Envelope × Configuration :=
  match findKey (·.id) backupId c.backups with
  | none => (.error (.refused "unknown backup %r" [.str backupId]), c)
  | some envelope =>
    if envelope.schemaVersion > CURRENT_SCHEMA_VERSION ∧ force = false then
      (.error (.refused "backup %r was written by a newer host (schema v%d > v%d)"
        [.str backupId, .int envelope.schemaVersion, .int CURRENT_SCHEMA_VERSION]), c)
    else
      let (_, c) := create keyText clock ("before restoring " ++ backupId) "pre-restore" c
      match swapState keyText r legacy envelope.state c with
      | (.error e, c) => (.error e, c)
      | (.ok (), c) => (.ok envelope, c)

/-! ### Ids -/

theorem backupIdAt_injective (stamp : String) : ∀ m ≥ 1, ∀ n ≥ 1, backupIdAt stamp m = backupIdAt stamp n → m = n := by
  have hlonger : ∀ n : Nat, ∀ base : String, s!"{base}_{n}" ≠ base := fun n base heq => by
    have hlist := congrArg String.toList heq
    rw [Scenes.numbered_toList] at hlist
    exact absurd (List.append_right_eq_self.mp hlist) (List.cons_ne_nil _ _)
  intro m hm n hn heq
  unfold backupIdAt at heq
  dsimp only at heq
  by_cases hone : m ≤ 1
  · by_cases hone' : n ≤ 1
    · omega
    · rw [if_pos hone, if_neg hone'] at heq
      exact absurd heq.symm (hlonger n _)
  · by_cases hone' : n ≤ 1
    · rw [if_neg hone, if_pos hone'] at heq
      exact absurd heq (hlonger m _)
    · rw [if_neg hone, if_neg hone'] at heq
      have hdigits := congrArg String.toList heq
      rw [Scenes.numbered_toList, Scenes.numbered_toList] at hdigits
      have hsame := (List.cons.inj (List.append_cancel_left hdigits)).2
      have hvalue := congrArg (fun cs => Nat.ofDigitChars 10 cs 0) hsame
      simpa [Nat.ofDigitChars_toDigits] using hvalue

/-- **A new backup has an id of its own**, so none is overwritten. -/
theorem freeBackupId_fresh (taken : List String) (stamp : String) : freeBackupId taken stamp ∉ taken := by
  unfold freeBackupId
  cases hfind : ((List.range' 1 (taken.length + 1)).map (backupIdAt stamp)).find? (· ∉ taken) with
  | some backupId => exact of_decide_eq_true (List.find?_some (p := fun id => decide (id ∉ taken)) hfind)
  | none =>
    -- All the ids that were tried would be taken, and they are more than those taken.
    have hall : (List.range' 1 (taken.length + 1)).map (backupIdAt stamp) ⊆ taken := fun id hid => by
      simpa using List.find?_eq_none.mp hfind id hid
    have hnodup : ((List.range' 1 (taken.length + 1)).map (backupIdAt stamp)).Nodup := by
      refine List.Nodup.map_on (fun m hm n hn => ?_) List.nodup_range'
      exact backupIdAt_injective stamp m (List.mem_range'_1.mp hm).1 n (List.mem_range'_1.mp hn).1
    have hlength := (List.subperm_of_subset hnodup hall).length_le
    rw [List.length_map, List.length_range'] at hlength
    omega

/-- A backup that was just made is there to be read. -/
theorem findKey_create (keyText : Key → String) (clock : Clock) (label reason : String) (c : Configuration) :
    findKey (·.id) (create keyText clock label reason c).1.id (create keyText clock label reason c).2.backups =
      some (create keyText clock label reason c).1 := by
  have hnone : findKey (·.id) (create keyText clock label reason c).1.id c.backups = none := by
    refine findKey_none.mpr fun envelope henvelope heq => ?_
    exact freeBackupId_fresh (c.backups.map (·.id)) clock.stamp (List.mem_map.mpr ⟨envelope, henvelope, heq⟩)
  rw [findKey] at hnone ⊢
  show List.find? _ (c.backups ++ [_]) = _
  rw [List.find?_append, hnone, Option.none_or]
  exact List.find?_cons_of_pos (decide_eq_true rfl)

/-! ### Back -/

/-- **A backup of a state brings it back**: from wherever the host is by then, as long as the file is there. -/
def BackupRestores (s : State) : Prop :=
  ∀ (keyText : Key → String) (clock : Clock) (label reason : String) (c : Configuration), c.fleet = s →
    ∀ (r : Reader) (legacy : LegacyKeys) (later : Clock) (force : Bool) (c' : Configuration),
      findKey (·.id) (create keyText clock label reason c).1.id c'.backups =
        some (create keyText clock label reason c).1 →
      (∃ envelope, (restore keyText r legacy later (create keyText clock label reason c).1.id force c').1 =
        .ok envelope) ∧
      SameFleet s (restore keyText r legacy later (create keyText clock label reason c).1.id force c').2.fleet

theorem Storable.swapState {s : State} (h : Storable s) (keyText : Key → String) (r : Reader) (legacy : LegacyKeys)
    (c : Configuration) : (swapState keyText r legacy (saveToDb keyText s) c).1 = .ok () ∧
      SameFleet s (swapState keyText r legacy (saveToDb keyText s) c).2.fleet := by
  obtain ⟨hok, hsame⟩ := h.roundTrip keyText r legacy c.fleet
  unfold Saved.swapState
  cases hload : loadFromDb r legacy (some (some (saveToDb keyText s))) c.fleet with
  | mk answer loaded =>
    rw [hload] at hok hsame
    dsimp only at hok
    subst hok
    exact ⟨rfl, hsame.devices, hsame.groups, hsame.networks⟩

theorem Storable.backupRestores {s : State} (h : Storable s) : BackupRestores s := by
  rintro keyText clock label reason c rfl r legacy later force c' hfile
  have hstate : (create keyText clock label reason c).1.state = saveToDb keyText c.fleet :=
    (dumpState_storable keyText h CURRENT_SCHEMA_VERSION).trans (saveToDb_storable keyText h).symm
  have hcurrent : ¬ ((create keyText clock label reason c).1.schemaVersion > CURRENT_SCHEMA_VERSION ∧ force = false) :=
    fun hnewer => absurd hnewer.1 (Int.lt_irrefl CURRENT_SCHEMA_VERSION)
  unfold restore
  rw [hfile]
  dsimp only
  rw [if_neg hcurrent, hstate]
  generalize (create keyText later _ "pre-restore" c').2 = before
  obtain ⟨hok, hsame⟩ := h.swapState keyText r legacy before
  cases hswap : Saved.swapState keyText r legacy (saveToDb keyText c.fleet) before with
  | mk answer after =>
    rw [hswap] at hok hsame
    dsimp only at hok
    subst hok
    exact ⟨⟨_, rfl⟩, hsame⟩

end RaceLink.Saved
