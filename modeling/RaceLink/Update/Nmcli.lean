import RaceLink.Python.Text

/-! The output of `nmcli -t`, as the host reads it (`services/host_wifi_service.py`): fields between
colons, a colon inside a field behind a backslash.

A backslash at the end of a field is taken for the one of a colon, and the field is joined with the next
one. That is all that can go wrong: fields come back as they were written exactly when none but the last
ends in a backslash. -/
namespace RaceLink.Update
open Python Library

/-! ### Lines and fields -/

/-- The characters `str.splitlines` breaks at. -/
def isLineBreak (c : Char) : Bool :=
  let n := c.toNat
  (10 ≤ n && n ≤ 13) || (28 ≤ n && n ≤ 30) || n == 133 || n == 8232 || n == 8233

/-- `str.splitlines`, with what was read of the line at hand. -/
def linesFrom : List Char → List Char → List (List Char)
  | [], [] => []
  | cur, [] => [cur]
  | cur, '\r' :: '\n' :: rest => cur :: linesFrom [] rest
  | cur, c :: rest => if isLineBreak c then cur :: linesFrom [] rest else linesFrom (cur ++ [c]) rest

def splitLines (text : String) : List String := (linesFrom [] text.toList).map String.ofList

/-- The loop of `_split_nmcli_terse_fields`. -/
def fieldsFrom : List Char → List Char → List (List Char)
  | cur, [] => [cur]
  | cur, '\\' :: ':' :: rest => fieldsFrom (cur ++ [':']) rest
  | cur, c :: rest => if c = ':' then cur :: fieldsFrom [] rest else fieldsFrom (cur ++ [c]) rest

/-- `_split_nmcli_terse_fields`. -/
def splitTerse (line : List Char) : List (List Char) := fieldsFrom [] line

/-- An access point of a scan. -/
structure Ap where
  inUse : Bool
  bssid : String
  ssid : String
deriving DecidableEq, Repr

/-- An access point of a line; a hidden one has no BSSID and is left out. -/
def apOfLine (line : String) : Option Ap :=
  match splitTerse line.toList with
  | inUse :: bssid :: ssid :: _ =>
    if bssid = [] then none
    else some ⟨strip (String.ofList inUse) == "*", upper (String.ofList bssid), String.ofList ssid⟩
  | _ => none

/-- The access points of a scan that was printed. -/
def apsOf (stdout : String) : List Ap :=
  ((splitLines stdout).filter fun line => strip line ≠ "").filterMap apOfLine

/-! ### Fields that were written -/

/-- A field as `nmcli -t` writes it. -/
def escape (field : List Char) : List Char := field.flatMap fun c => if c = ':' then ['\\', ':'] else [c]

/-- Fields as `nmcli -t` writes them. -/
def terse : List (List Char) → List Char
  | [] => []
  | [field] => escape field
  | field :: rest => escape field ++ ':' :: terse rest

/-- Fields as they are read: one that ends in a backslash goes on into the next. -/
def misread : List Char → List (List Char) → List (List Char)
  | cur, [] => [cur]
  | cur, [field] => [cur ++ field]
  | cur, field :: rest =>
    if field.getLast? = some '\\' then misread (cur ++ field.dropLast ++ [':']) rest
    else (cur ++ field) :: misread [] rest

theorem escape_append (xs ys : List Char) : escape (xs ++ ys) = escape xs ++ escape ys := List.flatMap_append

theorem fieldsFrom_cons {c : Char} (hbackslash : c ≠ '\\') (hcolon : c ≠ ':') (cur rest : List Char) :
    fieldsFrom cur (c :: rest) = fieldsFrom (cur ++ [c]) rest := by
  rw [fieldsFrom, if_neg hcolon]
  intro rest' h
  exact absurd h hbackslash

theorem fieldsFrom_colon (cur rest : List Char) :
    fieldsFrom cur ('\\' :: ':' :: rest) = fieldsFrom (cur ++ [':']) rest := by
  rw [fieldsFrom]

theorem fieldsFrom_break (cur rest : List Char) : fieldsFrom cur (':' :: rest) = cur :: fieldsFrom [] rest := by
  rw [fieldsFrom, if_pos rfl]
  intro rest' h
  exact absurd h (by decide)

/-- A backslash that no colon follows is read as it is. -/
theorem fieldsFrom_backslash {rest : List Char} (hrest : rest.head? ≠ some ':') (cur : List Char) :
    fieldsFrom cur ('\\' :: rest) = fieldsFrom (cur ++ ['\\']) rest := by
  rw [fieldsFrom, if_neg (by decide)]
  intro rest' _ h
  exact hrest (by rw [h]; rfl)

theorem escape_cons (c : Char) (field : List Char) :
    escape (c :: field) = (if c = ':' then ['\\', ':'] else [c]) ++ escape field := List.flatMap_cons

theorem head_escape (field : List Char) : (escape field).head? ≠ some ':' := by
  cases field with
  | nil => intro h; cases h
  | cons c rest =>
    rw [escape_cons]
    split
    · intro h
      cases h
    · next hc =>
      intro h
      exact hc (Option.some.inj h)

/-- A field is read as it was written, up to a last backslash. -/
theorem fieldsFrom_escape {field : List Char} {rest : List Char}
    (h : field.getLast? = some '\\' → rest.head? ≠ some ':') (cur : List Char) :
    fieldsFrom cur (escape field ++ rest) = fieldsFrom (cur ++ field) rest := by
  induction field generalizing cur with
  | nil => simp [escape]
  | cons c field ih =>
    have hlast : field.getLast? = some '\\' → rest.head? ≠ some ':' := by
      intro hfield
      exact h (by rw [List.getLast?_cons, hfield]; rfl)
    rw [escape_cons, List.append_assoc]
    by_cases hcolon : c = ':'
    · rw [if_pos hcolon, hcolon]
      exact (fieldsFrom_colon _ _).trans ((ih hlast _).trans (by simp))
    · rw [if_neg hcolon]
      by_cases hbackslash : c = '\\'
      · have hrest : (escape field ++ rest).head? ≠ some ':' := by
          cases field with
          | nil => exact h (by rw [hbackslash]; rfl)
          | cons d field =>
            rw [List.head?_append_of_ne_nil]
            · exact head_escape _
            · rw [escape_cons]
              split <;> simp
        rw [hbackslash]
        exact (fieldsFrom_backslash hrest _).trans ((ih hlast _).trans (by simp))
      · exact (fieldsFrom_cons hbackslash hcolon _ _).trans ((ih hlast _).trans (by simp))

/-- What was written is read up to backslashes at the end of a field. -/
theorem fieldsFrom_terse (cur : List Char) (fields : List (List Char)) :
    fieldsFrom cur (terse fields) = misread cur fields := by
  induction fields generalizing cur with
  | nil => rfl
  | cons field fields ih =>
    cases fields with
    | nil =>
      have hnil : ([] : List Char).head? ≠ some ':' := by
        intro h
        cases h
      have hfield : fieldsFrom cur (escape field ++ []) = fieldsFrom (cur ++ field) [] :=
        fieldsFrom_escape (fun _ => hnil) cur
      rw [List.append_nil] at hfield
      rw [terse, hfield, misread, fieldsFrom]
    | cons next fields =>
      have hterse : terse (field :: next :: fields) = escape field ++ ':' :: terse (next :: fields) := rfl
      have hmisread : misread cur (field :: next :: fields) = if field.getLast? = some '\\'
          then misread (cur ++ field.dropLast ++ [':']) (next :: fields)
          else (cur ++ field) :: misread [] (next :: fields) := rfl
      rw [hterse, hmisread]
      split
      · next hlast =>
        obtain ⟨front, rfl⟩ : ∃ front, field = front ++ ['\\'] := ⟨_, (List.dropLast_append_getLast? _ hlast).symm⟩
        have hback : escape ['\\'] = ['\\'] := rfl
        rw [escape_append, hback, List.append_assoc, fieldsFrom_escape (fun _ h => by cases h)]
        rw [List.dropLast_concat, ← ih]
        exact fieldsFrom_colon _ _
      · next hlast => rw [fieldsFrom_escape (fun h => absurd h hlast), fieldsFrom_break, ih]

theorem length_misread_le (cur : List Char) {fields : List (List Char)} (h : fields ≠ []) :
    (misread cur fields).length ≤ fields.length := by
  induction fields generalizing cur with
  | nil => exact absurd rfl h
  | cons field fields ih =>
    cases fields with
    | nil => exact Nat.le_refl 1
    | cons next fields =>
      have hrest := fun cur => ih cur (List.cons_ne_nil next fields)
      have hmisread : misread cur (field :: next :: fields) = if field.getLast? = some '\\'
          then misread (cur ++ field.dropLast ++ [':']) (next :: fields)
          else (cur ++ field) :: misread [] (next :: fields) := rfl
      rw [hmisread]
      split
      · exact Nat.le_succ_of_le (hrest _)
      · exact Nat.succ_le_succ (hrest _)

/-- Fields come back as they were written exactly when none but the last ends in a backslash. -/
theorem splitTerse_terse (field : List Char) (fields : List (List Char)) :
    splitTerse (terse (field :: fields)) = field :: fields ↔
      ∀ f ∈ (field :: fields).dropLast, f.getLast? ≠ some '\\' := by
  rw [splitTerse, fieldsFrom_terse]
  induction fields generalizing field with
  | nil => simp [misread]
  | cons next fields ih =>
    have hmisread : misread [] (field :: next :: fields) = if field.getLast? = some '\\'
        then misread (field.dropLast ++ [':']) (next :: fields)
        else field :: misread [] (next :: fields) := rfl
    rw [hmisread, List.dropLast_cons_cons, List.forall_mem_cons]
    split
    · next hlast =>
      refine iff_of_false (fun heq => ?_) fun h => h.1 hlast
      have hlength := length_misread_le (field.dropLast ++ [':']) (List.cons_ne_nil next fields)
      rw [heq] at hlength
      exact absurd hlength (Nat.not_succ_le_self _)
    · next hlast =>
      rw [List.cons.injEq, and_iff_right rfl, ih]
      exact (and_iff_right hlast).symm

/-! ### Scans that were printed -/

/-- The line of an access point. -/
def Ap.line (ap : Ap) : List Char :=
  terse [[if ap.inUse then '*' else ' '], ap.bssid.toList, ap.ssid.toList]

/-- A scan as it is printed, a line for each access point. -/
def printed (aps : List Ap) : String := String.ofList (aps.flatMap fun ap => ap.line ++ ['\n'])

/-- An access point that comes back from its line. -/
structure Ap.Printable (ap : Ap) : Prop where
  bssid_ne : ap.bssid ≠ ""
  bssid_upper : upper ap.bssid = ap.bssid
  bssid_end : ap.bssid.toList.getLast? ≠ some '\\'
  unbroken : ∀ c ∈ ap.bssid.toList ++ ap.ssid.toList, isLineBreak c = false

theorem linesFrom_unbroken {line : List Char} (h : ∀ c ∈ line, isLineBreak c = false) (cur rest : List Char) :
    linesFrom cur (line ++ '\n' :: rest) = (cur ++ line) :: linesFrom [] rest := by
  induction line generalizing cur with
  | nil =>
    rw [List.nil_append, List.append_nil, linesFrom]
    · exact if_pos (by decide)
    · intro rest' h
      exact absurd h (by decide)
  | cons c line ih =>
    obtain ⟨hc, hline⟩ := List.forall_mem_cons.mp h
    have hcr : c ≠ '\r' := by
      rintro rfl
      cases hc
    rw [List.cons_append, linesFrom, if_neg (by rw [hc]; decide), ih hline, List.append_assoc, List.singleton_append]
    intro rest' hcr'
    exact absurd hcr' hcr

theorem mem_escape {field : List Char} {c : Char} (h : c ∈ escape field) : c ∈ field ∨ c = '\\' := by
  obtain ⟨d, hd, hc⟩ := List.mem_flatMap.mp h
  split at hc
  · next hcolon =>
    rcases List.mem_cons.mp hc with rfl | hc
    · exact .inr rfl
    · rw [List.mem_singleton.mp hc, ← hcolon]
      exact .inl hd
  · rw [List.mem_singleton.mp hc]
    exact .inl hd

theorem Ap.line_unbroken {ap : Ap} (h : ap.Printable) : ∀ c ∈ ap.line, isLineBreak c = false := by
  have hfield : ∀ field : List Char, (∀ c ∈ field, isLineBreak c = false) →
      ∀ c ∈ escape field, isLineBreak c = false := by
    intro field hfield c hc
    rcases mem_escape hc with hc | rfl
    · exact hfield c hc
    · decide
  have huse : ∀ c ∈ escape [if ap.inUse then '*' else ' '], isLineBreak c = false := by
    refine hfield _ fun c hc => ?_
    rw [List.mem_singleton.mp hc]
    cases ap.inUse <;> rfl
  intro c hc
  rcases List.mem_append.mp hc with hc | hc
  · exact huse c hc
  · rcases List.mem_cons.mp hc with rfl | hc
    · decide
    · rcases List.mem_append.mp hc with hc | hc
      · exact hfield _ (fun c hc => h.unbroken c (List.mem_append_left _ hc)) c hc
      · rcases List.mem_cons.mp hc with rfl | hc
        · decide
        · exact hfield _ (fun c hc => h.unbroken c (List.mem_append_right _ hc)) c hc

theorem apOfLine_line {ap : Ap} (h : ap.Printable) : apOfLine (String.ofList ap.line) = some ap := by
  have hsplit : splitTerse ap.line = [[if ap.inUse then '*' else ' '], ap.bssid.toList, ap.ssid.toList] := by
    refine (splitTerse_terse _ _).mpr fun f hf => ?_
    rcases List.mem_cons.mp hf with rfl | hf
    · cases ap.inUse <;> decide
    · rw [List.mem_singleton.mp hf]
      exact h.bssid_end
  have hbssid : ap.bssid.toList ≠ [] := fun hnil => h.bssid_ne (String.toList_eq_nil_iff.mp hnil)
  have huse : (strip (String.ofList [if ap.inUse then '*' else ' ']) == "*") = ap.inUse := by
    cases ap.inUse <;> decide
  simp only [apOfLine, String.toList_ofList, hsplit, if_neg hbssid, huse, String.ofList_toList, h.bssid_upper]

/-- What is printed of a scan is read back as it was. -/
theorem apsOf_printed (aps : List Ap) (h : ∀ ap ∈ aps, ap.Printable) : apsOf (printed aps) = aps := by
  have hlines : splitLines (printed aps) = aps.map fun ap => String.ofList ap.line := by
    rw [splitLines, printed, String.toList_ofList]
    induction aps with
    | nil => rfl
    | cons ap aps ih =>
      obtain ⟨hap, haps⟩ := List.forall_mem_cons.mp h
      rw [List.flatMap_cons, List.append_assoc, List.singleton_append, linesFrom_unbroken (Ap.line_unbroken hap),
        List.map_cons, ih haps]
      rfl
  have hkept : ∀ ap : Ap, strip (String.ofList ap.line) ≠ "" := by
    intro ap hstrip
    have hcolon : ':' ∈ ap.line := List.mem_append_right _ (List.mem_cons_self ..)
    have hmem : ':' ∈ stripChars ap.line := mem_trimBy hcolon (by decide)
    rw [strip, String.toList_ofList, String.ofList_eq_empty_iff] at hstrip
    rw [hstrip] at hmem
    cases hmem
  rw [apsOf, hlines, List.filter_eq_self.mpr, List.filterMap_map]
  · have hread : aps.filterMap (apOfLine ∘ fun ap => String.ofList ap.line) = aps.filterMap some := by
      refine List.filterMap_congr fun ap hap => ?_
      rw [Function.comp_apply, apOfLine_line (h ap hap)]
    rw [hread, List.filterMap_some]
  · intro line hline
    obtain ⟨ap, -, rfl⟩ := List.mem_map.mp hline
    exact decide_eq_true (hkept ap)

theorem apsOf_printed_colons : apsOf (printed [⟨true, "DC:5B", "a:\\"⟩]) = [⟨true, "DC:5B", "a:\\"⟩] :=
  apsOf_printed _ (by
    intro ap hap
    have hunbroken : ("DC:5B".toList ++ "a:\\".toList).all (fun c => !isLineBreak c) = true := by decide
    rw [List.mem_singleton.mp hap]
    exact ⟨by decide, by decide, by decide, by simpa using hunbroken⟩)

end RaceLink.Update
