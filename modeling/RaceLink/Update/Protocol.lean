import RaceLink.Update.Workflow

/-! What an update says to a node, as a small grammar.

A node is spoken to over the radio (its access point is switched), and over that access point (it is
asked who it is, and sent files). `Device` is what may be said to a node in one turn of the loop, from
the record that is left of it: the access point is opened, the node is asked who it is, the files follow
if it is the expected one, and the access point is closed again if it was opened and the update failed. -/
namespace RaceLink.Update
open Python Library

/-- A call with its answer. -/
abbrev Said : Type := Σ c, Answer c

/-- The call speaks to a node. -/
def Call.toNode : Call → Bool
  | .sendConfig .. | .waitForExpectedNode .. | .wledUploadFile .. | .wledUploadFirmware .. => true
  | _ => false

/-- What is said to nodes. -/
def talk (calls : Calls) : List Said := calls.filter fun said => said.1.toNode

/-- The boards that are shown. -/
def boards (calls : Calls) : List Board :=
  calls.filterMap fun said => match said.1 with
    | .update shown => shown.board
    | _ => none

@[simp] theorem talk_nil : talk [] = [] := rfl

@[simp] theorem boards_nil : boards [] = [] := rfl

@[simp] theorem talk_append (xs ys : Calls) : talk (xs ++ ys) = talk xs ++ talk ys := List.filter_append ..

@[simp] theorem boards_append (xs ys : Calls) : boards (xs ++ ys) = boards xs ++ boards ys :=
  List.filterMap_append

/-! ### Phases -/

/-- What may be said in a phase that went well, or did not. -/
abbrev Phase : Type := Bool → List Said → Prop

namespace Phase

/-- A phase with nothing to say that cannot fail. -/
def skip : Phase := fun ok said => ok = true ∧ said = []

/-- A phase with nothing to say. -/
def silent : Phase := fun _ said => said = []

/-- One phase after another, if the first goes well. -/
def andThen (P Q : Phase) : Phase := fun ok said =>
  (ok = false ∧ P false said) ∨ ∃ first rest, said = first ++ rest ∧ P true first ∧ Q ok rest

variable {P P' Q Q' : Phase} {ok : Bool} {said : List Said}

theorem andThen_skip (h : P.andThen skip ok said) : P ok said := by
  rcases h with ⟨rfl, h⟩ | ⟨first, rest, rfl, h, rfl, rfl⟩
  · exact h
  · rwa [List.append_nil]

theorem silent_andThen_silent (h : silent.andThen silent ok said) : silent ok said := by
  rcases h with ⟨-, h⟩ | ⟨first, rest, rfl, rfl, rfl⟩
  · exact h
  · rfl

end Phase

/-! ### The turn of a device -/

def apSaid (data0 : Nat) (recv3 : Bytes) (answer : Except Raised Bool) : Said :=
  ⟨.sendConfig 4 data0 recv3, answer⟩

/-- The AP of a node is switched, by at most two tries. -/
def Switches (data0 : Nat) (addr : String) (answers : List (Except Raised Bool)) (said : List Said) : Prop :=
  ∃ recv3, recv3BytesFromAddr addr = .ok recv3 ∧ Tried (· = .ok false) 2 answers ∧
    said = answers.map (apSaid data0 recv3)

/-- The AP is opened. An address the radio cannot use is not sent to. -/
def Opens (addr : String) : Phase := fun ok said =>
  ((∃ ex, recv3BytesFromAddr addr = .error ex) ∧ ok = false ∧ said = []) ∨
    ∃ answers, Switches 1 addr answers said ∧ ok = decide (answers.getLast? = some (.ok true))

/-- The answer of a node that is the expected one. -/
def Expected : Except Raised (Option Dict) → Bool
  | .ok (some info) => !info.isEmpty
  | _ => false

/-- The node behind the AP is asked who it is. -/
def Identifies (baseUrl expectedMac : String) : Phase := fun ok said =>
  ∃ answer, said = [⟨.waitForExpectedNode baseUrl expectedMac, answer⟩] ∧ ok = Expected answer

/-- A file is sent, if there is one. -/
def SendsFile (baseUrl destName : String) : Option Upload → Phase
  | none => Phase.skip
  | some info => fun ok said => ∃ answer : Except Raised Unit,
      said = [⟨.wledUploadFile baseUrl info.path destName, answer⟩] ∧ ok = answer.toBool

/-- The upload of a firmware failed in a way that may pass. -/
def MayPass (answer : Except Raised Unit) : Prop :=
  ∃ ex, answer = .error ex ∧ contains ex.text "HTTP 500" = false ∧ contains ex.text "HTTP 503" = false

/-- The firmware is sent, if there is one. -/
def SendsFirmware (req : Request) : Phase :=
  match req.fwInfo with
  | none => Phase.skip
  | some info => fun ok said => ∃ answers : List (Except Raised Unit), Tried MayPass req.retries answers ∧
      said = answers.map (fun answer =>
        ⟨.wledUploadFirmware req.baseUrl info.path req.wifi.otaPassword req.skipValidation, answer⟩) ∧
      ok = decide (answers.getLast? = some (.ok ()))

/-- The files are sent. -/
def Sends (req : Request) : Phase :=
  (SendsFile req.baseUrl "presets.json" req.presetsInfo).andThen
    ((SendsFile req.baseUrl "cfg.json" req.cfgInfo).andThen (SendsFirmware req))

/-- The node is reached and identified, and the files are sent. -/
def Delivers (req : Request) (expectedMac : String) : Phase :=
  (Phase.silent.andThen (Identifies req.baseUrl expectedMac)).andThen (Sends req)

/-- A node is updated. -/
def Flashes (req : Request) (addr : String) : Phase :=
  (Opens addr).andThen (Delivers req (String.ofList (expectedMacHex addr)))

/-- The AP was opened. -/
def Opened (said : List Said) : Prop := ∃ recv3, apSaid 1 recv3 (.ok true) ∈ said

/-- What is said to the node of a record. -/
def Device (req : Request) (d : DevRes) (said : List Said) : Prop :=
  ∃ flashed closed, said = flashed ++ closed ∧ Flashes req d.addr d.ok flashed ∧
    (Opened flashed ∧ d.ok = false → ∃ answers, Switches 0 d.addr answers closed) ∧
    (¬ (Opened flashed ∧ d.ok = false) → closed = [])

/-! ### Open access points -/

theorem opened_append {xs ys : List Said} : Opened (xs ++ ys) ↔ Opened xs ∨ Opened ys := by
  simp only [Opened, List.mem_append, exists_or]

/-- The access point was opened when the last try to do so was acknowledged. -/
theorem opened_iff {addr : String} {ok : Bool} {said : List Said} (h : Opens addr ok said) :
    Opened said ↔ ok = true := by
  rcases h with ⟨-, rfl, rfl⟩ | ⟨answers, ⟨recv3, -, htried, rfl⟩, rfl⟩
  · simp [Opened]
  · have hsaid : Opened (answers.map (apSaid 1 recv3)) ↔ .ok true ∈ answers := by
      constructor
      · rintro ⟨recv3', hmem⟩
        obtain ⟨answer, hanswer, heq⟩ := List.mem_map.mp hmem
        cases heq
        exact hanswer
      · intro hmem
        exact ⟨recv3, List.mem_map_of_mem hmem⟩
    rw [hsaid, decide_eq_true_iff]
    constructor
    · intro hmem
      exact htried.last_of_mem hmem (by intro h; cases h)
    · exact List.mem_of_getLast?

end RaceLink.Update
