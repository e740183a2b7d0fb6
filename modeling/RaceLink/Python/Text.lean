import RaceLink.Library.Trim

/-! The string methods the host calls: `str.strip`, `str.upper`, `str.lower` and
`int(str)`. Whitespace and decimal digits are Unicode's, by their code points;
case mapping is spelled out where a result can be an ASCII character, which is
all the address and slug patterns ask of it. -/
namespace RaceLink.Python

/-- `str.isspace` on one character. -/
def isSpace (c : Char) : Bool :=
  let n := c.toNat
  (9 ≤ n && n ≤ 13) || (28 ≤ n && n ≤ 32) || n == 133 || n == 160 || n == 5760 ||
    (8192 ≤ n && n ≤ 8202) || n == 8232 || n == 8233 || n == 8239 || n == 8287 || n == 12288

def stripChars (cs : List Char) : List Char :=
  ((cs.dropWhile isSpace).reverse.dropWhile isSpace).reverse

/-- `str.strip()`. -/
def strip (s : String) : String := String.ofList (stripChars s.toList)

/-- One character upper-cased. Outside ASCII only U+FB00 (`ff`) has an uppercase
made of hex digits; the other characters stay, and no pattern accepts them. -/
def upperChar (c : Char) : List Char :=
  if 'a' ≤ c ∧ c ≤ 'z' then [Char.ofNat (c.toNat - 32)]
  else if c.toNat = 0xFB00 then ['F', 'F']
  else [c]

/-- `str.upper()`. -/
def upper (s : String) : String := String.ofList (s.toList.flatMap upperChar)

/-- One character lower-cased. Outside ASCII only U+0130 and U+212A have an
ASCII letter in their lowercase. -/
def lowerChar (c : Char) : List Char :=
  if 'A' ≤ c ∧ c ≤ 'Z' then [Char.ofNat (c.toNat + 32)]
  else if c.toNat = 0x130 then ['i', Char.ofNat 0x307]
  else if c.toNat = 0x212A then ['k']
  else [c]

/-- `str.lower()`. -/
def lower (s : String) : String := String.ofList (s.toList.flatMap lowerChar)

/-- The zeros of Unicode's decimal digits (category Nd); each starts ten digits. -/
def digitZeros : List Nat :=
  [48, 1632, 1776, 1984, 2406, 2534, 2662, 2790, 2918, 3046, 3174, 3302, 3430, 3558, 3664, 3792,
    3872, 4160, 4240, 6112, 6160, 6470, 6608, 6784, 6800, 6992, 7088, 7232, 7248, 42528, 43216,
    43264, 43472, 43504, 43600, 44016, 65296, 66720, 68912, 69734, 69872, 69942, 70096, 70384,
    70736, 70864, 71248, 71360, 71472, 71904, 72016, 72784, 73040, 73120, 92768, 92864, 93008,
    120782, 120792, 120802, 120812, 120822, 123200, 123632, 125264, 130032]

def digitValue (c : Char) : Option Nat :=
  (digitZeros.find? fun z => z ≤ c.toNat && c.toNat < z + 10).map (c.toNat - ·)

/-- The digits after the first: each may be preceded by one underscore. -/
def digitsFrom : Nat → List Char → Option Nat
  | value, [] => some value
  | value, '_' :: c :: rest => (digitValue c).bind fun d => digitsFrom (value * 10 + d) rest
  | value, c :: rest => (digitValue c).bind fun d => digitsFrom (value * 10 + d) rest

def natOfChars : List Char → Option Nat
  | [] => none
  | c :: rest => (digitValue c).bind fun d => digitsFrom d rest

/-- How many digits `int` reads from a string at most. -/
def intMaxStrDigits : Nat := 4300

/-- A blank for `int`. U+001C to U+001F, which `str.strip` takes off, are none. -/
def isBlank (c : Char) : Bool := isSpace c && !(28 ≤ c.toNat && c.toNat ≤ 31)

/-- `int(s)` for a string: blanks around, a sign, decimal digits. -/
def intOfStr (s : String) : Option Int :=
  let cs := Library.trimBy isBlank s.toList
  if intMaxStrDigits < (cs.filter fun c => (digitValue c).isSome).length then none
  else match cs with
    | '-' :: rest => (natOfChars rest).map fun n => -(n : Int)
    | '+' :: rest => (natOfChars rest).map Int.ofNat
    | rest => (natOfChars rest).map Int.ofNat

/-- A string nothing has to be stripped from, as a character list. -/
def Trimmed (cs : List Char) : Prop :=
  (∀ c ∈ cs.head?, isSpace c = false) ∧ ∀ c ∈ cs.getLast?, isSpace c = false

theorem stripChars_of_trimmed {cs : List Char} (h : Trimmed cs) : stripChars cs = cs :=
  Library.trimBy_of_trimmed h

theorem strip_of_no_space {s : String} (h : ∀ c ∈ s.toList, isSpace c = false) : strip s = s := by
  have htrim : Trimmed s.toList :=
    ⟨fun c hc => h c (List.mem_of_mem_head? hc), fun c hc => h c (List.mem_of_mem_getLast? hc)⟩
  unfold strip
  rw [stripChars_of_trimmed htrim, String.ofList_toList]

/-- What is left after stripping needs no more of it. -/
theorem stripChars_trimmed (cs : List Char) : Trimmed (stripChars cs) := Library.trimBy_trimmed isSpace cs

theorem strip_strip (s : String) : strip (strip s) = strip s := by
  unfold strip
  rw [String.toList_ofList, stripChars_of_trimmed (stripChars_trimmed s.toList)]

/-- A string `upper` leaves alone character by character. -/
theorem upper_of_fixed {s : String} (h : ∀ c ∈ s.toList, upperChar c = [c]) : upper s = s := by
  have hflat : ∀ cs : List Char, (∀ c ∈ cs, upperChar c = [c]) → cs.flatMap upperChar = cs := by
    intro cs hcs
    induction cs with
    | nil => rfl
    | cons c rest ih =>
      rw [List.flatMap_cons, hcs c (List.mem_cons_self ..),
        ih fun d hd => hcs d (List.mem_cons_of_mem _ hd)]
      rfl
  unfold upper
  rw [hflat s.toList h, String.ofList_toList]

end RaceLink.Python
