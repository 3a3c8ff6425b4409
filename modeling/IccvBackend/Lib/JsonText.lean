/-
Module: IccvBackend.Lib.JsonText
Purpose: JSON values, the text a language writes for them without spaces, and the value it reads
  from a text.
Trusted boundary: none
Main exports: JsonValue, Numerals, JsonValue.stringify, JsonValue.parse, JsonValue.parse_stringify
-/
import Mathlib.Data.Char
import Mathlib.Data.List.Basic
import Mathlib.Data.List.Nodup

namespace IccvBackend.Lib

/-!
Numbers are a parameter: the type of the numbers of the language, the numeral it writes for each and
the number it reads from a numeral.  An object is the list of its members in the order the language
enumerates them; reading a name twice keeps the last value.
-/

inductive JsonValue (ν : Type) where
  | null
  | bool (b : Bool)
  | num (n : ν)
  | str (s : String)
  | arr (items : List (JsonValue ν))
  | obj (members : List (String × JsonValue ν))

/-- The characters of numerals. -/
def isNumeral (c : Char) : Bool := c.isDigit || c ∈ ['-', '+', '.', 'e', 'E']

/-- The numerals of a language. -/
structure Numerals (ν : Type) where
  text : ν → List Char
  read : List Char → Option ν
  starts : ∀ n, ∃ c cs, text n = c :: cs ∧ (c = '-' ∨ c.isDigit = true)
  numeral : ∀ n, ∀ c ∈ text n, isNumeral c = true
  read_text : ∀ n, read (text n) = some n

/-- Natural numbers in decimal digits. -/
def Numerals.nat : Numerals Nat where
  text n := Nat.toDigits 10 n
  read cs := some (Nat.ofDigitChars 10 cs 0)
  starts n := by
    obtain ⟨c, cs, digits⟩ := List.exists_cons_of_ne_nil (Nat.toDigits_ne_nil (n := n) (b := 10))
    have digit : c.isDigit = true :=
      Nat.isDigit_of_mem_toDigits (by decide) (by decide) (digits ▸ List.mem_cons_self)
    exact ⟨c, cs, digits, .inr digit⟩
  numeral n c mem := by
    have digit : c.isDigit = true := Nat.isDigit_of_mem_toDigits (by decide) (by decide) mem
    simp [isNumeral, digit]
  read_text _ := congrArg some Nat.ofDigitChars_ten_toDigits

namespace JsonValue

variable {ν : Type}

/-! ### Strings -/

def hexDigit (n : Nat) : Char := "0123456789abcdef".toList.getD n '0'

def hexValue (c : Char) : Option Nat :=
  if c.isDigit then some (c.toNat - 48)
  else if 'a' ≤ c ∧ c ≤ 'f' then some (c.toNat - 87)
  else if 'A' ≤ c ∧ c ≤ 'F' then some (c.toNat - 55)
  else none

/-- The escapes of one letter. -/
def shortEscapes : List (Char × Char) :=
  [('"', '"'), ('\\', '\\'), ('b', '\x08'), ('t', '\t'), ('n', '\n'), ('f', '\x0c'), ('r', '\r')]

def escape (c : Char) : List Char :=
  match shortEscapes.find? fun pair => pair.2 = c with
  | some pair => ['\\', pair.1]
  | none =>
      if c.toNat < 32 then ['\\', 'u', '0', '0', hexDigit (c.toNat / 16), hexDigit (c.toNat % 16)]
      else [c]

/-- Four hexadecimal digits. -/
def readUnit : List Char → Option (Nat × List Char)
  | a :: b :: c :: d :: rest => do
      let a ← hexValue a
      let b ← hexValue b
      let c ← hexValue c
      let d ← hexValue d
      some (4096 * a + 256 * b + 16 * c + d, rest)
  | _ => none

/-- What follows `\u`.  Two surrogates are one character; one alone is no text. -/
def readUnicode (cs : List Char) : Option (Char × List Char) := do
  let (unit, rest) ← readUnit cs
  if 0xD800 ≤ unit ∧ unit < 0xDC00 then
    match rest with
    | '\\' :: 'u' :: rest => do
        let (low, rest) ← readUnit rest
        if 0xDC00 ≤ low ∧ low < 0xE000 then
          some (Char.ofNat (0x10000 + (unit - 0xD800) * 0x400 + (low - 0xDC00)), rest)
        else none
    | _ => none
  else if 0xDC00 ≤ unit ∧ unit < 0xE000 then none
  else some (Char.ofNat unit, rest)

/-- One character of a string. -/
def readChar (c : Char) (rest : List Char) : Option (Char × List Char) :=
  if c = '\\' then
    match rest with
    | [] => none
    | letter :: rest =>
        if letter = 'u' then readUnicode rest
        else if letter = '/' then some ('/', rest)
        else (shortEscapes.find? fun pair => pair.1 = letter).map fun pair => (pair.2, rest)
  else if c.toNat < 32 then none
  else some (c, rest)

/-- The characters of a string up to its closing quote. -/
def readChars : Nat → List Char → Option (List Char × List Char)
  | 0, _ => none
  | _, [] => none
  | fuel + 1, c :: rest =>
      if c = '"' then some ([], rest)
      else do
        let (c, rest) ← readChar c rest
        let (cs, rest) ← readChars fuel rest
        some (c :: cs, rest)

/-- A string after its opening quote. -/
def readString (cs : List Char) : Option (String × List Char) :=
  (readChars cs.length cs).map fun (cs, rest) => (String.ofList cs, rest)

/-- A string up to its closing quote. -/
def quoted (s : String) : List Char := s.toList.flatMap escape ++ ['"']

/-! ### Values -/

section Text

variable (numerals : Numerals ν)

mutual

/-- The text of a value. -/
def stringify : JsonValue ν → List Char
  | .null => ['n', 'u', 'l', 'l']
  | .bool true => ['t', 'r', 'u', 'e']
  | .bool false => ['f', 'a', 'l', 's', 'e']
  | .num n => numerals.text n
  | .str s => '"' :: quoted s
  | .arr items => '[' :: stringifyItems items
  | .obj members => '{' :: stringifyMembers members

/-- The items of an array, up to its end. -/
def stringifyItems : List (JsonValue ν) → List Char
  | [] => [']']
  | item :: items =>
      stringify item ++ (if items.isEmpty then [']'] else ',' :: stringifyItems items)

/-- The members of an object, up to its end. -/
def stringifyMembers : List (String × JsonValue ν) → List Char
  | [] => ['}']
  | (name, value) :: members =>
      '"' :: quoted name ++ ':' :: (stringify value ++
        (if members.isEmpty then ['}'] else ',' :: stringifyMembers members))

end

def isSpace (c : Char) : Bool := c ∈ [' ', '\t', '\n', '\r']

def skipSpaces (cs : List Char) : List Char := cs.dropWhile isSpace

/-- A word, whose first letter was read. -/
def readWord (word : List Char) (value : JsonValue ν) (cs : List Char) :
    Option (JsonValue ν × List Char) :=
  if word.isPrefixOf cs then some (value, cs.drop word.length) else none

def readNumber (cs : List Char) : Option (JsonValue ν × List Char) :=
  (numerals.read (cs.takeWhile isNumeral)).map fun n => (.num n, cs.dropWhile isNumeral)

/-- A member read into an object. -/
def putMember (members : List (String × JsonValue ν)) (member : String × JsonValue ν) :
    List (String × JsonValue ν) :=
  if members.any fun other => other.1 = member.1 then
    members.map fun other => if other.1 = member.1 then member else other
  else members ++ [member]

mutual

/-- A value at the start of a text, and what follows it. -/
def readValue : Nat → List Char → Option (JsonValue ν × List Char)
  | 0, _ => none
  | fuel + 1, cs =>
      match skipSpaces cs with
      | [] => none
      | c :: rest =>
          if c = '"' then (readString rest).map fun (s, rest) => (.str s, rest)
          else if c = '[' then
            if (skipSpaces rest).head? = some ']' then some (.arr [], (skipSpaces rest).tail)
            else (readItems fuel rest).map fun (items, rest) => (.arr items, rest)
          else if c = '{' then
            if (skipSpaces rest).head? = some '}' then some (.obj [], (skipSpaces rest).tail)
            else (readMembers fuel rest).map fun (members, rest) =>
              (.obj (members.foldl putMember []), rest)
          else if c = 'n' then readWord ['u', 'l', 'l'] .null rest
          else if c = 't' then readWord ['r', 'u', 'e'] (.bool true) rest
          else if c = 'f' then readWord ['a', 'l', 's', 'e'] (.bool false) rest
          else readNumber numerals (c :: rest)

/-- At least one item. -/
def readItems : Nat → List Char → Option (List (JsonValue ν) × List Char)
  | 0, _ => none
  | fuel + 1, cs => do
      let (item, rest) ← readValue fuel cs
      match skipSpaces rest with
      | [] => none
      | c :: rest =>
          if c = ',' then (readItems fuel rest).map fun (items, rest) => (item :: items, rest)
          else if c = ']' then some ([item], rest)
          else none

/-- At least one member. -/
def readMembers : Nat → List Char → Option (List (String × JsonValue ν) × List Char)
  | 0, _ => none
  | fuel + 1, cs =>
      match skipSpaces cs with
      | [] => none
      | c :: rest =>
          if c = '"' then do
            let (name, rest) ← readString rest
            match skipSpaces rest with
            | [] => none
            | c :: rest =>
                if c = ':' then do
                  let (value, rest) ← readValue fuel rest
                  match skipSpaces rest with
                  | [] => none
                  | c :: rest =>
                      if c = ',' then
                        (readMembers fuel rest).map fun (members, rest) =>
                          ((name, value) :: members, rest)
                      else if c = '}' then some ([(name, value)], rest)
                      else none
                else none
          else none

end

/-- The value of a whole text. -/
def parse (text : List Char) : Option (JsonValue ν) := do
  let (value, rest) ← readValue numerals text.length text
  if skipSpaces rest = [] then some value else none

end Text

/-! ### Strings read back -/

theorem hexValue_hexDigit : ∀ n < 16, hexValue (hexDigit n) = some n := by decide

theorem shortEscapes_find : ∀ pair ∈ shortEscapes, pair.1 ≠ 'u' ∧ pair.1 ≠ '/' ∧
    (shortEscapes.find? fun other => other.1 = pair.1) = some pair := by decide

theorem readUnicode_control {n : Nat} (small : n < 32) (rest : List Char) :
    readUnicode ('0' :: '0' :: hexDigit (n / 16) :: hexDigit (n % 16) :: rest) =
      some (Char.ofNat n, rest) := by
  have zero : hexValue '0' = some 0 := by decide
  have high := hexValue_hexDigit (n / 16) (by omega)
  have low := hexValue_hexDigit (n % 16) (by omega)
  have whole : 4096 * 0 + 256 * 0 + 16 * (n / 16) + n % 16 = n := by omega
  have unit : readUnit ('0' :: '0' :: hexDigit (n / 16) :: hexDigit (n % 16) :: rest) =
      some (n, rest) := by
    simp only [readUnit, zero, high, low, Option.bind_eq_bind, Option.bind_some, whole]
  have no_high : ¬ (0xD800 ≤ n ∧ n < 0xDC00) := by omega
  have no_low : ¬ (0xDC00 ≤ n ∧ n < 0xE000) := by omega
  simp only [readUnicode, unit, Option.bind_eq_bind, Option.bind_some, if_neg no_high,
    if_neg no_low]

/-- An escaped character reads back, and does not look like the end of the string. -/
theorem readChar_escape (c : Char) (rest : List Char) :
    ∃ first more, escape c ++ rest = first :: more ∧ first ≠ '"' ∧
      readChar first more = some (c, rest) := by
  unfold escape
  cases found : shortEscapes.find? fun pair => pair.2 = c with
  | some pair =>
      have mem := List.mem_of_find?_eq_some found
      have named := List.find?_some found
      obtain ⟨not_u, not_slash, letter⟩ := shortEscapes_find pair mem
      refine ⟨'\\', pair.1 :: rest, rfl, by decide, ?_⟩
      simp only [readChar, if_true, if_neg not_u, if_neg not_slash, letter, Option.map_some,
        of_decide_eq_true named]
  | none =>
      have absent := List.find?_eq_none.mp found
      have not_quote : c ≠ '"' := fun same => absent ('"', '"') (by decide) (by simp [same])
      have not_slash : c ≠ '\\' := fun same => absent ('\\', '\\') (by decide) (by simp [same])
      by_cases small : c.toNat < 32
      · rw [if_pos small]
        refine ⟨'\\', _, rfl, by decide, ?_⟩
        simp only [readChar, if_true, List.append_eq, List.nil_append, List.cons_append,
          readUnicode_control small rest, Char.ofNat_toNat]
      · rw [if_neg small]
        refine ⟨c, rest, rfl, not_quote, ?_⟩
        simp only [readChar, if_neg not_slash, if_neg small]

theorem readChars_escaped (cs rest : List Char) {fuel : Nat} (enough : cs.length < fuel) :
    readChars fuel (cs.flatMap escape ++ '"' :: rest) = some (cs, rest) := by
  induction cs generalizing fuel with
  | nil =>
      obtain ⟨fuel, rfl⟩ := Nat.exists_eq_succ_of_ne_zero (Nat.ne_of_gt enough)
      simp [readChars]
  | cons c cs ih =>
      obtain ⟨fuel, rfl⟩ := Nat.exists_eq_succ_of_ne_zero (Nat.ne_of_gt (Nat.zero_lt_of_lt enough))
      have enough : cs.length < fuel := Nat.lt_of_succ_lt_succ enough
      obtain ⟨first, more, split, not_quote, read⟩ :=
        readChar_escape c (cs.flatMap escape ++ '"' :: rest)
      rw [List.flatMap_cons, List.append_assoc, split, readChars, if_neg not_quote]
      simp only [read, ih enough, Option.bind_eq_bind, Option.bind_some]

theorem length_le_escaped (cs : List Char) : cs.length ≤ (cs.flatMap escape).length := by
  induction cs with
  | nil => exact le_refl _
  | cons c cs ih =>
      obtain ⟨first, more, split, _⟩ := readChar_escape c []
      rw [List.append_nil] at split
      rw [List.flatMap_cons, List.length_append, split, List.length_cons, List.length_cons]
      omega

theorem readString_quoted (s : String) (rest : List Char) :
    readString (quoted s ++ rest) = some (s, rest) := by
  unfold readString quoted
  rw [List.append_assoc, List.singleton_append]
  have enough := length_le_escaped s.toList
  rw [readChars_escaped s.toList rest (by rw [List.length_append, List.length_cons]; omega)]
  simp only [Option.map_some, String.ofList_toList]

/-! ### Values read back -/

/-- The names of every object are distinct. -/
inductive WellFormed : JsonValue ν → Prop where
  | null : WellFormed .null
  | bool (b) : WellFormed (.bool b)
  | num (n) : WellFormed (.num n)
  | str (s) : WellFormed (.str s)
  | arr {items} (all : ∀ item ∈ items, WellFormed item) : WellFormed (.arr items)
  | obj {members} (names : (members.map Prod.fst).Nodup)
      (all : ∀ member ∈ members, WellFormed member.2) : WellFormed (.obj members)

mutual

/-- The same as a test. -/
def wellFormed : JsonValue ν → Bool
  | .arr items => wellFormedItems items
  | .obj members => decide (members.map Prod.fst).Nodup && wellFormedMembers members
  | _ => true

def wellFormedItems : List (JsonValue ν) → Bool
  | [] => true
  | item :: items => wellFormed item && wellFormedItems items

def wellFormedMembers : List (String × JsonValue ν) → Bool
  | [] => true
  | member :: members => wellFormed member.2 && wellFormedMembers members

end

mutual

theorem wellFormed_of_test : ∀ {v : JsonValue ν}, wellFormed v = true → WellFormed v
  | .null, _ => .null
  | .bool b, _ => .bool b
  | .num n, _ => .num n
  | .str s, _ => .str s
  | .arr _, ok => .arr (wellFormedItems_of_test (by simpa [wellFormed] using ok))
  | .obj _, ok => by
      rw [wellFormed, Bool.and_eq_true, decide_eq_true_eq] at ok
      exact .obj ok.1 (wellFormedMembers_of_test ok.2)

theorem wellFormedItems_of_test : ∀ {items : List (JsonValue ν)},
    wellFormedItems items = true → ∀ item ∈ items, WellFormed item
  | [], _ => nofun
  | item :: items, ok => by
      rw [wellFormedItems, Bool.and_eq_true] at ok
      exact List.forall_mem_cons.mpr ⟨wellFormed_of_test ok.1, wellFormedItems_of_test ok.2⟩

theorem wellFormedMembers_of_test : ∀ {members : List (String × JsonValue ν)},
    wellFormedMembers members = true → ∀ member ∈ members, WellFormed member.2
  | [], _ => nofun
  | member :: members, ok => by
      rw [wellFormedMembers, Bool.and_eq_true] at ok
      exact List.forall_mem_cons.mpr ⟨wellFormed_of_test ok.1, wellFormedMembers_of_test ok.2⟩

end

section ReadBack

variable {numerals : Numerals ν}

theorem foldl_putMember {read members : List (String × JsonValue ν)}
    (names : ((read ++ members).map Prod.fst).Nodup) :
    members.foldl putMember read = read ++ members := by
  induction members generalizing read with
  | nil => exact (List.append_nil read).symm
  | cons member members ih =>
      have fresh : (read.any fun other => other.1 = member.1) = false := by
        rw [List.any_eq_false]
        intro other mem same
        rw [List.map_append, List.nodup_append] at names
        exact names.2.2 other.1 (List.mem_map_of_mem mem) member.1
          (List.mem_map_of_mem List.mem_cons_self) (of_decide_eq_true same)
      have put : putMember read member = read ++ [member] := by
        simp only [putMember, fresh, Bool.false_eq_true, if_false]
      rw [List.foldl_cons, put, ih (by rwa [List.append_assoc]), List.append_assoc]
      rfl

/-- What may follow a value: not more of a numeral. -/
def Ends (rest : List Char) : Prop := ∀ c ∈ rest.head?, isNumeral c = false

variable (numerals) in
theorem takeWhile_numeral (n : ν) {rest : List Char} (ends : Ends rest) :
    (numerals.text n ++ rest).takeWhile isNumeral = numerals.text n ∧
      (numerals.text n ++ rest).dropWhile isNumeral = rest := by
  have all := numerals.numeral n
  have stop : rest.takeWhile isNumeral = [] ∧ rest.dropWhile isNumeral = rest := by
    cases rest with
    | nil => exact ⟨rfl, rfl⟩
    | cons c rest =>
        have no := ends c rfl
        simp [no]
  constructor
  · rw [List.takeWhile_append_of_pos all, stop.1, List.append_nil]
  · rw [List.dropWhile_append_of_pos all, stop.2]

theorem ne_of_startsNumeral {c : Char} (starts : c = '-' ∨ c.isDigit = true) :
    ∀ d ∈ ['"', '[', '{', 'n', 't', 'f', ']', '}', ' ', '\t', '\n', '\r'], c ≠ d := by
  intro d mem same
  subst same
  have none_starts : ['"', '[', '{', 'n', 't', 'f', ']', '}', ' ', '\t', '\n', '\r'].all
      (fun d => !(d = '-' || d.isDigit)) = true := by decide
  have not_start := List.all_eq_true.mp none_starts c mem
  rcases starts with rfl | digit
  · cases not_start
  · rw [digit, Bool.or_true] at not_start
    cases not_start

variable (numerals) in
/-- The text of a value starts with itself: with no space, and no end of a list. -/
theorem stringify_starts (v : JsonValue ν) :
    ∃ c cs, stringify numerals v = c :: cs ∧ isSpace c = false ∧ c ≠ ']' ∧ c ≠ '}' := by
  cases v with
  | num n =>
      obtain ⟨c, cs, text, starts⟩ := numerals.starts n
      have apart := ne_of_startsNumeral starts
      refine ⟨c, cs, by rw [stringify, text], ?_, apart _ (by decide), apart _ (by decide)⟩
      simp only [isSpace, List.mem_cons, List.not_mem_nil, or_false, decide_eq_false_iff_not,
        not_or]
      exact ⟨apart _ (by decide), apart _ (by decide), apart _ (by decide), apart _ (by decide)⟩
  | bool b => cases b <;> exact ⟨_, _, rfl, by decide, by decide, by decide⟩
  | null => exact ⟨_, _, rfl, by decide, by decide, by decide⟩
  | str s => exact ⟨_, _, rfl, by decide, by decide, by decide⟩
  | arr items => exact ⟨_, _, rfl, by decide, by decide, by decide⟩
  | obj members => exact ⟨_, _, rfl, by decide, by decide, by decide⟩

theorem skipSpaces_cons {c : Char} (no : isSpace c = false) (rest : List Char) :
    skipSpaces (c :: rest) = c :: rest := by
  simp [skipSpaces, no]

theorem ends_of_head {c : Char} (no : isNumeral c = false) (rest : List Char) :
    Ends (c :: rest) := by
  rintro d mem
  rw [← Option.some.inj mem]
  exact no

section Step

variable (numerals) (fuel : Nat)

/-- The three readers undo the writers, within their fuel. -/
def ReadsValue : Prop :=
  ∀ (v : JsonValue ν) (rest : List Char), WellFormed v → Ends rest →
    (stringify numerals v).length ≤ fuel →
      readValue numerals fuel (stringify numerals v ++ rest) = some (v, rest)

def ReadsItems : Prop :=
  ∀ (item : JsonValue ν) (items : List (JsonValue ν)) (rest : List Char),
    (∀ i ∈ item :: items, WellFormed i) →
    (stringifyItems numerals (item :: items)).length ≤ fuel →
      readItems numerals fuel (stringifyItems numerals (item :: items) ++ rest) =
        some (item :: items, rest)

def ReadsMembers : Prop :=
  ∀ (member : String × JsonValue ν) (members : List (String × JsonValue ν)) (rest : List Char),
    (∀ m ∈ member :: members, WellFormed m.2) →
    (stringifyMembers numerals (member :: members)).length ≤ fuel →
      readMembers numerals fuel (stringifyMembers numerals (member :: members) ++ rest) =
        some (member :: members, rest)

variable {numerals} {fuel}

theorem readsValue_succ (ofItems : ReadsItems numerals fuel)
    (ofMembers : ReadsMembers numerals fuel) :
    ReadsValue numerals (fuel + 1) := by
  intro v rest ok ends enough
  cases v with
  | null => rfl
  | bool b => cases b <;> rfl
  | str s =>
      have read := readString_quoted s rest
      simp [stringify, readValue, skipSpaces_cons (c := '"') (by decide), read]
  | num n =>
      obtain ⟨c, cs, text, starts⟩ := numerals.starts n
      have apart := ne_of_startsNumeral starts
      obtain ⟨c', cs', text', no_space, _⟩ := stringify_starts numerals (.num n)
      rw [stringify, text] at text'
      cases text'
      obtain ⟨taken, dropped⟩ := takeWhile_numeral numerals n ends
      rw [stringify, text, List.cons_append, readValue]
      simp only [skipSpaces_cons no_space, if_neg (apart '"' (by decide)),
        if_neg (apart '[' (by decide)), if_neg (apart '{' (by decide)),
        if_neg (apart 'n' (by decide)), if_neg (apart 't' (by decide)),
        if_neg (apart 'f' (by decide)), readNumber]
      rw [← List.cons_append, ← text, taken, dropped, numerals.read_text]
      rfl
  | arr items =>
      cases items with
      | nil => rfl
      | cons item items =>
          cases ok with
          | arr all =>
              obtain ⟨c, cs, text, no_space, no_end, _⟩ :=
                stringify_starts numerals item
              rw [stringify, List.length_cons] at enough
              have read := ofItems item items rest all (by omega)
              rw [stringify, List.cons_append, readValue]
              have head : (skipSpaces (stringifyItems numerals (item :: items) ++ rest)).head? =
                  some c := by
                rw [stringifyItems, text, List.cons_append, List.cons_append,
                  skipSpaces_cons no_space, List.head?_cons]
              simp [skipSpaces_cons (c := '[') (by decide), head, no_end, read]
  | obj members =>
      cases members with
      | nil => rfl
      | cons member members =>
          cases ok with
          | obj names all =>
              rw [stringify, List.length_cons] at enough
              have read := ofMembers member members rest all (by omega)
              rw [stringify, List.cons_append, readValue]
              have head :
                  (skipSpaces (stringifyMembers numerals (member :: members) ++ rest)).head? =
                    some '"' := by
                rw [stringifyMembers, List.append_assoc, List.cons_append,
                  skipSpaces_cons (by decide), List.head?_cons]
              have same : (member :: members).foldl putMember [] = member :: members :=
                foldl_putMember names
              simp [skipSpaces_cons (c := '{') (by decide), head, read, same]

theorem readsItems_succ (ofValue : ReadsValue numerals fuel) (ofItems : ReadsItems numerals fuel) :
    ReadsItems numerals (fuel + 1) := by
  intro item items rest ok enough
  obtain ⟨c, cs, text, _⟩ := stringify_starts numerals item
  have positive : 0 < (stringify numerals item).length := by simp [text]
  have ok_item := ok item List.mem_cons_self
  rw [stringifyItems, List.length_append] at enough
  rw [stringifyItems, List.append_assoc, readItems]
  cases items with
  | nil =>
      have read := ofValue item (']' :: rest) ok_item (ends_of_head (by decide) _)
        (by simp at enough; omega)
      simp [read, skipSpaces_cons (c := ']') (by decide)]
  | cons next items =>
      simp only [List.isEmpty_cons, Bool.false_eq_true, if_false, List.length_cons] at enough ⊢
      have read := ofValue item (',' :: (stringifyItems numerals (next :: items) ++ rest)) ok_item
        (ends_of_head (by decide) _) (by omega)
      have later := ofItems next items rest
        (fun i mem => ok i (List.mem_cons_of_mem _ mem)) (by omega)
      simp [read, later, skipSpaces_cons (c := ',') (by decide)]

theorem readsMembers_succ (ofValue : ReadsValue numerals fuel)
    (ofMembers : ReadsMembers numerals fuel) : ReadsMembers numerals (fuel + 1) := by
  intro member members rest ok enough
  obtain ⟨name, value⟩ := member
  have ok_value := ok (name, value) List.mem_cons_self
  rw [stringifyMembers, List.length_append, List.length_cons, List.length_cons,
    List.length_append] at enough
  rw [stringifyMembers, List.append_assoc, List.cons_append, List.cons_append, List.append_assoc,
    readMembers]
  have named := readString_quoted name
  cases members with
  | nil =>
      have read := ofValue value ('}' :: rest) ok_value (ends_of_head (by decide) _)
        (by simp at enough; omega)
      simp [named, read, skipSpaces_cons (c := '"') (by decide),
        skipSpaces_cons (c := ':') (by decide), skipSpaces_cons (c := '}') (by decide)]
  | cons next members =>
      simp only [List.isEmpty_cons, Bool.false_eq_true, if_false, List.length_cons] at enough ⊢
      have read := ofValue value (',' :: (stringifyMembers numerals (next :: members) ++ rest))
        ok_value (ends_of_head (by decide) _) (by omega)
      have later := ofMembers next members rest
        (fun m mem => ok m (List.mem_cons_of_mem _ mem)) (by omega)
      simp [named, read, later, skipSpaces_cons (c := '"') (by decide),
        skipSpaces_cons (c := ':') (by decide), skipSpaces_cons (c := ',') (by decide)]

theorem readers (numerals : Numerals ν) (fuel : Nat) :
    ReadsValue numerals fuel ∧ ReadsItems numerals fuel ∧ ReadsMembers numerals fuel := by
  induction fuel with
  | zero =>
      refine ⟨?_, ?_, ?_⟩
      · intro v rest _ _ enough
        obtain ⟨c, cs, text, _⟩ := stringify_starts numerals v
        simp [text] at enough
      · intro item items rest _ enough
        obtain ⟨c, cs, text, _⟩ := stringify_starts numerals item
        simp [stringifyItems, text] at enough
      · intro member members rest _ enough
        simp [stringifyMembers] at enough
  | succ fuel ih =>
      obtain ⟨ofValue, ofItems, ofMembers⟩ := ih
      exact ⟨readsValue_succ ofItems ofMembers, readsItems_succ ofValue ofItems,
        readsMembers_succ ofValue ofMembers⟩

end Step

/-- A value is read back from its text. -/
theorem parse_stringify (numerals : Numerals ν) {v : JsonValue ν} (ok : WellFormed v) :
    parse numerals (stringify numerals v) = some v := by
  have ends : Ends [] := fun c mem => by cases mem
  have read := (readers numerals (stringify numerals v).length).1 v [] ok ends (le_refl _)
  rw [List.append_nil] at read
  unfold parse
  rw [read]
  rfl

end ReadBack

end JsonValue

end IccvBackend.Lib
