import Mathlib.Data.List.Lex
import Mathlib.Data.List.Sort
import Mathlib.Data.Rat.Defs
import SanBridge.Library.BigEndian
import SanBridge.Library.Checked

namespace SanBridge.Tooling.Runtime

open Library.Checked

/-- The message of the error thrown. -/
abbrev Result := Except String

/-- A double. Both zeros are one number: nothing in the scripts tells them apart. -/
inductive JsNumber
  | finite (q : ℚ)
  | infinite (negative : Bool)
  | nan
  deriving DecidableEq

/-- `Number.isSafeInteger(x) && x >= 0` -/
def JsNumber.isSafeNatural : JsNumber → Bool
  | .finite q => q.den = 1 ∧ 0 ≤ q.num ∧ q.num ≤ 2 ^ 53 - 1
  | _ => false

/-- `x === y` of two numbers -/
def JsNumber.strictEqual : JsNumber → JsNumber → Bool
  | .nan, _ => false
  | x, y => x = y

/-- What `JSON.parse` returns. An object lists its own keys in their order. -/
inductive Json
  | null
  | bool (b : Bool)
  | num (x : JsNumber)
  | str (s : String)
  | arr (items : List Json)
  | obj (fields : List (String × Json))

mutual

def Json.KeysDistinct : Json → Prop
  | .arr items => KeysDistinctItems items
  | .obj fields => (fields.map Prod.fst).Nodup ∧ KeysDistinctFields fields
  | _ => True

def KeysDistinctItems : List Json → Prop
  | [] => True
  | v :: vs => v.KeysDistinct ∧ KeysDistinctItems vs

def KeysDistinctFields : List (String × Json) → Prop
  | [] => True
  | (_, v) :: fs => v.KeysDistinct ∧ KeysDistinctFields fs

end

attribute [simp] Json.KeysDistinct KeysDistinctItems KeysDistinctFields

mutual

def Json.Finite : Json → Prop
  | .num x => ∃ q, x = .finite q
  | .arr items => FiniteItems items
  | .obj fields => FiniteFields fields
  | _ => True

def FiniteItems : List Json → Prop
  | [] => True
  | v :: vs => v.Finite ∧ FiniteItems vs

def FiniteFields : List (String × Json) → Prop
  | [] => True
  | (_, v) :: fs => v.Finite ∧ FiniteFields fs

end

attribute [simp] Json.Finite FiniteItems FiniteFields

/-- Any value a script reads; `none` is `undefined`. -/
abbrev Value := Option Json

/-- What the scripts take from the host: its JSON reader, the way it prints a
finite number, its collation, its case tables, and SHA-256. -/
structure Host where
  jsonParse : String → Option Json
  numberToString : ℚ → String
  localeLe : String → String → Bool
  toLowerCase : String → String
  toUpperCase : String → String
  sha256 : String → Vector UInt8 32
  jsonParse_keys : ∀ contents v, jsonParse contents = some v → v.KeysDistinct
  localeLe_total : ∀ a b, localeLe a b = true ∨ localeLe b a = true
  localeLe_trans : ∀ a b c, localeLe a b = true → localeLe b c = true → localeLe a c = true
  toLowerCase_ascii : ∀ s, (∀ c ∈ s.toList, c.toNat < 128) →
    toLowerCase s = String.ofList (s.toList.map Char.toLower)
  toUpperCase_ascii : ∀ s, (∀ c ∈ s.toList, c.toNat < 128) →
    toUpperCase s = String.ofList (s.toList.map Char.toUpper)

/-- An exception of the engine itself; which one is not kept. -/
def typeError : String := "TypeError"

section Strings

/-- The UTF-16 code units of a string, which `sort` compares and `length` counts. -/
def codeUnits (s : String) : List Nat :=
  s.toList.flatMap fun c =>
    if c.toNat < 0x10000 then [c.toNat]
    else [0xD800 + (c.toNat - 0x10000) / 0x400, 0xDC00 + (c.toNat - 0x10000) % 0x400]

theorem length_codeUnits {cs : List Char} (h : ∀ c ∈ cs, c.toNat < 0x10000) :
    (codeUnits (String.ofList cs)).length = cs.length := by
  rw [codeUnits, String.toList_ofList]
  induction cs with
  | nil => rfl
  | cons c cs ih =>
    rw [List.flatMap_cons, if_pos (h c List.mem_cons_self), List.length_append, List.length_singleton,
      ih fun c hc => h c (List.mem_cons_of_mem _ hc), List.length_cons, Nat.add_comm]

def sortStrings (xs : List String) : List String :=
  xs.insertionSort fun a b => codeUnits a ≤ codeUnits b

def padStart (s : String) (width : Nat) (fill : Char) : String :=
  String.ofList (List.replicate (width - (codeUnits s).length) fill) ++ s

def startsWith (s start : String) : Bool := start.toList.isPrefixOf s.toList

/-- White space and line terminators, which `trim` removes. -/
def isSpace (c : Char) : Bool :=
  c.toNat ∈ [0x9, 0xA, 0xB, 0xC, 0xD, 0x20, 0xA0, 0x1680, 0x2028, 0x2029, 0x202F, 0x205F, 0x3000, 0xFEFF] ∨
    (0x2000 ≤ c.toNat ∧ c.toNat ≤ 0x200A)

/-- `!s.trim()` -/
def blank (s : String) : Bool := s.toList.all isSpace

def trim (s : List Char) : List Char :=
  ((s.dropWhile isSpace).reverse.dropWhile isSpace).reverse

/-- `/^\d+$/` -/
def isDigits (s : String) : Bool := s.toList ≠ [] ∧ s.toList.all Char.isDigit

def isLowerHex (c : Char) : Bool := c.isDigit ∨ ('a'.toNat ≤ c.toNat ∧ c.toNat ≤ 'f'.toNat)

def isHex (c : Char) : Bool := isLowerHex c ∨ ('A'.toNat ≤ c.toNat ∧ c.toNat ≤ 'F'.toNat)

/-- `/^0x[0-9a-fA-F]{64}$/` -/
def isHash32 (s : String) : Bool :=
  startsWith s "0x" ∧ (s.toList.drop 2).length = 64 ∧ (s.toList.drop 2).all isHex

/-- `/^[0-9a-f]{40}$/` -/
def isCommit (s : String) : Bool := s.toList.length = 40 ∧ s.toList.all isLowerHex

/-- Matching against a template in which `d` stands for any digit. -/
def matchesTemplate : List Char → List Char → Bool
  | [], [] => true
  | t :: ts, c :: cs => (if t = 'd' then c.isDigit else c = t) && matchesTemplate ts cs
  | _, _ => false

/-- `/^\d{4}-\d{2}-\d{2}T\d{2}:\d{2}:\d{2}(?:\.\d{3})?Z$/` -/
def isTimestamp (s : String) : Bool :=
  matchesTemplate "dddd-dd-ddTdd:dd:ddZ".toList s.toList ||
    matchesTemplate "dddd-dd-ddTdd:dd:dd.dddZ".toList s.toList

/-- `/^[1-9A-HJ-NP-Za-km-z]+$/` -/
def isBase58 (s : String) : Bool :=
  s.toList ≠ [] ∧ s.toList.all fun c => c.isAlphanum ∧ c ≠ '0' ∧ c ≠ 'O' ∧ c ≠ 'I' ∧ c ≠ 'l'

def decimalValue (s : String) : Nat := Nat.ofDigitChars 10 s.toList 0

theorem isDigits_toString (n : Nat) : isDigits (toString n) = true := by
  have hne : Nat.toDigits 10 n ≠ [] := Nat.toDigits_ne_nil
  have hall : (Nat.toDigits 10 n).all Char.isDigit = true := by
    rw [List.all_eq_true]
    exact fun c hc => Nat.isDigit_of_mem_toDigits (by decide) (by decide) hc
  rw [isDigits, Nat.toString_eq_repr, Nat.toList_repr]
  exact decide_eq_true ⟨hne, hall⟩

theorem decimalValue_toString (n : Nat) : decimalValue (toString n) = n := by
  rw [decimalValue, Nat.toString_eq_repr, Nat.toList_repr]
  exact Nat.ofDigitChars_ten_toDigits

def digitValue (c : Char) : Nat :=
  if c.isDigit then c.toNat - '0'.toNat
  else if c.isUpper then 10 + (c.toNat - 'A'.toNat)
  else if c.isLower then 10 + (c.toNat - 'a'.toNat)
  else 36

theorem digitValue_digitChar {n : Nat} (h : n < 16) : digitValue (Nat.digitChar n) = n := by
  have hall : ∀ n : Fin 16, digitValue (Nat.digitChar n) = n := by decide
  exact hall ⟨n, h⟩

def radixValue (base : Nat) (digits : List Char) : Option Nat :=
  if digits ≠ [] ∧ digits.all (fun c => digitValue c < base) then
    some (digits.foldl (fun n c => base * n + digitValue c) 0)
  else none

/-- `BigInt` of a string. -/
def stringToBigInt (s : String) : Result Int :=
  if isDigits s then .ok (decimalValue s)
  else ofOption "SyntaxError" <|
    match trim s.toList with
    | [] => some 0
    | '0' :: 'x' :: ds | '0' :: 'X' :: ds => (radixValue 16 ds).map Int.ofNat
    | '0' :: 'o' :: ds | '0' :: 'O' :: ds => (radixValue 8 ds).map Int.ofNat
    | '0' :: 'b' :: ds | '0' :: 'B' :: ds => (radixValue 2 ds).map Int.ofNat
    | '-' :: ds => (radixValue 10 ds).map fun n => -n
    | '+' :: ds => (radixValue 10 ds).map Int.ofNat
    | ds => (radixValue 10 ds).map Int.ofNat

def hexDigest (bytes : List UInt8) : String :=
  String.ofList (bytes.flatMap fun b => [Nat.digitChar (b.toNat / 16), Nat.digitChar (b.toNat % 16)])

def isLowerHash32 (s : String) : Bool :=
  startsWith s "0x" ∧ (s.toList.drop 2).length = 64 ∧ (s.toList.drop 2).all isLowerHex

theorem isLowerHex_toNat {c : Char} (h : isLowerHex c = true) :
    (48 ≤ c.toNat ∧ c.toNat ≤ 57) ∨ (97 ≤ c.toNat ∧ c.toNat ≤ 102) := by
  simp only [isLowerHex, Char.isDigit, Bool.and_eq_true, decide_eq_true_eq] at h
  cases h with
  | inl h =>
    have h1 := UInt32.le_iff_toNat_le.mp h.1
    have h2 := UInt32.le_iff_toNat_le.mp h.2
    exact .inl ⟨h1, h2⟩
  | inr h => exact .inr h

theorem isLowerHex_toLower {c : Char} (h : isLowerHex c = true) : c.toLower = c := by
  have hn := isLowerHex_toNat h
  have hu : ¬ (c.val ≥ 'A'.val ∧ c.val ≤ 'Z'.val) := by
    intro hc
    have h1 := UInt32.le_iff_toNat_le.mp hc.1
    have h2 := UInt32.le_iff_toNat_le.mp hc.2
    change 65 ≤ c.toNat at h1
    change c.toNat ≤ 90 at h2
    omega
  exact dif_neg hu

theorem isHash32_of_lower {s : String} (h : isLowerHash32 s = true) : isHash32 s = true := by
  simp only [isLowerHash32, decide_eq_true_eq, List.all_eq_true] at h
  simp only [isHash32, decide_eq_true_eq, List.all_eq_true]
  exact ⟨h.1, h.2.1, fun c hc => by simp [isHex, h.2.2 c hc]⟩

theorem toList_hex (digits : List Char) : ("0x" ++ String.ofList digits).toList = "0x".toList ++ digits := by
  rw [String.toList_append]
  exact congrArg _ String.toList_ofList

theorem toLowerCase_digits (host : Host) {digits : List Char} (h : ∀ c ∈ digits, isLowerHex c = true) :
    host.toLowerCase ("0x" ++ String.ofList digits) = "0x" ++ String.ofList digits := by
  have hascii : ∀ c ∈ ("0x" ++ String.ofList digits).toList, c.toNat < 128 := by
    intro c hc
    rw [toList_hex, List.mem_append] at hc
    cases hc with
    | inl hc =>
      have hstart : ("0x".toList.all fun c => c.toNat < 128) = true := by decide
      exact of_decide_eq_true (List.all_eq_true.mp hstart c hc)
    | inr hc =>
      have hn := isLowerHex_toNat (h c hc)
      omega
  have hmap : digits.map Char.toLower = digits := by
    conv_rhs => rw [← List.map_id digits]
    exact List.map_congr_left fun c hc => isLowerHex_toLower (h c hc)
  have hstart : "0x".toList.map Char.toLower = "0x".toList := by decide
  rw [host.toLowerCase_ascii _ hascii, toList_hex, List.map_append, hmap, hstart, ← toList_hex, String.ofList_toList]

theorem toLowerCase_of_lower (host : Host) {s : String} (h : isLowerHash32 s = true) :
    host.toLowerCase s = s := by
  simp only [isLowerHash32, decide_eq_true_eq, startsWith, List.isPrefixOf_iff_prefix] at h
  obtain ⟨⟨digits, hs⟩, _, hall⟩ := h
  rw [← hs] at hall
  have htext : s = "0x" ++ String.ofList digits := by
    apply String.toList_inj.mp
    rw [← hs, toList_hex]
  rw [htext]
  exact toLowerCase_digits host (List.all_eq_true.mp hall)

theorem digitChar_lower {n : Nat} (h : n < 16) : isLowerHex (Nat.digitChar n) = true := by
  have hall : ∀ n : Fin 16, isLowerHex (Nat.digitChar n) = true := by decide
  exact hall ⟨n, h⟩

theorem isLowerHash32_of_digits {digits : List Char} (hlength : digits.length = 64)
    (hall : ∀ c ∈ digits, isLowerHex c = true) : isLowerHash32 ("0x" ++ String.ofList digits) = true := by
  rw [isLowerHash32, startsWith, toList_hex]
  refine decide_eq_true ⟨List.isPrefixOf_iff_prefix.mpr (List.prefix_append _ _), hlength, ?_⟩
  exact List.all_eq_true.mpr hall

theorem digitChar_injective : ∀ a b : Fin 16, Nat.digitChar a = Nat.digitChar b → a = b := by decide

theorem hexDigest_injective : Function.Injective hexDigest := by
  intro xs ys h
  have hlist := String.ofList_injective h
  clear h
  induction xs generalizing ys with
  | nil =>
    cases ys with
    | nil => rfl
    | cons y ys => cases hlist
  | cons x xs ih =>
    cases ys with
    | nil => cases hlist
    | cons y ys =>
      simp only [List.flatMap_cons, List.cons_append, List.nil_append, List.cons.injEq] at hlist
      obtain ⟨hhigh, hlow, hrest⟩ := hlist
      have hx : x.toNat < 256 := x.toNat_lt
      have hy : y.toNat < 256 := y.toNat_lt
      have h1 := congrArg Fin.val (digitChar_injective ⟨x.toNat / 16, by omega⟩ ⟨y.toNat / 16, by omega⟩ hhigh)
      have h2 := congrArg Fin.val (digitChar_injective ⟨x.toNat % 16, by omega⟩ ⟨y.toNat % 16, by omega⟩ hlow)
      have hxy : x = y := by
        apply UInt8.toNat_inj.mp
        simp only at h1 h2
        omega
      rw [hxy, ih hrest]

theorem toList_hexDigest (bytes : List UInt8) : (hexDigest bytes).toList =
    bytes.flatMap fun b => [Nat.digitChar (b.toNat / 16), Nat.digitChar (b.toNat % 16)] :=
  String.toList_ofList

theorem isLowerHex_hexDigest (bytes : List UInt8) : ∀ c ∈ (hexDigest bytes).toList, isLowerHex c = true := by
  intro c hc
  rw [toList_hexDigest] at hc
  obtain ⟨b, _, hc⟩ := List.mem_flatMap.mp hc
  have hb : b.toNat < 256 := b.toNat_lt
  simp only [List.mem_cons, List.not_mem_nil, or_false] at hc
  cases hc with
  | inl hc => exact hc ▸ digitChar_lower (by omega)
  | inr hc => exact hc ▸ digitChar_lower (by omega)

theorem length_hexDigest (bytes : List UInt8) : (hexDigest bytes).toList.length = 2 * bytes.length := by
  rw [toList_hexDigest]
  induction bytes with
  | nil => rfl
  | cons b bytes ih =>
    rw [List.flatMap_cons, List.length_append, ih, List.length_cons, List.length_cons, List.length_cons,
      List.length_nil]
    omega

theorem hexDigest_lower (digest : Vector UInt8 32) :
    isLowerHash32 ("0x" ++ hexDigest digest.toList) = true := by
  have hlength := length_hexDigest digest.toList
  rw [Vector.length_toList] at hlength
  have hlower := isLowerHash32_of_digits hlength (isLowerHex_hexDigest digest.toList)
  rwa [String.ofList_toList] at hlower

end Strings

section Values

variable (host : Host)

/-- A property of a value that has properties. -/
def get (v : Value) (key : String) : Value :=
  match v with
  | some (.obj fields) => fields.lookup key
  | some (.arr items) => if key = "length" then some (.num (.finite items.length)) else none
  | some (.str s) => if key = "length" then some (.num (.finite (codeUnits s).length)) else none
  | _ => none

/-- A property of a value that may be `null` or `undefined`. -/
def prop (v : Value) (key : String) : Result Value :=
  match v with
  | none | some .null => .error typeError
  | v => .ok (get v key)

def objectKeys : Value → Result (List String)
  | none | some .null => .error typeError
  | some (.obj fields) => .ok (fields.map Prod.fst)
  | some (.arr items) => .ok ((List.range items.length).map toString)
  | some (.str s) => .ok ((List.range (codeUnits s).length).map toString)
  | some _ => .ok []

/-- `v === s` -/
def isStr (v : Value) (s : String) : Bool :=
  match v with
  | some (.str t) => t = s
  | _ => false

/-- `v === q` -/
def isNum (v : Value) (q : ℚ) : Bool :=
  match v with
  | some (.num x) => x = .finite q
  | _ => false

def truthy : Value → Bool
  | none | some .null => false
  | some (.bool b) => b
  | some (.num x) => x ≠ .finite 0 ∧ x ≠ .nan
  | some (.str s) => s ≠ ""
  | some _ => true

/-- `v == null` -/
def isNullish : Value → Bool
  | none | some .null => true
  | _ => false

/-- `typeof v === 'object'`, `null` apart. -/
def isObject : Value → Bool
  | some (.arr _) | some (.obj _) => true
  | _ => false

def asString : Value → Result String
  | some (.str s) => .ok s
  | _ => .error typeError

/-- The elements of a `Set`: two objects are never the same. -/
def sameValueZero : Json → Json → Bool
  | .null, .null => true
  | .bool a, .bool b => a = b
  | .num a, .num b => a = b
  | .str a, .str b => a = b
  | _, _ => false

def setSize : List Json → Nat
  | [] => 0
  | v :: vs => setSize vs + if vs.any (sameValueZero v) then 0 else 1

/-- `v.length < 2 || new Set(v).size < 2` -/
def fewerThanTwo : Value → Result Bool
  | some (.arr items) => .ok (items.length < 2 ∨ setSize items < 2)
  | some (.str s) => .ok ((codeUnits s).length < 2 ∨ setSize (s.toList.map fun c => .str (String.singleton c)) < 2)
  | some (.obj fields) =>
    match fields.lookup "length" with
    | some (.num (.finite q)) => if q < 2 then .ok true else .error typeError
    | _ => .error typeError
  | _ => .error typeError

def numberText : JsNumber → String
  | .finite q => host.numberToString q
  | .infinite negative => if negative then "-Infinity" else "Infinity"
  | .nan => "NaN"

mutual

/-- The string a template literal makes of a value. -/
def Json.text : Json → Result String
  | .null => .ok "null"
  | .bool b => .ok (if b then "true" else "false")
  | .num x => .ok (numberText host x)
  | .str s => .ok s
  | .arr items => do
    let texts ← itemTexts items
    .ok (",".intercalate texts)
  -- an own `toString` hides the inherited one and cannot be called
  | .obj fields => if (fields.lookup "toString").isSome then .error typeError else .ok "[object Object]"

def itemTexts : List Json → Result (List String)
  | [] => .ok []
  | .null :: vs => do
    let texts ← itemTexts vs
    .ok ("" :: texts)
  | v :: vs => do
    let text ← v.text
    let texts ← itemTexts vs
    .ok (text :: texts)

end

attribute [simp] Json.text itemTexts

def text : Value → Result String
  | none => .ok "undefined"
  | some v => v.text host

def bigInt : Value → Result Int
  | none | some .null => .error typeError
  | some (.bool b) => .ok (if b then 1 else 0)
  | some (.num (.finite q)) => if q.den = 1 then .ok q.num else .error "RangeError"
  | some (.num _) => .error "RangeError"
  | some (.str s) => stringToBigInt s
  | some v => do
    let s ← v.text host
    stringToBigInt s

end Values

section Text

/-- A character as `JSON.stringify` writes it inside a string. -/
def escape (c : Char) : List Char :=
  if c = '"' ∨ c = '\\' then ['\\', c]
  else if c.toNat = 8 then ['\\', 'b']
  else if c.toNat = 9 then ['\\', 't']
  else if c.toNat = 10 then ['\\', 'n']
  else if c.toNat = 12 then ['\\', 'f']
  else if c.toNat = 13 then ['\\', 'r']
  else if c.toNat < 32 then
    ['\\', 'u', '0', '0', Nat.digitChar (c.toNat / 16), Nat.digitChar (c.toNat % 16)]
  else [c]

def quote (s : String) : String := String.ofList ('"' :: s.toList.flatMap escape ++ ['"'])

variable (host : Host)

mutual

/-- `canonicalJson`: the keys of every object in sorted order. -/
def canonicalJson : Json → String
  | .null => "null"
  | .bool b => if b then "true" else "false"
  | .num (.finite q) => host.numberToString q
  | .num _ => "null"
  | .str s => quote s
  | .arr items => "[" ++ ",".intercalate (canonicalItems items) ++ "]"
  | .obj fields =>
    let sorted := (canonicalFields fields).insertionSort fun a b => codeUnits a.1 ≤ codeUnits b.1
    "\x7b" ++ ",".intercalate (sorted.map fun f => quote f.1 ++ ":" ++ f.2) ++ "\x7d"

def canonicalItems : List Json → List String
  | [] => []
  | v :: vs => canonicalJson v :: canonicalItems vs

def canonicalFields : List (String × Json) → List (String × String)
  | [] => []
  | (key, v) :: fs => (key, canonicalJson v) :: canonicalFields fs

end

attribute [simp] canonicalJson canonicalItems canonicalFields

mutual

def stringify : Json → String
  | .null => "null"
  | .bool b => if b then "true" else "false"
  | .num (.finite q) => host.numberToString q
  | .num _ => "null"
  | .str s => quote s
  | .arr items => "[" ++ ",".intercalate (stringifyItems items) ++ "]"
  | .obj fields => "\x7b" ++ ",".intercalate (stringifyFields fields) ++ "\x7d"

def stringifyItems : List Json → List String
  | [] => []
  | v :: vs => stringify v :: stringifyItems vs

def stringifyFields : List (String × Json) → List String
  | [] => []
  | (key, v) :: fs => (quote key ++ ":" ++ stringify v) :: stringifyFields fs

end

attribute [simp] stringify stringifyItems stringifyFields

end Text

section Sample

/-- A host that orders strings by their code units, knows the ASCII letters, and
prints whole numbers. It reads no text. -/
def plainHost (digest : Vector UInt8 32) : Host where
  jsonParse _ := none
  numberToString q := toString q.num
  localeLe a b := codeUnits a ≤ codeUnits b
  toLowerCase s := String.ofList (s.toList.map Char.toLower)
  toUpperCase s := String.ofList (s.toList.map Char.toUpper)
  sha256 _ := digest
  jsonParse_keys := by
    intro _ _ h
    cases h
  localeLe_total := by
    intro a b
    simpa using le_total (codeUnits a) (codeUnits b)
  localeLe_trans := by
    intro a b c hab hbc
    have h := le_trans (of_decide_eq_true hab) (of_decide_eq_true hbc)
    exact decide_eq_true h
  toLowerCase_ascii _ _ := rfl
  toUpperCase_ascii _ _ := rfl

def readingHost (digest : Vector UInt8 32) (value : Json) (hk : value.KeysDistinct) : Host :=
  { plainHost digest with
    jsonParse := fun contents =>
      if contents = stringify (plainHost digest) value ++ "\n" then some value else none
    jsonParse_keys := by
      intro contents v h
      simp only [Option.ite_none_right_eq_some, Option.some.injEq] at h
      exact h.2 ▸ hk }

theorem readingHost_reads (digest : Vector UInt8 32) (value : Json) (hk : value.KeysDistinct) :
    (readingHost digest value hk).jsonParse (stringify (plainHost digest) value ++ "\n") = some value :=
  if_pos rfl

end Sample

end SanBridge.Tooling.Runtime
