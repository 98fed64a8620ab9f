import SanBridge.Library.Packing
import SanBridge.Tooling.Policy

namespace SanBridge.Tooling.ProgramId

open Library.BigEndian Library.Checked Library.Packing Tooling.Runtime Tooling.Policy
open Solana.Runtime (Pubkey)

section Source

def sanOftProgramId : String := "9myHzfqsbJfGbYxpCvVCYqLaB4Co1RCo2a8T4QSkTvcD"

def starterOftProgramId : String := "9UovNrJD8pQyBLheeHNayuG1wJSEAoxkmM14vw5gcsTT"

/-- `Buffer.indexOf` of a needle that is not empty -/
def indexOf (haystack needle : Bytes) (byteOffset : Nat) : Option Nat :=
  (List.range' byteOffset (haystack.length + 1 - byteOffset)).find? fun p => OccursAt haystack needle p

def countFrom (haystack needle : Bytes) : Nat → Nat → Nat → Option Nat
  | 0, _, _ => none
  | fuel + 1, count, offset =>
    match indexOf haystack needle offset with
    | none => some count
    | some p => countFrom haystack needle fuel (count + 1) (p + needle.length)

/-- Every round but the last moves the offset inside the haystack. -/
def countBytes (haystack needle : Bytes) : Option Nat := countFrom haystack needle (haystack.length + 1) 0 0

/-- `.` does not match these. -/
def isLineTerminator (c : Char) : Bool := c.toNat ∈ [0xA, 0xD, 0x2028, 0x2029]

/-- What stands before an ending, in lower case. The patterns ignore case. -/
def beforeEnding (path ending : String) : Option (List Char) :=
  let text := path.toList.map Char.toLower
  if ending.toList <:+ text then some (text.take (text.length - ending.toList.length)) else none

/-- `(^|\/)` before the position -/
def startsSegment (text : List Char) (p : Nat) : Bool := p = 0 ∨ text[p - 1]? = some '/'

/-- `/(^|\/)(?:.*-)?keypair\.json$/i` -/
def isKeypairFile (path : String) : Bool :=
  (beforeEnding path "keypair.json").any fun text =>
    (List.range (text.length + 1)).any fun p => startsSegment text p ∧
      (text.drop p = [] ∨ (text.drop p).getLast? = some '-' ∧ (text.drop p).all fun c => !isLineTerminator c)

/-- `/(^|\/)(?:junk-id|id)\.json$/i` -/
def isIdFile (path : String) : Bool :=
  ["junk-id.json", "id.json"].any fun ending =>
    (beforeEnding path ending).any fun text => startsSegment text text.length

/-- `/\.(?:pem|key|mnemonic)$/i` -/
def isSecretFile (path : String) : Bool :=
  [".pem", ".key", ".mnemonic"].any fun ending => (beforeEnding path ending).isSome

def isKeyMaterial (path : String) : Bool := isKeypairFile path || isIdFile path || isSecretFile path

def includes (text part : String) : Bool := part.toList <:+: text.toList

structure WorkingTree where
  anchorConfig : String
  programSource : String
  idl : String
  elf : Bytes
  trackedFiles : List String
  existsSync : String → Bool

structure Report where
  sanIdOccurrences : Nat
  starterIdOccurrences : Nat

variable (host : Host) (formats : AddressFormats)

def failure (message : String) : String := "SAN program-ID check failed: " ++ message

def countId (elf : Bytes) (id : String) : Result Nat := do
  let key ← ofOption "Invalid public key input" (formats.publicKey (some (.str id)))
  ofOption "the loop does not end" (countBytes elf key.toList)

def requireIdlAddress (address : Value) : Result Unit :=
  if isStr address sanOftProgramId then .ok ()
  else do
    let shown ← text host address
    .error (failure ("IDL address is " ++ shown))

def checkSolanaProgramId (tree : WorkingTree) : Result Report := do
  let idl ← ofOption "SyntaxError" (host.jsonParse tree.idl)
  require (failure "Anchor.toml does not pin SAN OFT")
    (includes tree.anchorConfig ("oft = \"" ++ sanOftProgramId ++ "\""))
  require (failure "declare_id fallback is not SAN OFT")
    (includes tree.programSource ("\"" ++ sanOftProgramId ++ "\""))
  let address ← prop (some idl) "address"
  requireIdlAddress host address
  let sanIdOccurrences ← countId formats tree.elf sanOftProgramId
  let starterIdOccurrences ← countId formats tree.elf starterOftProgramId
  require (failure "ELF does not embed SAN OFT") (1 ≤ sanIdOccurrences)
  require (failure "source still contains starter OFT ID") (!includes tree.programSource starterOftProgramId)
  require (failure "IDL still uses starter OFT ID") (!isStr address starterOftProgramId)
  require (failure "ELF still embeds starter OFT ID") (starterIdOccurrences = 0)
  let trackedSecrets := tree.trackedFiles.filter fun path => tree.existsSync path && isKeyMaterial path
  require (failure ("tracked key material: " ++ ", ".intercalate trackedSecrets)) (trackedSecrets.length = 0)
  .ok ⟨sanIdOccurrences, starterIdOccurrences⟩

end Source

section Counting

variable {haystack needle : Bytes} {offset p : Nat}

theorem indexOf_eq_some (h : indexOf haystack needle offset = some p) :
    offset ≤ p ∧ OccursAt haystack needle p ∧ ∀ q, offset ≤ q → q < p → ¬ OccursAt haystack needle q := by
  rw [indexOf, List.find?_range'_eq_some] at h
  obtain ⟨hp, hmem, hfirst⟩ := h
  refine ⟨(List.mem_range'_1.mp hmem).1, of_decide_eq_true hp, ?_⟩
  intro q hle hlt
  simpa using hfirst q hle hlt

theorem indexOf_eq_none (hne : needle ≠ []) (h : indexOf haystack needle offset = none) :
    ∀ p, offset ≤ p → ¬ OccursAt haystack needle p := by
  rw [indexOf, List.find?_range'_eq_none] at h
  intro p hle hp
  have hlength := hp.le hne
  have hnot := h p hle (by omega)
  simp [hp] at hnot

theorem countFrom_scanned (haystack : Bytes) (hne : needle ≠ []) {fuel : Nat} (count : Nat)
    (hle : offset ≤ haystack.length) (hfuel : haystack.length < offset + fuel) :
    ∃ ps, Scanned (OccursAt haystack needle) needle.length offset ps ∧
      countFrom haystack needle fuel count offset = some (count + ps.length) := by
  induction fuel generalizing count offset with
  | zero => omega
  | succ fuel ih =>
    cases hi : indexOf haystack needle offset with
    | none => exact ⟨[], Scanned.done (indexOf_eq_none hne hi), by simp [countFrom, hi]⟩
    | some p =>
      obtain ⟨hge, hp, hfirst⟩ := indexOf_eq_some hi
      have hpos := List.length_pos_iff.mpr hne
      obtain ⟨ps, hps, hcount⟩ := ih (count + 1) (hp.le hne) (by omega)
      refine ⟨p :: ps, Scanned.found hge hp hfirst hps, ?_⟩
      simp only [countFrom, hi, hcount, List.length_cons, Option.some.injEq]
      omega

/-- The loop ends, having counted as many occurrences as can stand side by side. -/
theorem countBytes_greatest (haystack : Bytes) (hne : needle ≠ []) : ∃ n, countBytes haystack needle = some n ∧
    IsGreatest {n | ∃ qs, Packed (OccursAt haystack needle) needle.length 0 qs ∧ qs.length = n} n ∧
    (n = 0 ↔ ¬ needle <:+: haystack) := by
  have hfuel : haystack.length < 0 + (haystack.length + 1) := by omega
  obtain ⟨ps, hps, hcount⟩ := countFrom_scanned haystack hne 0 (Nat.zero_le _) hfuel
  refine ⟨ps.length, by rw [countBytes, hcount, Nat.zero_add], hps.greatest, ?_⟩
  rw [List.length_eq_zero_iff, hps.eq_nil_iff, ← exists_occursAt]
  simp

end Counting

section Check

variable {host : Host} {formats : AddressFormats} {tree : WorkingTree} {san starter : Pubkey} {report : Report}

/-- A working tree whose program has the production identity and not the starter's,
and which tracks no key. -/
structure Clean (host : Host) (tree : WorkingTree) (san starter : Pubkey) : Prop where
  anchor : includes tree.anchorConfig ("oft = \"" ++ sanOftProgramId ++ "\"") = true
  declared : includes tree.programSource ("\"" ++ sanOftProgramId ++ "\"") = true
  idl : ∃ fields, host.jsonParse tree.idl = some (.obj fields) ∧
    fields.lookup "address" = some (.str sanOftProgramId)
  embedded : san.toList <:+: tree.elf
  source_renamed : includes tree.programSource starterOftProgramId = false
  elf_renamed : ¬ starter.toList <:+: tree.elf
  no_keys : ∀ path ∈ tree.trackedFiles, tree.existsSync path = true → isKeyMaterial path = false

theorem countId_eq_ok (elf : Bytes) {id : String} {key : Pubkey}
    (hkey : formats.publicKey (some (.str id)) = some key) : ∃ n, countId formats elf id = .ok n ∧
      IsGreatest {n | ∃ qs, Packed (OccursAt elf key.toList) 32 0 qs ∧ qs.length = n} n ∧
      (n = 0 ↔ ¬ key.toList <:+: elf) := by
  have hlength : key.toList.length = 32 := Vector.length_toList
  have hne : key.toList ≠ [] := by
    intro he
    rw [he] at hlength
    cases hlength
  obtain ⟨n, hn, hgreatest, hzero⟩ := countBytes_greatest elf hne
  rw [hlength] at hgreatest
  refine ⟨n, ?_, hgreatest, hzero⟩
  rw [countId, hkey, ofOption, ok_bind, hn, ofOption]

theorem requireIdlAddress_eq_ok {address : Value} {u : Unit} :
    requireIdlAddress host address = .ok u ↔ isStr address sanOftProgramId = true := by
  by_cases h : isStr address sanOftProgramId = true
  · simp [requireIdlAddress, h]
  · cases ht : text host address with
    | ok shown => simp [requireIdlAddress, h, ht, ok_bind]
    | error e => simp [requireIdlAddress, h, ht, error_bind]

theorem isStr_eq {v : Value} {s : String} : isStr v s = true ↔ v = some (.str s) := by
  cases v with
  | none => simp [isStr]
  | some v => cases v <;> simp [isStr]

theorem prop_eq_str {v : Json} {key s : String} (hkey : key ≠ "length") :
    prop (some v) key = .ok (some (.str s)) ↔ ∃ fields, v = .obj fields ∧ fields.lookup key = some (.str s) := by
  cases v <;> simp [prop, Runtime.get, hkey]

theorem checkSolanaProgramId_eq_ok {n m : Nat} (hn : countId formats tree.elf sanOftProgramId = .ok n)
    (hm : countId formats tree.elf starterOftProgramId = .ok m) (hzero : n = 0 ↔ ¬ san.toList <:+: tree.elf)
    (hnone : m = 0 ↔ ¬ starter.toList <:+: tree.elf) :
    checkSolanaProgramId host formats tree = .ok report ↔ Clean host tree san starter ∧ report = ⟨n, m⟩ := by
  have hlength : "address" ≠ "length" := by decide
  have hids : sanOftProgramId ≠ starterOftProgramId := by decide
  simp only [checkSolanaProgramId, hn, hm, bind_eq_ok, ofOption_eq_ok, require_eq_ok, requireIdlAddress_eq_ok,
    isStr_eq, ok_bind, Except.ok.injEq, decide_eq_true_eq, Bool.not_eq_true', List.length_eq_zero_iff,
    List.filter_eq_nil_iff]
  constructor
  · rintro ⟨idl, hidl, _, hanchor, _, hdeclared, _, haddress, _, rfl, _, hsome, _, hsource, _, _, _, hstarter, _,
      hkeys, rfl⟩
    obtain ⟨fields, rfl, hlookup⟩ := (prop_eq_str hlength).mp haddress
    refine ⟨⟨hanchor, hdeclared, ⟨fields, hidl, hlookup⟩, ?_, hsource, hnone.mp hstarter, ?_⟩, rfl⟩
    · by_contra hembedded
      have hn0 := hzero.mpr hembedded
      omega
    · intro path hpath hexists
      simpa [hexists] using hkeys path hpath
  · rintro ⟨hc, rfl⟩
    obtain ⟨fields, hidl, hlookup⟩ := hc.idl
    have hstr : isStr (some (.str sanOftProgramId)) starterOftProgramId = false := by simp [isStr, hids]
    have hpos : 1 ≤ n := by
      by_contra hlt
      exact hzero.mp (by omega) hc.embedded
    refine ⟨_, hidl, (), hc.anchor, (), hc.declared, _, (prop_eq_str hlength).mpr ⟨fields, rfl, hlookup⟩, (), rfl, (),
      hpos, (), hc.source_renamed, (), hstr, (), hnone.mpr hc.elf_renamed, (), ?_, rfl⟩
    intro path hpath
    cases hexists : tree.existsSync path with
    | false => simp
    | true => simp [hc.no_keys path hpath hexists]

/-- The check passes exactly the clean trees, and reports how many copies of the
production identity can stand side by side in the program. -/
theorem check_clean_iff (hsan : formats.publicKey (some (.str sanOftProgramId)) = some san)
    (hstarter : formats.publicKey (some (.str starterOftProgramId)) = some starter) :
    ((∃ report, checkSolanaProgramId host formats tree = .ok report) ↔ Clean host tree san starter) ∧
    ∀ report, checkSolanaProgramId host formats tree = .ok report →
      IsGreatest {n | ∃ qs, Packed (OccursAt tree.elf san.toList) 32 0 qs ∧ qs.length = n}
        report.sanIdOccurrences ∧ report.starterIdOccurrences = 0 := by
  obtain ⟨n, hn, hgreatest, hzero⟩ := countId_eq_ok tree.elf hsan
  obtain ⟨m, hm, _, hnone⟩ := countId_eq_ok tree.elf hstarter
  simp only [checkSolanaProgramId_eq_ok hn hm hzero hnone]
  constructor
  · simp
  · rintro report ⟨hc, rfl⟩
    exact ⟨hgreatest, hnone.mpr hc.elf_renamed⟩

end Check

section Sample

def sampleFormats : AddressFormats := plainFormats []

def sampleHost : Host :=
  { plainHost (Vector.replicate 32 0) with
    jsonParse := fun _ => some (.obj [("address", .str sanOftProgramId)])
    jsonParse_keys := by
      intro _ _ h
      cases h
      simp }

def sampleSan : Pubkey := (sampleFormats.publicKey (some (.str sanOftProgramId))).getD (Vector.replicate 32 0)

def sampleStarter : Pubkey :=
  (sampleFormats.publicKey (some (.str starterOftProgramId))).getD (Vector.replicate 32 0)

def sampleTree : WorkingTree where
  anchorConfig := "oft = \"" ++ sanOftProgramId ++ "\""
  programSource := "declare_id!(\"" ++ sanOftProgramId ++ "\")"
  idl := "oft.json"
  elf := sampleSan.toList ++ sampleSan.toList
  trackedFiles := ["Anchor.toml", "secrets/deployer-Keypair.json", "grid.json"]
  existsSync path := !startsWith path "secrets/"

theorem sample_known :
    sampleFormats.publicKey (some (.str sanOftProgramId)) = some sampleSan ∧
    sampleFormats.publicKey (some (.str starterOftProgramId)) = some sampleStarter ∧
    ¬ sampleStarter.toList <:+: sampleTree.elf ∧
    includes sampleTree.anchorConfig ("oft = \"" ++ sanOftProgramId ++ "\"") = true ∧
    includes sampleTree.programSource ("\"" ++ sanOftProgramId ++ "\"") = true ∧
    includes sampleTree.programSource starterOftProgramId = false ∧
    ∀ path ∈ sampleTree.trackedFiles, sampleTree.existsSync path = true → isKeyMaterial path = false := by
  decide +kernel

theorem check_clean_iff_sample : ∃ report,
    checkSolanaProgramId sampleHost sampleFormats sampleTree = .ok report ∧
    IsGreatest {n | ∃ qs, Packed (OccursAt sampleTree.elf sampleSan.toList) 32 0 qs ∧ qs.length = n}
      report.sanIdOccurrences := by
  obtain ⟨hsan, hstarter, helf, hanchor, hdeclared, hsource, hkeys⟩ := sample_known
  obtain ⟨hiff, hreport⟩ := @check_clean_iff sampleHost sampleFormats sampleTree _ _ hsan hstarter
  obtain ⟨report, h⟩ := hiff.mpr ⟨hanchor, hdeclared, ⟨_, rfl, rfl⟩, ⟨[], sampleSan.toList, rfl⟩, hsource, helf, hkeys⟩
  exact ⟨report, h, (hreport report h).1⟩

end Sample

end SanBridge.Tooling.ProgramId
