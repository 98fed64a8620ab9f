import SanBridge.Library.Readability
import SanBridge.Library.Sorting
import SanBridge.Tooling.Runtime

namespace SanBridge.Tooling.Canonical

open Library.Readability Library.Sorting Tooling.Runtime

section Values

theorem json_induction {P : Json → Prop} (null : P .null) (bool : ∀ b, P (.bool b)) (num : ∀ x, P (.num x))
    (str : ∀ s, P (.str s)) (arr : ∀ items, (∀ v ∈ items, P v) → P (.arr items))
    (obj : ∀ fields, (∀ f ∈ fields, P f.2) → P (.obj fields)) (v : Json) : P v :=
  Json.rec (motive_1 := P) (motive_2 := fun items => ∀ v ∈ items, P v)
    (motive_3 := fun fields => ∀ f ∈ fields, P f.2) (motive_4 := fun f => P f.2)
    null bool num str arr obj (fun _ h => absurd h List.not_mem_nil)
    (fun _ _ hv hvs _ h => (List.mem_cons.mp h).elim (fun he => he ▸ hv) (hvs _))
    (fun _ h => absurd h List.not_mem_nil)
    (fun _ _ hf hfs _ h => (List.mem_cons.mp h).elim (fun he => he ▸ hf) (hfs _)) (fun _ _ h => h) v

theorem finiteItems_iff {items : List Json} : FiniteItems items ↔ ∀ v ∈ items, v.Finite := by
  induction items with
  | nil => simp
  | cons v items ih => simp [ih]

theorem finiteFields_iff {fields : List (String × Json)} : FiniteFields fields ↔ ∀ f ∈ fields, f.2.Finite := by
  induction fields with
  | nil => simp
  | cons f fields ih => simp [ih]

theorem keysDistinctItems_iff {items : List Json} : KeysDistinctItems items ↔ ∀ v ∈ items, v.KeysDistinct := by
  induction items with
  | nil => simp
  | cons v items ih => simp [ih]

theorem keysDistinctFields_iff {fields : List (String × Json)} :
    KeysDistinctFields fields ↔ ∀ f ∈ fields, f.2.KeysDistinct := by
  induction fields with
  | nil => simp
  | cons f fields ih => simp [ih]

end Values

section Strings

/-- What an escape sequence stands for, and what follows it. -/
def unescapeSequence : List Char → Option (Char × List Char)
  | 'b' :: u => some (Char.ofNat 8, u)
  | 't' :: u => some (Char.ofNat 9, u)
  | 'n' :: u => some (Char.ofNat 10, u)
  | 'f' :: u => some (Char.ofNat 12, u)
  | 'r' :: u => some (Char.ofNat 13, u)
  | 'u' :: _ :: _ :: high :: low :: u => some (Char.ofNat (16 * digitValue high + digitValue low), u)
  | c :: u => some (c, u)
  | [] => none

/-- The first character of a string written by `JSON.stringify`. -/
def unescape : List Char → Option (Char × List Char)
  | c :: u => if c = '\\' then unescapeSequence u else some (c, u)
  | [] => none

theorem ofNat_eq {c : Char} {n : Nat} (h : c.toNat = n) : Char.ofNat n = c := by
  rw [← h, Char.ofNat_toNat]

theorem unescape_escape (c : Char) (u : List Char) : unescape (escape c ++ u) = some (c, u) := by
  rw [escape]
  split_ifs with hq hb ht hn hf hr hu
  · cases hq with
    | inl hq =>
      subst hq
      rfl
    | inr hq =>
      subst hq
      rfl
  · exact congrArg (fun c => some (c, u)) (ofNat_eq hb)
  · exact congrArg (fun c => some (c, u)) (ofNat_eq ht)
  · exact congrArg (fun c => some (c, u)) (ofNat_eq hn)
  · exact congrArg (fun c => some (c, u)) (ofNat_eq hf)
  · exact congrArg (fun c => some (c, u)) (ofNat_eq hr)
  · have hvalue : c.toNat = 16 * digitValue (Nat.digitChar (c.toNat / 16)) +
        digitValue (Nat.digitChar (c.toNat % 16)) := by
      rw [digitValue_digitChar (by omega), digitValue_digitChar (by omega)]
      omega
    exact congrArg (fun c => some (c, u)) (ofNat_eq hvalue)
  · exact if_neg fun hc => hq (.inr hc)

theorem escape_readsOff (c : Char) : ReadsOff Set.univ escape Set.univ c := by
  intro d _ u _ w _ h
  have hread := congrArg unescape h
  rw [unescape_escape, unescape_escape, Option.some.injEq, Prod.mk.injEq] at hread
  exact hread

/-- The closing quote is the first one that is not escaped. -/
theorem escape_starts : Starts escape Set.univ '"' := by
  intro c _
  rw [escape]
  split_ifs with hq
  all_goals first
    | exact ⟨'\\', _, rfl, by decide⟩
    | exact ⟨c, [], rfl, fun hc => hq (.inl hc)⟩

theorem toList_quote (s : String) : (quote s).toList = '"' :: closed escape '"' s.toList := by
  rw [quote, String.toList_ofList, closed_eq]
  rfl

theorem quote_readsOff (s : String) : ReadsOff Set.univ (fun s => (quote s).toList) Set.univ s := by
  intro t _ u _ w _ h
  simp only [toList_quote] at h
  obtain ⟨hs, hw⟩ := (readsOff_closed escape_starts (fun _ _ => trivial) fun c _ => escape_readsOff c).cons '"'
    t.toList (fun _ _ => trivial) u trivial w trivial h
  exact ⟨String.toList_injective hs, hw⟩

end Strings

section Texts

variable {host : Host}

/-- How a finite number is printed: two numbers never alike, and in characters that
begin and end no other value. -/
structure PrintsNumbers (host : Host) : Prop where
  injective : Function.Injective host.numberToString
  nonempty : ∀ q, (host.numberToString q).toList ≠ []
  chars : ∀ q, ∀ c ∈ (host.numberToString q).toList, c.isDigit = true ∨ c ∈ ['+', '-', '.', 'e']

def jsonText (host : Host) (v : Json) : List Char := (stringify host v).toList

def fieldText (host : Host) (f : String × Json) : List Char := (quote f.1).toList ++ ':' :: jsonText host f.2

theorem stringifyItems_eq (items : List Json) : stringifyItems host items = items.map (stringify host) := by
  induction items with
  | nil => rfl
  | cons v items ih => rw [stringifyItems, ih, List.map_cons]

theorem stringifyFields_eq (fields : List (String × Json)) :
    stringifyFields host fields = fields.map fun f => quote f.1 ++ ":" ++ stringify host f.2 := by
  induction fields with
  | nil => rfl
  | cons f fields ih => rw [stringifyFields, ih, List.map_cons]

theorem stringify_congr {host' : Host} (h : host'.numberToString = host.numberToString) (v : Json) :
    stringify host' v = stringify host v := by
  induction v using json_induction with
  | null | bool _ | str _ => rw [stringify, stringify]
  | num x =>
    cases x with
    | finite q => rw [stringify, stringify, h]
    | infinite _ | nan => rw [stringify, stringify] <;> nofun
  | arr items ih => rw [stringify, stringify, stringifyItems_eq, stringifyItems_eq, List.map_congr_left ih]
  | obj fields ih =>
    have hfields : ∀ f ∈ fields, quote f.1 ++ ":" ++ stringify host' f.2 = quote f.1 ++ ":" ++ stringify host f.2 := by
      intro f hf
      rw [ih f hf]
    rw [stringify, stringify, stringifyFields_eq, stringifyFields_eq, List.map_congr_left hfields]

theorem jsonText_null : jsonText host .null = ['n', 'u', 'l', 'l'] := by
  rw [jsonText, stringify]
  rfl

theorem jsonText_bool (b : Bool) :
    jsonText host (.bool b) = if b then ['t', 'r', 'u', 'e'] else ['f', 'a', 'l', 's', 'e'] := by
  rw [jsonText, stringify]
  cases b <;> rfl

theorem jsonText_str (s : String) : jsonText host (.str s) = (quote s).toList := by
  rw [jsonText, stringify]

theorem jsonText_num (q : ℚ) : jsonText host (.num (.finite q)) = (host.numberToString q).toList := by
  rw [jsonText, stringify]

theorem jsonText_arr (items : List Json) :
    jsonText host (.arr items) = '[' :: separated (jsonText host) ',' ']' items := by
  rw [jsonText, stringify, String.toList_append, String.toList_append, String.toList_intercalate, stringifyItems_eq,
    List.map_map, separated_eq]
  rfl

theorem jsonText_obj (fields : List (String × Json)) :
    jsonText host (.obj fields) = '\x7b' :: separated (fieldText host) ',' '\x7d' fields := by
  have htexts : (fields.map fun f => quote f.1 ++ ":" ++ stringify host f.2).map String.toList =
      fields.map (fieldText host) := by
    rw [List.map_map]
    apply List.map_congr_left
    intro f _
    simp only [Function.comp_apply, String.toList_append, List.append_assoc, fieldText, jsonText]
    rfl
  rw [jsonText, stringify, String.toList_append, String.toList_append, String.toList_intercalate, stringifyFields_eq,
    htexts, separated_eq]
  rfl

/-- What a value is, as its text shows in the first character. -/
inductive Kind
  | null | bool | num | str | arr | obj
  deriving DecidableEq

def kind : Json → Kind
  | .null => .null
  | .bool _ => .bool
  | .num _ => .num
  | .str _ => .str
  | .arr _ => .arr
  | .obj _ => .obj

def opens (c : Char) : Option Kind :=
  if c = 'n' then some .null
  else if c = 't' ∨ c = 'f' then some .bool
  else if c = '"' then some .str
  else if c = '[' then some .arr
  else if c = '\x7b' then some .obj
  else if c.isDigit ∨ c ∈ ['+', '-', '.', 'e'] then some .num
  else none

theorem opens_number {c : Char} (h : c.isDigit = true ∨ c ∈ ['+', '-', '.', 'e']) : opens c = some .num := by
  have hne {d : Char} (hd : ¬ (d.isDigit = true ∨ d ∈ ['+', '-', '.', 'e'])) : c ≠ d := by
    intro hc
    exact hd (hc ▸ h)
  rw [opens, if_neg (hne (by decide)), if_neg (not_or.mpr ⟨hne (by decide), hne (by decide)⟩), if_neg (hne (by decide)),
    if_neg (hne (by decide)), if_neg (hne (by decide)), if_pos h]

theorem jsonText_opens (hp : PrintsNumbers host) {v : Json} (hf : v.Finite) :
    ∃ c rest, jsonText host v = c :: rest ∧ opens c = some (kind v) := by
  cases v with
  | null => exact ⟨'n', _, jsonText_null, rfl⟩
  | bool b =>
    cases b with
    | true => exact ⟨'t', _, jsonText_bool true, rfl⟩
    | false => exact ⟨'f', _, jsonText_bool false, rfl⟩
  | num x =>
    obtain ⟨q, rfl⟩ := hf
    obtain ⟨c, rest, hc⟩ := List.exists_cons_of_ne_nil (hp.nonempty q)
    rw [jsonText_num, hc]
    exact ⟨c, rest, rfl, opens_number (hp.chars q c (hc ▸ List.mem_cons_self))⟩
  | str s => exact ⟨'"', _, (jsonText_str s).trans (toList_quote s), rfl⟩
  | arr items => exact ⟨'[', _, jsonText_arr items, rfl⟩
  | obj fields => exact ⟨'\x7b', _, jsonText_obj fields, rfl⟩

theorem kind_eq (hp : PrintsNumbers host) {a b : Json} {u w : List Char} (ha : a.Finite) (hb : b.Finite)
    (h : jsonText host a ++ u = jsonText host b ++ w) : kind a = kind b := by
  obtain ⟨c, rest, hc, hca⟩ := jsonText_opens hp ha
  obtain ⟨d, rest', hd, hdb⟩ := jsonText_opens hp hb
  rw [hc, hd, List.cons_append, List.cons_append, List.cons.injEq] at h
  rw [h.1, hdb, Option.some.injEq] at hca
  exact hca.symm

/-- What may follow a value: nothing, a separator or a closing bracket. -/
def stops : Set (List Char) := {u | ∀ c ∈ u.head?, c = ',' ∨ c = ']' ∨ c = '\x7d'}

theorem nil_mem_stops : [] ∈ stops := by
  intro c hc
  cases hc

theorem cons_mem_stops {c : Char} (h : c = ',' ∨ c = ']' ∨ c = '\x7d') (u : List Char) : c :: u ∈ stops := by
  intro d hd
  cases hd
  exact h

theorem not_number_of_stops {u : List Char} (h : u ∈ stops) :
    ∀ c ∈ u.head?, ¬ (c.isDigit = true ∨ c ∈ ['+', '-', '.', 'e']) := by
  intro c hc
  rcases h c hc with rfl | rfl | rfl <;> decide

def finite : Set Json := {v | v.Finite}

theorem jsonText_starts (hp : PrintsNumbers host) : Starts (jsonText host) finite ']' := by
  intro v hv
  obtain ⟨c, rest, hc, hopens⟩ := jsonText_opens hp hv
  refine ⟨c, rest, hc, ?_⟩
  rintro rfl
  cases hopens

theorem fieldText_starts (host : Host) : Starts (fieldText host) (Set.univ ×ˢ finite) '\x7d' := by
  rintro ⟨key, v⟩ _
  refine ⟨'"', closed escape '"' key.toList ++ ':' :: jsonText host v, ?_, by decide⟩
  rw [fieldText, toList_quote, List.cons_append]

theorem fieldText_readsOff {f : String × Json} (h : ReadsOff stops (jsonText host) finite f.2) :
    ReadsOff stops (fieldText host) (Set.univ ×ˢ finite) f := by
  have hread := (quote_readsOff f.1).pair (h.cons ':')
  exact hread

theorem jsonText_readsOff (hp : PrintsNumbers host) (v : Json) :
    v.Finite → ReadsOff stops (jsonText host) finite v := by
  induction v using json_induction with
  | null =>
    intro hf b hb u hu w hw h
    have hk := kind_eq hp hf hb h
    cases b with
    | null => exact ⟨rfl, List.append_cancel_left h⟩
    | bool _ | num _ | str _ | arr _ | obj _ => cases hk
  | bool x =>
    intro hf b hb u hu w hw h
    have hk := kind_eq hp hf hb h
    cases b with
    | bool y =>
      have hxy : x = y := by
        rw [jsonText_bool, jsonText_bool] at h
        cases x <;> cases y <;> simp at h ⊢
      subst hxy
      exact ⟨rfl, List.append_cancel_left h⟩
    | null | num _ | str _ | arr _ | obj _ => cases hk
  | num x =>
    intro hf b hb u hu w hw h
    have hk := kind_eq hp hf hb h
    cases b with
    | num y =>
      obtain ⟨p, rfl⟩ := hf
      obtain ⟨q, rfl⟩ := hb
      rw [jsonText_num, jsonText_num] at h
      -- the text of a number ends at the first character of another kind
      obtain ⟨htext, hrest⟩ := append_inj_of_all (hp.chars p) (hp.chars q) (not_number_of_stops hu)
        (not_number_of_stops hw) h
      rw [hp.injective (String.toList_injective htext)]
      exact ⟨rfl, hrest⟩
    | null | bool _ | str _ | arr _ | obj _ => cases hk
  | str s =>
    intro hf b hb u hu w hw h
    have hk := kind_eq hp hf hb h
    cases b with
    | str t =>
      rw [jsonText_str, jsonText_str] at h
      obtain ⟨hst, hrest⟩ := quote_readsOff s t trivial u trivial w trivial h
      exact ⟨congrArg _ hst, hrest⟩
    | null | bool _ | num _ | arr _ | obj _ => cases hk
  | arr items ih =>
    intro hf b hb u hu w hw h
    have hk := kind_eq hp hf hb h
    cases b with
    | arr items' =>
      have hitems : ∀ v ∈ items, v ∈ finite := finiteItems_iff.mp hf
      have hread := readsOff_separated (by decide) (jsonText_starts hp) (cons_mem_stops (.inl rfl))
        (cons_mem_stops (.inr (.inl rfl))) hitems fun v hv => ih v hv (hitems v hv)
      rw [jsonText_arr, jsonText_arr] at h
      obtain ⟨hsame, hrest⟩ := hread.cons '[' items' (finiteItems_iff.mp hb) u trivial w trivial h
      exact ⟨congrArg _ hsame, hrest⟩
    | null | bool _ | num _ | str _ | obj _ => cases hk
  | obj fields ih =>
    intro hf b hb u hu w hw h
    have hk := kind_eq hp hf hb h
    cases b with
    | obj fields' =>
      have hfields (fs : List (String × Json)) (hf : FiniteFields fs) : ∀ f ∈ fs, f ∈ Set.univ ×ˢ finite :=
        fun f h => ⟨trivial, finiteFields_iff.mp hf f h⟩
      have hread := readsOff_separated (by decide) (fieldText_starts host) (cons_mem_stops (.inl rfl))
        (cons_mem_stops (.inr (.inr rfl))) (hfields fields hf) fun f hmem =>
          fieldText_readsOff (ih f hmem (finiteFields_iff.mp hf f hmem))
      rw [jsonText_obj, jsonText_obj] at h
      obtain ⟨hsame, hrest⟩ := hread.cons '\x7b' fields' (hfields fields' hb) u trivial w trivial h
      exact ⟨congrArg _ hsame, hrest⟩
    | null | bool _ | num _ | str _ | arr _ => cases hk

theorem stringify_injOn (hp : PrintsNumbers host) : finite.InjOn (stringify host) := by
  intro a ha b hb h
  exact injOn_of_readsOff nil_mem_stops (fun v => jsonText_readsOff hp v) ha hb (congrArg String.toList h)

end Texts

section CodeUnits

def charUnits (c : Char) : List Nat :=
  if c.toNat < 0x10000 then [c.toNat]
  else [0xD800 + (c.toNat - 0x10000) / 0x400, 0xDC00 + (c.toNat - 0x10000) % 0x400]

/-- No code unit of a character is the first of a surrogate pair. -/
theorem charUnits_readsOff (c : Char) : ReadsOff Set.univ charUnits Set.univ c := by
  intro d _ u _ w _ h
  have hvalid (c : Char) : c.toNat < 0xD800 ∨ (0xDFFF < c.toNat ∧ c.toNat < 0x110000) := c.valid
  have hc := hvalid c
  have hd := hvalid d
  suffices hn : c.toNat = d.toNat by
    obtain rfl := Char.toNat_inj.mp hn
    exact ⟨rfl, List.append_cancel_left h⟩
  unfold charUnits at h
  split_ifs at h
  all_goals simp only [List.cons_append, List.cons.injEq] at h; omega

theorem codeUnits_injective : Function.Injective codeUnits := by
  intro s t h
  have hstarts : Starts charUnits Set.univ 0x10000 := by
    intro c _
    have hc : c.toNat < 0x110000 := by
      have hvalid : c.toNat < 0xD800 ∨ (0xDFFF < c.toNat ∧ c.toNat < 0x110000) := c.valid
      omega
    rw [charUnits]
    split_ifs with hs
    · exact ⟨_, _, rfl, by omega⟩
    · exact ⟨_, _, rfl, by omega⟩
  have hread : ReadsOff Set.univ (closed charUnits 0x10000) {cs | ∀ c ∈ cs, c ∈ Set.univ} s.toList :=
    readsOff_closed hstarts (fun _ _ => trivial) fun c _ => charUnits_readsOff c
  refine String.toList_injective (hread t.toList (fun _ _ => trivial) [] trivial [] trivial ?_).1
  rw [closed_eq, closed_eq]
  exact congrArg (· ++ [0x10000] ++ []) h

end CodeUnits

section Values

theorem sizeOf_field {f : String × Json} {fields : List (String × Json)} (h : f ∈ fields) :
    sizeOf f.2 < sizeOf (Json.obj fields) := by
  have hf := List.sizeOf_lt_of_mem h
  obtain ⟨key, v⟩ := f
  rw [Prod.mk.sizeOf_spec] at hf
  rw [Json.obj.sizeOf_spec]
  dsimp only
  omega

theorem sizeOf_item {v : Json} {items : List Json} (h : v ∈ items) : sizeOf v < sizeOf (Json.arr items) := by
  have hv := List.sizeOf_lt_of_mem h
  rw [Json.arr.sizeOf_spec]
  omega

/-- The value that is written: a number that is not finite has the text of `null`. -/
def written : Json → Json
  | .num (.finite q) => .num (.finite q)
  | .num _ => .null
  | .arr items => .arr (items.map written)
  | .obj fields => .obj (fields.map fun f => (f.1, written f.2))
  | v => v
decreasing_by
  · exact sizeOf_item ‹_›
  · exact sizeOf_field ‹_›

def keysSorted : Json → Json
  | .arr items => .arr (items.map keysSorted)
  | .obj fields => .obj (sortBy (fun f => codeUnits f.1) (· ≤ ·) (fields.map fun f => (f.1, keysSorted f.2)))
  | v => v
decreasing_by
  · exact sizeOf_item ‹_›
  · exact sizeOf_field ‹_›

/-- Equal up to the order of the keys of objects, at every level. -/
def SameValue : Json → Json → Prop
  | .arr items, .arr items' => items.length = items'.length ∧ ∀ p ∈ items.zip items', SameValue p.1 p.2
  | .obj fields, .obj fields' => (fields.map Prod.fst).Perm (fields'.map Prod.fst) ∧
      ∀ f ∈ fields, ∀ g ∈ fields', f.1 = g.1 → SameValue f.2 g.2
  | a, b => a = b
termination_by a => a
decreasing_by
  · exact sizeOf_item (List.of_mem_zip ‹_›).1
  · exact sizeOf_field (by assumption)

attribute [simp] written keysSorted SameValue

end Values

section Canonical

variable {host : Host} {a b v : Json}

theorem written_finite (v : Json) : (written v).Finite := by
  induction v using json_induction with
  | null | bool _ | str _ => simp
  | num x => cases x <;> simp
  | arr items ih =>
    rw [written]
    refine finiteItems_iff.mpr fun v hv => ?_
    obtain ⟨item, hitem, rfl⟩ := List.mem_map.mp hv
    exact ih item hitem
  | obj fields ih =>
    rw [written]
    refine finiteFields_iff.mpr fun f hf => ?_
    obtain ⟨field, hfield, rfl⟩ := List.mem_map.mp hf
    exact ih field hfield

theorem written_keysDistinct (v : Json) : v.KeysDistinct → (written v).KeysDistinct := by
  induction v using json_induction with
  | null | bool _ | str _ => simp
  | num x => cases x <;> simp
  | arr items ih =>
    intro h
    rw [written]
    refine keysDistinctItems_iff.mpr fun v hv => ?_
    obtain ⟨item, hitem, rfl⟩ := List.mem_map.mp hv
    exact ih item hitem (keysDistinctItems_iff.mp h item hitem)
  | obj fields ih =>
    rintro ⟨hkeys, hvalues⟩
    rw [written]
    refine ⟨?_, keysDistinctFields_iff.mpr fun f hf => ?_⟩
    · rw [List.map_map]
      exact hkeys
    · obtain ⟨field, hfield, rfl⟩ := List.mem_map.mp hf
      exact ih field hfield (keysDistinctFields_iff.mp hvalues field hfield)

theorem written_of_finite (v : Json) : v.Finite → written v = v := by
  induction v using json_induction with
  | null | bool _ | str _ =>
    intro _
    rw [written]
    all_goals nofun
  | num x =>
    rintro ⟨q, rfl⟩
    rw [written]
  | arr items ih =>
    intro h
    rw [written, List.map_congr_left fun v hv => ih v hv (finiteItems_iff.mp h v hv), List.map_id']
  | obj fields ih =>
    intro h
    have hfields : fields.map (fun f => (f.1, written f.2)) = fields := by
      conv_rhs => rw [← List.map_id fields]
      apply List.map_congr_left
      intro f hf
      rw [ih f hf (finiteFields_iff.mp h f hf)]
      rfl
    rw [written, hfields]

theorem keysSorted_finite (v : Json) : v.Finite → (keysSorted v).Finite := by
  induction v using json_induction with
  | null | bool _ | num _ | str _ =>
    intro h
    rw [keysSorted]
    · exact h
    all_goals nofun
  | arr items ih =>
    intro h
    rw [keysSorted]
    refine finiteItems_iff.mpr fun v hv => ?_
    obtain ⟨item, hitem, rfl⟩ := List.mem_map.mp hv
    exact ih item hitem (finiteItems_iff.mp h item hitem)
  | obj fields ih =>
    intro h
    rw [keysSorted]
    refine finiteFields_iff.mpr fun f hf => ?_
    obtain ⟨field, hfield, rfl⟩ := List.mem_map.mp (mem_sortBy.mp hf)
    exact ih field hfield (finiteFields_iff.mp h field hfield)

theorem canonicalItems_eq (items : List Json) : canonicalItems host items = items.map (canonicalJson host) := by
  induction items with
  | nil => rfl
  | cons v items ih => rw [canonicalItems, ih, List.map_cons]

theorem canonicalFields_eq (fields : List (String × Json)) :
    canonicalFields host fields = fields.map fun f => (f.1, canonicalJson host f.2) := by
  induction fields with
  | nil => rfl
  | cons f fields ih => rw [canonicalFields, ih, List.map_cons]

theorem canonicalJson_eq_stringify (v : Json) : canonicalJson host v = stringify host (keysSorted (written v)) := by
  induction v using json_induction with
  | null | bool _ | str _ => simp
  | num x => cases x <;> simp
  | arr items ih =>
    rw [canonicalJson, written, keysSorted, stringify, canonicalItems_eq, stringifyItems_eq, List.map_map,
      List.map_map, List.map_congr_left ih]
    rfl
  | obj fields ih =>
    have hfields : canonicalFields host fields =
        ((fields.map fun f => (f.1, written f.2)).map fun f => (f.1, keysSorted f.2)).map
          fun f => (f.1, stringify host f.2) := by
      rw [canonicalFields_eq, List.map_map, List.map_map]
      apply List.map_congr_left
      intro f hf
      rw [ih f hf]
      rfl
    have hsort (xs : List (String × Json)) :
        sortBy (fun f : String × String => codeUnits f.1) (· ≤ ·) (xs.map fun f => (f.1, stringify host f.2)) =
          (sortBy (fun f : String × Json => codeUnits f.1) (· ≤ ·) xs).map fun f => (f.1, stringify host f.2) :=
      sortBy_map _ fun _ _ => rfl
    rw [canonicalJson, written, keysSorted, stringify, stringifyFields_eq, hfields]
    change _ ++ ",".intercalate ((sortBy _ _ _).map _) ++ _ = _
    rw [hsort, List.map_map]
    rfl

theorem canonicalJson_congr {host' : Host} (h : host'.numberToString = host.numberToString) (v : Json) :
    canonicalJson host' v = canonicalJson host v := by
  rw [canonicalJson_eq_stringify, canonicalJson_eq_stringify, stringify_congr h]

theorem itemTexts_congr {host' : Host} {items : List Json} (h : ∀ v ∈ items, v.text host' = v.text host) :
    itemTexts host' items = itemTexts host items := by
  induction items with
  | nil => rw [itemTexts, itemTexts]
  | cons v items ih =>
    have hv := h v List.mem_cons_self
    have hitems := ih fun w hw => h w (List.mem_cons_of_mem _ hw)
    cases v with
    | null => rw [itemTexts, itemTexts, hitems]
    | bool _ | num _ | str _ | arr _ | obj _ =>
      rw [itemTexts, itemTexts, hv, hitems]
      all_goals nofun

theorem text_congr {host' : Host} (h : host'.numberToString = host.numberToString) (v : Json) :
    v.text host' = v.text host := by
  induction v using json_induction with
  | null | bool _ | str _ | obj _ => rw [Json.text, Json.text]
  | num x =>
    rw [Json.text, Json.text]
    cases x with
    | finite q => rw [numberText, numberText, h]
    | infinite _ | nan => rfl
  | arr items ih => rw [Json.text, Json.text, itemTexts_congr ih]

theorem map_eq_map_iff {α β : Type} {f : α → β} {xs ys : List α} :
    xs.map f = ys.map f ↔ xs.length = ys.length ∧ ∀ p ∈ xs.zip ys, f p.1 = f p.2 := by
  rw [← List.forall₂_eq_eq_eq, List.forall₂_map_left_iff, List.forall₂_map_right_iff, List.forall₂_iff_zip]
  simp only [Prod.forall]

/-- Sorting the keys of two values leaves the same value exactly when they differ in
the order of keys alone. -/
theorem keysSorted_eq_iff (a : Json) : ∀ b : Json, a.KeysDistinct → b.KeysDistinct →
    (keysSorted a = keysSorted b ↔ SameValue a b) := by
  induction a using json_induction with
  | null | bool _ | num _ | str _ =>
    intro b _ _
    cases b <;> simp
  | arr items ih =>
    intro b ha hb
    cases b with
    | arr items' =>
      rw [keysSorted, keysSorted, SameValue, Json.arr.injEq, map_eq_map_iff]
      refine and_congr_right fun _ => forall₂_congr fun p hp => ?_
      obtain ⟨h₁, h₂⟩ := List.of_mem_zip hp
      exact ih p.1 h₁ p.2 (keysDistinctItems_iff.mp ha p.1 h₁) (keysDistinctItems_iff.mp hb p.2 h₂)
    | null | bool _ | num _ | str _ | obj _ => simp
  | obj fields ih =>
    intro b ha hb
    cases b with
    | obj fields' =>
      have hkeys : ((fields.map fun f => (f.1, keysSorted f.2)).map Prod.fst).Nodup := by
        rw [List.map_map]
        exact ha.1
      have hunits : ((fields.map fun f => (f.1, keysSorted f.2)).map fun f => codeUnits f.1).Nodup := by
        have hnodup := hkeys.map codeUnits_injective
        rw [List.map_map] at hnodup
        exact hnodup
      rw [keysSorted, keysSorted, SameValue, Json.obj.injEq,
        sortBy_eq_iff_perm hunits, perm_iff_of_keys hkeys,
        List.map_map, List.map_map]
      refine and_congr_right fun _ => ?_
      constructor
      · intro h f hf g hg hfg
        have hsame := h _ (List.mem_map_of_mem hf) _ (List.mem_map_of_mem hg) hfg
        exact (ih f hf g.2 (keysDistinctFields_iff.mp ha.2 f hf) (keysDistinctFields_iff.mp hb.2 g hg)).mp
          (congrArg Prod.snd hsame)
      · intro h x hx y hy hxy
        obtain ⟨f, hf, rfl⟩ := List.mem_map.mp hx
        obtain ⟨g, hg, rfl⟩ := List.mem_map.mp hy
        exact Prod.ext hxy ((ih f hf g.2 (keysDistinctFields_iff.mp ha.2 f hf)
          (keysDistinctFields_iff.mp hb.2 g hg)).mpr (h f hf g hg hxy))
    | null | bool _ | num _ | str _ | arr _ => simp

/-- Two values have one canonical text exactly when they differ in the order of keys
alone, as they are written. -/
theorem canonicalJson_eq_iff (hp : PrintsNumbers host) (ha : a.KeysDistinct) (hb : b.KeysDistinct) :
    canonicalJson host a = canonicalJson host b ↔ SameValue (written a) (written b) := by
  rw [canonicalJson_eq_stringify, canonicalJson_eq_stringify,
    (stringify_injOn hp).eq_iff (keysSorted_finite _ (written_finite a)) (keysSorted_finite _ (written_finite b)),
    keysSorted_eq_iff _ _ (written_keysDistinct a ha) (written_keysDistinct b hb)]

theorem canonicalJson_arr_iff (hp : PrintsNumbers host) {items items' : List Json}
    (hi : ∀ v ∈ items, v.KeysDistinct) (hi' : ∀ v ∈ items', v.KeysDistinct) :
    canonicalJson host (.arr items) = canonicalJson host (.arr items') ↔
      items.map (canonicalJson host) = items'.map (canonicalJson host) := by
  constructor
  · intro h
    have hk : (Json.arr items).KeysDistinct := keysDistinctItems_iff.mpr hi
    have hk' : (Json.arr items').KeysDistinct := keysDistinctItems_iff.mpr hi'
    have hsame := (canonicalJson_eq_iff hp hk hk').mp h
    rw [written, written, SameValue, List.length_map, List.length_map, List.zip_map] at hsame
    refine map_eq_map_iff.mpr ⟨hsame.1, fun p hmem => ?_⟩
    obtain ⟨h₁, h₂⟩ := List.of_mem_zip hmem
    exact (canonicalJson_eq_iff hp (hi p.1 h₁) (hi' p.2 h₂)).mpr (hsame.2 _ (List.mem_map_of_mem hmem))
  · intro h
    rw [canonicalJson, canonicalJson, canonicalItems_eq, canonicalItems_eq, h]

end Canonical

section Sample

/-- A number without its sign: its numerator and, when it is not whole, its denominator. -/
def magnitude (q : ℚ) : List Char :=
  Nat.toDigits 10 q.num.natAbs ++ if q.den = 1 then [] else 'e' :: Nat.toDigits 10 q.den

def numberName (q : ℚ) : List Char := if q.num < 0 then '-' :: magnitude q else magnitude q

theorem isDigit_toDigits {n : Nat} : ∀ c ∈ Nat.toDigits 10 n, c.isDigit = true :=
  fun _ hc => Nat.isDigit_of_mem_toDigits (by decide) (by decide) hc

theorem toDigits_injective : Function.Injective (Nat.toDigits 10) :=
  Function.LeftInverse.injective fun _ => Nat.ofDigitChars_ten_toDigits

theorem magnitude_opens (q : ℚ) : ∃ c rest, magnitude q = c :: rest ∧ c.isDigit = true := by
  obtain ⟨c, rest, hc⟩ := List.exists_cons_of_ne_nil (Nat.toDigits_ne_nil (b := 10) (n := q.num.natAbs))
  rw [magnitude, hc]
  exact ⟨c, _, rfl, isDigit_toDigits c (hc ▸ List.mem_cons_self)⟩

theorem magnitude_chars (q : ℚ) : ∀ c ∈ magnitude q, c.isDigit = true ∨ c = 'e' := by
  intro c hc
  rw [magnitude, List.mem_append] at hc
  cases hc with
  | inl hc => exact .inl (isDigit_toDigits c hc)
  | inr hc =>
    split_ifs at hc
    · cases hc
    · exact (List.mem_cons.mp hc).symm.imp_left (isDigit_toDigits c)

theorem magnitude_eq {p q : ℚ} (h : magnitude p = magnitude q) : p.num.natAbs = q.num.natAbs ∧ p.den = q.den := by
  have hend (n : Nat) : ∀ c ∈ (if n = 1 then [] else 'e' :: Nat.toDigits 10 n).head?, ¬ c.isDigit = true := by
    intro c hc
    split_ifs at hc
    · cases hc
    · cases hc
      decide
  obtain ⟨hnum, hden⟩ := append_inj_of_all isDigit_toDigits isDigit_toDigits (hend p.den) (hend q.den) h
  refine ⟨toDigits_injective hnum, ?_⟩
  split_ifs at hden with hp hq hq
  · rw [hp, hq]
  · exact toDigits_injective (List.cons.inj hden).2

theorem numberName_chars (q : ℚ) : ∀ c ∈ numberName q, c.isDigit = true ∨ c ∈ ['+', '-', '.', 'e'] := by
  intro c hc
  have hmagnitude (h : c ∈ magnitude q) : c.isDigit = true ∨ c ∈ ['+', '-', '.', 'e'] := by
    refine (magnitude_chars q c h).imp_right ?_
    rintro rfl
    decide
  unfold numberName at hc
  split_ifs at hc
  · cases List.mem_cons.mp hc with
    | inl hc =>
      subst hc
      exact .inr (by decide)
    | inr hc => exact hmagnitude hc
  · exact hmagnitude hc

theorem numberName_injective : Function.Injective numberName := by
  intro p q h
  -- the sign is no digit
  have hsign (q : ℚ) (rest : List Char) : magnitude q ≠ '-' :: rest := by
    obtain ⟨c, rest', hq, hc⟩ := magnitude_opens q
    rw [hq]
    intro he
    rw [(List.cons.inj he).1] at hc
    exact absurd hc (by decide)
  unfold numberName at h
  split_ifs at h with hpn hqn hqn
  · obtain ⟨hnum, hden⟩ := magnitude_eq (List.cons.inj h).2
    exact Rat.ext (by omega) hden
  · exact absurd h.symm (hsign q _)
  · exact absurd h (hsign p _)
  · obtain ⟨hnum, hden⟩ := magnitude_eq h
    exact Rat.ext (by omega) hden

def exactly (host : Host) : Host := { host with numberToString := fun q => String.ofList (numberName q) }

theorem exactly_prints (host : Host) : PrintsNumbers (exactly host) where
  injective _ _ h := numberName_injective (String.ofList_injective h)
  nonempty := by
    intro q h
    obtain ⟨c, rest, hq, _⟩ := magnitude_opens q
    simp only [exactly, String.toList_ofList, numberName, hq] at h
    split_ifs at h
  chars := by
    intro q c hc
    simp only [exactly, String.toList_ofList] at hc
    exact numberName_chars q c hc

def reading (host : Host) (value : Json) (hk : value.KeysDistinct) : Host :=
  { host with
    jsonParse := fun contents => if contents = stringify host value ++ "\n" then some value else none
    jsonParse_keys := by
      intro contents v h
      split_ifs at h
      exact Option.some.inj h ▸ hk }

theorem reading_reads (host : Host) (value : Json) (hk : value.KeysDistinct) :
    (reading host value hk).jsonParse (stringify (reading host value hk) value ++ "\n") = some value := by
  have hnumbers : (reading host value hk).numberToString = host.numberToString := rfl
  rw [stringify_congr hnumbers]
  exact if_pos rfl

theorem PrintsNumbers.reading {host : Host} {value : Json} {hk : value.KeysDistinct} (h : PrintsNumbers host) :
    PrintsNumbers (reading host value hk) := ⟨h.injective, h.nonempty, h.chars⟩

end Sample

end SanBridge.Tooling.Canonical
