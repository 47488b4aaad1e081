import KeylimeCommon.Basic

/-! # UUID text and `get_uuid`

The uuid crate lies outside the repository; what `get_uuid` needs of it is modelled here. A
UUID is sixteen bytes, `Display` writes them as lowercase hex in groups of 8-4-4-4-12
digits, and `Uuid::parse_str` reads the simple, hyphenated and urn layouts with digits in
either case. Parsing the text `Display` writes, with its letters in any case, gives the UUID back,
and from that `get_uuid` is idempotent whatever the random draws.
-/
namespace KeylimeCommon

/-- A UUID as the uuid crate stores it: sixteen bytes, most significant first. -/
structure Uuid where
  bytes : List UInt8
  length_bytes : bytes.length = 16
  deriving DecidableEq, Repr

namespace Uuid

/-- The digits `Display` writes, LOWER of the uuid crate. -/
def LOWER : List Char := "0123456789abcdef".toList

def byteHex (b : UInt8) : List Char := [LOWER.getD (b.toNat / 16) '0', LOWER.getD (b.toNat % 16) '0']

def groups (bs : List UInt8) : List (List UInt8) :=
  [bs.take 4, (bs.drop 4).take 2, (bs.drop 6).take 2, (bs.drop 8).take 2, bs.drop 10]

/-- `Display`: the hyphenated layout in lowercase hex. -/
def toString (u : Uuid) : String :=
  ⟨['-'].intercalate ((groups u.bytes).map fun g => g.flatMap byteHex)⟩

/-- The value of one digit as `parse_str` reads it, in either case. -/
def hexValue (c : Char) : Option Nat :=
  if '0' ≤ c ∧ c ≤ '9' then some (c.toNat - '0'.toNat)
  else if 'a' ≤ c ∧ c ≤ 'f' then some (c.toNat - 'a'.toNat + 10)
  else if 'A' ≤ c ∧ c ≤ 'F' then some (c.toNat - 'A'.toNat + 10)
  else none

/-- Pairs of digits, high digit first, as bytes. -/
def decodeHex : List Char → Option (List UInt8)
  | hi :: lo :: cs => do
    let h ← hexValue hi
    let l ← hexValue lo
    let rest ← decodeHex cs
    pure ((h * 16 + l).toUInt8 :: rest)
  | [] => some []
  | [_] => none

/-- The digits of an 8-4-4-4-12 text: its hyphens separate exactly five groups of those
lengths. -/
def dehyphenate (cs : List Char) : Option (List Char) :=
  let parts := cs.splitOn '-'
  if parts.map List.length = [8, 4, 4, 4, 12] then some parts.flatten else none

def ofBytes? (bs : List UInt8) : Option Uuid := if h : bs.length = 16 then some ⟨bs, h⟩ else none

/-- `Uuid::parse_str`: 32 digits, the hyphenated layout, or the hyphenated layout behind
`urn:uuid:`. Lengths are counted in characters: every text it accepts is ASCII, where that
agrees with the crate's byte lengths. -/
def parseStr (input : String) : Option Uuid :=
  let cs := input.toList
  let cs := if cs.length = 45 ∧ "urn:uuid:".toList.isPrefixOf cs = true then cs.drop 9 else cs
  let digits := if cs.length = 32 then some cs else dehyphenate cs
  (digits.bind decodeHex).bind ofBytes?

/-- Canonical UUID text: five groups of 8, 4, 4, 4 and 12 lowercase hex digits joined by
hyphens. -/
def IsCanonical (s : String) : Prop :=
  ∃ g : List (List Char), g.map List.length = [8, 4, 4, 4, 12] ∧ (∀ d ∈ g, ∀ c ∈ d, c ∈ LOWER) ∧
    s.toList = ['-'].intercalate g

theorem lower_mem : ∀ n < 16, LOWER.getD n '0' ∈ LOWER := by decide

theorem hexValue_lower : ∀ n < 16, hexValue (LOWER.getD n '0') = some n := by decide

theorem byteHex_mem {b : UInt8} {c : Char} (h : c ∈ byteHex b) : c ∈ LOWER := by
  have hb := b.toNat_lt
  simp only [byteHex, List.mem_cons, List.not_mem_nil, or_false] at h
  rcases h with rfl | rfl <;> exact lower_mem _ (by omega)

theorem length_flatMap_byteHex (bs : List UInt8) : (bs.flatMap byteHex).length = 2 * bs.length := by
  induction bs with
  | nil => rfl
  | cons b bs ih => simp [byteHex, ih]; omega

/-- A change of letter case as far as `parse_str` can tell: the hyphen stays, and each digit
`Display` writes keeps its value. -/
def KeepsDigits (f : Char → Char) : Prop := f '-' = '-' ∧ ∀ c ∈ LOWER, hexValue (f c) = hexValue c

theorem keepsDigits_id : KeepsDigits id := ⟨rfl, fun _ _ => rfl⟩

theorem lower_hexValue_ne : ∀ c ∈ LOWER, hexValue c ≠ hexValue '-' := by decide

theorem decodeHex_map_flatMap_byteHex {f : Char → Char} (hf : KeepsDigits f) (bs : List UInt8) :
    decodeHex ((bs.flatMap byteHex).map f) = some bs := by
  induction bs with
  | nil => rfl
  | cons b bs ih =>
    have hb := b.toNat_lt
    have hv : (b.toNat / 16 * 16 + b.toNat % 16).toUInt8 = b := UInt8.toNat.inj (by
      rw [show b.toNat / 16 * 16 + b.toNat % 16 = b.toNat by omega]
      exact UInt8.toNat_ofNat_of_lt hb)
    have hi : b.toNat / 16 < 16 := by omega
    have lo : b.toNat % 16 < 16 := by omega
    rw [List.flatMap_cons, show byteHex b ++ bs.flatMap byteHex =
      LOWER.getD (b.toNat / 16) '0' :: LOWER.getD (b.toNat % 16) '0' :: bs.flatMap byteHex from rfl,
      List.map_cons, List.map_cons]
    rw [decodeHex, hf.2 _ (lower_mem _ hi), hexValue_lower _ hi, hf.2 _ (lower_mem _ lo),
      hexValue_lower _ lo, ih]
    exact congrArg (some <| · :: bs) hv

theorem map_intercalate {α β : Type} (f : α → β) (sep : List α) : ∀ G : List (List α),
    (sep.intercalate G).map f = (sep.map f).intercalate (G.map (List.map f))
  | [] => rfl
  | [_] => by simp [List.intercalate]
  | g :: h :: G => by
    have ih := map_intercalate f sep (h :: G)
    simp only [List.intercalate, List.map_cons, List.intersperse_cons₂, List.flatten_cons,
      List.map_append] at ih ⊢
    rw [ih]

theorem flatten_map_flatMap {α β : Type} (L : List (List α)) (f : α → List β) :
    (L.map fun g => g.flatMap f).flatten = L.flatten.flatMap f := by
  induction L <;> simp [*, List.flatMap_append]

theorem flatten_groups (bs : List UInt8) : (groups bs).flatten = bs := by
  have h6 : bs.drop 6 = (bs.drop 4).drop 2 := (List.drop_drop 2 4 bs).symm
  have h8 : bs.drop 8 = (bs.drop 6).drop 2 := (List.drop_drop 2 6 bs).symm
  have h10 : bs.drop 10 = (bs.drop 8).drop 2 := (List.drop_drop 2 8 bs).symm
  simp only [groups, List.flatten, List.append_nil]
  rw [h10, List.take_append_drop, h8, List.take_append_drop, h6, List.take_append_drop,
    List.take_append_drop]

def digitGroups (u : Uuid) : List (List Char) := (groups u.bytes).map fun g => g.flatMap byteHex

theorem digitGroups_length (u : Uuid) : (digitGroups u).map List.length = [8, 4, 4, 4, 12] := by
  simp only [digitGroups, groups, List.map_cons, List.map_nil, length_flatMap_byteHex,
    List.length_take, List.length_drop, u.length_bytes]
  rfl

theorem toString_isCanonical (u : Uuid) : IsCanonical u.toString := by
  refine ⟨digitGroups u, digitGroups_length u, ?_, rfl⟩
  intro d hd c hc
  obtain ⟨g, -, rfl⟩ := List.mem_map.1 hd
  obtain ⟨b, -, hb⟩ := List.mem_flatMap.1 hc
  exact byteHex_mem hb

theorem IsCanonical.length {s : String} (h : IsCanonical s) : s.length = AGENT_UUID_LEN := by
  obtain ⟨g, hg, -, hs⟩ := h
  simp only [List.map_eq_cons_iff, List.map_eq_nil_iff] at hg
  obtain ⟨g₁, _, rfl, h₁, g₂, _, rfl, h₂, g₃, _, rfl, h₃, g₄, _, rfl, h₄, g₅, _, rfl, h₅, rfl⟩ := hg
  rw [← String.length_data, show s.data = s.toList from rfl, hs]
  simp only [List.intercalate, List.intersperse_cons_cons, List.intersperse_singleton,
    List.flatten_cons, List.flatten_nil, List.length_append, List.length_singleton, h₁, h₂, h₃,
    h₄, h₅, List.append_nil]
  rfl

theorem toString_length (u : Uuid) : u.toString.length = AGENT_UUID_LEN :=
  (toString_isCanonical u).length

/-- Parsing the text `Display` writes, in any letter case `f` makes of it, gives the UUID
back. -/
theorem parseStr_map_toString {f : Char → Char} (hf : KeepsDigits f) (u : Uuid) :
    parseStr ⟨u.toString.data.map f⟩ = some u := by
  have hmap : u.toString.data.map f = ['-'].intercalate ((digitGroups u).map (List.map f)) := by
    rw [show u.toString.data = ['-'].intercalate (digitGroups u) from rfl, map_intercalate]
    simp [hf.1]
  have hlen : (u.toString.data.map f).length = 36 := by
    rw [List.length_map, String.length_data]
    exact toString_length u
  have hsplit : (u.toString.data.map f).splitOn '-' = (digitGroups u).map (List.map f) := by
    rw [hmap]
    refine List.splitOn_intercalate _ _ ?_ (by simp [digitGroups, groups])
    intro d hd hm
    obtain ⟨g, hg, rfl⟩ := List.mem_map.1 hd
    obtain ⟨c, hc, hfc⟩ := List.mem_map.1 hm
    obtain ⟨bs, -, rfl⟩ := List.mem_map.1 hg
    obtain ⟨b, -, hb⟩ := List.mem_flatMap.1 hc
    have hL := byteHex_mem hb
    exact lower_hexValue_ne c hL (by rw [← hf.2 c hL, hfc])
  have hdigits : ((digitGroups u).map (List.map f)).flatten = (u.bytes.flatMap byteHex).map f := by
    rw [← List.map_flatten, digitGroups, flatten_map_flatMap, flatten_groups]
  have hlengths : ((digitGroups u).map (List.map f)).map List.length = [8, 4, 4, 4, 12] := by
    simpa [Function.comp_def] using digitGroups_length u
  simp [parseStr, hlen, dehyphenate, hsplit, hlengths, hdigits, decodeHex_map_flatMap_byteHex hf,
    ofBytes?, u.length_bytes]

/-- Parsing the text `Display` writes gives the UUID back. -/
theorem parseStr_toString (u : Uuid) : parseStr u.toString = some u := by
  simpa using parseStr_map_toString keepsDigits_id u

theorem eq_of_toString_eq {u u' : Uuid} (h : u.toString = u'.toString) : u = u' := by
  have hu := parseStr_map_toString keepsDigits_id u
  rw [h, parseStr_map_toString keepsDigits_id u'] at hu
  exact (Option.some.inj hu).symm

end Uuid

/-- `get_uuid`: the two tags pass through, `"generate"` takes the random UUID `newV4`, and any
other text is parsed, falling back to `newV4` when it is not a UUID. -/
def getUuid (agentUuidConfig : String) (newV4 : Uuid) : String :=
  match agentUuidConfig with
  | "openstack" => "openstack"
  | "hash_ek" => "hash_ek"
  | "generate" => newV4.toString
  | uuidConfig =>
    match Uuid.parseStr uuidConfig with
    | some uuid => uuid.toString
    | none => newV4.toString

theorem getUuid_of_parseStr {s : String} {u : Uuid} (h : Uuid.parseStr s = some u) (newV4 : Uuid) :
    getUuid s newV4 = u.toString := by
  have h₁ : s ≠ "openstack" := by
    rintro rfl; simp [show Uuid.parseStr "openstack" = none by decide] at h
  have h₂ : s ≠ "hash_ek" := by
    rintro rfl; simp [show Uuid.parseStr "hash_ek" = none by decide] at h
  have h₃ : s ≠ "generate" := by
    rintro rfl; simp [show Uuid.parseStr "generate" = none by decide] at h
  rw [getUuid.eq_4 _ _ h₁ h₂ h₃, h]

theorem getUuid_eq_toString {s : String} (h₁ : s ≠ "openstack") (h₂ : s ≠ "hash_ek")
    (newV4 : Uuid) : ∃ u : Uuid, getUuid s newV4 = u.toString := by
  by_cases h₃ : s = "generate"
  · subst h₃; exact ⟨newV4, rfl⟩
  · rw [getUuid.eq_4 _ _ h₁ h₂ h₃]
    cases Uuid.parseStr s with
    | some u => exact ⟨u, rfl⟩
    | none => exact ⟨newV4, rfl⟩

theorem getUuid_toString (u newV4 : Uuid) : getUuid u.toString newV4 = u.toString :=
  getUuid_of_parseStr (by simpa using Uuid.parseStr_map_toString Uuid.keepsDigits_id u) newV4

/-- The draw shows only for `"generate"` and for text that is not a UUID. -/
theorem getUuid_draw {s : String} (h : s = "openstack" ∨ s = "hash_ek" ∨ (Uuid.parseStr s).isSome)
    (newV4 newV4' : Uuid) : getUuid s newV4 = getUuid s newV4' := by
  rcases h with rfl | rfl | h
  · rfl
  · rfl
  · obtain ⟨u, hu⟩ := Option.isSome_iff_exists.1 h
    rw [getUuid_of_parseStr hu, getUuid_of_parseStr hu]

/-- Any other value, "generate" among them, gives the text of the draw. -/
theorem getUuid_fresh {s : String} (h : ¬(s = "openstack" ∨ s = "hash_ek" ∨ (Uuid.parseStr s).isSome))
    (newV4 : Uuid) : getUuid s newV4 = newV4.toString := by
  simp only [not_or, Option.not_isSome_iff_eq_none] at h
  obtain ⟨h₁, h₂, h₃⟩ := h
  by_cases hg : s = "generate"
  · subst hg; rfl
  · rw [getUuid.eq_4 _ _ h₁ h₂ hg, h₃]

theorem getUuid_cases (s : String) (newV4 : Uuid) :
    getUuid s newV4 = "openstack" ∨ getUuid s newV4 = "hash_ek" ∨ ∃ u : Uuid, getUuid s newV4 = u.toString := by
  by_cases h₁ : s = "openstack"
  · subst h₁; exact .inl rfl
  by_cases h₂ : s = "hash_ek"
  · subst h₂; exact .inr (.inl rfl)
  exact .inr (.inr (getUuid_eq_toString h₁ h₂ newV4))

theorem getUuid_wellFormed (s : String) (newV4 : Uuid) :
    getUuid s newV4 = "openstack" ∨ getUuid s newV4 = "hash_ek" ∨ Uuid.IsCanonical (getUuid s newV4) :=
  (getUuid_cases s newV4).imp_right (Or.imp_right fun ⟨u, h⟩ => h ▸ Uuid.toString_isCanonical u)

/-- `get_uuid` passes the two tags through and turns every other input into canonical UUID
text of AGENT_UUID_LEN characters; a text `parse_str` accepts keeps its UUID, and a second
call returns the first result whatever either call draws. -/
theorem getUuid_spec (s : String) (newV4 newV4' : Uuid) :
    (s = "openstack" → getUuid s newV4 = "openstack") ∧
    (s = "hash_ek" → getUuid s newV4 = "hash_ek") ∧
    (s ≠ "openstack" → s ≠ "hash_ek" →
      (getUuid s newV4).length = AGENT_UUID_LEN ∧ Uuid.IsCanonical (getUuid s newV4)) ∧
    (∀ u, Uuid.parseStr s = some u → getUuid s newV4 = u.toString) ∧
    getUuid (getUuid s newV4) newV4' = getUuid s newV4 := by
  refine ⟨by rintro rfl; rfl, by rintro rfl; rfl, fun h₁ h₂ => ?_,
    fun u h => getUuid_of_parseStr h newV4, ?_⟩
  · obtain ⟨u, hu⟩ := getUuid_eq_toString h₁ h₂ newV4
    rw [hu]
    exact ⟨Uuid.toString_length u, Uuid.toString_isCanonical u⟩
  · rcases getUuid_cases s newV4 with h | h | ⟨u, h⟩ <;> rw [h]
    · rfl
    · rfl
    · exact getUuid_toString u newV4'

end KeylimeCommon
