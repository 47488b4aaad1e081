import KeylimeCommon.Uuid

/-! # The layouts `parse_str` accepts

`Uuid::parse_str` of uuid 0.8 reads three layouts of a UUID: its 32 hex digits, the same digits
hyphenated 8-4-4-4-12, and the hyphenated layout behind `urn:uuid:`. The digits may be in either
case, the prefix may not. Every text it accepts spells, in one of these layouts, the UUID it
returns, and every such spelling is accepted. So `get_uuid` returns the text of a UUID whatever
it draws exactly when its input spells that UUID.
-/
namespace KeylimeCommon

namespace Uuid

/-- The simple layout: the 32 digits `Display` writes, without hyphens. -/
def simple (u : Uuid) : List Char := u.bytes.flatMap byteHex

/-- `cs` spells `u` in a layout `parse_str` reads: the simple or the hyphenated layout with
digits in either case, or the hyphenated one behind the lowercase prefix `urn:uuid:`. -/
def Spells (u : Uuid) (cs : List Char) : Prop :=
  cs.map Char.toLower = u.simple ∨ cs.map Char.toLower = u.toString.data ∨
    cs.take 9 = "urn:uuid:".toList ∧ (cs.drop 9).map Char.toLower = u.toString.data

instance (u : Uuid) (cs : List Char) : Decidable (Spells u cs) :=
  inferInstanceAs (Decidable (_ ∨ _ ∨ _ ∧ _))

/-! ## Characters -/

theorem char_le_iff {c d : Char} : c ≤ d ↔ c.toNat ≤ d.toNat := Iff.rfl

theorem hexValue_toLower_of_out {c : Char} (h : c.toNat < 48 ∨ 122 < c.toNat) :
    hexValue c = none ∧ c.toLower = c := by
  have h0 : '0'.toNat = 48 := rfl
  have h9 : '9'.toNat = 57 := rfl
  have ha : 'a'.toNat = 97 := rfl
  have hf : 'f'.toNat = 102 := rfl
  have hA : 'A'.toNat = 65 := rfl
  have hF : 'F'.toNat = 70 := rfl
  refine ⟨?_, ?_⟩
  · unfold hexValue
    simp only [char_le_iff, h0, h9, ha, hf, hA, hF]
    split_ifs <;> first | rfl | omega
  · unfold Char.toLower
    exact if_neg (by omega)

/-- What `parse_str` reads of a character does not depend on its case, only the hyphen lowers
to a hyphen, and a digit lowers to the digit `Display` writes for its value. -/
theorem hexChar (c : Char) : hexValue c.toLower = hexValue c ∧ (c.toLower = '-' → c = '-') ∧
    (hexValue c).all (fun n => decide (n < 16 ∧ c.toLower = LOWER.getD n '0')) := by
  by_cases h : 48 ≤ c.toNat ∧ c.toNat < 123
  · have table : ∀ m, 48 ≤ m → m < 123 →
        hexValue (Char.ofNat m).toLower = hexValue (Char.ofNat m) ∧
        ((Char.ofNat m).toLower = '-' → Char.ofNat m = '-') ∧
        (hexValue (Char.ofNat m)).all
          (fun n => decide (n < 16 ∧ (Char.ofNat m).toLower = LOWER.getD n '0')) := by
      decide
    rw [← Char.ofNat_toNat c]
    exact table c.toNat h.1 h.2
  · have hout : c.toNat < 48 ∨ 122 < c.toNat := by omega
    obtain ⟨hnone, hlow⟩ := hexValue_toLower_of_out hout
    simp [hnone, hlow]

theorem hexValue_toLower (c : Char) : hexValue c.toLower = hexValue c := (hexChar c).1

theorem eq_hyphen_of_toLower {c : Char} (h : c.toLower = '-') : c = '-' := (hexChar c).2.1 h

theorem hexValue_eq_some {c : Char} {n : Nat} (h : hexValue c = some n) :
    n < 16 ∧ c.toLower = LOWER.getD n '0' := by
  simpa [h] using (hexChar c).2.2

/-! ## Digits -/

theorem decodeHex_map_toLower (cs : List Char) : decodeHex (cs.map Char.toLower) = decodeHex cs := by
  induction cs using decodeHex.induct with
  | case1 hi lo cs ih => simp only [List.map_cons, decodeHex, hexValue_toLower, ih]
  | case2 => rfl
  | case3 c => rfl

/-- `decodeHex` reads exactly the digits of its bytes, in either case. -/
theorem decodeHex_eq_some_iff {cs : List Char} {bs : List UInt8} :
    decodeHex cs = some bs ↔ cs.map Char.toLower = bs.flatMap byteHex := by
  constructor
  · intro h
    induction cs using decodeHex.induct generalizing bs with
    | case1 hi lo cs ih =>
      simp only [decodeHex, Option.bind_eq_bind, Option.bind_eq_some, Option.pure_def,
        Option.some.injEq] at h
      obtain ⟨h₁, hh, l, hl, rest, hr, rfl⟩ := h
      obtain ⟨hh₁, hhi⟩ := hexValue_eq_some hh
      obtain ⟨hl₁, hlo⟩ := hexValue_eq_some hl
      have hb : ((h₁ * 16 + l).toUInt8).toNat = h₁ * 16 + l := UInt8.toNat_ofNat_of_lt (show _ < 256 by omega)
      have hdiv : (h₁ * 16 + l) / 16 = h₁ := by omega
      have hmod : (h₁ * 16 + l) % 16 = l := by omega
      simp only [List.map_cons, List.flatMap_cons, byteHex, hb, hdiv, hmod, hhi, hlo, ih hr]
      rfl
    | case2 => cases h; rfl
    | case3 c => cases h
  · intro h
    rw [← decodeHex_map_toLower, h]
    simpa using decodeHex_map_flatMap_byteHex keepsDigits_id bs

theorem ofBytes?_eq_some {bs : List UInt8} {u : Uuid} : ofBytes? bs = some u ↔ bs = u.bytes := by
  constructor
  · intro h
    unfold ofBytes? at h
    split at h
    · cases h; rfl
    · cases h
  · rintro rfl
    simp [ofBytes?, u.length_bytes]

/-- The last two stages of `parse_str` accept exactly the simple layout of the UUID they
return, in either case. -/
theorem decodeHex_bind_ofBytes? {ds : List Char} {u : Uuid} :
    (decodeHex ds).bind ofBytes? = some u ↔ ds.map Char.toLower = u.simple := by
  simp only [Option.bind_eq_some, ofBytes?_eq_some, decodeHex_eq_some_iff, exists_eq_right, simple]

/-! ## Groups -/

theorem splitOnP_map {α β : Type} (f : α → β) (p : β → Bool) :
    ∀ xs : List α, (xs.map f).splitOnP p = (xs.splitOnP (p ∘ f)).map (List.map f)
  | [] => rfl
  | x :: xs => by
    rw [List.map_cons, List.splitOnP_cons, List.splitOnP_cons, splitOnP_map f p xs]
    simp only [Function.comp_apply]
    split
    · rfl
    · cases xs.splitOnP (p ∘ f) <;> rfl

theorem splitOn_map_toLower (cs : List Char) :
    (cs.map Char.toLower).splitOn '-' = (cs.splitOn '-').map (List.map Char.toLower) := by
  have hp : ((· == '-') ∘ Char.toLower) = (· == '-') := funext fun c => by
    by_cases hc : c = '-'
    · subst hc; decide
    · show (c.toLower == '-') = (c == '-')
      rw [beq_eq_false_iff_ne.2 hc, beq_eq_false_iff_ne.2 (mt eq_hyphen_of_toLower hc)]
  rw [List.splitOn, List.splitOn, splitOnP_map, hp]

theorem eq_of_flatten_eq {α : Type} : ∀ {L M : List (List α)},
    L.map List.length = M.map List.length → L.flatten = M.flatten → L = M
  | [], [], _, _ => rfl
  | [], _ :: _, h, _ => absurd h (by simp)
  | _ :: _, [], h, _ => absurd h (by simp)
  | l :: L, m :: M, hlen, hflat => by
    simp only [List.map_cons, List.cons.injEq] at hlen
    simp only [List.flatten_cons] at hflat
    obtain ⟨rfl, hrest⟩ := List.append_inj hflat hlen.1
    rw [eq_of_flatten_eq hlen.2 hrest]

theorem splitOn_toString (u : Uuid) : u.toString.data.splitOn '-' = digitGroups u := by
  refine List.splitOn_intercalate _ _ ?_ (List.cons_ne_nil _ _)
  intro d hd hm
  obtain ⟨g, -, rfl⟩ := List.mem_map.1 hd
  obtain ⟨b, -, hb⟩ := List.mem_flatMap.1 hm
  exact absurd (byteHex_mem hb) (by decide)

theorem simple_eq_flatten (u : Uuid) : u.simple = (digitGroups u).flatten := by
  rw [digitGroups, flatten_map_flatMap, flatten_groups]
  rfl

theorem simple_length (u : Uuid) : u.simple.length = 32 := by
  rw [simple, length_flatMap_byteHex, u.length_bytes]

theorem toString_data_length (u : Uuid) : u.toString.data.length = 36 := by
  rw [String.length_data]
  exact toString_length u

theorem dehyphenate_eq_some {cs ds : List Char} :
    dehyphenate cs = some ds ↔
      (cs.splitOn '-').map List.length = [8, 4, 4, 4, 12] ∧ ds = (cs.splitOn '-').flatten := by
  simp only [dehyphenate]
  split_ifs with h <;> simp [h, eq_comm]

/-- The hyphenated stages of `parse_str` accept exactly the hyphenated layout of the UUID they
return, in either case. -/
theorem dehyphenate_bind {cs : List Char} {u : Uuid} :
    ((dehyphenate cs).bind decodeHex).bind ofBytes? = some u ↔ cs.map Char.toLower = u.toString.data := by
  rw [Option.bind_assoc, Option.bind_eq_some]
  simp only [dehyphenate_eq_some, decodeHex_bind_ofBytes?]
  constructor
  · rintro ⟨_, ⟨hlen, rfl⟩, hdigits⟩
    have hgroups : (cs.splitOn '-').map (List.map Char.toLower) = digitGroups u := by
      refine eq_of_flatten_eq ?_ ?_
      · simpa [Function.comp_def] using hlen.trans (digitGroups_length u).symm
      · rw [← List.map_flatten, hdigits, simple_eq_flatten]
    calc cs.map Char.toLower = (['-'].intercalate (cs.splitOn '-')).map Char.toLower := by
          rw [List.intercalate_splitOn]
      _ = ['-'].intercalate ((cs.splitOn '-').map (List.map Char.toLower)) := map_intercalate _ _ _
      _ = u.toString.data := by rw [hgroups]; rfl
  · intro h
    have hgroups : (cs.splitOn '-').map (List.map Char.toLower) = digitGroups u := by
      rw [← splitOn_map_toLower, h, splitOn_toString]
    refine ⟨_, ⟨?_, rfl⟩, ?_⟩
    · simpa [Function.comp_def] using congrArg (List.map List.length) hgroups |>.trans (digitGroups_length u)
    · rw [List.map_flatten, hgroups, simple_eq_flatten]

/-! ## The three layouts -/

theorem isPrefixOf_urn (cs : List Char) :
    "urn:uuid:".toList.isPrefixOf cs = true ↔ cs.take 9 = "urn:uuid:".toList := by
  rw [List.isPrefixOf_iff_prefix, List.prefix_iff_eq_take, eq_comm]
  rfl

theorem length_eq_of_map_toLower {l m : List Char} (h : l.map Char.toLower = m) :
    l.length = m.length := by
  rw [← h, List.length_map]

/-- `parse_str` accepts exactly the spellings of the UUID it returns. -/
theorem parseStr_eq_some_iff (s : String) (u : Uuid) : parseStr s = some u ↔ Spells u s.data := by
  have h32 := simple_length u
  have h36 := toString_data_length u
  unfold parseStr Spells
  simp only [show s.toList = s.data from rfl]
  by_cases hurn : s.data.length = 45 ∧ "urn:uuid:".toList.isPrefixOf s.data = true
  · rw [if_pos hurn, if_neg (by simp [hurn.1])]
    simp only [dehyphenate_bind, (isPrefixOf_urn _).1 hurn.2]
    have hno : ¬(s.data.map Char.toLower = u.simple ∨ s.data.map Char.toLower = u.toString.data) :=
      fun h => by rcases h with h | h <;> have := length_eq_of_map_toLower h <;> omega
    rw [← or_assoc, or_iff_right hno, true_and]
  · rw [if_neg hurn]
    have hno : ¬(s.data.take 9 = "urn:uuid:".toList ∧ (s.data.drop 9).map Char.toLower = u.toString.data) :=
      fun ⟨hp, hd⟩ => hurn ⟨by
        have := length_eq_of_map_toLower hd
        rw [List.length_drop] at this
        omega, (isPrefixOf_urn _).2 hp⟩
    by_cases h : s.data.length = 32
    · rw [if_pos h]
      simp only [Option.some_bind, decodeHex_bind_ofBytes?]
      have hno' : s.data.map Char.toLower ≠ u.toString.data := fun h' => by
        have := length_eq_of_map_toLower h'
        omega
      simp only [hno, hno', or_false]
    · rw [if_neg h]
      simp only [dehyphenate_bind]
      have hno' : s.data.map Char.toLower ≠ u.simple := fun h' => by
        have := length_eq_of_map_toLower h'
        omega
      simp only [hno, hno', false_or, or_false]

example : parseStr "URN:UUID:d432fbb3-d2f1-4a97-9ef7-75bd81c00000" = none := by decide

end Uuid

theorem nil_ne_max : (⟨List.replicate 16 0, rfl⟩ : Uuid) ≠ ⟨List.replicate 16 255, rfl⟩ := by decide

/-- `get_uuid` returns the text of `u` whatever `Uuid::new_v4` draws exactly when its input
spells `u`: its 32 hex digits in either case, plain, hyphenated 8-4-4-4-12, or hyphenated
behind `urn:uuid:`. An input that spells no UUID gives one of the two tags, or the text of the
draw. -/
theorem getUuid_stable_iff (s : String) (u : Uuid) :
    ((∀ newV4, getUuid s newV4 = u.toString) ↔ Uuid.Spells u s.data) ∧
    ((∀ u', ¬Uuid.Spells u' s.data) → (∀ newV4, getUuid s newV4 = "openstack") ∨
      (∀ newV4, getUuid s newV4 = "hash_ek") ∨ ∀ newV4, getUuid s newV4 = newV4.toString) := by
  refine ⟨⟨fun h => ?_, fun hs newV4 => getUuid_of_parseStr ((Uuid.parseStr_eq_some_iff s u).2 hs) newV4⟩,
    fun hno => ?_⟩
  · by_cases hp : (Uuid.parseStr s).isSome
    · obtain ⟨v, hv⟩ := Option.isSome_iff_exists.1 hp
      have hvu : v = u := Uuid.eq_of_toString_eq ((getUuid_of_parseStr hv u).symm.trans (h u))
      exact (Uuid.parseStr_eq_some_iff s u).1 (hvu ▸ hv)
    · exfalso
      by_cases ht : s = "openstack" ∨ s = "hash_ek"
      · have hl := congrArg String.length (h u)
        rw [Uuid.toString_length] at hl
        rcases ht with rfl | rfl
        · exact absurd ((show (getUuid "openstack" u).length = 9 from rfl).symm.trans hl) (by decide)
        · exact absurd ((show (getUuid "hash_ek" u).length = 7 from rfl).symm.trans hl) (by decide)
      · have hfresh : ∀ w, getUuid s w = w.toString := getUuid_fresh (by tauto)
        have h₀ := (hfresh _).symm.trans (h ⟨List.replicate 16 0, rfl⟩)
        have h₁ := (hfresh _).symm.trans (h ⟨List.replicate 16 255, rfl⟩)
        exact nil_ne_max (Uuid.eq_of_toString_eq (h₀.trans h₁.symm))
  · have hnone : Uuid.parseStr s = none :=
      Option.eq_none_iff_forall_not_mem.2 fun u' hu' => hno u' ((Uuid.parseStr_eq_some_iff s u').1 hu')
    by_cases h₁ : s = "openstack"
    · subst h₁; exact .inl fun _ => rfl
    by_cases h₂ : s = "hash_ek"
    · subst h₂; exact .inr (.inl fun _ => rfl)
    exact .inr (.inr (getUuid_fresh (by simp [h₁, h₂, hnone])))

theorem getUuid_stable_iff_generate :
    (∀ u', ¬Uuid.Spells u' "generate".data) ∧ ∀ newV4, getUuid "generate" newV4 = newV4.toString := by
  have hno : ∀ u', ¬Uuid.Spells u' "generate".data := fun u' hs => by
    have h := (Uuid.parseStr_eq_some_iff "generate" u').2 hs
    rw [show Uuid.parseStr "generate" = none by decide] at h
    cases h
  refine ⟨hno, ?_⟩
  rcases (getUuid_stable_iff "generate" ⟨List.replicate 16 0, rfl⟩).2 hno with h | h | h
  · exact absurd (h ⟨List.replicate 16 0, rfl⟩) (by decide)
  · exact absurd (h ⟨List.replicate 16 0, rfl⟩) (by decide)
  · exact h

end KeylimeCommon
