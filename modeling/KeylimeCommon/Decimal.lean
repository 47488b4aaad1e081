import KeylimeCommon.Basic

/-! # Decimal text

What common.rs writes and reads as decimal numbers. `str::parse::<u32>` reads the contact
port and reads back the text `Display` writes for every `u32`. `APIVersion` is displayed as
`v{major}.{minor}`, and two versions never share a text.
-/
namespace KeylimeCommon

def decimalValue : List Char → Nat → Option Nat
  | [], acc => some acc
  | c :: cs, acc => if c.isDigit then decimalValue cs (acc * 10 + (c.toNat - '0'.toNat)) else none

/-- `str::parse::<u32>`: an optional `+`, then at least one decimal digit, the value below
2^32. -/
def parseU32 (s : String) : Option UInt32 :=
  let digits := match s.toList with
    | '+' :: rest => rest
    | cs => cs
  if digits.isEmpty then none
  else (decimalValue digits 0).bind fun n => if n < UInt32.size then some n.toUInt32 else none

theorem decimalValue_append (l₁ l₂ : List Char) (acc : Nat) :
    decimalValue (l₁ ++ l₂) acc = (decimalValue l₁ acc).bind (decimalValue l₂) := by
  induction l₁ generalizing acc with
  | nil => rfl
  | cons c cs ih =>
    simp only [List.cons_append, decimalValue]
    split <;> simp [ih]

theorem digitChar_decimal : ∀ d < 10, (Nat.digitChar d).isDigit = true ∧
    (Nat.digitChar d).toNat - '0'.toNat = d := by
  decide

theorem toDigitsCore_ten (f : Nat) : ∀ n ds, n < f → ∃ digits, Nat.toDigitsCore 10 f n ds = digits ++ ds ∧
    digits ≠ [] ∧ (∀ c ∈ digits, c.isDigit = true) ∧
    ∀ acc, decimalValue digits acc = some (acc * 10 ^ digits.length + n) := by
  induction f with
  | zero => intro n _ hn; omega
  | succ f ih =>
    intro n ds hn
    obtain ⟨hdigit, hvalue⟩ := digitChar_decimal (n % 10) (Nat.mod_lt n (by decide))
    have hlast : ∀ acc, decimalValue [Nat.digitChar (n % 10)] acc = some (acc * 10 + n % 10) := by
      simp only [decimalValue, hdigit, hvalue, if_true, implies_true]
    by_cases h : n / 10 = 0
    · refine ⟨[Nat.digitChar (n % 10)], by simp [Nat.toDigitsCore, h], by simp, by simpa using hdigit,
        fun acc => ?_⟩
      rw [hlast, List.length_singleton, pow_one]
      congr 1
      omega
    · obtain ⟨digits, heq, hne, hall, hval⟩ := ih (n / 10) (Nat.digitChar (n % 10) :: ds) (by omega)
      refine ⟨digits ++ [Nat.digitChar (n % 10)], by simp [Nat.toDigitsCore, h, heq], by simp,
        fun c hc => ?_, fun acc => ?_⟩
      · rcases List.mem_append.1 hc with hc | hc
        · exact hall c hc
        · simpa [List.mem_singleton.1 hc] using hdigit
      · rw [decimalValue_append, hval, Option.some_bind, hlast, List.length_append,
          List.length_singleton, pow_succ]
        congr 1
        calc (acc * 10 ^ digits.length + n / 10) * 10 + n % 10
            = acc * (10 ^ digits.length * 10) + (10 * (n / 10) + n % 10) := by ring
          _ = acc * (10 ^ digits.length * 10) + n := by rw [Nat.div_add_mod]

theorem toString_uint32 (n : UInt32) : ∃ digits, (ToString.toString n).data = digits ∧
    digits ≠ [] ∧ (∀ c ∈ digits, c.isDigit = true) ∧ decimalValue digits 0 = some n.toNat := by
  obtain ⟨digits, heq, hne, hall, hval⟩ := toDigitsCore_ten (n.toNat + 1) n.toNat [] (Nat.lt_succ_self _)
  exact ⟨digits, by simpa using heq, hne, hall, by simpa using hval 0⟩

/-- `str::parse::<u32>` reads back the decimal text of every `u32`. -/
theorem parseU32_toString (port : UInt32) : parseU32 (toString port) = some port := by
  obtain ⟨digits, htext, hne, hall, hval⟩ := toString_uint32 port
  have hlt := port.toNat_lt_size
  unfold parseU32
  rw [show (toString port).toList = digits from htext]
  split
  · exact absurd (hall '+' (List.mem_cons_self _ _)) (by decide)
  · simp only [List.isEmpty_iff, hne, if_false, hval, Option.some_bind, hlt, if_true]
    exact congrArg some (UInt32.toNat.inj (UInt32.toNat_ofNat_of_lt hlt))

/-- Two `u32` with the same decimal text are the same number. -/
theorem eq_of_toString_uint32 {n n' : UInt32} (h : ToString.toString n = ToString.toString n') : n = n' :=
  Option.some.inj ((parseU32_toString n).symm.trans (h ▸ parseU32_toString n'))

theorem dot_not_mem_toString_uint32 (n : UInt32) : '.' ∉ (ToString.toString n).data := fun hm => by
  obtain ⟨digits, htext, -, hall, -⟩ := toString_uint32 n
  exact absurd (hall '.' (htext ▸ hm)) (by decide)

/-- `APIVersion`, a major and a minor number. -/
structure APIVersion where
  major : UInt32
  minor : UInt32
  deriving DecidableEq, Repr

/-- `Display` for `APIVersion`. -/
def APIVersion.toString (v : APIVersion) : String :=
  "v" ++ ToString.toString v.major ++ "." ++ ToString.toString v.minor

theorem append_cons_inj {sep : Char} : ∀ {l₁ l₂ r₁ r₂ : List Char}, sep ∉ l₁ → sep ∉ l₂ →
    l₁ ++ sep :: r₁ = l₂ ++ sep :: r₂ → l₁ = l₂ ∧ r₁ = r₂
  | [], [], _, _, _, _, h => ⟨rfl, List.cons.inj h |>.2⟩
  | [], c :: _, _, _, _, h₂, h => absurd (List.cons.inj h).1 (fun e => h₂ (e ▸ List.mem_cons_self _ _))
  | c :: _, [], _, _, h₁, _, h => absurd (List.cons.inj h).1.symm (fun e => h₁ (e ▸ List.mem_cons_self _ _))
  | c :: l₁, d :: l₂, r₁, r₂, h₁, h₂, h => by
    obtain ⟨rfl, htail⟩ := List.cons.inj (show c :: (l₁ ++ sep :: r₁) = d :: (l₂ ++ sep :: r₂) from h)
    obtain ⟨rfl, rfl⟩ := append_cons_inj (fun m => h₁ (List.mem_cons_of_mem c m))
      (fun m => h₂ (List.mem_cons_of_mem c m)) htail
    exact ⟨rfl, rfl⟩

/-- Two API versions with the same text are the same version. -/
theorem APIVersion.toString_injective : Function.Injective APIVersion.toString := by
  intro ⟨a, b⟩ ⟨a', b'⟩ h
  have hlist := congrArg String.data h
  simp only [APIVersion.toString, String.data_append, List.append_assoc] at hlist
  obtain ⟨ha, hb⟩ := append_cons_inj (dot_not_mem_toString_uint32 a) (dot_not_mem_toString_uint32 a')
    (List.cons.inj hlist).2
  rw [eq_of_toString_uint32 (String.ext ha), eq_of_toString_uint32 (String.ext hb)]

example : APIVersion.toString ⟨2, 0⟩ = "v2.0" := by decide

end KeylimeCommon
