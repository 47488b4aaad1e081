import KeylimeCommon.Config.Resolver

/-! # TPM data

The persisted record of the agent's attestation key: its hash and sign algorithms and the
saved TPM context. `load` reads and decodes a file, `store` writes one, and `valid` says
whether the record was made for the configured algorithms. serde_json lies outside the
repository, so its reader and writer for the record are parameters; the algorithm and
context types come from crate::algorithms and tss_esapi.
-/
namespace KeylimeCommon

/-- The same run once `path` exists and holds `contents`: it opens to them, and rust-ini loads
it from them. -/
def World.withFile (w : World) (path contents : String) : World :=
  { w with
    pathExists := fun p => if p = path then true else w.pathExists p
    openFile := fun p => if p = path then .ok contents else w.openFile p
    loadIni := fun p => if p = path then w.loadFromStr contents else w.loadIni p }

namespace World

variable (w : World) (path contents : String)

@[simp] theorem withFile_env : (w.withFile path contents).env = w.env := rfl
@[simp] theorem withFile_loadFromStr : (w.withFile path contents).loadFromStr = w.loadFromStr := rfl
@[simp] theorem withFile_createFile : (w.withFile path contents).createFile = w.createFile := rfl
@[simp] theorem withFile_euid : (w.withFile path contents).euid = w.euid := rfl
@[simp] theorem withFile_newV4 : (w.withFile path contents).newV4 = w.newV4 := rfl
@[simp] theorem withFile_pathExists_self : (w.withFile path contents).pathExists path = true := by
  simp [withFile]
@[simp] theorem withFile_openFile_self : (w.withFile path contents).openFile path = .ok contents := by
  simp [withFile]

theorem withFile_loadIni_of_ne {q : String} (h : q ≠ path) :
    (w.withFile path contents).loadIni q = w.loadIni q := by
  simp [withFile, h]

theorem withFile_withFile (contents' : String) :
    (w.withFile path contents).withFile path contents' = w.withFile path contents' := by
  simp only [withFile, World.mk.injEq, true_and, and_true]
  refine ⟨?_, ?_, ?_⟩ <;> funext q <;> split_ifs <;> rfl

end World

structure TpmData (H S C : Type) where
  akHashAlg : H
  akSignAlg : S
  akContext : C
  deriving DecidableEq, Repr

namespace TpmData

variable {H S C : Type}

/-- `TpmData::load`: open the file, then decode it with `fromReader`. -/
def load (openFile : String → Except Error String) (fromReader : String → Except Error (TpmData H S C))
    (path : String) : Except Error (TpmData H S C) := do
  let file ← openFile path
  let data ← fromReader file
  pure data

/-- `TpmData::store`: `File::create` empties the file, then serde_json writes the record.
`toWriter` gives the text it wrote and the error it stopped with, if any: a write that fails
part way leaves what it wrote, and a failed create changes nothing. -/
def store (self : TpmData H S C) (toWriter : TpmData H S C → String × Option Error) (path : String)
    (w : World) : Except Error Unit × World :=
  match w.createFile path, toWriter self with
  | .error e, _ => (.error e, w)
  | .ok (), (text, none) => (.ok (), w.withFile path text)
  | .ok (), (text, some e) => (.error e, w.withFile path text)

def valid [DecidableEq H] [DecidableEq S] (self : TpmData H S C) (hashAlg : H) (signAlg : S) : Bool :=
  hashAlg == self.akHashAlg && signAlg == self.akSignAlg

theorem valid_iff [DecidableEq H] [DecidableEq S] (d : TpmData H S C) (hashAlg : H) (signAlg : S) :
    d.valid hashAlg signAlg = true ↔ hashAlg = d.akHashAlg ∧ signAlg = d.akSignAlg := by
  simp [valid]

section Store

variable {d : TpmData H S C} {toWriter : TpmData H S C → String × Option Error} {path : String}
  {w w' : World}

/-- Whatever a store does, the file at `path` afterwards holds what the writer wrote, or the
run is unchanged. -/
theorem store_world (d : TpmData H S C) (toWriter : TpmData H S C → String × Option Error)
    (path : String) (w : World) :
    (d.store toWriter path w).2 = w ∨ (d.store toWriter path w).2 = w.withFile path (toWriter d).1 := by
  rcases ht : toWriter d with ⟨text, _ | e⟩ <;> cases hc : w.createFile path <;> simp [store, ht, hc]

theorem store_eq_ok_iff : d.store toWriter path w = (.ok (), w') ↔
    w.createFile path = .ok () ∧ (toWriter d).2 = none ∧ w' = w.withFile path (toWriter d).1 := by
  rcases ht : toWriter d with ⟨text, _ | e⟩ <;> cases hc : w.createFile path <;> simp [store, ht, hc, eq_comm]

/-- What `store` wrote, `load` reads back, as far as the JSON codec gives back what it wrote. -/
theorem load_store (h : d.store toWriter path w = (.ok (), w'))
    {fromReader : String → Except Error (TpmData H S C)} (hcodec : fromReader (toWriter d).1 = .ok d) :
    load w'.openFile fromReader path = .ok d := by
  obtain ⟨-, -, rfl⟩ := store_eq_ok_iff.1 h
  simp [load, hcodec]

end Store

end TpmData

end KeylimeCommon
