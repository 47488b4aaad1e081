import KeylimeCommon.Uuid
import KeylimeCommon.Decimal

/-! # Setting resolution

`config_get` reads one key of one section of the configuration file that KEYLIME_CONFIG
names, and `config_get_env` lets a non-empty environment variable take the file's place. A
run reads a `World`: the environment, what `Ini::load_from_file` gives for each path, the
files under the working directory, the effective uid and the UUID `Uuid::new_v4` draws. The
contact port goes through `str::parse::<u32>`, which reads back the decimal text of every port.
-/
namespace KeylimeCommon

/-- A loaded INI file as rust-ini presents it: its sections in file order, each with its
key/value pairs in file order. -/
structure Ini where
  sections : List (String × List (String × String))
  deriving DecidableEq, Repr

namespace Ini

/-- `Ini::section`: the first section of that name. -/
def section? (conf : Ini) (name : String) : Option (List (String × String)) :=
  conf.sections.lookup name

def getFrom (conf : Ini) (sec key : String) : Option String :=
  (conf.section? sec).bind fun props => props.lookup key

/-- `F` and `F'` have the same sections and agree on every key but `key` of section `sec`. -/
def AgreeExcept (F F' : Ini) (sec key : String) : Prop :=
  (∀ s, (F.section? s).isSome = (F'.section? s).isSome) ∧
    ∀ s k, (s, k) ≠ (sec, key) → F.getFrom s k = F'.getFrom s k

end Ini

/-- What a run of `KeylimeConfig::build` reads from the process and the machine. -/
structure World where
  /-- `env::var`: `none` when the variable is unset or not unicode. -/
  env : String → Option String
  /-- `Ini::load_from_file` at each path. -/
  loadIni : String → Except Error Ini
  /-- `Ini::load_from_str`: what rust-ini makes of a text, and so of a file this run writes. -/
  loadFromStr : String → Except Error Ini
  /-- `Path::exists` at each path. -/
  pathExists : String → Bool
  /-- `File::open` at each path, with the contents read from it. -/
  openFile : String → Except Error String
  /-- `File::create` at each path. -/
  createFile : String → Except Error Unit
  /-- `permissions::get_euid`. -/
  euid : Nat
  /-- The UUID `Uuid::new_v4` draws in this run. -/
  newV4 : Uuid

def configFileGet (env : String → Option String) : String :=
  match env "KEYLIME_CONFIG" with
  | some cfg => if !cfg.isEmpty then cfg else DEFAULT_CONFIG
  | none => DEFAULT_CONFIG

/-- The part of `config_get` after the file `confName` is loaded as `conf`. -/
def configLookup (conf : Ini) (confName sec key : String) : Except Error String :=
  match conf.section? sec with
  | none => .error (.configuration ("Cannot find section called " ++ sec ++ " in file " ++ confName))
  | some props =>
    match props.lookup key with
    | none => .error (.configuration ("Cannot find key " ++ key ++ " in file " ++ confName))
    | some value => .ok value

def configGet (w : World) (sec key : String) : Except Error String := do
  let confName := configFileGet w.env
  let conf ← w.loadIni confName
  configLookup conf confName sec key

def configGetEnv (w : World) (sec key env : String) : Except Error String :=
  match w.env env with
  | some ip => if !ip.isEmpty then .ok ip else configGet w sec key
  | none => configGet w sec key

/-- Returns revocation ip from keylime.conf if env var not present. -/
def revocationIpGet (w : World) : Except Error String :=
  configGetEnv w "general" "receive_revocation_ip" "REVOCATION_IP"

/-- Returns revocation port from keylime.conf if env var not present. -/
def revocationPortGet (w : World) : Except Error String :=
  configGetEnv w "general" "receive_revocation_port" "REVOCATION_PORT"

def cloudagentContactIpGet (w : World) : Option String :=
  match configGetEnv w "cloud_agent" "agent_contact_ip" "KEYLIME_AGENT_CONTACT_IP" with
  | .ok ip => some ip
  | .error _ => none

def cloudagentContactPortGet (w : World) : Except Error (Option UInt32) :=
  match configGetEnv w "cloud_agent" "agent_contact_port" "KEYLIME_AGENT_CONTACT_PORT" with
  | .ok portStr =>
    match parseU32 portStr with
    | some port => .ok (some port)
    | none => .error (.configuration ("Parse " ++ portStr ++ " to a port number."))
  | .error _ => .ok none

def boolFromStr (s : String) : Except Error Bool :=
  match s with
  | "true" => .ok true
  | "false" => .ok false
  | _ => .error .parseBool

/-- `str::to_lowercase` on ASCII letters; no other character lowercases to a letter of
"true" or "false". -/
def toLowercase (s : String) : String := ⟨s.data.map Char.toLower⟩

/-- The same run with the configuration file replaced by `F`. -/
def World.withConfigFile (w : World) (F : Ini) : World :=
  { w with loadIni := fun path => if path = configFileGet w.env then .ok F else w.loadIni path }

@[simp] theorem World.withConfigFile_env (w : World) (F : Ini) : (w.withConfigFile F).env = w.env := rfl
@[simp] theorem World.withConfigFile_pathExists (w : World) (F : Ini) :
    (w.withConfigFile F).pathExists = w.pathExists := rfl
@[simp] theorem World.withConfigFile_openFile (w : World) (F : Ini) :
    (w.withConfigFile F).openFile = w.openFile := rfl
@[simp] theorem World.withConfigFile_euid (w : World) (F : Ini) : (w.withConfigFile F).euid = w.euid := rfl
@[simp] theorem World.withConfigFile_newV4 (w : World) (F : Ini) :
    (w.withConfigFile F).newV4 = w.newV4 := rfl

theorem configFileGet_of_set {env : String → Option String} {path : String}
    (h : env "KEYLIME_CONFIG" = some path) (hp : path ≠ "") : configFileGet env = path := by
  simp [configFileGet, h, String.isEmpty_iff, hp]

theorem configFileGet_of_unset {env : String → Option String}
    (h : (env "KEYLIME_CONFIG").getD "" = "") : configFileGet env = DEFAULT_CONFIG := by
  unfold configFileGet
  split <;> simp_all [String.isEmpty_iff]

theorem configLookup_eq_ok_iff (conf : Ini) (confName sec key v : String) :
    configLookup conf confName sec key = .ok v ↔ conf.getFrom sec key = some v := by
  unfold configLookup Ini.getFrom
  cases conf.section? sec with
  | none => simp
  | some props => cases h : props.lookup key <;> simp [h]

/-- Every error of `config_get` is the loader's, or names the section or the key the loaded
file lacks, and the file. -/
theorem configGet_eq_error {w : World} {sec key : String} {e : Error}
    (h : configGet w sec key = .error e) :
    w.loadIni (configFileGet w.env) = .error e ∨ ∃ F, w.loadIni (configFileGet w.env) = .ok F ∧
      (F.section? sec = none ∧
          e = .configuration ("Cannot find section called " ++ sec ++ " in file " ++ configFileGet w.env) ∨
        (F.section? sec).isSome ∧ F.getFrom sec key = none ∧
          e = .configuration ("Cannot find key " ++ key ++ " in file " ++ configFileGet w.env)) := by
  unfold configGet at h
  cases hl : w.loadIni (configFileGet w.env) with
  | error e' => simp_all
  | ok F =>
    simp only [hl, ok_bind, configLookup] at h
    refine .inr ⟨F, rfl, ?_⟩
    split at h
    · cases h; exact .inl ⟨‹_›, rfl⟩
    · rename_i props hs
      split at h
      · cases h; exact .inr ⟨by simp [hs], by simp [Ini.getFrom, hs, ‹_›], rfl⟩
      · cases h

theorem configGet_eq_ok_iff (w : World) (sec key v : String) :
    configGet w sec key = .ok v ↔
      ∃ F, w.loadIni (configFileGet w.env) = .ok F ∧ F.getFrom sec key = some v := by
  simp [configGet, bind_eq_ok, configLookup_eq_ok_iff]

theorem configGet_withConfigFile (w : World) (F : Ini) (sec key : String) :
    configGet (w.withConfigFile F) sec key = configLookup F (configFileGet w.env) sec key := by
  simp [configGet, World.withConfigFile]

theorem configLookup_congr {F F' : Ini} {sec key s k : String} (h : F.AgreeExcept F' sec key)
    (hk : (s, k) ≠ (sec, key)) (confName : String) :
    configLookup F confName s k = configLookup F' confName s k := by
  have hs := h.1 s
  have hg := h.2 s k hk
  unfold Ini.getFrom at hg
  unfold configLookup
  cases h₁ : F.section? s <;> cases h₂ : F'.section? s <;> simp_all

theorem configGet_congr {w : World} {F F' : Ini} {sec key s k : String}
    (h : F.AgreeExcept F' sec key) (hk : (s, k) ≠ (sec, key)) :
    configGet (w.withConfigFile F) s k = configGet (w.withConfigFile F') s k := by
  rw [configGet_withConfigFile, configGet_withConfigFile, configLookup_congr h hk]

theorem configGetEnv_congr {w : World} {F F' : Ini} {sec key s k : String}
    (h : F.AgreeExcept F' sec key) (hk : (s, k) ≠ (sec, key)) (env : String) :
    configGetEnv (w.withConfigFile F) s k env = configGetEnv (w.withConfigFile F') s k env := by
  simp only [configGetEnv, World.withConfigFile_env, configGet_congr h hk]

theorem configGet_of_getFrom {w : World} {F : Ini} {sec key v : String}
    (hF : w.loadIni (configFileGet w.env) = .ok F) (h : F.getFrom sec key = some v) :
    configGet w sec key = .ok v :=
  (configGet_eq_ok_iff w sec key v).2 ⟨F, hF, h⟩

theorem configGet_error_of_getFrom {w : World} {F : Ini} {sec key : String}
    (hF : w.loadIni (configFileGet w.env) = .ok F) (h : F.getFrom sec key = none) :
    ∃ e, configGet w sec key = .error e := by
  cases hc : configGet w sec key with
  | error e => exact ⟨e, rfl⟩
  | ok v =>
    obtain ⟨F', hF', hv⟩ := (configGet_eq_ok_iff w sec key v).1 hc
    rw [hF] at hF'
    cases hF'
    simp_all

theorem configGetEnv_of_set {w : World} {sec key env v : String} (h : w.env env = some v)
    (hv : v ≠ "") : configGetEnv w sec key env = .ok v := by
  simp [configGetEnv, h, String.isEmpty_iff, hv]

theorem configGetEnv_of_unset {w : World} {sec key env : String} (h : (w.env env).getD "" = "") :
    configGetEnv w sec key env = configGet w sec key := by
  unfold configGetEnv
  split <;> simp_all [String.isEmpty_iff]

theorem cloudagentContactPortGet_ok_iff (w : World) :
    (∃ r, cloudagentContactPortGet w = .ok r) ↔
      ∀ v, configGetEnv w "cloud_agent" "agent_contact_port" "KEYLIME_AGENT_CONTACT_PORT" = .ok v →
        ∃ port, parseU32 v = some port := by
  unfold cloudagentContactPortGet
  split
  · rename_i v hv
    cases hp : parseU32 v <;> simp_all
  · simp_all

theorem boolFromStr_eq_error {s : String} (h : ¬(s = "true" ∨ s = "false")) :
    boolFromStr s = .error .parseBool := by
  unfold boolFromStr
  split <;> simp_all

theorem boolFromStr_ok_iff (s : String) : (∃ b, boolFromStr s = .ok b) ↔ s = "true" ∨ s = "false" := by
  unfold boolFromStr
  split <;> simp_all

end KeylimeCommon
