import KeylimeCommon.Config.TpmData

/-! # The configuration snapshot

`KeylimeConfig::build` resolves every setting once, in the order the source gives. It is
written here as the source writes it and then shown equal to two stages: `required` runs the
steps that can fail, and `assemble` computes every other field from the run and the values of
those steps, and cannot fail. Each policy of the source then has one definition: a default
for a missing key (`Except.toOption` and `Option.getD`), a default that still rejects a
malformed value (`withDefault`), and a lenient flag that takes its fallback on a malformed
value (`lenientBool`). What each stage reads is listed once, and each stage sees the world only
through those reads: every frame property of `build` is an instance of the two lemmas.
-/
namespace KeylimeCommon

/-- The conversions `build` calls that common.rs does not define: `TryFrom<&str>` of the three
algorithm enums of crate::algorithms, and serde_json's reader for `TpmData`. -/
structure Parsers (H E S C : Type) where
  hashAlg : String → Except Error H
  encAlg : String → Except Error E
  signAlg : String → Except Error S
  tpmData : String → Except Error (TpmData H S C)

structure KeylimeConfig (H E S C : Type) where
  agentIp : String
  agentPort : String
  registrarIp : String
  registrarPort : String
  agentUuid : String
  agentContactIp : Option String
  agentContactPort : Option UInt32
  hashAlg : H
  encAlg : E
  signAlg : S
  tpmData : Option (TpmData H S C)
  tpmDataPath : String
  runRevocation : Bool
  revocationCert : String
  revocationIp : String
  revocationPort : String
  secureSize : String
  payloadScript : String
  decPayloadFilename : String
  keyFilename : String
  extractPayloadZip : Bool
  keylimeCaPath : String
  revocationActions : String
  revocationActionsDir : String
  allowPayloadRevocationActions : Bool
  workDir : String
  mtlsEnabled : Bool
  enableInsecurePayload : Bool
  runAs : Option String
  deriving DecidableEq, Repr

/-- `Path::join` of a relative path on Unix: a separator goes in unless `base` is empty or
already ends in one. -/
def pathJoin (base rel : String) : String :=
  let needSep := match base.data.getLast? with
    | some c => c != '/'
    | none => false
  if needSep then base ++ "/" ++ rel else base ++ rel

theorem length_le_pathJoin (base rel : String) : rel.length ≤ (pathJoin base rel).length := by
  simp only [pathJoin]
  split_ifs <;> simp only [String.length_append] <;> omega

/-- `match config_get(..) { Ok(s) => f(s)?, Err(_) => d }`: a setting whose absence gives `d`
and whose value, when present, still goes through `f`. -/
def withDefault {α : Type} (x : Except Error String) (f : String → Except Error α) (d : α) :
    Except Error α :=
  match x with
  | .ok s => f s
  | .error _ => .ok d

variable {H E S C : Type}

def KeylimeConfig.build (p : Parsers H E S C) (w : World) : Except Error (KeylimeConfig H E S C) := do
  let agentIp ← configGetEnv w "cloud_agent" "cloudagent_ip" "CLOUDAGENT_IP"
  let agentPort ← configGetEnv w "cloud_agent" "cloudagent_port" "CLOUDAGENT_PORT"
  let registrarIp ← configGetEnv w "cloud_agent" "registrar_ip" "REGISTRAR_IP"
  let registrarPort ← configGetEnv w "cloud_agent" "registrar_port" "REGISTRAR_PORT"
  let agentUuidConfig ← configGet w "cloud_agent" "agent_uuid"
  let agentUuid := getUuid agentUuidConfig w.newV4
  let agentContactIp := cloudagentContactIpGet w
  let agentContactPort ← cloudagentContactPortGet w
  let hashAlg ← p.hashAlg (← configGet w "cloud_agent" "tpm_hash_alg")
  let encAlg ← p.encAlg (← configGet w "cloud_agent" "tpm_encryption_alg")
  let signAlg ← p.signAlg (← configGet w "cloud_agent" "tpm_signing_alg")
  -- There was a typo in Python Keylime: a configuration may still carry the misspelled key.
  let runRevocation ← boolFromStr (toLowercase (← (configGet w "cloud_agent" "listen_notifications").tryCatch
    fun _ => configGet w "cloud_agent" "listen_notfications"))
  let revocationCert ← configGet w "cloud_agent" "revocation_cert"
  let revocationIp ← configGet w "general" "receive_revocation_ip"
  let revocationPort ← configGet w "general" "receive_revocation_port"
  let secureSize ← configGet w "cloud_agent" "secure_size"
  let payloadScript ← configGet w "cloud_agent" "payload_script"
  let decPayloadFilename ← configGet w "cloud_agent" "dec_payload_file"
  let keyFilename ← configGet w "cloud_agent" "enc_keyname"
  let extractPayloadZip ← boolFromStr (toLowercase (← configGet w "cloud_agent" "extract_payload_zip"))
  let workDir ← (configGetEnv w "cloud_agent" "keylime_dir" "KEYLIME_DIR").tryCatch
    fun _ => .ok WORK_DIR
  let tpmDataPath := pathJoin workDir TPM_DATA
  let tpmData := if w.pathExists tpmDataPath then
      (TpmData.load w.openFile p.tpmData tpmDataPath).toOption
    else none
  let keylimeCaPath ← configGet w "cloud_agent" "keylime_ca"
  let keylimeCaPath := if keylimeCaPath = "default" then pathJoin workDir DEFAULT_CA_PATH
    else keylimeCaPath
  let revocationActions ← (configGet w "cloud_agent" "revocation_actions").tryCatch
    fun _ => .ok REV_ACTIONS
  let revocationActionsDir ← (configGet w "cloud_agent" "revocation_actions_dir").tryCatch
    fun _ => .ok REV_ACTIONS_DIR
  let allowPayloadRevocationActions ← withDefault
    (configGet w "cloud_agent" "allow_payload_revocation_actions")
    (fun s => boolFromStr (toLowercase s)) ALLOW_PAYLOAD_REV_ACTIONS
  let runAs := if w.euid = 0 then (configGet w "cloud_agent" "run_as").toOption else none
  let mtlsEnabled ← withDefault (configGet w "cloud_agent" "mtls_cert_enabled")
    (fun enabled => (boolFromStr (toLowercase enabled)).tryCatch fun _ => .ok MTLS_ENABLED) true
  let enableInsecurePayload ← withDefault (configGet w "cloud_agent" "enable_insecure_payload")
    (fun allowed => (boolFromStr (toLowercase allowed)).tryCatch fun _ => .ok ALLOW_INSECURE_PAYLOAD)
    false
  pure {
    agentIp := agentIp, agentPort := agentPort, registrarIp := registrarIp,
    registrarPort := registrarPort, agentUuid := agentUuid, agentContactIp := agentContactIp,
    agentContactPort := agentContactPort, hashAlg := hashAlg, encAlg := encAlg,
    signAlg := signAlg, tpmData := tpmData, tpmDataPath := tpmDataPath,
    runRevocation := runRevocation, revocationCert := revocationCert,
    revocationIp := revocationIp, revocationPort := revocationPort, secureSize := secureSize,
    payloadScript := payloadScript, decPayloadFilename := decPayloadFilename,
    keyFilename := keyFilename, extractPayloadZip := extractPayloadZip,
    keylimeCaPath := keylimeCaPath, revocationActions := revocationActions,
    revocationActionsDir := revocationActionsDir,
    allowPayloadRevocationActions := allowPayloadRevocationActions, workDir := workDir,
    mtlsEnabled := mtlsEnabled, enableInsecurePayload := enableInsecurePayload, runAs := runAs }

/-- The values of the steps of `build` that can fail, in the order `build` runs them. -/
structure Required (H E S : Type) where
  agentIp : String
  agentPort : String
  registrarIp : String
  registrarPort : String
  agentUuidConfig : String
  agentContactPort : Option UInt32
  hashAlg : H
  encAlg : E
  signAlg : S
  runRevocation : Bool
  revocationCert : String
  revocationIp : String
  revocationPort : String
  secureSize : String
  payloadScript : String
  decPayloadFilename : String
  keyFilename : String
  extractPayloadZip : Bool
  keylimeCa : String
  allowPayloadRevocationActions : Bool

/-- The steps of `build` that can fail. -/
def required (p : Parsers H E S C) (w : World) : Except Error (Required H E S) := do
  let agentIp ← configGetEnv w "cloud_agent" "cloudagent_ip" "CLOUDAGENT_IP"
  let agentPort ← configGetEnv w "cloud_agent" "cloudagent_port" "CLOUDAGENT_PORT"
  let registrarIp ← configGetEnv w "cloud_agent" "registrar_ip" "REGISTRAR_IP"
  let registrarPort ← configGetEnv w "cloud_agent" "registrar_port" "REGISTRAR_PORT"
  let agentUuidConfig ← configGet w "cloud_agent" "agent_uuid"
  let agentContactPort ← cloudagentContactPortGet w
  let hashAlg ← p.hashAlg (← configGet w "cloud_agent" "tpm_hash_alg")
  let encAlg ← p.encAlg (← configGet w "cloud_agent" "tpm_encryption_alg")
  let signAlg ← p.signAlg (← configGet w "cloud_agent" "tpm_signing_alg")
  let runRevocation ← boolFromStr (toLowercase (← (configGet w "cloud_agent" "listen_notifications").tryCatch
    fun _ => configGet w "cloud_agent" "listen_notfications"))
  let revocationCert ← configGet w "cloud_agent" "revocation_cert"
  let revocationIp ← configGet w "general" "receive_revocation_ip"
  let revocationPort ← configGet w "general" "receive_revocation_port"
  let secureSize ← configGet w "cloud_agent" "secure_size"
  let payloadScript ← configGet w "cloud_agent" "payload_script"
  let decPayloadFilename ← configGet w "cloud_agent" "dec_payload_file"
  let keyFilename ← configGet w "cloud_agent" "enc_keyname"
  let extractPayloadZip ← boolFromStr (toLowercase (← configGet w "cloud_agent" "extract_payload_zip"))
  let keylimeCa ← configGet w "cloud_agent" "keylime_ca"
  let allowPayloadRevocationActions ← withDefault
    (configGet w "cloud_agent" "allow_payload_revocation_actions")
    (fun s => boolFromStr (toLowercase s)) ALLOW_PAYLOAD_REV_ACTIONS
  pure {
    agentIp := agentIp, agentPort := agentPort, registrarIp := registrarIp,
    registrarPort := registrarPort, agentUuidConfig := agentUuidConfig,
    agentContactPort := agentContactPort, hashAlg := hashAlg, encAlg := encAlg,
    signAlg := signAlg, runRevocation := runRevocation, revocationCert := revocationCert,
    revocationIp := revocationIp, revocationPort := revocationPort, secureSize := secureSize,
    payloadScript := payloadScript, decPayloadFilename := decPayloadFilename,
    keyFilename := keyFilename, extractPayloadZip := extractPayloadZip, keylimeCa := keylimeCa,
    allowPayloadRevocationActions := allowPayloadRevocationActions }

/-- A flag whose absence gives `d` and whose malformed value gives `fallback`. -/
def lenientBool (x : Except Error String) (fallback d : Bool) : Bool :=
  match x with
  | .ok s => (boolFromStr (toLowercase s)).toOption.getD fallback
  | .error _ => d

/-- Every field of the snapshot from the run and the values of the steps that can fail. -/
def assemble (p : Parsers H E S C) (w : World) (r : Required H E S) : KeylimeConfig H E S C :=
  let workDir := (configGetEnv w "cloud_agent" "keylime_dir" "KEYLIME_DIR").toOption.getD WORK_DIR
  let tpmDataPath := pathJoin workDir TPM_DATA
  { agentIp := r.agentIp
    agentPort := r.agentPort
    registrarIp := r.registrarIp
    registrarPort := r.registrarPort
    agentUuid := getUuid r.agentUuidConfig w.newV4
    agentContactIp := cloudagentContactIpGet w
    agentContactPort := r.agentContactPort
    hashAlg := r.hashAlg
    encAlg := r.encAlg
    signAlg := r.signAlg
    tpmData := if w.pathExists tpmDataPath then
        (TpmData.load w.openFile p.tpmData tpmDataPath).toOption
      else none
    tpmDataPath
    runRevocation := r.runRevocation
    revocationCert := r.revocationCert
    revocationIp := r.revocationIp
    revocationPort := r.revocationPort
    secureSize := r.secureSize
    payloadScript := r.payloadScript
    decPayloadFilename := r.decPayloadFilename
    keyFilename := r.keyFilename
    extractPayloadZip := r.extractPayloadZip
    keylimeCaPath := if r.keylimeCa = "default" then pathJoin workDir DEFAULT_CA_PATH else r.keylimeCa
    revocationActions := (configGet w "cloud_agent" "revocation_actions").toOption.getD REV_ACTIONS
    revocationActionsDir :=
      (configGet w "cloud_agent" "revocation_actions_dir").toOption.getD REV_ACTIONS_DIR
    allowPayloadRevocationActions := r.allowPayloadRevocationActions
    workDir
    mtlsEnabled := lenientBool (configGet w "cloud_agent" "mtls_cert_enabled") MTLS_ENABLED true
    enableInsecurePayload :=
      lenientBool (configGet w "cloud_agent" "enable_insecure_payload") ALLOW_INSECURE_PAYLOAD false
    runAs := if w.euid = 0 then (configGet w "cloud_agent" "run_as").toOption else none }

theorem withDefault_lenient (x : Except Error String) (fallback d : Bool) :
    withDefault x (fun s => .ok ((boolFromStr (toLowercase s)).toOption.getD fallback)) d =
      .ok (lenientBool x fallback d) := by
  cases x <;> rfl

/-- `build` is `required` followed by `assemble`: it fails only through the steps of
`required`. -/
theorem build_eq (p : Parsers H E S C) (w : World) :
    KeylimeConfig.build p w = assemble p w <$> required p w := by
  simp only [KeylimeConfig.build, required, assemble, tryCatch_const, withDefault_lenient,
    ok_bind, map_bind, map_pure]

/-! ## What the two stages read -/

/-- The keys `required` reads with `config_get`. -/
def requiredGets : List (String × String) :=
  [("cloud_agent", "agent_uuid"), ("cloud_agent", "tpm_hash_alg"), ("cloud_agent", "tpm_encryption_alg"),
    ("cloud_agent", "tpm_signing_alg"), ("cloud_agent", "listen_notifications"),
    ("cloud_agent", "listen_notfications"), ("cloud_agent", "revocation_cert"),
    ("general", "receive_revocation_ip"), ("general", "receive_revocation_port"),
    ("cloud_agent", "secure_size"), ("cloud_agent", "payload_script"), ("cloud_agent", "dec_payload_file"),
    ("cloud_agent", "enc_keyname"), ("cloud_agent", "extract_payload_zip"), ("cloud_agent", "keylime_ca"),
    ("cloud_agent", "allow_payload_revocation_actions")]

/-- The settings `required` reads with `config_get_env`: section, key and variable. -/
def requiredEnvGets : List (String × String × String) :=
  [("cloud_agent", "cloudagent_ip", "CLOUDAGENT_IP"), ("cloud_agent", "cloudagent_port", "CLOUDAGENT_PORT"),
    ("cloud_agent", "registrar_ip", "REGISTRAR_IP"), ("cloud_agent", "registrar_port", "REGISTRAR_PORT"),
    ("cloud_agent", "agent_contact_port", "KEYLIME_AGENT_CONTACT_PORT")]

/-- The keys `assemble` reads with `config_get`, but `run_as`, which it reads only as root. -/
def assembleGets : List (String × String) :=
  [("cloud_agent", "revocation_actions"), ("cloud_agent", "revocation_actions_dir"),
    ("cloud_agent", "mtls_cert_enabled"), ("cloud_agent", "enable_insecure_payload")]

/-- The settings `assemble` reads with `config_get_env`. -/
def assembleEnvGets : List (String × String × String) :=
  [("cloud_agent", "keylime_dir", "KEYLIME_DIR"),
    ("cloud_agent", "agent_contact_ip", "KEYLIME_AGENT_CONTACT_IP")]

section Reads

variable (p : Parsers H E S C) {w w' : World}

theorem required_congr_reads
    (hg : ∀ s k, (s, k) ∈ requiredGets → configGet w s k = configGet w' s k)
    (he : ∀ s k e, (s, k, e) ∈ requiredEnvGets → configGetEnv w s k e = configGetEnv w' s k e) :
    required p w = required p w' := by
  simp (disch := decide) only [required, cloudagentContactPortGet, hg, he]

/-- `assemble` sees the world only through its reads and the machine: the TPM data file, the
effective user and the random draw. -/
theorem assemble_congr_reads
    (hg : ∀ s k, (s, k) ∈ assembleGets → configGet w s k = configGet w' s k)
    (he : ∀ s k e, (s, k, e) ∈ assembleEnvGets → configGetEnv w s k e = configGetEnv w' s k e)
    (hrun : w.euid = 0 → configGet w "cloud_agent" "run_as" = configGet w' "cloud_agent" "run_as")
    (hpath : w.pathExists = w'.pathExists) (hopen : w.openFile = w'.openFile)
    (heuid : w.euid = w'.euid) (hnew : w.newV4 = w'.newV4) :
    assemble p w = assemble p w' := by
  have hrunAs : (if w.euid = 0 then (configGet w "cloud_agent" "run_as").toOption else none) =
      if w'.euid = 0 then (configGet w' "cloud_agent" "run_as").toOption else none := by
    rw [← heuid]
    split_ifs with h
    · rw [hrun h]
    · rfl
  funext r
  simp (disch := decide) only [assemble, cloudagentContactIpGet, hg, he, hpath, hopen, hnew, hrunAs]

theorem build_congr_reads
    (hg : ∀ s k, (s, k) ∈ requiredGets ++ assembleGets → configGet w s k = configGet w' s k)
    (he : ∀ s k e, (s, k, e) ∈ requiredEnvGets ++ assembleEnvGets →
      configGetEnv w s k e = configGetEnv w' s k e)
    (hrun : w.euid = 0 → configGet w "cloud_agent" "run_as" = configGet w' "cloud_agent" "run_as")
    (hpath : w.pathExists = w'.pathExists) (hopen : w.openFile = w'.openFile)
    (heuid : w.euid = w'.euid) (hnew : w.newV4 = w'.newV4) :
    KeylimeConfig.build p w = KeylimeConfig.build p w' := by
  rw [build_eq, build_eq,
    required_congr_reads p (fun s k h => hg s k (List.mem_append_left _ h))
      fun s k e h => he s k e (List.mem_append_left _ h),
    assemble_congr_reads p (fun s k h => hg s k (List.mem_append_right _ h))
      (fun s k e h => he s k e (List.mem_append_right _ h)) hrun hpath hopen heuid hnew]

end Reads

theorem withDefault_ok_iff {α : Type} (x : Except Error String) (f : String → Except Error α) (d : α) :
    (∃ a, withDefault x f d = .ok a) ↔ ∀ v, x = .ok v → ∃ a, f v = .ok a := by
  cases x <;> simp [withDefault]

theorem lowercase_ok_iff (v : String) :
    (∃ b, boolFromStr (toLowercase v) = .ok b) ↔ toLowercase v = "true" ∨ toLowercase v = "false" :=
  boolFromStr_ok_iff _

/-- Every setting `build` cannot do without resolves and is well-formed: the environment or
the file gives each required value, each algorithm name and each flag parses, and the two
optional values that must parse when present do. -/
structure RequiredSettingsResolve (p : Parsers H E S C) (w : World) : Prop where
  agentIp : ∃ v, configGetEnv w "cloud_agent" "cloudagent_ip" "CLOUDAGENT_IP" = .ok v
  agentPort : ∃ v, configGetEnv w "cloud_agent" "cloudagent_port" "CLOUDAGENT_PORT" = .ok v
  registrarIp : ∃ v, configGetEnv w "cloud_agent" "registrar_ip" "REGISTRAR_IP" = .ok v
  registrarPort : ∃ v, configGetEnv w "cloud_agent" "registrar_port" "REGISTRAR_PORT" = .ok v
  agentUuid : ∃ v, configGet w "cloud_agent" "agent_uuid" = .ok v
  agentContactPort : ∀ v,
    configGetEnv w "cloud_agent" "agent_contact_port" "KEYLIME_AGENT_CONTACT_PORT" = .ok v →
      ∃ port, parseU32 v = some port
  hashAlg : ∃ v, configGet w "cloud_agent" "tpm_hash_alg" = .ok v ∧ ∃ a, p.hashAlg v = .ok a
  encAlg : ∃ v, configGet w "cloud_agent" "tpm_encryption_alg" = .ok v ∧ ∃ a, p.encAlg v = .ok a
  signAlg : ∃ v, configGet w "cloud_agent" "tpm_signing_alg" = .ok v ∧ ∃ a, p.signAlg v = .ok a
  runRevocation : ∃ v, (configGet w "cloud_agent" "listen_notifications").tryCatch
      (fun _ => configGet w "cloud_agent" "listen_notfications") = .ok v ∧
    (toLowercase v = "true" ∨ toLowercase v = "false")
  revocationCert : ∃ v, configGet w "cloud_agent" "revocation_cert" = .ok v
  revocationIp : ∃ v, configGet w "general" "receive_revocation_ip" = .ok v
  revocationPort : ∃ v, configGet w "general" "receive_revocation_port" = .ok v
  secureSize : ∃ v, configGet w "cloud_agent" "secure_size" = .ok v
  payloadScript : ∃ v, configGet w "cloud_agent" "payload_script" = .ok v
  decPayloadFile : ∃ v, configGet w "cloud_agent" "dec_payload_file" = .ok v
  encKeyname : ∃ v, configGet w "cloud_agent" "enc_keyname" = .ok v
  extractPayloadZip : ∃ v, configGet w "cloud_agent" "extract_payload_zip" = .ok v ∧
    (toLowercase v = "true" ∨ toLowercase v = "false")
  keylimeCa : ∃ v, configGet w "cloud_agent" "keylime_ca" = .ok v
  allowPayloadRevocationActions : ∀ v,
    configGet w "cloud_agent" "allow_payload_revocation_actions" = .ok v →
      toLowercase v = "true" ∨ toLowercase v = "false"

theorem required_ok_iff (p : Parsers H E S C) (w : World) :
    (∃ r, required p w = .ok r) ↔ RequiredSettingsResolve p w := by
  simp only [required, bind_eq_ok, pure_eq_ok]
  constructor
  · -- one pattern per group of steps: a single pattern over all of them is far slower
    rintro ⟨r, a₁, h₁, a₂, h₂, a₃, h₃, a₄, h₄, a₅, h₅, a₆, h₆, h⟩
    obtain ⟨v₇, h₇, a₇, h₇', v₈, h₈, a₈, h₈', v₉, h₉, a₉, h₉', v₁₀, h₁₀, a₁₀, h₁₀', h⟩ := h
    obtain ⟨a₁₁, h₁₁, a₁₂, h₁₂, a₁₃, h₁₃, a₁₄, h₁₄, a₁₅, h₁₅, a₁₆, h₁₆, a₁₇, h₁₇, h⟩ := h
    obtain ⟨v₁₈, h₁₈, a₁₈, h₁₈', a₁₉, h₁₉, a₂₀, h₂₀, -⟩ := h
    exact ⟨⟨_, h₁⟩, ⟨_, h₂⟩, ⟨_, h₃⟩, ⟨_, h₄⟩, ⟨_, h₅⟩,
      (cloudagentContactPortGet_ok_iff w).1 ⟨_, h₆⟩, ⟨_, h₇, _, h₇'⟩, ⟨_, h₈, _, h₈'⟩,
      ⟨_, h₉, _, h₉'⟩, ⟨_, h₁₀, (lowercase_ok_iff _).1 ⟨_, h₁₀'⟩⟩, ⟨_, h₁₁⟩, ⟨_, h₁₂⟩, ⟨_, h₁₃⟩,
      ⟨_, h₁₄⟩, ⟨_, h₁₅⟩, ⟨_, h₁₆⟩, ⟨_, h₁₇⟩, ⟨_, h₁₈, (lowercase_ok_iff _).1 ⟨_, h₁₈'⟩⟩,
      ⟨_, h₁₉⟩, fun v hv => (lowercase_ok_iff v).1 ((withDefault_ok_iff _ _ _).1 ⟨_, h₂₀⟩ v hv)⟩
  · rintro ⟨⟨a₁, h₁⟩, ⟨a₂, h₂⟩, ⟨a₃, h₃⟩, ⟨a₄, h₄⟩, ⟨a₅, h₅⟩, h₆, ⟨v₇, h₇, a₇, h₇'⟩,
      ⟨v₈, h₈, a₈, h₈'⟩, ⟨v₉, h₉, a₉, h₉'⟩, ⟨v₁₀, h₁₀, h₁₀'⟩, ⟨a₁₁, h₁₁⟩, ⟨a₁₂, h₁₂⟩, ⟨a₁₃, h₁₃⟩,
      ⟨a₁₄, h₁₄⟩, ⟨a₁₅, h₁₅⟩, ⟨a₁₆, h₁₆⟩, ⟨a₁₇, h₁₇⟩, ⟨v₁₈, h₁₈, h₁₈'⟩, ⟨a₁₉, h₁₉⟩, h₂₀⟩
    obtain ⟨a₆, h₆⟩ := (cloudagentContactPortGet_ok_iff w).2 h₆
    obtain ⟨a₁₀, h₁₀'⟩ := (lowercase_ok_iff _).2 h₁₀'
    obtain ⟨a₁₈, h₁₈'⟩ := (lowercase_ok_iff _).2 h₁₈'
    obtain ⟨a₂₀, h₂₀⟩ := (withDefault_ok_iff _ _ _).2 fun v hv => (lowercase_ok_iff v).2 (h₂₀ v hv)
    exact ⟨_, a₁, h₁, a₂, h₂, a₃, h₃, a₄, h₄, a₅, h₅, a₆, h₆, v₇, h₇, a₇, h₇', v₈, h₈, a₈, h₈',
      v₉, h₉, a₉, h₉', v₁₀, h₁₀, a₁₀, h₁₀', a₁₁, h₁₁, a₁₂, h₁₂, a₁₃, h₁₃, a₁₄, h₁₄, a₁₅, h₁₅,
      a₁₆, h₁₆, a₁₇, h₁₇, v₁₈, h₁₈, a₁₈, h₁₈', a₁₉, h₁₉, a₂₀, h₂₀, rfl⟩

theorem required_fields {p : Parsers H E S C} {w : World} {r : Required H E S}
    (h : required p w = .ok r) :
    configGetEnv w "cloud_agent" "cloudagent_ip" "CLOUDAGENT_IP" = .ok r.agentIp ∧
    configGetEnv w "cloud_agent" "cloudagent_port" "CLOUDAGENT_PORT" = .ok r.agentPort ∧
    configGetEnv w "cloud_agent" "registrar_ip" "REGISTRAR_IP" = .ok r.registrarIp ∧
    configGetEnv w "cloud_agent" "registrar_port" "REGISTRAR_PORT" = .ok r.registrarPort ∧
    configGet w "cloud_agent" "agent_uuid" = .ok r.agentUuidConfig ∧
    cloudagentContactPortGet w = .ok r.agentContactPort ∧
    (∃ v, (configGet w "cloud_agent" "listen_notifications").tryCatch
        (fun _ => configGet w "cloud_agent" "listen_notfications") = .ok v ∧
      boolFromStr (toLowercase v) = .ok r.runRevocation) ∧
    configGet w "cloud_agent" "keylime_ca" = .ok r.keylimeCa ∧
    withDefault (configGet w "cloud_agent" "allow_payload_revocation_actions")
      (fun s => boolFromStr (toLowercase s)) ALLOW_PAYLOAD_REV_ACTIONS =
        .ok r.allowPayloadRevocationActions := by
  simp only [required, bind_eq_ok, pure_eq_ok] at h
  obtain ⟨a₁, h₁, a₂, h₂, a₃, h₃, a₄, h₄, a₅, h₅, a₆, h₆, h⟩ := h
  obtain ⟨_, _, _, _, _, _, _, _, _, _, _, _, v₁₀, h₁₀, a₁₀, h₁₀', h⟩ := h
  obtain ⟨_, _, _, _, _, _, _, _, _, _, _, _, _, _, h⟩ := h
  obtain ⟨_, _, _, _, a₁₉, h₁₉, a₂₀, h₂₀, rfl⟩ := h
  exact ⟨h₁, h₂, h₃, h₄, h₅, h₆, ⟨v₁₀, h₁₀, h₁₀'⟩, h₁₉, h₂₀⟩

theorem build_eq_ok_iff {p : Parsers H E S C} {w : World} {cfg : KeylimeConfig H E S C} :
    KeylimeConfig.build p w = .ok cfg ↔ ∃ r, required p w = .ok r ∧ assemble p w r = cfg := by
  rw [build_eq]
  cases required p w <;> simp [Functor.map, Except.map]

/-- `build` returns a snapshot exactly when every required setting resolves. -/
theorem build_ok_iff (p : Parsers H E S C) (w : World) :
    (∃ cfg, KeylimeConfig.build p w = .ok cfg) ↔ RequiredSettingsResolve p w := by
  simp only [build_eq_ok_iff, ← required_ok_iff]
  exact ⟨fun ⟨_, r, h, _⟩ => ⟨r, h⟩, fun ⟨r, h⟩ => ⟨_, r, h, rfl⟩⟩

end KeylimeCommon
