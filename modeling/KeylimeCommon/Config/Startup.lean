import KeylimeCommon.Config.Build

/-! # What build does with missing and malformed settings

Once the required settings resolve, no optional key and no state of `tpmdata.json` can stop
`build`: each missing optional takes its default. A malformed flag is another matter. Three
flags reject it, but `mtls_cert_enabled` and `enable_insecure_payload` go through
`.or(Ok(default))` and take their default instead. Every error of `build` has its cause in the
run, and names it: the loader's error for the configuration file, the section or key the file
lacks, the text that is not a port number, an algorithm name, or a flag that is not a boolean.
The misspelled listen_notfications of older Python Keylime stands in for listen_notifications
only when listen_notifications is absent. A snapshot is well formed: its agent UUID is a tag or
canonical text, its TPM data path lies in its work directory, and the CA path sentinel "default"
is always resolved.
-/
namespace KeylimeCommon

variable {H E S C : Type}

/-- Each optional setting that resolves nowhere has its default in `cfg`, and TPM data that is
absent, unreadable or malformed is `none`. -/
structure OptionalDefaults (p : Parsers H E S C) (w : World) (cfg : KeylimeConfig H E S C) : Prop where
  workDir : (configGetEnv w "cloud_agent" "keylime_dir" "KEYLIME_DIR").isOk = false →
    cfg.workDir = WORK_DIR
  agentContactIp :
    (configGetEnv w "cloud_agent" "agent_contact_ip" "KEYLIME_AGENT_CONTACT_IP").isOk = false →
      cfg.agentContactIp = none
  agentContactPort :
    (configGetEnv w "cloud_agent" "agent_contact_port" "KEYLIME_AGENT_CONTACT_PORT").isOk = false →
      cfg.agentContactPort = none
  revocationActions : (configGet w "cloud_agent" "revocation_actions").isOk = false →
    cfg.revocationActions = REV_ACTIONS
  revocationActionsDir : (configGet w "cloud_agent" "revocation_actions_dir").isOk = false →
    cfg.revocationActionsDir = REV_ACTIONS_DIR
  allowPayloadRevocationActions :
    (configGet w "cloud_agent" "allow_payload_revocation_actions").isOk = false →
      cfg.allowPayloadRevocationActions = ALLOW_PAYLOAD_REV_ACTIONS
  runAs : (configGet w "cloud_agent" "run_as").isOk = false → cfg.runAs = none
  mtlsEnabled : (configGet w "cloud_agent" "mtls_cert_enabled").isOk = false →
    cfg.mtlsEnabled = MTLS_ENABLED
  enableInsecurePayload : (configGet w "cloud_agent" "enable_insecure_payload").isOk = false →
    cfg.enableInsecurePayload = ALLOW_INSECURE_PAYLOAD
  tpmData : w.pathExists cfg.tpmDataPath = false ∨
      (TpmData.load w.openFile p.tpmData cfg.tpmDataPath).isOk = false → cfg.tpmData = none

theorem eq_error_of_isOk_false {α : Type} {x : Except Error α} (h : x.isOk = false) :
    ∃ e, x = .error e := by
  cases x <;> simp_all [Except.isOk, Except.toBool]

theorem assemble_optionalDefaults {p : Parsers H E S C} {w : World} {r : Required H E S}
    (hr : required p w = .ok r) : OptionalDefaults p w (assemble p w r) := by
  obtain ⟨-, -, -, -, -, hport, -, -, hallow⟩ := required_fields hr
  constructor
  · intro h; simp [assemble, toOption_eq_none h]
  · intro h
    obtain ⟨e, he⟩ := eq_error_of_isOk_false h
    simp [assemble, cloudagentContactIpGet, he]
  · intro h
    obtain ⟨e, he⟩ := eq_error_of_isOk_false h
    simpa [cloudagentContactPortGet, he] using hport.symm
  · intro h; simp [assemble, toOption_eq_none h]
  · intro h; simp [assemble, toOption_eq_none h]
  · intro h
    obtain ⟨e, he⟩ := eq_error_of_isOk_false h
    simpa [withDefault, he] using hallow.symm
  · intro h; simp [assemble, toOption_eq_none h]
  · intro h
    obtain ⟨e, he⟩ := eq_error_of_isOk_false h
    simp [assemble, lenientBool, he, MTLS_ENABLED]
  · intro h
    obtain ⟨e, he⟩ := eq_error_of_isOk_false h
    simp [assemble, lenientBool, he, ALLOW_INSECURE_PAYLOAD]
  · simp only [assemble]
    rintro (h | h)
    · simp [h]
    · simp [toOption_eq_none h]

/-! ## A sample run

A keylime.conf holding every required setting, read by an unprivileged run that has no TPM
data yet, with algorithm parsers that accept the names of the default keylime.conf. -/

def sampleAgentKeys : List (String × String) :=
  [("cloudagent_ip", "127.0.0.1"), ("cloudagent_port", "9002"), ("registrar_ip", "127.0.0.1"),
    ("registrar_port", "8890"), ("agent_uuid", "openstack"), ("tpm_hash_alg", "sha256"),
    ("tpm_encryption_alg", "rsa"), ("tpm_signing_alg", "rsassa"), ("listen_notifications", "True"),
    ("revocation_cert", "default"), ("secure_size", "1m"), ("payload_script", "autorun.sh"),
    ("dec_payload_file", "decrypted_payload"), ("enc_keyname", "derived_tci_key"),
    ("extract_payload_zip", "True"), ("keylime_ca", "default")]

def sampleConf (extra general : List (String × String)) : Ini where
  sections := [("cloud_agent", sampleAgentKeys ++ extra), ("general", general)]

def sampleGeneral : List (String × String) :=
  [("receive_revocation_ip", "127.0.0.1"), ("receive_revocation_port", "8992")]

def sampleWorld (env : String → Option String) (conf : Ini) : World where
  env := env
  loadIni := fun path => if path = configFileGet env then .ok conf else .error (.io path)
  loadFromStr := fun text => .error (.ini text)
  pathExists := fun _ => false
  openFile := fun path => .error (.io path)
  createFile := fun _ => .ok ()
  euid := 1000
  newV4 := ⟨List.replicate 16 0, rfl⟩

def sampleParsers : Parsers String String String Unit where
  hashAlg := fun s => if s = "sha256" then .ok s else .error (.algorithm s)
  encAlg := fun s => if s = "rsa" then .ok s else .error (.algorithm s)
  signAlg := fun s => if s = "rsassa" then .ok s else .error (.algorithm s)
  tpmData := fun s => .error (.serde s)

/-- With every required setting resolved, `build` returns a snapshot whatever optional keys
are missing and whatever state `tpmdata.json` is in, and each missing optional takes its
default. -/
theorem build_ok_of_required (p : Parsers H E S C) (w : World) (h : RequiredSettingsResolve p w) :
    ∃ cfg, KeylimeConfig.build p w = .ok cfg ∧ OptionalDefaults p w cfg := by
  obtain ⟨r, hr⟩ := (required_ok_iff p w).2 h
  exact ⟨assemble p w r, build_eq_ok_iff.2 ⟨r, hr, rfl⟩, assemble_optionalDefaults hr⟩

theorem build_ok_of_required_sample :
    RequiredSettingsResolve sampleParsers (sampleWorld (fun _ => none) (sampleConf [] sampleGeneral)) ∧
    ∃ cfg, KeylimeConfig.build sampleParsers
        (sampleWorld (fun _ => none) (sampleConf [] sampleGeneral)) = .ok cfg ∧
      OptionalDefaults sampleParsers (sampleWorld (fun _ => none) (sampleConf [] sampleGeneral)) cfg :=
  have h := (required_ok_iff _ _).1 (isOk_iff_exists.1 (by decide))
  ⟨h, build_ok_of_required _ _ h⟩

/-- The keys whose absence makes `build` fail, with their sections, in the order `build` reads
them. Of the notifications flag only listen_notfications is one: its lookup is the one whose
error is kept. -/
def fatalKeys : List (String × String) :=
  [("cloud_agent", "cloudagent_ip"), ("cloud_agent", "cloudagent_port"), ("cloud_agent", "registrar_ip"),
    ("cloud_agent", "registrar_port"), ("cloud_agent", "agent_uuid"), ("cloud_agent", "tpm_hash_alg"),
    ("cloud_agent", "tpm_encryption_alg"), ("cloud_agent", "tpm_signing_alg"),
    ("cloud_agent", "listen_notfications"), ("cloud_agent", "revocation_cert"),
    ("general", "receive_revocation_ip"), ("general", "receive_revocation_port"),
    ("cloud_agent", "secure_size"), ("cloud_agent", "payload_script"), ("cloud_agent", "dec_payload_file"),
    ("cloud_agent", "enc_keyname"), ("cloud_agent", "extract_payload_zip"), ("cloud_agent", "keylime_ca")]

/-- The cloud_agent flags `build` parses with `bool::from_str` and whose parse error it keeps. -/
def strictFlags : List String :=
  ["listen_notifications", "listen_notfications", "extract_payload_zip", "allow_payload_revocation_actions"]

/-- The errors `build` can return, each with its cause in the run: the loader failed on the
configuration file, the loaded file lacks a section or a key without a default, the contact
port is not a port number, an algorithm name is rejected, or a strict flag is not a boolean. -/
inductive BuildError (p : Parsers H E S C) (w : World) : Error → Prop
  | load {e : Error} : w.loadIni (configFileGet w.env) = .error e → BuildError p w e
  | missingSection {sec : String} {F : Ini} : sec ∈ ["cloud_agent", "general"] →
      w.loadIni (configFileGet w.env) = .ok F → F.section? sec = none → BuildError p w
        (.configuration ("Cannot find section called " ++ sec ++ " in file " ++ configFileGet w.env))
  | missingKey {sec key : String} {F : Ini} : (sec, key) ∈ fatalKeys →
      w.loadIni (configFileGet w.env) = .ok F → (F.section? sec).isSome → F.getFrom sec key = none →
      BuildError p w (.configuration ("Cannot find key " ++ key ++ " in file " ++ configFileGet w.env))
  | badPort {portStr : String} :
      configGetEnv w "cloud_agent" "agent_contact_port" "KEYLIME_AGENT_CONTACT_PORT" = .ok portStr →
      parseU32 portStr = none → BuildError p w (.configuration ("Parse " ++ portStr ++ " to a port number."))
  | hashAlg {v : String} {e : Error} : configGet w "cloud_agent" "tpm_hash_alg" = .ok v →
      p.hashAlg v = .error e → BuildError p w e
  | encAlg {v : String} {e : Error} : configGet w "cloud_agent" "tpm_encryption_alg" = .ok v →
      p.encAlg v = .error e → BuildError p w e
  | signAlg {v : String} {e : Error} : configGet w "cloud_agent" "tpm_signing_alg" = .ok v →
      p.signAlg v = .error e → BuildError p w e
  | parseBool {key v : String} : key ∈ strictFlags → configGet w "cloud_agent" key = .ok v →
      ¬(toLowercase v = "true" ∨ toLowercase v = "false") → BuildError p w .parseBool

theorem fatalKeys_sections : ∀ x ∈ fatalKeys, x.1 ∈ ["cloud_agent", "general"] := by
  decide

section BuildErrors

variable (p : Parsers H E S C) (w : World)

section Lookups

variable {sec key : String} (hk : (sec, key) ∈ fatalKeys)
include hk

theorem configGet_errorsIn : ErrorsIn (BuildError p w) (configGet w sec key) := fun _ h =>
  (configGet_eq_error h).elim BuildError.load fun ⟨_, hF, h⟩ => h.elim
    (fun ⟨hs, he⟩ => he ▸ .missingSection (fatalKeys_sections _ hk) hF hs)
    fun ⟨hs, hkey, he⟩ => he ▸ .missingKey hk hF hs hkey

theorem configGetEnv_errorsIn (env : String) : ErrorsIn (BuildError p w) (configGetEnv w sec key env) := by
  unfold configGetEnv
  split
  · split
    · exact ErrorsIn.ok _
    · exact configGet_errorsIn p w hk
  · exact configGet_errorsIn p w hk

end Lookups

theorem cloudagentContactPortGet_errorsIn : ErrorsIn (BuildError p w) (cloudagentContactPortGet w) := by
  unfold cloudagentContactPortGet
  split
  · split
    · exact ErrorsIn.ok _
    · rintro _ ⟨⟩
      exact .badPort ‹_› ‹_›
  · exact ErrorsIn.ok _

theorem boolFromStr_errorsIn {key v : String} (hk : key ∈ strictFlags)
    (hv : configGet w "cloud_agent" key = .ok v) : ErrorsIn (BuildError p w) (boolFromStr (toLowercase v)) :=
  fun e he => by
    have hbad : ¬(toLowercase v = "true" ∨ toLowercase v = "false") := fun h => by
      obtain ⟨b, hb⟩ := (boolFromStr_ok_iff _).2 h
      cases hb.symm.trans he
    rw [boolFromStr_eq_error hbad] at he
    cases he
    exact .parseBool hk hv hbad

theorem listen_errorsIn {v : String} (hv : (configGet w "cloud_agent" "listen_notifications").tryCatch
    (fun _ => configGet w "cloud_agent" "listen_notfications") = .ok v) :
    ErrorsIn (BuildError p w) (boolFromStr (toLowercase v)) := by
  rcases tryCatch_eq_ok hv with h | ⟨_, -, h⟩ <;> exact boolFromStr_errorsIn p w (by decide) h

theorem withDefault_errorsIn {α : Type} {x : Except Error String} {f : String → Except Error α} (d : α)
    (hf : ∀ s, x = .ok s → ErrorsIn (BuildError p w) (f s)) : ErrorsIn (BuildError p w) (withDefault x f d) := by
  unfold withDefault
  split
  · exact hf _ rfl
  · exact ErrorsIn.ok d

/-- One step of the proof per step of `required`, in the same order. -/
theorem required_errorsIn : ErrorsIn (BuildError p w) (required p w) := by
  unfold required
  exact .bind (configGetEnv_errorsIn p w (by decide) _) fun _ _ =>
    .bind (configGetEnv_errorsIn p w (by decide) _) fun _ _ =>
    .bind (configGetEnv_errorsIn p w (by decide) _) fun _ _ =>
    .bind (configGetEnv_errorsIn p w (by decide) _) fun _ _ =>
    .bind (configGet_errorsIn p w (by decide)) fun _ _ =>
    .bind (cloudagentContactPortGet_errorsIn p w) fun _ _ =>
    .bind (configGet_errorsIn p w (by decide)) fun _ hv => .bind (fun _ h => .hashAlg hv h) fun _ _ =>
    .bind (configGet_errorsIn p w (by decide)) fun _ hv => .bind (fun _ h => .encAlg hv h) fun _ _ =>
    .bind (configGet_errorsIn p w (by decide)) fun _ hv => .bind (fun _ h => .signAlg hv h) fun _ _ =>
    .bind (.tryCatch fun _ => configGet_errorsIn p w (by decide)) fun _ hv =>
      .bind (listen_errorsIn p w hv) fun _ _ =>
    .bind (configGet_errorsIn p w (by decide)) fun _ _ =>
    .bind (configGet_errorsIn p w (by decide)) fun _ _ =>
    .bind (configGet_errorsIn p w (by decide)) fun _ _ =>
    .bind (configGet_errorsIn p w (by decide)) fun _ _ =>
    .bind (configGet_errorsIn p w (by decide)) fun _ _ =>
    .bind (configGet_errorsIn p w (by decide)) fun _ _ =>
    .bind (configGet_errorsIn p w (by decide)) fun _ _ =>
    .bind (configGet_errorsIn p w (by decide)) fun _ hv =>
      .bind (boolFromStr_errorsIn p w (by decide) hv) fun _ _ =>
    .bind (configGet_errorsIn p w (by decide)) fun _ _ =>
    .bind (withDefault_errorsIn p w _ fun _ hv => boolFromStr_errorsIn p w (by decide) hv) fun _ _ =>
    .pure _

end BuildErrors

/-- What every snapshot satisfies: the agent identifier is one of the two tags or canonical
UUID text, and the TPM data lives at `<work_dir>/tpmdata.json`. -/
structure KeylimeConfig.WellFormed (cfg : KeylimeConfig H E S C) : Prop where
  agentUuid : cfg.agentUuid = "openstack" ∨ cfg.agentUuid = "hash_ek" ∨ Uuid.IsCanonical cfg.agentUuid
  tpmDataPath : cfg.tpmDataPath = pathJoin cfg.workDir TPM_DATA
  /-- The sentinel "default" never reaches the snapshot as a CA path. -/
  keylimeCaPath : cfg.keylimeCaPath ≠ "default"

theorem pathJoin_ne_default (base : String) : pathJoin base DEFAULT_CA_PATH ≠ "default" :=
  fun h => absurd (h ▸ length_le_pathJoin base DEFAULT_CA_PATH) (by decide)

theorem build_wellFormed {p : Parsers H E S C} {w : World} {cfg : KeylimeConfig H E S C}
    (hb : KeylimeConfig.build p w = .ok cfg) : cfg.WellFormed := by
  obtain ⟨r, -, rfl⟩ := build_eq_ok_iff.1 hb
  refine ⟨getUuid_wellFormed _ _, rfl, ?_⟩
  show (if r.keylimeCa = "default" then _ else _) ≠ _
  split
  · exact pathJoin_ne_default _
  · assumption

theorem build_wellFormed_sample :
    ∃ cfg, KeylimeConfig.build sampleParsers (sampleWorld (fun _ => none) (sampleConf [] sampleGeneral)) =
      .ok cfg ∧ cfg.WellFormed := by
  obtain ⟨cfg, hb⟩ := isOk_iff_exists.1 (by decide :
    (KeylimeConfig.build sampleParsers (sampleWorld (fun _ => none) (sampleConf [] sampleGeneral))).isOk)
  exact ⟨cfg, hb, build_wellFormed hb⟩

theorem build_isOk_false {p : Parsers H E S C} {w : World} (h : ¬RequiredSettingsResolve p w) :
    (KeylimeConfig.build p w).isOk = false := by
  cases hb : (KeylimeConfig.build p w).isOk
  · rfl
  · obtain ⟨_, hcfg⟩ := isOk_iff_exists.1 hb
    obtain ⟨r, hr, -⟩ := build_eq_ok_iff.1 hcfg
    exact absurd ((required_ok_iff p w).1 ⟨r, hr⟩) h

/-- The notifications flag `build` reads: listen_notifications, or the misspelled
listen_notfications when it is absent. -/
theorem listenNotifications_eq {w : World} {F : Ini} {v : String}
    (hF : w.loadIni (configFileGet w.env) = .ok F)
    (h : F.getFrom "cloud_agent" "listen_notifications" = some v ∨
      F.getFrom "cloud_agent" "listen_notifications" = none ∧
        F.getFrom "cloud_agent" "listen_notfications" = some v) :
    (configGet w "cloud_agent" "listen_notifications").tryCatch
      (fun _ => configGet w "cloud_agent" "listen_notfications") = .ok v := by
  rcases h with h | ⟨h₀, h⟩
  · rw [configGet_of_getFrom hF h, tryCatch_ok]
  · obtain ⟨e, he⟩ := configGet_error_of_getFrom hF h₀
    rw [he, tryCatch_error, configGet_of_getFrom hF h]

/-- A field `assemble` sets to `v` from every run of `required` is `v` in every snapshot, and
`build` returns such a snapshot whenever the required settings resolve. -/
theorem build_field_of_assemble {p : Parsers H E S C} {w : World} {α : Type}
    (field : KeylimeConfig H E S C → α) {v : α} (h : ∀ r, field (assemble p w r) = v) :
    (RequiredSettingsResolve p w → ∃ cfg, KeylimeConfig.build p w = .ok cfg ∧ field cfg = v) ∧
    ∀ cfg, KeylimeConfig.build p w = .ok cfg → field cfg = v := by
  refine ⟨fun hr => ?_, fun cfg hb => ?_⟩
  · obtain ⟨r, hr'⟩ := (required_ok_iff p w).2 hr
    exact ⟨_, build_eq_ok_iff.2 ⟨r, hr', rfl⟩, h r⟩
  · obtain ⟨r, -, rfl⟩ := build_eq_ok_iff.1 hb
    exact h r

def flagConf (old key value : String) : Ini :=
  ⟨[("cloud_agent", (key, value) :: sampleAgentKeys.filter (·.1 != old)), ("general", sampleGeneral)]⟩

def malformedConf : Ini :=
  sampleConf [("mtls_cert_enabled", "maybe"), ("enable_insecure_payload", "maybe")] sampleGeneral

/-- A malformed `listen_notifications` (or, when it is absent, `listen_notfications`),
`extract_payload_zip` or `allow_payload_revocation_actions` makes `build` fail. A malformed
`mtls_cert_enabled` or `enable_insecure_payload` is no error: `build` still succeeds once the
required settings resolve, and the snapshot holds the flag's default. -/
theorem build_malformed_flags (p : Parsers H E S C) (w : World) (F : Ini) (m : String)
    (hF : w.loadIni (configFileGet w.env) = .ok F)
    (hm : toLowercase m ≠ "true" ∧ toLowercase m ≠ "false") :
    (F.getFrom "cloud_agent" "listen_notifications" = some m →
      (KeylimeConfig.build p w).isOk = false) ∧
    (F.getFrom "cloud_agent" "listen_notifications" = none →
      F.getFrom "cloud_agent" "listen_notfications" = some m →
        (KeylimeConfig.build p w).isOk = false) ∧
    (F.getFrom "cloud_agent" "extract_payload_zip" = some m →
      (KeylimeConfig.build p w).isOk = false) ∧
    (F.getFrom "cloud_agent" "allow_payload_revocation_actions" = some m →
      (KeylimeConfig.build p w).isOk = false) ∧
    (F.getFrom "cloud_agent" "mtls_cert_enabled" = some m →
      (RequiredSettingsResolve p w →
        ∃ cfg, KeylimeConfig.build p w = .ok cfg ∧ cfg.mtlsEnabled = MTLS_ENABLED) ∧
      ∀ cfg, KeylimeConfig.build p w = .ok cfg → cfg.mtlsEnabled = MTLS_ENABLED) ∧
    (F.getFrom "cloud_agent" "enable_insecure_payload" = some m →
      (RequiredSettingsResolve p w →
        ∃ cfg, KeylimeConfig.build p w = .ok cfg ∧ cfg.enableInsecurePayload = ALLOW_INSECURE_PAYLOAD) ∧
      ∀ cfg, KeylimeConfig.build p w = .ok cfg → cfg.enableInsecurePayload = ALLOW_INSECURE_PAYLOAD) := by
  have hbad : ¬(toLowercase m = "true" ∨ toLowercase m = "false") := by tauto
  have hlisten : F.getFrom "cloud_agent" "listen_notifications" = some m ∨
      F.getFrom "cloud_agent" "listen_notifications" = none ∧
        F.getFrom "cloud_agent" "listen_notfications" = some m →
      (KeylimeConfig.build p w).isOk = false := fun h => build_isOk_false fun hr => by
    obtain ⟨v, hv, hl⟩ := hr.runRevocation
    cases (listenNotifications_eq hF h).symm.trans hv
    exact hbad hl
  have hlenient : ∀ {key : String} {fallback d : Bool}, F.getFrom "cloud_agent" key = some m →
      lenientBool (configGet w "cloud_agent" key) fallback d = fallback := fun h => by
    simp [lenientBool, configGet_of_getFrom hF h, boolFromStr_eq_error hbad]
  refine ⟨fun h => hlisten (.inl h), fun h₀ h => hlisten (.inr ⟨h₀, h⟩),
    fun h => build_isOk_false fun hr => ?_, fun h => build_isOk_false fun hr => ?_,
    fun h => build_field_of_assemble (·.mtlsEnabled) fun _ => hlenient h,
    fun h => build_field_of_assemble (·.enableInsecurePayload) fun _ => hlenient h⟩
  · obtain ⟨v, hv, hl⟩ := hr.extractPayloadZip
    rw [configGet_of_getFrom hF h] at hv
    cases hv
    exact hbad hl
  · exact hbad (hr.allowPayloadRevocationActions m (configGet_of_getFrom hF h))

theorem build_malformed_flags_sample :
    (KeylimeConfig.build sampleParsers (sampleWorld (fun _ => none)
      (flagConf "listen_notifications" "listen_notifications" "maybe"))).isOk = false ∧
    (KeylimeConfig.build sampleParsers (sampleWorld (fun _ => none)
      (flagConf "listen_notifications" "listen_notfications" "maybe"))).isOk = false ∧
    (KeylimeConfig.build sampleParsers (sampleWorld (fun _ => none)
      (flagConf "extract_payload_zip" "extract_payload_zip" "maybe"))).isOk = false ∧
    (KeylimeConfig.build sampleParsers (sampleWorld (fun _ => none)
      (flagConf "" "allow_payload_revocation_actions" "maybe"))).isOk = false ∧
    RequiredSettingsResolve sampleParsers (sampleWorld (fun _ => none) malformedConf) ∧
    ∃ cfg, KeylimeConfig.build sampleParsers (sampleWorld (fun _ => none) malformedConf) = .ok cfg ∧
      cfg.mtlsEnabled = MTLS_ENABLED := by
  have hm : toLowercase "maybe" ≠ "true" ∧ toLowercase "maybe" ≠ "false" := by decide
  have hr : RequiredSettingsResolve sampleParsers (sampleWorld (fun _ => none) malformedConf) :=
    (required_ok_iff _ _).1 (isOk_iff_exists.1 (by decide))
  exact ⟨(build_malformed_flags sampleParsers _ (flagConf "listen_notifications" "listen_notifications" "maybe")
      "maybe" rfl hm).1 (by decide),
    (build_malformed_flags sampleParsers _ (flagConf "listen_notifications" "listen_notfications" "maybe")
      "maybe" rfl hm).2.1 (by decide) (by decide),
    (build_malformed_flags sampleParsers _ (flagConf "extract_payload_zip" "extract_payload_zip" "maybe")
      "maybe" rfl hm).2.2.1 (by decide),
    (build_malformed_flags sampleParsers _ (flagConf "" "allow_payload_revocation_actions" "maybe")
      "maybe" rfl hm).2.2.2.1 (by decide),
    hr, ((build_malformed_flags sampleParsers _ malformedConf "maybe" rfl hm).2.2.2.2.1 (by decide)).1 hr⟩

/-- With both lenient flags malformed, `build` still returns a snapshot, holding their
defaults: no error is raised for either. -/
theorem build_ok_with_malformed_lenient_flags :
    malformedConf.getFrom "cloud_agent" "mtls_cert_enabled" = some "maybe" ∧
    malformedConf.getFrom "cloud_agent" "enable_insecure_payload" = some "maybe" ∧
    (fun cfg => (cfg.mtlsEnabled, cfg.enableInsecurePayload)) <$>
      KeylimeConfig.build sampleParsers (sampleWorld (fun _ => none) malformedConf) =
        .ok (MTLS_ENABLED, ALLOW_INSECURE_PAYLOAD) := by
  decide

def typoConf : Ini :=
  ⟨[("cloud_agent", (sampleAgentKeys.filter fun kv => kv.1 != "listen_notifications") ++
      [("listen_notfications", "False")]), ("general", sampleGeneral)]⟩

/-- `run_revocation` is read from listen_notifications, or from the misspelled
listen_notfications only when listen_notifications is absent; with neither, `build` fails. -/
theorem build_listen_notifications (p : Parsers H E S C) (w : World) (F : Ini)
    (hF : w.loadIni (configFileGet w.env) = .ok F) :
    (∀ v, F.getFrom "cloud_agent" "listen_notifications" = some v → ∀ cfg,
      KeylimeConfig.build p w = .ok cfg → boolFromStr (toLowercase v) = .ok cfg.runRevocation) ∧
    (∀ v, F.getFrom "cloud_agent" "listen_notifications" = none →
      F.getFrom "cloud_agent" "listen_notfications" = some v → ∀ cfg,
        KeylimeConfig.build p w = .ok cfg → boolFromStr (toLowercase v) = .ok cfg.runRevocation) ∧
    (F.getFrom "cloud_agent" "listen_notifications" = none →
      F.getFrom "cloud_agent" "listen_notfications" = none → (KeylimeConfig.build p w).isOk = false) := by
  have hread : ∀ {v}, F.getFrom "cloud_agent" "listen_notifications" = some v ∨
      F.getFrom "cloud_agent" "listen_notifications" = none ∧
        F.getFrom "cloud_agent" "listen_notfications" = some v →
      ∀ cfg, KeylimeConfig.build p w = .ok cfg → boolFromStr (toLowercase v) = .ok cfg.runRevocation := by
    intro v h cfg hb
    obtain ⟨r, hr, rfl⟩ := build_eq_ok_iff.1 hb
    obtain ⟨-, -, -, -, -, -, ⟨x, hx, hbool⟩, -⟩ := required_fields hr
    cases (listenNotifications_eq hF h).symm.trans hx
    exact hbool
  refine ⟨fun v hv => hread (.inl hv), fun v h₀ hv => hread (.inr ⟨h₀, hv⟩),
    fun h₀ h₁ => build_isOk_false fun hr => ?_⟩
  · obtain ⟨x, hx, -⟩ := hr.runRevocation
    obtain ⟨e, he⟩ := configGet_error_of_getFrom hF h₀
    obtain ⟨e', he'⟩ := configGet_error_of_getFrom hF h₁
    rw [he, tryCatch_error, he'] at hx
    cases hx

theorem build_listen_notifications_sample :
    (sampleWorld (fun _ => none) typoConf).loadIni
        (configFileGet (sampleWorld (fun _ => none) typoConf).env) = .ok typoConf ∧
    (∀ v, typoConf.getFrom "cloud_agent" "listen_notifications" = some v → ∀ cfg,
      KeylimeConfig.build sampleParsers (sampleWorld (fun _ => none) typoConf) = .ok cfg →
        boolFromStr (toLowercase v) = .ok cfg.runRevocation) ∧
    (∀ v, typoConf.getFrom "cloud_agent" "listen_notifications" = none →
      typoConf.getFrom "cloud_agent" "listen_notfications" = some v → ∀ cfg,
        KeylimeConfig.build sampleParsers (sampleWorld (fun _ => none) typoConf) = .ok cfg →
          boolFromStr (toLowercase v) = .ok cfg.runRevocation) ∧
    (typoConf.getFrom "cloud_agent" "listen_notifications" = none →
      typoConf.getFrom "cloud_agent" "listen_notfications" = none →
        (KeylimeConfig.build sampleParsers (sampleWorld (fun _ => none) typoConf)).isOk = false) :=
  have hF : (sampleWorld (fun _ => none) typoConf).loadIni
      (configFileGet (sampleWorld (fun _ => none) typoConf).env) = .ok typoConf := rfl
  ⟨hF, build_listen_notifications sampleParsers _ _ hF⟩

end KeylimeCommon
