import KeylimeCommon.Config.Startup

/-! # Environment overrides

Seven settings of `build` go through `config_get_env`. When the environment sets the
variable to a non-empty value the file's key is never read: two files that differ only in that
key give the same outcome, and the snapshot holds the environment's value. The two revocation
settings have an override too (`revocation_ip_get`, `revocation_port_get`), but `build`
reads them with `config_get`, so the environment is ignored and the file decides. With the
variable unset or empty, the file decides for the seven as well. Of the file, `build` reads the
keys of `buildKeys` and no other, and of the environment the variables of `buildEnvVars`;
`run_as` it reads only when the agent runs as root.
-/
namespace KeylimeCommon

/-- The settings `build` reads through `config_get_env`, all in the cloud_agent section. -/
inductive EnvOverride where
  | cloudagentIp
  | cloudagentPort
  | registrarIp
  | registrarPort
  | keylimeDir
  | agentContactIp
  | agentContactPort
  deriving DecidableEq, Repr

namespace EnvOverride

def key : EnvOverride → String
  | cloudagentIp => "cloudagent_ip"
  | cloudagentPort => "cloudagent_port"
  | registrarIp => "registrar_ip"
  | registrarPort => "registrar_port"
  | keylimeDir => "keylime_dir"
  | agentContactIp => "agent_contact_ip"
  | agentContactPort => "agent_contact_port"

def env : EnvOverride → String
  | cloudagentIp => "CLOUDAGENT_IP"
  | cloudagentPort => "CLOUDAGENT_PORT"
  | registrarIp => "REGISTRAR_IP"
  | registrarPort => "REGISTRAR_PORT"
  | keylimeDir => "KEYLIME_DIR"
  | agentContactIp => "KEYLIME_AGENT_CONTACT_IP"
  | agentContactPort => "KEYLIME_AGENT_CONTACT_PORT"

/-- The snapshot field the setting fills holds `v`, parsed as a port for the contact port. -/
def Shows {H E S C : Type} : EnvOverride → KeylimeConfig H E S C → String → Prop
  | cloudagentIp, cfg, v => cfg.agentIp = v
  | cloudagentPort, cfg, v => cfg.agentPort = v
  | registrarIp, cfg, v => cfg.registrarIp = v
  | registrarPort, cfg, v => cfg.registrarPort = v
  | keylimeDir, cfg, v => cfg.workDir = v
  | agentContactIp, cfg, v => cfg.agentContactIp = some v
  | agentContactPort, cfg, v => cfg.agentContactPort = parseU32 v

/-- The settings `build` falls back from when they resolve nowhere. -/
def hasDefault : EnvOverride → Bool
  | keylimeDir | agentContactIp | agentContactPort => true
  | cloudagentIp | cloudagentPort | registrarIp | registrarPort => false

theorem key_not_mem_gets (o : EnvOverride) :
    ("cloud_agent", o.key) ∉ ("cloud_agent", "run_as") :: (requiredGets ++ assembleGets) := by
  cases o <;> decide

theorem envGets_cases (o : EnvOverride) : ∀ x ∈ requiredEnvGets ++ assembleEnvGets,
    x.2.2 = o.env ∨ (x.1, x.2.1) ≠ ("cloud_agent", o.key) := by
  cases o <;> decide

end EnvOverride

variable {H E S C : Type}

theorem build_shows {p : Parsers H E S C} {w : World} {cfg : KeylimeConfig H E S C} {v : String}
    (o : EnvOverride) (hb : KeylimeConfig.build p w = .ok cfg)
    (hv : configGetEnv w "cloud_agent" o.key o.env = .ok v) : o.Shows cfg v := by
  obtain ⟨r, hr, rfl⟩ := build_eq_ok_iff.1 hb
  obtain ⟨h₁, h₂, h₃, h₄, -, h₆, -⟩ := required_fields hr
  cases o <;> simp only [EnvOverride.key, EnvOverride.env] at hv
  · exact (Except.ok.inj (hv.symm.trans h₁)).symm
  · exact (Except.ok.inj (hv.symm.trans h₂)).symm
  · exact (Except.ok.inj (hv.symm.trans h₃)).symm
  · exact (Except.ok.inj (hv.symm.trans h₄)).symm
  · simp [EnvOverride.Shows, assemble, hv]
  · simp [EnvOverride.Shows, assemble, cloudagentContactIpGet, hv]
  · simp only [cloudagentContactPortGet, hv] at h₆
    show r.agentContactPort = parseU32 v
    split at h₆ <;> simp_all

theorem sampleConf_agreeExcept (key value : String) :
    (sampleConf [] sampleGeneral).AgreeExcept (sampleConf [(key, value)] sampleGeneral)
      "cloud_agent" key := by
  refine ⟨fun s => ?_, fun s k hk => ?_⟩
  · simp only [Ini.section?, sampleConf, List.lookup_cons]
    split <;> rfl
  · simp only [Ini.getFrom, Ini.section?, sampleConf, List.lookup_cons]
    split
    · rename_i h
      have hs : s = "cloud_agent" := by simpa using h
      have hk' : k ≠ key := by rintro rfl; exact hk (by rw [hs])
      simp [List.lookup_append, List.lookup_cons, beq_eq_false_iff_ne.2 hk']
    · rfl

def contactEnv (name : String) : Option String :=
  if name = "KEYLIME_AGENT_CONTACT_IP" then some "10.0.0.2" else none

section Override

variable (p : Parsers H E S C) (w : World) (o : EnvOverride) {F F' : Ini} {v : String}
  (hF : F.AgreeExcept F' "cloud_agent" o.key) (hv : w.env o.env = some v) (hne : v ≠ "")
include hF hv hne

theorem configGetEnv_congr_override {s k e : String} (h : (s, k, e) ∈ requiredEnvGets ++ assembleEnvGets) :
    configGetEnv (w.withConfigFile F) s k e = configGetEnv (w.withConfigFile F') s k e := by
  rcases (o.envGets_cases _ h : e = o.env ∨ (s, k) ≠ ("cloud_agent", o.key)) with rfl | hk
  · have hset : ∀ G, configGetEnv (w.withConfigFile G) s k o.env = .ok v :=
      fun _ => configGetEnv_of_set hv hne
    exact (hset F).trans (hset F').symm
  · exact configGetEnv_congr hF hk e

/-- A non-empty override decides its setting: changing or removing the file's key changes
nothing in the outcome of `build`, and a snapshot holds the environment's value. -/
theorem build_env_override :
    KeylimeConfig.build p (w.withConfigFile F) = KeylimeConfig.build p (w.withConfigFile F') ∧
    ∀ cfg, KeylimeConfig.build p (w.withConfigFile F) = .ok cfg → o.Shows cfg v :=
  ⟨build_congr_reads p
      (fun _ _ h => configGet_congr hF (ne_of_mem_of_not_mem (List.mem_cons_of_mem _ h) o.key_not_mem_gets))
      (fun _ _ _ h => configGetEnv_congr_override w o hF hv hne h)
      (fun _ => configGet_congr hF (ne_of_mem_of_not_mem (List.mem_cons_self _ _) o.key_not_mem_gets))
      rfl rfl rfl rfl,
    fun _ hb => build_shows o hb (configGetEnv_of_set hv hne)⟩

end Override

theorem build_env_override_sample :
    (sampleConf [] sampleGeneral).AgreeExcept (sampleConf [("agent_contact_ip", "192.0.2.7")] sampleGeneral)
      "cloud_agent" EnvOverride.agentContactIp.key ∧
    (sampleWorld contactEnv (sampleConf [] [])).env EnvOverride.agentContactIp.env = some "10.0.0.2" ∧
    "10.0.0.2" ≠ "" ∧
    (KeylimeConfig.build sampleParsers
        ((sampleWorld contactEnv (sampleConf [] [])).withConfigFile (sampleConf [] sampleGeneral)) =
      KeylimeConfig.build sampleParsers ((sampleWorld contactEnv (sampleConf [] [])).withConfigFile
        (sampleConf [("agent_contact_ip", "192.0.2.7")] sampleGeneral)) ∧
    ∀ cfg, KeylimeConfig.build sampleParsers
        ((sampleWorld contactEnv (sampleConf [] [])).withConfigFile (sampleConf [] sampleGeneral)) =
          .ok cfg → EnvOverride.agentContactIp.Shows cfg "10.0.0.2") :=
  have hF := sampleConf_agreeExcept "agent_contact_ip" "192.0.2.7"
  have hv : (sampleWorld contactEnv (sampleConf [] [])).env EnvOverride.agentContactIp.env =
    some "10.0.0.2" := rfl
  have hne : ("10.0.0.2" : String) ≠ "" := by decide
  ⟨hF, hv, hne, build_env_override sampleParsers _ EnvOverride.agentContactIp hF hv hne⟩

section FileFallback

variable (p : Parsers H E S C) (w : World) (o : EnvOverride) {F : Ini}
  (hF : w.loadIni (configFileGet w.env) = .ok F) (hu : (w.env o.env).getD "" = "")
include hF hu

/-- With the variable unset or empty the file decides: a snapshot holds the file's value, and
a setting without a default that the file lacks makes `build` fail. -/
theorem build_file_fallback :
    (∀ v, F.getFrom "cloud_agent" o.key = some v →
      ∀ cfg, KeylimeConfig.build p w = .ok cfg → o.Shows cfg v) ∧
    (o.hasDefault = false → F.getFrom "cloud_agent" o.key = none →
      (KeylimeConfig.build p w).isOk = false) := by
  refine ⟨fun v hv _ hb => build_shows o hb ((configGetEnv_of_unset hu).trans
    (configGet_of_getFrom hF hv)), fun hd hk => build_isOk_false fun hr => ?_⟩
  obtain ⟨e, he⟩ := configGet_error_of_getFrom hF hk
  have hfile : configGetEnv w "cloud_agent" o.key o.env = .error e := (configGetEnv_of_unset hu).trans he
  cases o <;> simp only [EnvOverride.hasDefault, Bool.true_eq_false] at hd
  · obtain ⟨_, h⟩ := hr.agentIp
    exact Except.noConfusion (hfile.symm.trans h)
  · obtain ⟨_, h⟩ := hr.agentPort
    exact Except.noConfusion (hfile.symm.trans h)
  · obtain ⟨_, h⟩ := hr.registrarIp
    exact Except.noConfusion (hfile.symm.trans h)
  · obtain ⟨_, h⟩ := hr.registrarPort
    exact Except.noConfusion (hfile.symm.trans h)

end FileFallback

theorem build_file_fallback_sample :
    (sampleWorld (fun _ => none) (sampleConf [] sampleGeneral)).loadIni
        (configFileGet (sampleWorld (fun _ => none) (sampleConf [] sampleGeneral)).env) =
      .ok (sampleConf [] sampleGeneral) ∧
    ((sampleWorld (fun _ => none) (sampleConf [] sampleGeneral)).env
      EnvOverride.cloudagentIp.env).getD "" = "" ∧
    (∀ v, (sampleConf [] sampleGeneral).getFrom "cloud_agent" EnvOverride.cloudagentIp.key = some v →
      ∀ cfg, KeylimeConfig.build sampleParsers
        (sampleWorld (fun _ => none) (sampleConf [] sampleGeneral)) = .ok cfg →
          EnvOverride.cloudagentIp.Shows cfg v) ∧
    (EnvOverride.cloudagentIp.hasDefault = false →
      (sampleConf [] sampleGeneral).getFrom "cloud_agent" EnvOverride.cloudagentIp.key = none →
        (KeylimeConfig.build sampleParsers
          (sampleWorld (fun _ => none) (sampleConf [] sampleGeneral))).isOk = false) :=
  have hF : (sampleWorld (fun _ => none) (sampleConf [] sampleGeneral)).loadIni
      (configFileGet (sampleWorld (fun _ => none) (sampleConf [] sampleGeneral)).env) =
        .ok (sampleConf [] sampleGeneral) := rfl
  have hu : ((sampleWorld (fun _ => none) (sampleConf [] sampleGeneral)).env
      EnvOverride.cloudagentIp.env).getD "" = "" := rfl
  ⟨hF, hu, build_file_fallback sampleParsers _ EnvOverride.cloudagentIp hF hu⟩

/-- The keys `build` reads, with their sections. -/
def buildKeys : List (String × String) :=
  [("cloud_agent", "cloudagent_ip"), ("cloud_agent", "cloudagent_port"),
    ("cloud_agent", "registrar_ip"), ("cloud_agent", "registrar_port"), ("cloud_agent", "agent_uuid"),
    ("cloud_agent", "agent_contact_ip"), ("cloud_agent", "agent_contact_port"),
    ("cloud_agent", "tpm_hash_alg"), ("cloud_agent", "tpm_encryption_alg"),
    ("cloud_agent", "tpm_signing_alg"), ("cloud_agent", "listen_notifications"),
    ("cloud_agent", "listen_notfications"), ("cloud_agent", "revocation_cert"),
    ("general", "receive_revocation_ip"), ("general", "receive_revocation_port"),
    ("cloud_agent", "secure_size"), ("cloud_agent", "payload_script"),
    ("cloud_agent", "dec_payload_file"), ("cloud_agent", "enc_keyname"),
    ("cloud_agent", "extract_payload_zip"), ("cloud_agent", "keylime_dir"),
    ("cloud_agent", "keylime_ca"), ("cloud_agent", "revocation_actions"),
    ("cloud_agent", "revocation_actions_dir"), ("cloud_agent", "allow_payload_revocation_actions"),
    ("cloud_agent", "run_as"), ("cloud_agent", "mtls_cert_enabled"),
    ("cloud_agent", "enable_insecure_payload")]

section OtherKeys

variable (p : Parsers H E S C) (w : World) {F F' : Ini} {sec key : String}
  (hF : F.AgreeExcept F' sec key) (hk : (sec, key) ∉ buildKeys)
include hF hk

theorem configGet_congr_of_mem {s k : String} (h : (s, k) ∈ buildKeys) :
    configGet (w.withConfigFile F) s k = configGet (w.withConfigFile F') s k :=
  configGet_congr hF (ne_of_mem_of_not_mem h hk)

theorem configGetEnv_congr_of_mem {s k : String} (h : (s, k) ∈ buildKeys) (e : String) :
    configGetEnv (w.withConfigFile F) s k e = configGetEnv (w.withConfigFile F') s k e :=
  configGetEnv_congr hF (ne_of_mem_of_not_mem h hk) e

omit hF hk in
theorem reads_mem_buildKeys :
    (∀ x ∈ ("cloud_agent", "run_as") :: (requiredGets ++ assembleGets), x ∈ buildKeys) ∧
    ∀ x ∈ requiredEnvGets ++ assembleEnvGets, (x.1, x.2.1) ∈ buildKeys := by
  decide

/-- `build` reads no key of the file but those of `buildKeys`: two files with the same sections
that agree on every key but one outside the list give the same outcome. -/
theorem build_reads_buildKeys :
    KeylimeConfig.build p (w.withConfigFile F) = KeylimeConfig.build p (w.withConfigFile F') :=
  build_congr_reads p
    (fun _ _ h => configGet_congr_of_mem w hF hk (reads_mem_buildKeys.1 _ (List.mem_cons_of_mem _ h)))
    (fun _ _ e h => configGetEnv_congr_of_mem w hF hk (reads_mem_buildKeys.2 _ h) e)
    (fun _ => configGet_congr_of_mem w hF hk (reads_mem_buildKeys.1 _ (List.mem_cons_self _ _)))
    rfl rfl rfl rfl

end OtherKeys

theorem build_reads_buildKeys_sample :
    (sampleConf [] sampleGeneral).AgreeExcept
      (sampleConf [("tpm_ownerpassword", "keylime")] sampleGeneral) "cloud_agent" "tpm_ownerpassword" ∧
    ("cloud_agent", "tpm_ownerpassword") ∉ buildKeys ∧
    KeylimeConfig.build sampleParsers
        ((sampleWorld (fun _ => none) (sampleConf [] [])).withConfigFile (sampleConf [] sampleGeneral)) =
      KeylimeConfig.build sampleParsers ((sampleWorld (fun _ => none) (sampleConf [] [])).withConfigFile
        (sampleConf [("tpm_ownerpassword", "keylime")] sampleGeneral)) :=
  have hF := sampleConf_agreeExcept "tpm_ownerpassword" "keylime"
  have hk : ("cloud_agent", "tpm_ownerpassword") ∉ buildKeys := by decide
  ⟨hF, hk, build_reads_buildKeys sampleParsers _ hF hk⟩

section Unprivileged

variable (p : Parsers H E S C) (w : World) {F F' : Ini} (hF : F.AgreeExcept F' "cloud_agent" "run_as")
include hF

omit hF in
theorem reads_ne_runAs : (∀ x ∈ requiredGets ++ assembleGets, x ≠ ("cloud_agent", "run_as")) ∧
    ∀ x ∈ requiredEnvGets ++ assembleEnvGets, (x.1, x.2.1) ≠ ("cloud_agent", "run_as") := by
  decide

/-- `run_as` is looked up only when the agent runs as root: for any other user its value in
the file changes nothing. -/
theorem build_runAs_unprivileged (heuid : w.euid ≠ 0) :
    KeylimeConfig.build p (w.withConfigFile F) = KeylimeConfig.build p (w.withConfigFile F') :=
  build_congr_reads p (fun _ _ h => configGet_congr hF (reads_ne_runAs.1 _ h))
    (fun _ _ e h => configGetEnv_congr hF (reads_ne_runAs.2 _ h) e) (fun h => absurd h heuid) rfl rfl rfl rfl

end Unprivileged

theorem build_runAs_unprivileged_sample :
    (sampleConf [] sampleGeneral).AgreeExcept
      (sampleConf [("run_as", "keylime:tss")] sampleGeneral) "cloud_agent" "run_as" ∧
    (sampleWorld (fun _ => none) (sampleConf [] [])).euid ≠ 0 ∧
    KeylimeConfig.build sampleParsers
        ((sampleWorld (fun _ => none) (sampleConf [] [])).withConfigFile (sampleConf [] sampleGeneral)) =
      KeylimeConfig.build sampleParsers ((sampleWorld (fun _ => none) (sampleConf [] [])).withConfigFile
        (sampleConf [("run_as", "keylime:tss")] sampleGeneral)) :=
  have hF := sampleConf_agreeExcept "run_as" "keylime:tss"
  have heuid : (sampleWorld (fun _ => none) (sampleConf [] [])).euid ≠ 0 := by decide
  ⟨hF, heuid, build_runAs_unprivileged sampleParsers _ hF heuid⟩

/-- The environment variables `build` reads. -/
def buildEnvVars : List String :=
  ["KEYLIME_CONFIG", "CLOUDAGENT_IP", "CLOUDAGENT_PORT", "REGISTRAR_IP", "REGISTRAR_PORT",
    "KEYLIME_DIR", "KEYLIME_AGENT_CONTACT_IP", "KEYLIME_AGENT_CONTACT_PORT"]

def revocationEnv (name : String) : Option String :=
  if name = "REVOCATION_IP" then some "10.0.0.1" else none

section OtherVars

variable (p : Parsers H E S C) (w : World) {env : String → Option String}
  (henv : ∀ name ∈ buildEnvVars, env name = w.env name)
include henv

theorem configFileGet_congr : configFileGet env = configFileGet w.env := by
  simp (disch := decide) only [configFileGet, henv]

theorem configGet_congr_env (s k : String) : configGet { w with env := env } s k = configGet w s k := by
  simp only [configGet, configFileGet_congr w henv]

theorem configGetEnv_congr_env {s k e : String} (he : e ∈ buildEnvVars) :
    configGetEnv { w with env := env } s k e = configGetEnv w s k e := by
  simp only [configGetEnv, configGet_congr_env w henv, henv e he]

omit henv in
theorem envGets_mem_buildEnvVars : ∀ x ∈ requiredEnvGets ++ assembleEnvGets, x.2.2 ∈ buildEnvVars := by
  decide

/-- `build` reads no environment variable but those of `buildEnvVars`: REVOCATION_IP and
REVOCATION_PORT among the others change nothing. -/
theorem build_reads_buildEnvVars :
    KeylimeConfig.build p { w with env := env } = KeylimeConfig.build p w :=
  build_congr_reads p (fun s k _ => configGet_congr_env w henv s k)
    (fun _ _ _ h => configGetEnv_congr_env w henv (envGets_mem_buildEnvVars _ h))
    (fun _ => configGet_congr_env w henv _ _) rfl rfl rfl rfl

end OtherVars

theorem build_reads_buildEnvVars_sample :
    (∀ name ∈ buildEnvVars, revocationEnv name =
      (sampleWorld (fun _ => none) (sampleConf [] sampleGeneral)).env name) ∧
    KeylimeConfig.build sampleParsers
        { sampleWorld (fun _ => none) (sampleConf [] sampleGeneral) with env := revocationEnv } =
      KeylimeConfig.build sampleParsers (sampleWorld (fun _ => none) (sampleConf [] sampleGeneral)) :=
  have henv : ∀ name ∈ buildEnvVars, revocationEnv name =
      (sampleWorld (fun _ => none) (sampleConf [] sampleGeneral)).env name := by decide
  ⟨henv, build_reads_buildEnvVars sampleParsers _ henv⟩

/-- `revocation_ip_get` reads REVOCATION_IP, but `build` reads `receive_revocation_ip` from the
file alone: the snapshot holds the file's address, and the same run with the key removed from
the file fails. -/
theorem build_ignores_revocation_env :
    revocationIpGet (sampleWorld revocationEnv (sampleConf [] sampleGeneral)) = .ok "10.0.0.1" ∧
    KeylimeConfig.revocationIp <$>
      KeylimeConfig.build sampleParsers (sampleWorld revocationEnv (sampleConf [] sampleGeneral)) =
        .ok "127.0.0.1" ∧
    (KeylimeConfig.build sampleParsers
      (sampleWorld revocationEnv (sampleConf [] [("receive_revocation_port", "8992")]))).isOk = false := by
  decide

end KeylimeCommon
