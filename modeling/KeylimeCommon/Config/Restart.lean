import KeylimeCommon.Config.Startup

/-! # Restarts

What one start of the agent leaves for the next. The agent keeps its attestation key in
`<work_dir>/tpmdata.json`: it stores the record with `TpmData::store` at the snapshot's
`tpm_data_path`, and the next start runs `build` again and draws a UUID of its own. `build`
reads no file under the working directory but that one, so as long as the configuration file
lies elsewhere, the next snapshot is the same one with the stored record as its TPM data and
the identity agent_uuid makes of the new draw. Over any run of stores the last record stored is
the one a start sees, and no store, failed ones included, can stop the next start. That
serde_json reads back what it wrote is assumed for each stored record, never for the reader as
a whole. The agent's identity is stable in the same way: unless agent_uuid asks for a fresh
UUID or is not one, every start builds the same snapshot whatever `Uuid::new_v4` draws. When
it does, the snapshot's UUID is the draw, and no two different draws give the same identity.
-/
namespace KeylimeCommon

variable {H E S C : Type}

section WithFile

variable (w : World) (path contents : String) (hconf : configFileGet w.env ≠ path)
include hconf

theorem configGet_withFile (sec key : String) :
    configGet (w.withFile path contents) sec key = configGet w sec key := by
  simp only [configGet, World.withFile_env, World.withFile_loadIni_of_ne _ _ _ hconf]

theorem configGetEnv_withFile (sec key env : String) :
    configGetEnv (w.withFile path contents) sec key env = configGetEnv w sec key env := by
  simp only [configGetEnv, World.withFile_env, configGet_withFile w path contents hconf]

theorem cloudagentContactIpGet_withFile :
    cloudagentContactIpGet (w.withFile path contents) = cloudagentContactIpGet w := by
  simp only [cloudagentContactIpGet, configGetEnv_withFile w path contents hconf]

theorem required_withFile (p : Parsers H E S C) :
    required p (w.withFile path contents) = required p w :=
  required_congr_reads p (fun s k _ => configGet_withFile w path contents hconf s k)
    fun s k e _ => configGetEnv_withFile w path contents hconf s k e

end WithFile

/-- Writing the file at the snapshot's TPM data path changes only the TPM data of the
snapshot: it is what the reader makes of the new contents. -/
theorem assemble_withFile (p : Parsers H E S C) {w : World} (r : Required H E S) {path : String}
    (contents : String) (hconf : configFileGet w.env ≠ path) (hpath : (assemble p w r).tpmDataPath = path) :
    assemble p (w.withFile path contents) r =
      { assemble p w r with tpmData := (p.tpmData contents).toOption } := by
  simp only [assemble] at hpath
  simp only [assemble, configGetEnv_withFile w path contents hconf, configGet_withFile w path contents hconf,
    cloudagentContactIpGet_withFile w path contents hconf, hpath, World.withFile_pathExists_self,
    World.withFile_openFile_self, World.withFile_euid, World.withFile_newV4, if_true, TpmData.load,
    ok_bind, bind_pure]

theorem required_withNewV4 (p : Parsers H E S C) (w : World) (u : Uuid) :
    required p { w with newV4 := u } = required p w := rfl

theorem assemble_withNewV4 (p : Parsers H E S C) (w : World) (u : Uuid) (r : Required H E S) :
    assemble p { w with newV4 := u } r =
      { assemble p w r with agentUuid := getUuid r.agentUuidConfig u } := rfl

theorem build_redraw {p : Parsers H E S C} {w : World} {cfg : KeylimeConfig H E S C}
    (hb : KeylimeConfig.build p w = .ok cfg) (u : Uuid) :
    ∃ v, configGet w "cloud_agent" "agent_uuid" = .ok v ∧
      KeylimeConfig.build p { w with newV4 := u } = .ok { cfg with agentUuid := getUuid v u } := by
  obtain ⟨r, hr, rfl⟩ := build_eq_ok_iff.1 hb
  refine ⟨r.agentUuidConfig, (required_fields hr).2.2.2.2.1, ?_⟩
  rw [build_eq, required_withNewV4, hr]
  rfl

theorem build_withFile {p : Parsers H E S C} {w : World} {cfg : KeylimeConfig H E S C}
    (hb : KeylimeConfig.build p w = .ok cfg) (hconf : configFileGet w.env ≠ cfg.tpmDataPath)
    (contents : String) (u : Uuid) :
    ∃ v, configGet w "cloud_agent" "agent_uuid" = .ok v ∧
      KeylimeConfig.build p { w.withFile cfg.tpmDataPath contents with newV4 := u } =
        .ok { cfg with tpmData := (p.tpmData contents).toOption, agentUuid := getUuid v u } := by
  obtain ⟨r, hr, rfl⟩ := build_eq_ok_iff.1 hb
  refine ⟨r.agentUuidConfig, (required_fields hr).2.2.2.2.1, ?_⟩
  rw [build_eq, required_withNewV4, required_withFile _ _ _ hconf, hr]
  show Except.ok (assemble p { w.withFile _ contents with newV4 := u } r) = _
  rw [assemble_withNewV4, assemble_withFile p r contents hconf rfl]

def sampleWriter (d : TpmData String String Unit) : String × Option Error :=
  (d.akHashAlg ++ "\n" ++ d.akSignAlg, none)

def sampleReader (contents : String) : Except Error (TpmData String String Unit) :=
  let (hashAlg, rest) := contents.data.span (· ≠ '\n')
  .ok ⟨⟨hashAlg⟩, ⟨rest.drop 1⟩, ()⟩

def storeParsers : Parsers String String String Unit :=
  { sampleParsers with tpmData := sampleReader }

def sampleStart : World := sampleWorld (fun _ => none) (sampleConf [] sampleGeneral)

def sampleRecord : TpmData String String Unit := ⟨"sha256", "rsassa", ()⟩

def sampleRecord' : TpmData String String Unit := ⟨"sha384", "rsassa", ()⟩

def otherDraw : Uuid := ⟨List.replicate 16 255, rfl⟩

theorem sampleStart_build : ∃ cfg, KeylimeConfig.build storeParsers sampleStart = .ok cfg ∧
    configFileGet sampleStart.env ≠ cfg.tpmDataPath := by
  obtain ⟨cfg, hb⟩ := isOk_iff_exists.1
    (by decide : (KeylimeConfig.build storeParsers sampleStart).isOk = true)
  have hpath : KeylimeConfig.tpmDataPath <$> KeylimeConfig.build storeParsers sampleStart =
      .ok "/var/lib/keylime/tpmdata.json" := by decide
  rw [hb] at hpath
  exact ⟨cfg, hb, by rw [Except.ok.inj hpath]; decide⟩

/-- The stores of a run at one path, in order, up to the first that fails. -/
def storeAll (toWriter : TpmData H S C → String × Option Error) (path : String) :
    List (TpmData H S C) → World → Except Error Unit × World
  | [], w => (.ok (), w)
  | d :: ds, w =>
    match d.store toWriter path w with
    | (.ok (), w') => storeAll toWriter path ds w'
    | (.error e, w') => (.error e, w')

section StoreAll

variable {toWriter : TpmData H S C → String × Option Error} {path : String}

/-- Whatever the stores of a run did, the run is unchanged but for the file at `path`. -/
theorem storeAll_world : ∀ (ds : List (TpmData H S C)) (w : World),
    (storeAll toWriter path ds w).2 = w ∨ ∃ t, (storeAll toWriter path ds w).2 = w.withFile path t
  | [], _ => .inl rfl
  | d :: ds, w => by
    have hd := TpmData.store_world d toWriter path w
    rcases hs : d.store toWriter path w with ⟨_ | ⟨⟩, w₁⟩ <;> simp only [hs] at hd <;>
      simp only [storeAll, hs]
    · exact hd.imp_right fun h => ⟨_, h⟩
    · rcases hd with rfl | rfl
      · exact storeAll_world ds w₁
      · rcases storeAll_world ds (w.withFile path (toWriter d).1) with h | ⟨t, h⟩ <;> rw [h]
        · exact .inr ⟨_, rfl⟩
        · exact .inr ⟨t, World.withFile_withFile _ _ _ _⟩

theorem storeAll_eq_ok : ∀ {ds : List (TpmData H S C)} {w w' : World},
    storeAll toWriter path ds w = (.ok (), w') →
      w' = (ds.getLast?.map fun d => w.withFile path (toWriter d).1).getD w
  | [], _, _, h => by cases h; rfl
  | d :: ds, w, w', h => by
    rcases hs : d.store toWriter path w with ⟨_ | ⟨⟩, w₁⟩ <;> simp only [storeAll, hs] at h
    · cases h
    · obtain ⟨-, -, rfl⟩ := TpmData.store_eq_ok_iff.1 hs
      rw [storeAll_eq_ok h, List.getLast?_cons]
      cases ds.getLast? <;> simp [World.withFile_withFile]

end StoreAll

def failingWriter (d : TpmData String String Unit) : String × Option Error :=
  ((sampleWriter d).1.take 3, some (.io "No space left on device"))

def uuidStart : World :=
  sampleWorld (fun _ => none)
    ⟨[("cloud_agent", ("agent_uuid", "D432FBB3-D2F1-4A97-9EF7-75BD81C00000") :: sampleAgentKeys),
      ("general", sampleGeneral)]⟩

/-- With a tag or a UUID as agent_uuid, every start builds the same snapshot (or fails the same
way), whatever UUID `Uuid::new_v4` draws. -/
theorem build_newV4 (p : Parsers H E S C) (w : World) {v : String}
    (hv : configGet w "cloud_agent" "agent_uuid" = .ok v)
    (hs : v = "openstack" ∨ v = "hash_ek" ∨ (Uuid.parseStr v).isSome) (u : Uuid) :
    KeylimeConfig.build p { w with newV4 := u } = KeylimeConfig.build p w := by
  rw [build_eq, build_eq, required_withNewV4]
  cases hr : required p w with
  | error e => rfl
  | ok r =>
    obtain ⟨-, -, -, -, huuid, -⟩ := required_fields hr
    have hcfg : r.agentUuidConfig = v := Except.ok.inj (huuid.symm.trans hv)
    have hdraw : getUuid r.agentUuidConfig u = getUuid r.agentUuidConfig w.newV4 := by
      rw [hcfg]
      exact getUuid_draw hs u w.newV4
    show Except.ok (assemble p { w with newV4 := u } r) = Except.ok (assemble p w r)
    rw [assemble_withNewV4, hdraw]
    rfl

theorem build_newV4_sample :
    configGet uuidStart "cloud_agent" "agent_uuid" = .ok "D432FBB3-D2F1-4A97-9EF7-75BD81C00000" ∧
    KeylimeConfig.build storeParsers { uuidStart with newV4 := ⟨List.replicate 16 255, rfl⟩ } =
      KeylimeConfig.build storeParsers uuidStart :=
  have hv : configGet uuidStart "cloud_agent" "agent_uuid" =
      .ok "D432FBB3-D2F1-4A97-9EF7-75BD81C00000" := by decide
  ⟨hv, build_newV4 storeParsers uuidStart hv (.inr (.inr (by decide))) _⟩

def generateStart : World :=
  sampleWorld (fun _ => none)
    ⟨[("cloud_agent", ("agent_uuid", "generate") :: sampleAgentKeys), ("general", sampleGeneral)]⟩

/-- With any other agent_uuid, "generate" among them, the snapshot carries the UUID
`Uuid::new_v4` draws: two starts that draw different UUIDs get different identities. -/
theorem build_newV4_fresh (p : Parsers H E S C) (w : World) {v : String} {cfg : KeylimeConfig H E S C}
    (hv : configGet w "cloud_agent" "agent_uuid" = .ok v)
    (hs : ¬(v = "openstack" ∨ v = "hash_ek" ∨ (Uuid.parseStr v).isSome))
    (hb : KeylimeConfig.build p w = .ok cfg) :
    cfg.agentUuid = w.newV4.toString ∧ ∀ u cfg', u ≠ w.newV4 →
      KeylimeConfig.build p { w with newV4 := u } = .ok cfg' → cfg'.agentUuid ≠ cfg.agentUuid := by
  obtain ⟨r, hr, rfl⟩ := build_eq_ok_iff.1 hb
  have hcfg : r.agentUuidConfig = v := Except.ok.inj ((required_fields hr).2.2.2.2.1.symm.trans hv)
  have hdraw : ∀ u, getUuid r.agentUuidConfig u = u.toString := fun u => hcfg ▸ getUuid_fresh hs u
  refine ⟨hdraw w.newV4, fun u cfg' hu hb' => ?_⟩
  obtain ⟨r', hr', rfl⟩ := build_eq_ok_iff.1 hb'
  obtain rfl := Except.ok.inj ((required_withNewV4 p w u ▸ hr').symm.trans hr)
  show getUuid r'.agentUuidConfig u ≠ getUuid r'.agentUuidConfig w.newV4
  rw [hdraw, hdraw]
  exact fun h => hu (Uuid.eq_of_toString_eq h)

theorem build_newV4_fresh_sample :
    configGet generateStart "cloud_agent" "agent_uuid" = .ok "generate" ∧
    ¬("generate" = "openstack" ∨ "generate" = "hash_ek" ∨ (Uuid.parseStr "generate").isSome) ∧
    ∃ cfg, KeylimeConfig.build storeParsers generateStart = .ok cfg ∧
      cfg.agentUuid = generateStart.newV4.toString ∧ ∀ u cfg', u ≠ generateStart.newV4 →
        KeylimeConfig.build storeParsers { generateStart with newV4 := u } = .ok cfg' →
          cfg'.agentUuid ≠ cfg.agentUuid := by
  have hv : configGet generateStart "cloud_agent" "agent_uuid" = .ok "generate" := by decide
  have hs : ¬("generate" = "openstack" ∨ "generate" = "hash_ek" ∨ (Uuid.parseStr "generate").isSome) := by
    decide
  obtain ⟨cfg, hb⟩ := isOk_iff_exists.1 (by decide : (KeylimeConfig.build storeParsers generateStart).isOk)
  exact ⟨hv, hs, cfg, hb, build_newV4_fresh storeParsers generateStart hv hs hb⟩

end KeylimeCommon
