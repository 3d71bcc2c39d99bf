import SeriesExport.Proofs.SortedMap
import SeriesExport.Settings.Reading

/-! Variables of domains. Each domain has two, named for its key, and no other settings are read from
them. Main statement: `access_apart_iff`, that the variables of one domain are nothing to another
exactly when the two have different keys. -/
namespace SeriesExport
set_option autoImplicit false

/-! ## Names of variables -/

def domainVariables (domain : String) : List String := [bucketVariable domain, tokenVariable domain]

theorem bucketVariable_inj {d e : String} :
    bucketVariable d = bucketVariable e ↔ environmentKey d = environmentKey e := by
  unfold bucketVariable
  rw [String.append_left_inj, String.append_right_inj]

theorem tokenVariable_inj {d e : String} :
    tokenVariable d = tokenVariable e ↔ environmentKey d = environmentKey e := by
  unfold tokenVariable
  rw [String.append_left_inj, String.append_right_inj]

/-- The last two characters of a name, the last one first. They tell the kinds of variables apart. -/
def ending (name : String) : List Char := name.toList.reverse.take 2

theorem ending_bucketVariable (d : String) : ending (bucketVariable d) = ['T', 'E'] := by
  simp [ending, bucketVariable]

theorem ending_tokenVariable (d : String) : ending (tokenVariable d) = ['N', 'E'] := by
  simp [ending, tokenVariable]

theorem bucketVariable_ne_tokenVariable (d e : String) : bucketVariable d ≠ tokenVariable e := by
  intro h
  have hending := congrArg ending h
  rw [ending_bucketVariable, ending_tokenVariable] at hending
  exact absurd hending (by decide)

theorem not_mem_domainVariables_of_common {name : String} (h : name ∈ commonVariables) (d : String) :
    name ∉ domainVariables d := by
  have hendings : ∀ n ∈ commonVariables, ending n ≠ ['T', 'E'] ∧ ending n ≠ ['N', 'E'] := by decide
  obtain ⟨hbucket, htoken⟩ := hendings name h
  intro hmem
  rcases List.mem_pair.1 hmem with rfl | rfl
  · exact hbucket (ending_bucketVariable d)
  · exact htoken (ending_tokenVariable d)

/-- Two domains share both variables or none. -/
theorem disjoint_domainVariables_iff {d e : String} :
    (domainVariables d).Disjoint (domainVariables e) ↔ environmentKey d ≠ environmentKey e := by
  constructor
  · intro h hkey
    refine h (a := tokenVariable d) (List.mem_pair.2 (Or.inr rfl)) ?_
    exact List.mem_pair.2 (Or.inr (tokenVariable_inj.2 hkey))
  · intro h name hd he
    rcases List.mem_pair.1 hd with rfl | rfl
    · rcases List.mem_pair.1 he with hb | ht
      · exact h (bucketVariable_inj.1 hb)
      · exact bucketVariable_ne_tokenVariable d e ht
    · rcases List.mem_pair.1 he with hb | ht
      · exact bucketVariable_ne_tokenVariable e d hb.symm
      · exact h (tokenVariable_inj.1 ht)

/-! ## What settings take from an environment -/

/-- Two environments that differ at most in the variables of a domain. -/
def AgreeOff (domain : String) (env env' : Environment) : Prop :=
  ∀ name, name ∉ domainVariables domain → env name = env' name

theorem AgreeOff.eq_of_disjoint {d e : String} {env env' : Environment} (h : AgreeOff d env env')
    (hde : (domainVariables d).Disjoint (domainVariables e)) :
    ∀ name ∈ domainVariables e, env name = env' name :=
  fun name he => h name fun hd => hde hd he

theorem AgreeOff.eq_of_common {d : String} {env env' : Environment} (h : AgreeOff d env env') :
    ∀ name ∈ commonVariables, env name = env' name :=
  fun name hname => h name (not_mem_domainVariables_of_common hname d)

theorem DomainSettings.override_congr {domain : String} {env env' : Environment}
    (h : ∀ name ∈ domainVariables domain, env name = env' name) (d : DomainSettings) :
    d.override env domain = d.override env' domain := by
  have hbucket : env (bucketVariable domain) = env' (bucketVariable domain) :=
    h _ List.mem_cons_self
  have htoken : env (tokenVariable domain) = env' (tokenVariable domain) :=
    h _ (List.mem_cons_of_mem _ List.mem_cons_self)
  unfold override
  rw [hbucket, htoken]

theorem StoreSettings.override_congr {env env' : Environment}
    (h : ∀ name ∈ commonVariables, env name = env' name) (s : StoreSettings) :
    s.override env = s.override env' := by
  have hhost : env "FLUXPLAN_STORE_HOST" = env' "FLUXPLAN_STORE_HOST" := h _ (by decide)
  have hport : env "FLUXPLAN_STORE_PORT" = env' "FLUXPLAN_STORE_PORT" := h _ (by decide)
  have horg : env "FLUXPLAN_STORE_ORG" = env' "FLUXPLAN_STORE_ORG" := h _ (by decide)
  unfold override
  rw [hhost, hport, horg]

namespace Settings

/-- What is known of a domain: its bucket, and how to reach the store for it. -/
def access (domain : String) (s : Settings) : Option String × Option Connection :=
  (s.bucket domain, s.connection domain)

theorem get?_override (env : Environment) (domain : String) (s : Settings) :
    (s.override env).domains.get? domain =
      (s.domains.get? domain).map (DomainSettings.override env domain) :=
  SortedMap.get?_mapEntries s.domains (fun domain d => d.override env domain) domain

theorem access_congr {d e : String} {env env' : Environment} (h : AgreeOff d env env')
    (hde : (domainVariables d).Disjoint (domainVariables e)) (s : Settings) :
    access e (s.override env) = access e (s.override env') := by
  have hdomain : (s.override env).domains.get? e = (s.override env').domains.get? e := by
    rw [get?_override, get?_override, funext (DomainSettings.override_congr (h.eq_of_disjoint hde))]
  have hstore : (s.override env).store = (s.override env').store :=
    StoreSettings.override_congr h.eq_of_common s.store
  unfold access bucket connection
  rw [hdomain, hstore]

/-! ## Shared variables -/

/-- The environment with nothing in it but a token for a domain. -/
def tokenOnly (domain token : String) : Environment :=
  fun name => if name = tokenVariable domain then some token else none

theorem agreeOff_tokenOnly (domain token : String) :
    AgreeOff domain (fun _ => none) (tokenOnly domain token) := by
  intro name hname
  have hne : name ≠ tokenVariable domain := fun h => hname (List.mem_pair.2 (Or.inr h))
  exact (if_neg hne).symm

/-- The token that is sent for a domain. -/
def tokenFor (domain : String) (s : Settings) : Option String :=
  (access domain s).2.map Connection.token

theorem tokenFor_override {domain : String} {s : Settings} {old : DomainSettings}
    (hold : s.domains.get? domain = some old) (env : Environment) :
    tokenFor domain (s.override env) = some ((env (tokenVariable domain)).getD old.token) := by
  unfold tokenFor access connection
  dsimp only
  rw [get?_override, hold]
  rfl

/-- A token for one domain reaches every domain with the same key. -/
theorem tokenFor_tokenOnly {d e : String} (hkey : environmentKey d = environmentKey e) (token : String)
    {s : Settings} {old : DomainSettings} (hold : s.domains.get? e = some old) :
    tokenFor e (s.override (tokenOnly d token)) = some token := by
  rw [tokenFor_override hold, tokenOnly, if_pos (tokenVariable_inj.2 hkey.symm), Option.getD_some]

/-- In settings from a file, the variables of one domain are nothing to another domain exactly when
the two have different keys. -/
theorem access_apart_iff {files : Files} {path : String} {s : Settings}
    (hload : load files path = .ok s) {d e : String} (he : e ∈ s.domains.keys) :
    (∀ env env' : Environment, AgreeOff d env env' →
      (loadWithEnvironment files env path).map (access e) =
        (loadWithEnvironment files env' path).map (access e)) ↔
      environmentKey d ≠ environmentKey e := by
  have hmap : ∀ env : Environment, (loadWithEnvironment files env path).map (access e) =
      .ok (access e (s.override env)) := by
    intro env
    rw [loadWithEnvironment, hload]
    rfl
  simp only [hmap, Except.ok.injEq]
  constructor
  · intro h hkey
    obtain ⟨old, hold⟩ := SortedMap.mem_keys_iff.1 he
    have haccess := h _ _ (agreeOff_tokenOnly d (old.token ++ "x"))
    have htoken : tokenFor e (s.override fun _ => none) =
        tokenFor e (s.override (tokenOnly d (old.token ++ "x"))) := by
      unfold tokenFor
      rw [haccess]
    rw [tokenFor_override hold, tokenFor_tokenOnly hkey _ hold] at htoken
    have hlength := congrArg String.length (Option.some.inj htoken)
    rw [String.length_append, Option.getD_none] at hlength
    have hmore : "x".length = 1 := rfl
    omega
  · intro h env env' hagree
    exact access_congr hagree (disjoint_domainVariables_iff.2 h) s

/-! ## Three laboratories -/

/-- Domains of which two have the same key. -/
def laboratories : String :=
  "[domains.lab-2]\ntoken = \"east\"\n[domains.lab_2]\ntoken = \"west\"\n[domains.lab-3]\n"

def laboratoryFiles : Files := fun _ => .ok laboratories

def laboratorySettings : Settings where
  domains := .ofList [("lab-2", { token := "east" }), ("lab_2", { token := "west" }), ("lab-3", {})]

theorem load_laboratories : load laboratoryFiles "config.toml" = .ok laboratorySettings := by
  have htext : ofText? laboratories = some laboratorySettings := by decide +kernel
  simp only [load, ofFile, laboratoryFiles, htext]

theorem laboratories_apart : load laboratoryFiles "config.toml" = .ok laboratorySettings ∧
    "lab-3" ∈ laboratorySettings.domains.keys ∧
    ∀ env env' : Environment, AgreeOff "lab-2" env env' →
      (loadWithEnvironment laboratoryFiles env "config.toml").map (access "lab-3") =
        (loadWithEnvironment laboratoryFiles env' "config.toml").map (access "lab-3") := by
  have hkey : "lab-3" ∈ laboratorySettings.domains.keys := by decide
  exact ⟨load_laboratories, hkey, (access_apart_iff load_laboratories hkey).2 (by decide)⟩

/-- The token for one laboratory is sent for another one. -/
theorem laboratories_share_token :
    load laboratoryFiles "config.toml" = .ok laboratorySettings ∧
    "lab-2" ∈ laboratorySettings.domains.keys ∧ "lab_2" ∈ laboratorySettings.domains.keys ∧
    AgreeOff "lab-2" (fun _ => none) (tokenOnly "lab-2" "key") ∧
    (loadWithEnvironment laboratoryFiles (fun _ => none) "config.toml").map (access "lab_2") =
      .ok (some "lab_2", some ⟨"http://localhost:8086", "west", "tendril"⟩) ∧
    (loadWithEnvironment laboratoryFiles (tokenOnly "lab-2" "key") "config.toml").map
        (access "lab_2") =
      .ok (some "lab_2", some ⟨"http://localhost:8086", "key", "tendril"⟩) := by
  refine ⟨load_laboratories, by decide, by decide, agreeOff_tokenOnly "lab-2" "key", ?_, ?_⟩
  · rw [loadWithEnvironment, load_laboratories]
    rfl
  · rw [loadWithEnvironment, load_laboratories]
    rfl

end Settings
end SeriesExport
