import Regress.Proofs.Layers
import Regress.Proofs.Plan

/-!
# What validation can still refuse after loading

`Config.validate` refuses an empty corpus root, no groups, an empty compiler, interpreter,
output directory or source extension, and a negative timeout. Once the configuration file and
the environment have been loaded, only the last of these can happen
(`validate_after_layers`): the run is refused exactly when the file's timeout is a negative
duration and no positive timeout is given on the command line.

Every layer keeps the required values filled (`Config.Filled`):

* the defaults fill them (`Config.filled_defaults`);
* the configuration file sets a required value only to a non-empty string
  (`FileSettings.filled_of_checked`), since the schema asks for a non-empty string under
  `corpus_root`, `compiler`, `interpreter` and `output_dir`, and for a string starting with a dot
  under `source_ext` (`fileSchema_refuses_empty`), and since an empty list of groups sets none;
* a variable counts only when it is not empty, and `LTR_GROUPS` only when some item is left
  (`Config.Filled.applyEnv`);
* a flag counts only when it is not empty (`Config.Filled.apply`).

The file's settings are read from the document's tree, and the schema checks its decoded value
in JSON form. That the two agree is what the reading assumes of its YAML decoder:
`SettingsChecked` says that each text setting is the string the schema checked under its key.
-/

namespace Regress

namespace Schema

theorem validate_ok_iff {s : Schema} {url : String} {v : Json} :
    s.validate url v = .ok () ↔ s.check "" v = [] := by
  unfold validate
  split <;> simp_all

theorem checkEntries_nil {s : Schema} {loc : String} :
    ∀ {es : List (String × Json)}, checkEntries s loc es = [] →
      ∀ {k : String} {v : Json} {k' : String} {p : Schema}, (k, v) ∈ es →
        s.properties.find? (·.1 == k) = some (k', p) →
        p.check (loc ++ "/" ++ pointerStep k) v = []
  | [], _, _, _, _, _, hmem, _ => by cases hmem
  | (k₀, v₀) :: es, h, k, v, k', p, hmem, hfind => by
    rw [checkEntries, List.append_eq_nil_iff] at h
    rcases List.mem_cons.mp hmem with heq | hmem
    · cases heq
      rw [hfind] at h
      exact h.1
    · exact checkEntries_nil h.2 hmem hfind

theorem check_object_nil {s : Schema} {loc : String} {ms : List (String × Json)}
    (h : s.check loc (.object ms) = []) {k : String} {v : Json} {k' : String} {p : Schema}
    (hmem : (k, v) ∈ ms) (hfind : s.properties.find? (·.1 == k) = some (k', p)) :
    p.check (loc ++ "/" ++ pointerStep k) v = [] := by
  rw [check] at h
  split at h
  · cases h
  · -- an object of the right type: the report of extra keys and the entries' reports
    rw [List.append_eq_nil_iff] at h
    exact checkEntries_nil h.2 hmem hfind

end Schema

theorem nonEmptyText_refuses_empty (loc : String) : nonEmptyText.check loc (.string "") ≠ [] := by
  simp [Schema.check, Schema.mismatch, nonEmptyText, Schema.checkString, Json.typeName]

theorem extensionText_refuses_empty (loc : String) :
    extensionText.check loc (.string "") ≠ [] := by
  -- the pattern `^\.` needs a dot, which the empty text does not have
  have hmatch : Schema.patternMatches "^\\." "" = false := by
    have hp : "^\\.".toList = ['^', '\\', '.'] := by decide
    unfold Schema.patternMatches Regex.parse Regex.parseWith Regex.found Regex.search
    rw [hp]
    decide +kernel
  simp [Schema.check, Schema.mismatch, extensionText, Schema.checkString, Json.typeName, hmatch]

/-- The keys of the settings a run cannot go without. -/
def requiredKeys : List String :=
  ["corpus_root", "compiler", "interpreter", "output_dir", "source_ext"]

/-- The schema of the configuration file refuses the empty string under every required key. -/
theorem fileSchema_refuses_empty {key : String} (hkey : key ∈ requiredKeys) :
    ∃ p, fileSchema.properties.find? (·.1 == key) = some (key, p) ∧
      ∀ loc, p.check loc (.string "") ≠ [] := by
  simp only [requiredKeys, List.mem_cons, List.not_mem_nil, or_false] at hkey
  rcases hkey with rfl | rfl | rfl | rfl | rfl
  · exact ⟨nonEmptyText, rfl, nonEmptyText_refuses_empty⟩
  · exact ⟨nonEmptyText, rfl, nonEmptyText_refuses_empty⟩
  · exact ⟨nonEmptyText, rfl, nonEmptyText_refuses_empty⟩
  · exact ⟨nonEmptyText, rfl, nonEmptyText_refuses_empty⟩
  · exact ⟨extensionText, rfl, extensionText_refuses_empty⟩

/-- A document that passes the schema holds no empty string under a required key. -/
theorem fileSchema_required_nonempty {ms : List (String × Json)}
    (h : fileSchema.validate fileSchemaUrl (.object ms) = .ok ()) {key y : String}
    (hkey : key ∈ requiredKeys) (hmem : (key, .string y) ∈ ms) : y ≠ "" := by
  rintro rfl
  obtain ⟨p, hfind, hrefuses⟩ := fileSchema_refuses_empty hkey
  exact hrefuses _ (Schema.check_object_nil (Schema.validate_ok_iff.mp h) hmem hfind)

theorem validateFile_ok {text : String} {node : Option Yaml.Node}
    (h : validateFile text = .ok node) :
    ∃ v, Yaml.load text = .ok (node, v) ∧
      (v = .scalar .null ∨ ∃ j, v.toJson (Yaml.decodeFuel text) = .ok j ∧
        fileSchema.validate fileSchemaUrl j = .ok ()) := by
  unfold validateFile at h
  split at h
  · cases h
  · cases h
  · rename_i node' v hload
    dsimp only at h
    split at h
    · cases h
    · rename_i j hj
      split at h
      · cases h
      · rename_i hvalid
        cases h
        refine ⟨v, hload, ?_⟩
        -- an empty document is checked as the empty mapping; any other as it is
        split at hj
        · exact .inl rfl
        · exact .inr ⟨j, hj, hvalid⟩

theorem toJson_null (fuel : Nat) : (Yaml.Value.scalar .null).toJson (fuel + 1) = .ok .null := by
  simp [Yaml.Value.toJson, Yaml.Value.toJsonAt, Yaml.Scalar.toJson, Functor.map, Except.map]

theorem fileSettings_ok {text : String} {s : FileSettings} (h : fileSettings text = .ok (.ok s)) :
    (validateFile text = .ok none ∧ s = {}) ∨
      ∃ n, validateFile text = .ok (some n) ∧ s = FileSettings.ofNode n (Yaml.decodeFuel text) := by
  unfold fileSettings at h
  split at h
  · cases h
  · rename_i hvalid
    cases h
    exact .inl ⟨hvalid, rfl⟩
  · rename_i n hvalid
    dsimp only at h
    split at h
    · cases h
      exact .inr ⟨n, hvalid, rfl⟩
    · cases h

namespace FileSettings

/-- The text settings, each under its key. -/
def texts (s : FileSettings) : List (String × Option String) :=
  [("corpus_root", s.corpusRoot), ("compiler", s.compiler), ("interpreter", s.interpreter),
    ("output_dir", s.outputDir), ("expected_dir", s.expectedDir), ("source_ext", s.sourceExt),
    ("input_ext", s.inputExt), ("log_ext", s.logExt), ("artifact_ext", s.artifactExt),
    ("timeout", s.timeout)]

/-- Settings that give no required value as the empty string. -/
structure Filled (s : FileSettings) : Prop where
  corpusRoot : s.corpusRoot ≠ some ""
  compiler : s.compiler ≠ some ""
  interpreter : s.interpreter ≠ some ""
  outputDir : s.outputDir ≠ some ""
  sourceExt : s.sourceExt ≠ some ""

end FileSettings

/-- What reading the configuration file assumes of its YAML decoder: decoding a text into the
settings yields the key/value pairs the schema checked. Each text setting `x` that the
document's tree gives under `key` is the member `key` of the checked document, the string `x`
as JSON writes it. -/
def SettingsChecked (text : String) : Prop :=
  ∀ n v j, Yaml.load text = .ok (some n, v) → v.toJson (Yaml.decodeFuel text) = .ok j →
    ∀ key x, (key, some x) ∈ (FileSettings.ofNode n (Yaml.decodeFuel text)).texts →
      ∃ ms, j = .object ms ∧ (key, Json.string (Utf8.valid x)) ∈ ms

/-- Whether a document is an object whose member `key` is the string `s`. -/
def Json.givesString : Json → String → String → Bool
  | .object ms, key, s => ms.any fun m => m.1 == key &&
    match m.2 with
    | .string s' => s' == s
    | _ => false
  | _, _, _ => false

theorem Json.givesString_sound {j : Json} {key s : String} (h : j.givesString key s = true) :
    ∃ ms, j = .object ms ∧ (key, .string s) ∈ ms := by
  cases j with
  | object ms =>
    obtain ⟨⟨k, v⟩, hm, hkv⟩ := List.any_eq_true.1 h
    simp only [Bool.and_eq_true, beq_iff_eq] at hkv
    obtain ⟨rfl, hv⟩ := hkv
    split at hv
    · simp only [beq_iff_eq] at hv
      subst hv
      exact ⟨ms, rfl, hm⟩
    · cases hv
  | _ => cases h

/-- `SettingsChecked` computed for one text: the settings its document gives are checked one by
one against the document's JSON form. -/
def checkSettings (text : String) : Bool :=
  match Yaml.load text with
  | .ok (some n, v) =>
    match v.toJson (Yaml.decodeFuel text) with
    | .ok j => (FileSettings.ofNode n (Yaml.decodeFuel text)).texts.all fun e =>
        match e.2 with
        | some x => j.givesString e.1 (Utf8.valid x)
        | none => true
    | .error _ => true
  | _ => true

/-- A text that passes the computed check is decoded as the schema checked it. -/
theorem settingsChecked_of_check {text : String} (h : checkSettings text = true) :
    SettingsChecked text := by
  intro n v j hload hj key x hmem
  simp only [checkSettings, hload, hj, List.all_eq_true] at h
  exact Json.givesString_sound (h (key, some x) hmem)

namespace FileSettings

theorem filled_empty : ({} : FileSettings).Filled :=
  ⟨by decide, by decide, by decide, by decide, by decide⟩

/-- The settings of a file that passes its checks give no required value as the empty
string. -/
theorem filled_of_checked {text : String} {s : FileSettings} (hyaml : SettingsChecked text)
    (h : fileSettings text = .ok (.ok s)) : s.Filled := by
  rcases fileSettings_ok h with ⟨-, rfl⟩ | ⟨n, hvalid, rfl⟩
  · exact filled_empty
  obtain ⟨v, hload, hcheck⟩ := validateFile_ok hvalid
  have hreq : ∀ key x, key ∈ requiredKeys →
      (key, some x) ∈ (ofNode n (Yaml.decodeFuel text)).texts → x ≠ "" := by
    intro key x hkey hmem
    rcases hcheck with rfl | ⟨j, hj, hschema⟩
    · -- an empty document is no mapping, so it gives no setting
      have hfuel : Yaml.decodeFuel text = 4 * text.length + 7 + 1 := rfl
      obtain ⟨ms, hms, -⟩ := hyaml n _ _ hload (hfuel ▸ toJson_null _) key x hmem
      cases hms
    · obtain ⟨ms, rfl, hm⟩ := hyaml n v j hload hj key x hmem
      have hvalid : Utf8.valid x ≠ "" := fileSchema_required_nonempty hschema hkey hm
      rintro rfl
      exact hvalid rfl
  have hkeys : ∀ key ∈ requiredKeys, ∀ o, (key, o) ∈ (ofNode n (Yaml.decodeFuel text)).texts →
      o ≠ some "" := fun key hkey o hmem he => hreq key "" hkey (he ▸ hmem) rfl
  exact ⟨hkeys "corpus_root" (by simp [requiredKeys]) _ (by simp [texts]),
    hkeys "compiler" (by simp [requiredKeys]) _ (by simp [texts]),
    hkeys "interpreter" (by simp [requiredKeys]) _ (by simp [texts]),
    hkeys "output_dir" (by simp [requiredKeys]) _ (by simp [texts]),
    hkeys "source_ext" (by simp [requiredKeys]) _ (by simp [texts])⟩

/-- The settings of the configuration file at `path`, for a file that passes its checks, give no
required value as the empty string. -/
theorem read_filled {t : FileTree} {cwd : List String} {path : String}
    (hyaml : ∀ text, t.readFile cwd path = .ok text → SettingsChecked text) :
    (read t cwd path).Filled := by
  unfold read
  split
  · rename_i text htext
    split
    · rename_i s hs
      exact filled_of_checked (hyaml text htext) hs
    · exact filled_empty
  · exact filled_empty

end FileSettings

namespace Config

/-- A configuration whose required values are given: those `Config.validate` refuses when they
are empty are not empty. -/
structure Filled (c : Config) : Prop where
  corpusRoot : c.corpusRoot ≠ ""
  groups : c.groups ≠ []
  compiler : c.compiler ≠ ""
  interpreter : c.interpreter ≠ ""
  outputDir : c.outputDir ≠ ""
  sourceExt : c.sourceExt ≠ ""

theorem filled_defaults : defaults.Filled :=
  ⟨by decide, by decide, by decide, by decide, by decide, by decide⟩

theorem isEmpty_eq_false_of_ne {s : String} (h : s ≠ "") : s.isEmpty = false := by
  simpa [String.isEmpty_iff] using h

/-- Of a configuration with its required values given, validation can refuse only a negative
timeout. -/
theorem problem_of_filled {c : Config} (h : c.Filled) :
    c.problem = if c.timeout.nanos < 0 then some ("negative timeout " ++ c.timeout.render)
      else none := by
  have hgroups : c.groups.isEmpty = false := by simpa using h.groups
  simp only [problem, isEmpty_eq_false_of_ne h.corpusRoot, hgroups,
    isEmpty_eq_false_of_ne h.compiler, isEmpty_eq_false_of_ne h.interpreter,
    isEmpty_eq_false_of_ne h.outputDir, isEmpty_eq_false_of_ne h.sourceExt, Bool.false_eq_true,
    if_false]

theorem override_ne_empty {current given : String} (h : current ≠ "") :
    override current given ≠ "" := by
  unfold override
  split
  · exact h
  · rename_i hgiven
    simpa [String.isEmpty_iff] using hgiven

theorem groups_choice_ne_nil {current given : List String} (h : current ≠ []) :
    (if given.isEmpty then current else given) ≠ [] := by
  split
  · exact h
  · rename_i hgiven
    simpa using hgiven

/-- The environment sets a value only when its variable is not empty, and the groups only when
some item is left. -/
theorem Filled.applyEnv {c : Config} (h : c.Filled) (env : Environment) :
    (c.applyEnv env).Filled :=
  ⟨override_ne_empty h.corpusRoot, groups_choice_ne_nil h.groups, override_ne_empty h.compiler,
    override_ne_empty h.interpreter, override_ne_empty h.outputDir, h.sourceExt⟩

theorem Filled.apply {c : Config} (h : c.Filled) (f : Flags) : (c.apply f).Filled :=
  ⟨override_ne_empty h.corpusRoot, groups_choice_ne_nil h.groups, override_ne_empty h.compiler,
    override_ne_empty h.interpreter, override_ne_empty h.outputDir, h.sourceExt⟩

/-- The configuration file sets a value only to one of its settings, which gives no required
value as the empty string, and the groups only to a list with something in it. -/
theorem Filled.applyTo {c c' : Config} {s : FileSettings} (h : c.Filled) (hs : s.Filled)
    (happly : s.applyTo c = .ok c') : c'.Filled := by
  have hset : ∀ {o : Option String} {current : String}, o ≠ some "" → current ≠ "" →
      o.getD current ≠ "" := by
    intro o current ho hc
    cases o with
    | none => exact hc
    | some x => exact fun hx => ho (congrArg some hx)
  rw [FileSettings.applyTo_ok happly]
  refine ⟨hset hs.corpusRoot h.corpusRoot, ?_, hset hs.compiler h.compiler,
    hset hs.interpreter h.interpreter, hset hs.outputDir h.outputDir,
    hset hs.sourceExt h.sourceExt⟩
  show (listLayer s.groups).getD c.groups ≠ []
  rw [listLayer_getD]
  exact groups_choice_ne_nil h.groups

end Config

/-- After the configuration file and the environment are loaded and the flags applied,
validation refuses the configuration exactly when the file's timeout is a negative duration and
no positive timeout is given on the command line; and what it refuses it names as that negative
timeout, no other check of validation being able to fail. -/
theorem validate_after_layers {flags : Flags} {t : FileTree} {cwd : List String}
    {env env' : Environment} {c₁ c₂ : Config}
    (hyaml : ∀ text, t.readFile cwd
      (if flags.configFile.isEmpty then Config.defaultFile else flags.configFile) = .ok text →
        SettingsChecked text)
    (hfile : Config.defaults.loadFile t cwd
      (if flags.configFile.isEmpty then Config.defaultFile else flags.configFile)
      (!flags.configFile.isEmpty) = .ok c₁)
    (henv : c₁.loadEnv t cwd env
      (if flags.envFile.isEmpty then Config.defaultEnvFile else flags.envFile) = .ok (c₂, env')) :
    ((∃ f, (c₂.apply flags).validate = .error f) ↔
        (∃ d, ((FileSettings.read t cwd (if flags.configFile.isEmpty then Config.defaultFile
            else flags.configFile)).timeout.bind fun text => (Duration.parse text).toOption) =
              some d ∧ d.nanos < 0) ∧
          flags.timeout.nanos ≤ 0) ∧
      ∀ f, (c₂.apply flags).validate = .error f →
        f = Failure.config ("negative timeout " ++ (c₂.apply flags).timeout.render) := by
  have happly := Config.loadFile_ok hfile
  have hsfilled := FileSettings.read_filled hyaml
  generalize FileSettings.read t cwd
    (if flags.configFile.isEmpty then Config.defaultFile else flags.configFile) = s
    at happly hsfilled ⊢
  obtain ⟨rfl, -⟩ := Config.loadEnv_ok henv
  -- each layer keeps the required values given
  have hfilled : ((c₁.applyEnv env').apply flags).Filled :=
    ((Config.filled_defaults.applyTo hsfilled happly).applyEnv env').apply flags
  -- the timeout is the flag's when positive, else the file's, else none
  have htimeout : ((c₁.applyEnv env').apply flags).timeout =
      if 0 < flags.timeout.nanos then flags.timeout
      else (s.timeout.bind fun text => (Duration.parse text).toOption).getD ⟨0⟩ := by
    rw [FileSettings.applyTo_ok happly]
    rfl
  have hvalidate : ((c₁.applyEnv env').apply flags).validate =
      if ((c₁.applyEnv env').apply flags).timeout.nanos < 0 then
        .error (Failure.config
          ("negative timeout " ++ ((c₁.applyEnv env').apply flags).timeout.render))
      else .ok () := by
    unfold Config.validate
    rw [Config.problem_of_filled hfilled]
    by_cases hneg : ((c₁.applyEnv env').apply flags).timeout.nanos < 0
    · rw [if_pos hneg, if_pos hneg]
    · rw [if_neg hneg, if_neg hneg]
  rw [hvalidate]
  refine ⟨⟨?_, ?_⟩, fun f hf => ?_⟩
  · rintro ⟨f, hf⟩
    split at hf
    · rename_i hneg
      rw [htimeout] at hneg
      split at hneg
      · rename_i hpos
        omega
      · rename_i hpos
        refine ⟨?_, by omega⟩
        cases hd : s.timeout.bind fun text => (Duration.parse text).toOption with
        | none =>
          rw [hd] at hneg
          simp at hneg
        | some d =>
          rw [hd] at hneg
          exact ⟨d, rfl, hneg⟩
    · cases hf
  · rintro ⟨⟨d, hd, hneg⟩, hflag⟩
    refine ⟨_, if_pos ?_⟩
    rw [htimeout, if_neg (by omega), hd]
    exact hneg
  · split at hf
    · cases hf
      rfl
    · cases hf

/-- A configuration file that sets a negative timeout and the corpus root. -/
def timeoutFile : String :=
  "timeout: -1s\ncorpus_root: corpus\n"

/-- A tree that holds that file as the default configuration file. -/
def timeoutFileTree : FileTree :=
  { nodes := [(["ltr.yaml"], .file timeoutFile false)] }

/-- Read with no flags, that file passes its checks and sets the corpus root, and the negative
timeout it sets is what validation refuses. -/
theorem file_timeout_refused :
    let c₁ : Config := { Config.defaults with corpusRoot := "corpus", timeout := ⟨-1000000000⟩ }
    (∀ text, timeoutFileTree.readFile [] Config.defaultFile = .ok text → SettingsChecked text) ∧
      Config.defaults.loadFile timeoutFileTree [] Config.defaultFile false = .ok c₁ ∧
      c₁.loadEnv timeoutFileTree [] ⟨[]⟩ Config.defaultEnvFile = .ok (c₁.applyEnv ⟨[]⟩, ⟨[]⟩) ∧
      (∃ f, ((c₁.applyEnv ⟨[]⟩).apply {}).validate = .error f) ∧
      ((∃ f, ((c₁.applyEnv ⟨[]⟩).apply {}).validate = .error f) ↔
        (∃ d, ((FileSettings.read timeoutFileTree [] Config.defaultFile).timeout.bind fun text =>
            (Duration.parse text).toOption) = some d ∧ d.nanos < 0) ∧
          ({} : Flags).timeout.nanos ≤ 0) := by
  intro c₁
  -- the file decodes as its schema checked it
  have hread : ∀ text, timeoutFileTree.readFile [] Config.defaultFile = .ok text →
      SettingsChecked text := by
    intro text h
    have htext : (timeoutFileTree.readFile [] Config.defaultFile).toOption = some timeoutFile := by
      decide +kernel
    rw [h] at htext
    cases htext
    exact settingsChecked_of_check (by decide +kernel)
  have hfile : Config.defaults.loadFile timeoutFileTree [] Config.defaultFile false = .ok c₁ :=
    Except.eq_ok_of_toOption (by decide +kernel)
  have henv : c₁.loadEnv timeoutFileTree [] ⟨[]⟩ Config.defaultEnvFile =
      .ok (c₁.applyEnv ⟨[]⟩, ⟨[]⟩) := rfl
  have hiff := (@validate_after_layers {} _ _ _ _ _ _ hread hfile henv).1
  have htimeout : ((FileSettings.read timeoutFileTree [] Config.defaultFile).timeout.bind
      fun text => (Duration.parse text).toOption) = some ⟨-1000000000⟩ := by
    decide +kernel
  exact ⟨hread, hfile, henv, hiff.2 ⟨⟨_, htimeout, by decide⟩, by decide⟩, hiff⟩

end Regress
