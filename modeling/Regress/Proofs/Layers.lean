import Regress.Config.Load

/-!
# Where each setting comes from

A configuration is loaded in layers, each over the one before: the defaults, the configuration
file, the environment after the environment file is merged into it, and the flags. Each layer
has its own notion of setting something: a key of the file sets its setting when it is there, a
variable of the environment when it is not empty, and a flag when it is not empty, not false
or, for the timeout, positive. Two switches can be pushed one way only by a flag: `--keep-going`
turns stopping off and `--scope-artifacts` turns scoping on.

`load_settings_by_layer` says that a load that succeeds takes every setting from the highest
layer that sets it (`highest`), and that merging the environment file never replaces a
variable the environment has, even one set to the empty text. It is assembled from one lemma
per layer: `loadFile_ok` and `applyTo_ok` for the file, `loadEnv_ok` for the environment, and
`load_ok` for the order of the layers.
-/

namespace Regress

/-- The value of the first layer that sets it, or the default when none does. -/
def highest {α : Type} (layers : List (Option α)) (default : α) : α :=
  (layers.findSome? id).getD default

/-- What a text sets: itself, unless it is empty. -/
def textLayer (s : String) : Option String :=
  if s.isEmpty then none else some s

/-- What a list sets: itself, unless it is empty. -/
def listLayer (l : List String) : Option (List String) :=
  if l.isEmpty then none else some l

@[simp] theorem highest_nil {α : Type} (d : α) : highest [] d = d := rfl

@[simp] theorem highest_cons {α : Type} (o : Option α) (rest : List (Option α)) (d : α) :
    highest (o :: rest) d = o.getD (highest rest d) := by
  cases o <;> rfl

@[simp] theorem textLayer_getD (s current : String) :
    (textLayer s).getD current = Config.override current s := by
  unfold textLayer Config.override
  split <;> rfl

theorem listLayer_getD (l current : List String) :
    (listLayer l).getD current = if l.isEmpty then current else l := by
  unfold listLayer
  split <;> rfl

theorem getD_ite {α : Type} (p : Prop) [Decidable p] (x y : α) :
    (if p then some x else none).getD y = if p then x else y := by
  split <;> rfl

theorem parseList_empty : parseList "" = [] := by
  have h : "".splitOn "," = [""] := by
    unfold String.splitOn
    rw [String.splitOnAux]
    rfl
  simp [parseList, h]

namespace Environment

theorem get?_set_of_ne (e : Environment) {k name : String} (h : k ≠ name) (v : String) :
    (e.set k v).get? name = e.get? name := by
  unfold set
  split
  · rfl
  · split
    · -- the value of `k` is replaced in place; every other entry keeps its key and value
      simp only [get?, List.find?_map]
      have hkey : ((fun a : String × String => a.1 == name) ∘
          fun (x : String × String) => if x.1 == k then (x.1, v) else x) = (·.1 == name) := by
        funext x
        by_cases hx : x.1 = k <;> simp [hx]
      rw [hkey]
      cases hf : e.vars.find? (·.1 == name) with
      | none => rfl
      | some x =>
        have hx : x.1 ≠ k := by
          have : x.1 = name := by simpa using List.find?_some hf
          exact this ▸ Ne.symm h
        simp [hx]
    · simp [get?, List.find?_append, h]

end Environment

namespace DotEnv

theorem load_get?_of_has (env : Environment) (vars : List (String × String)) {name : String}
    (h : env.has name = true) : (load env vars).get? name = env.get? name := by
  unfold load
  -- the merge is a fold; each step keeps the variable, since it only sets names `env` lacks
  suffices ∀ (vs : List (String × String)) (e : Environment), e.get? name = env.get? name →
      (vs.foldl (fun e (kv : String × String) => if env.has kv.1 then e else e.set kv.1 kv.2)
        e).get? name = env.get? name from this vars env rfl
  intro vs
  induction vs with
  | nil => exact fun e he => he
  | cons kv vs ih =>
    intro e he
    apply ih
    by_cases hk : env.has kv.1 = true
    · simpa [hk] using he
    · have hne : kv.1 ≠ name := by
        rintro rfl
        exact hk h
      simpa [hk, Environment.get?_set_of_ne _ hne] using he

end DotEnv

namespace FileSettings

/-- The settings of the configuration file at `path`: none when the file cannot be read or its
text gives no settings. -/
def read (t : FileTree) (cwd : List String) (path : String) : FileSettings :=
  match t.readFile cwd path with
  | .ok text =>
    match fileSettings text with
    | .ok (.ok s) => s
    | _ => {}
  | .error _ => {}

/-- What applying the settings of a file does when it succeeds: each setting the file gives
replaces the configured one, and the timeout is read as a duration. -/
theorem applyTo_ok {s : FileSettings} {c c' : Config} (h : s.applyTo c = .ok c') :
    c' = { c with
      corpusRoot := s.corpusRoot.getD c.corpusRoot
      compiler := s.compiler.getD c.compiler
      interpreter := s.interpreter.getD c.interpreter
      outputDir := s.outputDir.getD c.outputDir
      expectedDir := s.expectedDir.getD c.expectedDir
      sourceExt := s.sourceExt.getD c.sourceExt
      inputExt := s.inputExt.getD c.inputExt
      logExt := s.logExt.getD c.logExt
      artifactExt := s.artifactExt.getD c.artifactExt
      groups := (listLayer s.groups).getD c.groups
      stopOnFirstFailure := s.stopOnFirstFailure.getD c.stopOnFirstFailure
      scopeArtifacts := s.scopeArtifacts.getD c.scopeArtifacts
      timeout := (s.timeout.bind fun d => (Duration.parse d).toOption).getD c.timeout } := by
  unfold applyTo at h
  have hgroups : (if s.groups = [] then c.groups else s.groups) =
      (listLayer s.groups).getD c.groups := by
    unfold listLayer
    split <;> simp_all
  rcases ht : s.timeout with _ | text
  · simp only [ht] at h
    cases h
    simp [hgroups]
  · simp only [ht] at h
    rcases hd : Duration.parse text with m | d
    · simp [hd, throw, throwThe, MonadExceptOf.throw, Functor.map, Except.map] at h
    · simp only [hd] at h
      cases h
      simp [hgroups, hd, Except.toOption]

end FileSettings

namespace Config

variable {t : FileTree} {cwd : List String}

/-- A configuration file that loads applies the settings it gives: none when it is missing. -/
theorem loadFile_ok {c c' : Config} {path : String} {required : Bool}
    (h : c.loadFile t cwd path required = .ok c') :
    (FileSettings.read t cwd path).applyTo c = .ok c' := by
  unfold loadFile at h
  unfold FileSettings.read
  split at h
  · rename_i e he
    split at h
    · cases h
      simp only [he]
      rfl
    · cases h
  · rename_i text htext
    simp only [htext]
    split at h
    · cases h
    · cases h
    · rename_i s hs
      simp only [hs]
      exact h

/-- What loading the environment does when it succeeds: the configuration takes the settings of
the merged environment, and the merge left every variable the environment had as it was. -/
theorem loadEnv_ok {c c' : Config} {env env' : Environment} {file : String}
    (h : c.loadEnv t cwd env file = .ok (c', env')) :
    c' = c.applyEnv env' ∧ ∀ name, env.has name = true → env'.get? name = env.get? name := by
  unfold loadEnv at h
  -- the environment after the merge, whatever the file held
  obtain ⟨merged, hmerged, hkeep⟩ : ∃ merged : Environment,
      (c.applyEnv merged, merged) = (c', env') ∧
        ∀ name, env.has name = true → merged.get? name = env.get? name := by
    split at h
    · cases h
      exact ⟨env, rfl, fun _ _ => rfl⟩
    · split at h
      · split at h
        · cases h
          exact ⟨env, rfl, fun _ _ => rfl⟩
        · cases h
      · split at h
        · cases h
        · rename_i vars _
          cases h
          exact ⟨DotEnv.load env vars, rfl, fun _ hn => DotEnv.load_get?_of_has env vars hn⟩
  obtain ⟨rfl, rfl⟩ := Prod.mk.inj hmerged
  exact ⟨rfl, hkeep⟩

/-- A load that succeeds went through the layers in order: the file over the defaults, the
environment over the file, and the flags over the environment, and the result is valid. -/
theorem load_ok {flags : Flags} {env env' : Environment} {c : Config}
    (h : load flags t cwd env = .ok (c, env')) :
    ∃ c₁ c₂, (FileSettings.read t cwd
        (if flags.configFile.isEmpty then defaultFile else flags.configFile)).applyTo defaults =
          .ok c₁ ∧
      c₁.loadEnv t cwd env (if flags.envFile.isEmpty then defaultEnvFile else flags.envFile) =
        .ok (c₂, env') ∧
      c = c₂.apply flags ∧ c.validate = .ok () := by
  unfold load at h
  simp only [bind, Except.bind] at h
  split at h
  · cases h
  · rename_i c₁ hfile
    split at h
    · cases h
    · rename_i r henv
      obtain ⟨c₂, env₂⟩ := r
      split at h
      · cases h
      · rename_i u hvalid
        cases h
        refine ⟨c₁, c₂, ?_, henv, rfl, hvalid⟩
        have := loadFile_ok hfile
        cases hf : flags.configFile.isEmpty <;> simp_all

/-- A load succeeds when each layer does and the result is valid. -/
theorem load_of_layers {flags : Flags} {env env' : Environment} {c₁ c₂ : Config}
    (hfile : defaults.loadFile t cwd
      (if flags.configFile.isEmpty then defaultFile else flags.configFile)
      (!flags.configFile.isEmpty) = .ok c₁)
    (henv : c₁.loadEnv t cwd env
      (if flags.envFile.isEmpty then defaultEnvFile else flags.envFile) = .ok (c₂, env'))
    (hvalid : (c₂.apply flags).validate = .ok ()) :
    load flags t cwd env = .ok (c₂.apply flags, env') := by
  have hfile' : defaults.loadFile t cwd
      (if (!flags.configFile.isEmpty) = true then flags.configFile else defaultFile)
      (!flags.configFile.isEmpty) = .ok c₁ := by
    cases h : flags.configFile.isEmpty <;> simp_all
  simp only [load, bind, Except.bind, hfile', henv, hvalid]
  rfl

end Config

/-- Each setting of `c` comes from the highest layer that sets it: a flag that is not empty (for
the timeout, positive; for the two switches, given), else a variable of `env` that is not empty,
else a key of the configuration file's settings `s`, else the default. The corpus layout comes
from the file alone, and the groups of a variable are its comma-separated items. -/
structure Config.FromLayers (flags : Flags) (env : Environment) (s : FileSettings) (c : Config) :
    Prop where
  corpusRoot : c.corpusRoot = highest [textLayer flags.corpusRoot,
    textLayer (env.getD Config.envCorpusRoot), s.corpusRoot] Config.defaults.corpusRoot
  compiler : c.compiler = highest [textLayer flags.compiler,
    textLayer (env.getD Config.envCompiler), s.compiler] Config.defaults.compiler
  interpreter : c.interpreter = highest [textLayer flags.interpreter,
    textLayer (env.getD Config.envInterpreter), s.interpreter] Config.defaults.interpreter
  outputDir : c.outputDir = highest [textLayer flags.outputDir,
    textLayer (env.getD Config.envOutputDir), s.outputDir] Config.defaults.outputDir
  groups : c.groups = highest [listLayer flags.groups,
    listLayer (parseList (env.getD Config.envGroups)), listLayer s.groups] ["."]
  expectedDir : c.expectedDir = highest [s.expectedDir] Config.defaults.expectedDir
  sourceExt : c.sourceExt = highest [s.sourceExt] Config.defaults.sourceExt
  inputExt : c.inputExt = highest [s.inputExt] Config.defaults.inputExt
  logExt : c.logExt = highest [s.logExt] Config.defaults.logExt
  artifactExt : c.artifactExt = highest [s.artifactExt] Config.defaults.artifactExt
  stopOnFirstFailure : c.stopOnFirstFailure =
    highest [if flags.keepGoing then some false else none, s.stopOnFirstFailure] true
  scopeArtifacts : c.scopeArtifacts =
    highest [if flags.scopeArtifacts then some true else none, s.scopeArtifacts] false
  timeout : c.timeout = highest [if 0 < flags.timeout.nanos then some flags.timeout else none,
    s.timeout.bind fun d => (Duration.parse d).toOption] ⟨0⟩
  flags : c.flags = flags

/-- A load that succeeds takes each setting from the highest layer that sets it, the environment
read after the environment file is merged into it; and the merge never replaces a variable the
environment has, even one set to the empty text. -/
theorem load_settings_by_layer {flags : Flags} {t : FileTree} {cwd : List String}
    {env env' : Environment} {c : Config} (h : Config.load flags t cwd env = .ok (c, env')) :
    c.FromLayers flags env' (FileSettings.read t cwd
      (if flags.configFile.isEmpty then Config.defaultFile else flags.configFile)) ∧
    ∀ name, env.has name = true → env'.get? name = env.get? name := by
  obtain ⟨c₁, c₂, hfile, henv, rfl, -⟩ := Config.load_ok h
  obtain ⟨rfl, hkeep⟩ := Config.loadEnv_ok henv
  -- the file's settings over the defaults, the environment's over those, the flags' last
  rw [FileSettings.applyTo_ok hfile]
  refine ⟨⟨?_, ?_, ?_, ?_, ?_, ?_, ?_, ?_, ?_, ?_, ?_, ?_, ?_, rfl⟩, hkeep⟩ <;>
    simp only [highest_cons, highest_nil, textLayer_getD, listLayer_getD, getD_ite, Config.apply,
      Config.applyEnv, Config.override]
  -- what is left differs from the layers only in how the defaults and the switches are written
  · rfl
  · rfl
  · cases flags.scopeArtifacts <;> simp [Config.defaults]
  · rfl

/-- The flags of a run over `corpus` that keeps going. -/
def keepGoingFlags : Flags :=
  { corpusRoot := "corpus", keepGoing := true }

/-- An environment that names a compiler and sets the output directory to the empty text. -/
def compilerEnv : Environment :=
  ⟨[("LTR_COMPILER", "lamac2"), ("LTR_OUTPUT_DIR", "")]⟩

/-- With no configuration file, the corpus root and the stopping rule come from the flags, the
compiler from the environment, and the output directory, set there to the empty text, from the
defaults. -/
theorem compiler_from_variable_layer :
    Config.load keepGoingFlags { nodes := [] } [] compilerEnv =
        .ok ({ Config.defaults with
          corpusRoot := "corpus", compiler := "lamac2", stopOnFirstFailure := false,
          flags := keepGoingFlags }, compilerEnv) ∧
      Config.FromLayers keepGoingFlags compilerEnv
        (FileSettings.read { nodes := [] } [] Config.defaultFile)
        { Config.defaults with
          corpusRoot := "corpus", compiler := "lamac2", stopOnFirstFailure := false,
          flags := keepGoingFlags } ∧
      ∀ name, compilerEnv.has name = true → compilerEnv.get? name = compilerEnv.get? name := by
  -- the environment layer: the groups variable is unset, so it gives no items
  have henv : Config.defaults.loadEnv { nodes := [] } [] compilerEnv
      (if keepGoingFlags.envFile.isEmpty then Config.defaultEnvFile else keepGoingFlags.envFile) =
      .ok ({ Config.defaults with compiler := "lamac2" }, compilerEnv) := by
    have hread : Config.defaults.loadEnv { nodes := [] } [] compilerEnv
        (if keepGoingFlags.envFile.isEmpty then Config.defaultEnvFile else keepGoingFlags.envFile) =
        .ok (Config.defaults.applyEnv compilerEnv, compilerEnv) := rfl
    have hgroups : parseList (compilerEnv.getD Config.envGroups) = [] := parseList_empty
    rw [hread, Config.applyEnv, hgroups]
    rfl
  have h : Config.load keepGoingFlags { nodes := [] } [] compilerEnv =
      .ok ({ Config.defaults with
        corpusRoot := "corpus", compiler := "lamac2", stopOnFirstFailure := false,
        flags := keepGoingFlags }, compilerEnv) := by
    refine Config.load_of_layers ?_ henv ?_
    · rfl
    · rfl
  exact ⟨h, load_settings_by_layer h⟩

end Regress
