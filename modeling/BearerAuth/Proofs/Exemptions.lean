import BearerAuth.Proofs.ListedItems
import BearerAuth.Proofs.SkipPath
import BearerAuth.Proofs.TypeSeparation

/-! Which paths the variables exempt. The patterns of a context are the items of one variable, followed
by the common patterns unless another variable switches them off. The common patterns name fourteen
paths in full and one start, so no path is exempt that is not written down. -/

namespace BearerAuth

/-! ## Common paths -/

namespace SkipPath

/-- The common paths that are named in full. -/
def commonPaths : List String :=
  ["/health", "/healthz", "/ready", "/readiness", "/live", "/liveness", "/metrics", "/prometheus",
    "/status", "/ping", "/version", "/info", "/favicon.ico", "/robots.txt"]

theorem mem_commonPatterns_iff {pattern : String} :
    pattern ∈ commonPatterns ↔ pattern ∈ commonPaths ∨ pattern = "/health/*" := by
  have hperm : commonPatterns.Perm (commonPaths ++ ["/health/*"]) := by decide
  rw [hperm.mem_iff, List.mem_append, List.mem_singleton]

/-- The common patterns exempt the paths that they name and whatever lies below the one for
health. -/
theorem exempts_commonPatterns_iff {path : String} :
    Exempts commonPatterns path ↔
      path ∈ commonPaths ∨ "/health/".toList <+: path.toList := by
  have hliteral : ∀ pattern ∈ commonPaths, (covers pattern path = true ↔ path = pattern) := by
    intro pattern hpattern
    have hfree : '*' ∉ pattern.toList := by
      revert pattern
      decide
    rw [covers, fits_iff_of_free hfree, String.toList_inj]
  have hbelow : covers "/health/*" path = true ↔ "/health/".toList <+: path.toList :=
    fits_append_asterisk_iff "/health/".toList path.toList
  constructor
  · rintro ⟨pattern, hpattern, hcovers⟩
    rcases mem_commonPatterns_iff.mp hpattern with hpattern | rfl
    · exact .inl ((hliteral pattern hpattern).mp hcovers ▸ hpattern)
    · exact .inr (hbelow.mp hcovers)
  · rintro (hpath | hstart)
    · exact ⟨path, mem_commonPatterns_iff.mpr (.inl hpath), covers_self path⟩
    · exact ⟨_, mem_commonPatterns_iff.mpr (.inr rfl), hbelow.mpr hstart⟩

end SkipPath

/-! ## Patterns from variables -/

namespace Settings

variable {lookup : String → Option String} {settings : Settings}

theorem eq_true_iff_of_parseFlag {value : String} {flag : Bool} (h : parseFlag value = .ok flag) :
    flag = true ↔ value ≠ "false" := by
  unfold parseFlag at h
  split at h
  · rename_i hvalue
    cases h
    simp [hvalue]
  · split at h
    · rename_i hvalue
      cases h
      simp [hvalue]
    · contradiction

theorem ReadFrom.commonSkipPaths_iff (h : settings.ReadFrom lookup) :
    settings.auth.commonSkipPaths = true ↔ lookup "AUTH_COMMON_SKIP_PATHS" ≠ some "false" := by
  have hflag := h.commonSkipPaths
  cases hvalue : lookup "AUTH_COMMON_SKIP_PATHS" with
  | none =>
      rw [hvalue] at hflag
      simp [hflag]
  | some value =>
      rw [hvalue] at hflag
      rw [eq_true_iff_of_parseFlag hflag, ne_eq, ne_eq, Option.some.injEq]

theorem ReadFrom.mem_skipPaths_iff (h : settings.ReadFrom lookup) {item : String} :
    item ∈ settings.auth.skipPaths ↔
      ∃ value, lookup "AUTH_SKIP_PATHS" = some value ∧ IsItem value item := by
  rw [h.skipPaths]
  cases lookup "AUTH_SKIP_PATHS" with
  | none => simp
  | some value => simp [mem_splitList_iff]

theorem mem_skipPatterns_iff {pattern : String} :
    pattern ∈ settings.skipPatterns ↔ pattern ∈ settings.auth.skipPaths ∨
      settings.auth.commonSkipPaths = true ∧ pattern ∈ SkipPath.commonPatterns := by
  rw [skipPatterns, List.mem_append]
  cases settings.auth.commonSkipPaths <;> simp

end Settings

/-! ## Exempt paths -/

/-- Variables exempt a path if an item of the list of exempt paths covers it, or if it is a common path
and these are not switched off. -/
def ExemptBy (lookup : String → Option String) (path : String) : Prop :=
  (∃ value item, lookup "AUTH_SKIP_PATHS" = some value ∧ Settings.IsItem value item ∧
      SkipPath.covers item path = true) ∨
    lookup "AUTH_COMMON_SKIP_PATHS" ≠ some "false" ∧
      (path ∈ SkipPath.commonPaths ∨ "/health/".toList <+: path.toList)

namespace Settings

variable {lookup : String → Option String} {settings : Settings} {context : SigningContext}

theorem ReadFrom.exempts_skipPatterns_iff (h : settings.ReadFrom lookup) {path : String} :
    SkipPath.Exempts settings.skipPatterns path ↔ ExemptBy lookup path := by
  simp only [SkipPath.Exempts, mem_skipPatterns_iff, h.mem_skipPaths_iff, h.commonSkipPaths_iff]
  rw [ExemptBy, ← SkipPath.exempts_commonPatterns_iff]
  constructor
  · rintro ⟨pattern, ⟨value, hvalue, hitem⟩ | ⟨hcommon, hpattern⟩, hcovers⟩
    · exact .inl ⟨value, pattern, hvalue, hitem, hcovers⟩
    · exact .inr ⟨hcommon, pattern, hpattern, hcovers⟩
  · rintro (⟨value, item, hvalue, hitem, hcovers⟩ | ⟨hcommon, pattern, hpattern, hcovers⟩)
    · exact ⟨item, .inl ⟨value, hvalue, hitem⟩, hcovers⟩
    · exact ⟨pattern, .inr ⟨hcommon, hpattern⟩, hcovers⟩

theorem isPathSkipped_iff_exemptBy (hsettings : ofEnvironment lookup = .ok settings)
    (hcontext : settings.signingContext = .ok context) {path : String} :
    context.isPathSkipped path = true ↔ ExemptBy lookup path := by
  obtain ⟨hread, -⟩ := ofEnvironment_eq_ok_iff.mp hsettings
  obtain ⟨access, refresh, -, -, rfl⟩ := signingContext_eq_ok_iff.mp hcontext
  exact SigningContext.isPathSkipped_iff.trans hread.exempts_skipPatterns_iff

/-- A context exempts the paths that variables exempt, and so does every other context that is made of
variables with the same two lists. -/
structure ExemptsAsWritten (lookup : String → Option String) (context : SigningContext) : Prop where
  written : ∀ path, context.isPathSkipped path = true ↔ ExemptBy lookup path
  unaffected : ∀ {others settings found},
    others "AUTH_SKIP_PATHS" = lookup "AUTH_SKIP_PATHS" →
    others "AUTH_COMMON_SKIP_PATHS" = lookup "AUTH_COMMON_SKIP_PATHS" →
    ofEnvironment others = .ok settings → settings.signingContext = .ok found →
    ∀ path, found.isPathSkipped path = context.isPathSkipped path

/-- What is exempt is what the two variables for exempt paths say, whatever the other variables. -/
theorem exemptsAsWritten (hsettings : ofEnvironment lookup = .ok settings)
    (hcontext : settings.signingContext = .ok context) : ExemptsAsWritten lookup context where
  written _ := isPathSkipped_iff_exemptBy hsettings hcontext
  unaffected {others _ _} hpaths hcommon hothers hfound path := by
    have hsame : ExemptBy others path ↔ ExemptBy lookup path := by
      rw [ExemptBy, hpaths, hcommon, ExemptBy]
    rw [Bool.eq_iff_iff, isPathSkipped_iff_exemptBy hothers hfound, hsame,
      isPathSkipped_iff_exemptBy hsettings hcontext]

/-- Variables with a secret and a list of exempt paths, with the common paths switched off. -/
def secretAndPaths (paths name : String) : Option String :=
  if name = "JWT_SECRET" then some "s3cr3t!!"
  else if name = "AUTH_SKIP_PATHS" then some paths
  else if name = "AUTH_COMMON_SKIP_PATHS" then some "false"
  else none

/-- The settings in these variables. -/
def settingsExempting (paths : String) : Settings :=
  { settingsNaming "sub" with auth := ⟨splitList paths, false⟩ }

theorem ofEnvironment_secretAndPaths (paths : String) :
    ofEnvironment (secretAndPaths paths) = .ok (settingsExempting paths) :=
  ofEnvironment_eq_ok_iff.mpr
    ⟨⟨rfl, parsePort_default, rfl, rfl, parsePeriod_default_access, parsePeriod_default_refresh, rfl,
      rfl, rfl⟩, rfl⟩

theorem signingContext_settingsExempting (paths : String) :
    ∃ context, (settingsExempting paths).signingContext = .ok context :=
  ⟨_, signingContext_eq_ok_iff.mpr ⟨_, _, rfl, rfl, rfl⟩⟩

/-- A path below a listed one is exempt, a common one that is switched off is not. -/
theorem exemptsAsWritten_docs : ∃ settings context,
    ofEnvironment (secretAndPaths "/login, ,\u00a0/docs/* ,") = .ok settings ∧
      settings.signingContext = .ok context ∧
      context.isPathSkipped "/docs/index.html" = true ∧ context.isPathSkipped "/health" = false := by
  have hsettings := ofEnvironment_secretAndPaths "/login, ,\u00a0/docs/* ,"
  obtain ⟨context, hcontext⟩ := signingContext_settingsExempting "/login, ,\u00a0/docs/* ,"
  have hexempts := exemptsAsWritten hsettings hcontext
  have hlist : splitList "/login, ,\u00a0/docs/* ," = ["/login", "/docs/*"] := by decide
  refine ⟨_, _, hsettings, hcontext, ?_, ?_⟩
  · have hitem : IsItem "/login, ,\u00a0/docs/* ," "/docs/*" := by
      rw [← mem_splitList_iff, hlist]
      decide
    exact (hexempts.written _).mpr (.inl ⟨_, _, rfl, hitem, by decide⟩)
  · rw [Bool.eq_false_iff]
    intro hskipped
    rcases (hexempts.written _).mp hskipped with ⟨_, item, ⟨⟩, hitem, hcovers⟩ | ⟨hcommon, -⟩
    · rw [← mem_splitList_iff, hlist] at hitem
      revert item
      decide
    · exact hcommon rfl

end Settings

end BearerAuth
