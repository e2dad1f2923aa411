import AnchorQueue.Config.Basic
import AnchorQueue.Proofs.Except
import AnchorQueue.Proofs.Text.Numeral

/-!
# Which environments are accepted

The address of the database must be set, and a variable with a number must hold one, unless it is
not set. The configuration has what the environment gives, and the usual values where it gives
nothing. Otherwise the error names the first variable, in the order of reading, that is at fault.
-/

namespace AnchorQueue

/-- The bound of the number that belongs into a variable. -/
def Variable.bound? : Variable → Option Nat
  | maxConnections => some (2 ^ 32)
  | minConnections => some (2 ^ 32)
  | maxRetries => some (2 ^ 32)
  | batchTimeout => some (2 ^ 64)
  | retryTimeout => some (2 ^ 64)
  | _ => none

/-- The number that a setting stands for. -/
inductive Setting.Holds (bound default : Nat) : Setting → Nat → Prop
  | unset : Holds bound default .unset default
  | undecodable : Holds bound default .undecodable default
  | text {raw : String} {n : Nat} (hRaw : Text.ReadsTrimmed bound raw (.ok n)) :
    Holds bound default (.text raw) n

theorem Setting.Holds.lt {bound default : Nat} {s : Setting} {n : Nat} (h : s.Holds bound default n)
    (hDefault : default < bound) : n < bound := by
  cases h with
  | unset | undecodable => exact hDefault
  | text hRaw =>
    obtain ⟨cs, _, hReads⟩ := hRaw
    cases hReads
    assumption

namespace Variable

/-- The address must be there, and a number must be one if it is there. -/
def Accepts (v : Variable) (s : Setting) : Prop :=
  (v = .databaseUrl → ∃ url, s = .text url) ∧
    ∀ bound ∈ v.bound?, ∀ raw, s = .text raw → ∃ n, Text.ReadsTrimmed bound raw (.ok n)

/-- The error about a setting that is not accepted, with the text as it stands there. -/
inductive Blames : Variable → Setting → StoreError → Prop
  | missing {s : Setting} (hNone : ∀ url, s ≠ .text url) :
    Blames .databaseUrl s (.config "required environment variable DATABASE_URL is not set")
  | invalid {v : Variable} {bound : Nat} {raw : String} {reason : Text.NumeralFault}
    (hBound : v.bound? = some bound) (hReason : Text.ReadsTrimmed bound raw (.error reason)) :
    Blames v (.text raw) (.config
      ("invalid value for " ++ v.name ++ " (" ++ Text.quoted raw ++ "): " ++ reason.message))

end Variable

/-- The limits are the numbers in the environment. -/
structure StoreOptions.GivenBy (env : Environment) (o : StoreOptions) : Prop where
  maxConnections : (env .maxConnections).Holds (2 ^ 32) default.maxConnections.toNat
    o.maxConnections.toNat
  minConnections : (env .minConnections).Holds (2 ^ 32) default.minConnections.toNat
    o.minConnections.toNat
  batchTimeout : ∃ seconds,
    (env .batchTimeout).Holds (2 ^ 64) default.batchTimeout.seconds seconds ∧
      o.batchTimeout = .ofSeconds seconds
  retryTimeout : ∃ seconds,
    (env .retryTimeout).Holds (2 ^ 64) default.retryTimeout.seconds seconds ∧
      o.retryTimeout = .ofSeconds seconds

namespace Config

/-- The variables that can be at fault, in the order of reading. -/
def readingOrder : List Variable :=
  [.databaseUrl, .maxConnections, .minConnections, .maxRetries, .batchTimeout, .retryTimeout]

/-- The configuration says what the environment says. -/
structure GivenBy (env : Environment) (c : Config) : Prop where
  databaseUrl : env .databaseUrl = .text c.databaseUrl.expose
  limits : StoreOptions.GivenBy env
    ⟨c.maxConnections, c.minConnections, c.batchTimeout, c.retryTimeout⟩
  maxRetries : (env .maxRetries).Holds (2 ^ 32) 3 c.maxRetries.toNat
  endpoint : c.endpoint = (env .endpoint).text?
  logLevel : c.logLevel = (env .logLevel).text?.getD "info"

/-- The error blames the first of the variables that does not accept its setting. -/
def FirstBlamed (env : Environment) (among : List Variable) (e : StoreError) : Prop :=
  ∃ before v after, among = before ++ v :: after ∧ (∀ u ∈ before, u.Accepts (env u)) ∧
    v.Blames (env v) e

variable {env : Environment} {v : Variable} {bound default : Nat}

theorem requiredText_eq_ok_iff {url : String} :
    requiredText env v = .ok url ↔ env v = .text url := by
  rw [requiredText]
  cases env v <;> simp [Setting.text?]

theorem requiredText_eq_error_iff {f : ConfigFault} :
    requiredText env v = .error f ↔ (∀ url, env v ≠ .text url) ∧ f = .missing v := by
  rw [requiredText]
  cases env v <;> simp [Setting.text?, eq_comm]

theorem number_of_text {raw : String} (h : env v = .text raw) : number env v bound default =
    (Text.readNatural bound (Text.trimChars raw.toList)).mapError (.invalid v raw) := by
  rw [number, h]
  simp only [Setting.text?]
  cases Text.readNatural bound (Text.trimChars raw.toList) <;> rfl

theorem number_eq_ok_iff (hBound : 0 < bound) {n : Nat} :
    number env v bound default = .ok n ↔ (env v).Holds bound default n := by
  cases hSetting : env v with
  | unset =>
    rw [number, hSetting]
    constructor
    · rintro ⟨⟩
      exact .unset
    · rintro ⟨⟩
      rfl
  | undecodable =>
    rw [number, hSetting]
    constructor
    · rintro ⟨⟩
      exact .undecodable
    · rintro ⟨⟩
      rfl
  | text raw =>
    rw [number_of_text hSetting, mapError_eq_ok_iff, ← Text.readsTrimmed_iff hBound]
    constructor
    · exact .text
    · rintro ⟨⟩
      assumption

theorem number_accepted_iff (hv : v.bound? = some bound) (hBound : 0 < bound) :
    (∃ n, number env v bound default = .ok n) ↔ v.Accepts (env v) := by
  simp only [number_eq_ok_iff hBound]
  constructor
  · rintro ⟨n, hHolds⟩
    constructor
    · rintro rfl
      cases hv
    · rintro bound' hv' raw hRaw
      cases hv.symm.trans hv'
      rw [hRaw] at hHolds
      cases hHolds with
      | text hReads => exact ⟨n, hReads⟩
  · rintro ⟨_, hNumber⟩
    cases hSetting : env v with
    | unset => exact ⟨default, .unset⟩
    | undecodable => exact ⟨default, .undecodable⟩
    | text raw =>
      obtain ⟨n, hReads⟩ := hNumber bound hv raw hSetting
      exact ⟨n, .text hReads⟩

theorem number_blamed_iff (hv : v.bound? = some bound) (hBound : 0 < bound) {e : StoreError} :
    (number env v bound default).mapError ConfigFault.toError = .error e ↔ v.Blames (env v) e := by
  rw [mapError_eq_error_iff]
  constructor
  · rintro ⟨f, hNumber, rfl⟩
    cases hSetting : env v with
    | unset | undecodable =>
      rw [number, hSetting] at hNumber
      cases hNumber
    | text raw =>
      rw [number_of_text hSetting, mapError_eq_error_iff] at hNumber
      obtain ⟨reason, hReason, rfl⟩ := hNumber
      exact .invalid hv ((Text.readsTrimmed_iff hBound).mpr hReason)
  · generalize hSetting : env v = s
    rintro (_ | ⟨hv', hReason⟩)
    · cases hv
    · cases hv.symm.trans hv'
      have hReason := (Text.readsTrimmed_iff hBound).mp hReason
      exact ⟨_, (number_of_text hSetting).trans (mapError_eq_error_iff.mpr ⟨_, hReason, rfl⟩), rfl⟩

theorem address_accepted_iff : (∃ url, requiredText env .databaseUrl = .ok url) ↔
    Variable.databaseUrl.Accepts (env .databaseUrl) := by
  simp [requiredText_eq_ok_iff, Variable.Accepts, Variable.bound?]

theorem address_blamed_iff {e : StoreError} :
    (requiredText env .databaseUrl).mapError ConfigFault.toError = .error e ↔
      Variable.databaseUrl.Blames (env .databaseUrl) e := by
  simp only [mapError_eq_error_iff, requiredText_eq_error_iff]
  constructor
  · rintro ⟨_, ⟨hNone, rfl⟩, rfl⟩
    exact .missing hNone
  · generalize env .databaseUrl = s
    rintro (hNone | hv)
    · exact ⟨_, ⟨hNone, rfl⟩, rfl⟩
    · cases hv

theorem firstBlamed_cons_iff {vs : List Variable} {e : StoreError} :
    FirstBlamed env (v :: vs) e ↔
      v.Blames (env v) e ∨ v.Accepts (env v) ∧ FirstBlamed env vs e := by
  constructor
  · rintro ⟨before, u, after, hOrder, hBefore, hBlames⟩
    cases before with
    | nil =>
      cases hOrder
      exact Or.inl hBlames
    | cons b before =>
      obtain ⟨rfl, rfl⟩ := List.cons.inj hOrder
      obtain ⟨hFirst, hRest⟩ := List.forall_mem_cons.mp hBefore
      exact Or.inr ⟨hFirst, before, u, after, rfl, hRest, hBlames⟩
  · rintro (hBlames | ⟨hFirst, before, u, after, rfl, hBefore, hBlames⟩)
    · exact ⟨[], v, vs, rfl, List.forall_mem_nil _, hBlames⟩
    · exact ⟨v :: before, u, after, rfl, List.forall_mem_cons.mpr ⟨hFirst, hBefore⟩, hBlames⟩

theorem not_firstBlamed_nil {e : StoreError} : ¬FirstBlamed env [] e := by
  rintro ⟨before, v, after, hOrder, _⟩
  exact absurd hOrder.symm (List.append_ne_nil_of_right_ne_nil _ (List.cons_ne_nil _ _))

/-- Loading succeeds if all the variables accept their settings, and blames the first one if not. -/
structure Checks (env : Environment) (among : List Variable) (x : Except ConfigFault Config) :
    Prop where
  ok_iff : (∃ c, x = .ok c) ↔ ∀ v ∈ among, v.Accepts (env v)
  error_iff : ∀ e, x.mapError ConfigFault.toError = .error e ↔ FirstBlamed env among e

theorem checks_nil (c : Config) : Checks env [] (pure c) where
  ok_iff := iff_of_true ⟨c, rfl⟩ (List.forall_mem_nil _)
  error_iff _ := iff_of_false nofun not_firstBlamed_nil

theorem Checks.cons {α : Type} {x : Except ConfigFault α} {next : α → Except ConfigFault Config}
    {vs : List Variable} (hNext : ∀ a, Checks env vs (next a))
    (hAccepted : (∃ a, x = .ok a) ↔ v.Accepts (env v))
    (hBlamed : ∀ e, x.mapError ConfigFault.toError = .error e ↔ v.Blames (env v) e) :
    Checks env (v :: vs) (x >>= next) where
  ok_iff := by
    rw [List.forall_mem_cons]
    constructor
    · rintro ⟨c, hc⟩
      obtain ⟨a, ha, hRest⟩ := bind_eq_ok_iff.mp hc
      exact ⟨hAccepted.mp ⟨a, ha⟩, (hNext a).ok_iff.mp ⟨c, hRest⟩⟩
    · rintro ⟨hFirst, hRest⟩
      obtain ⟨a, ha⟩ := hAccepted.mpr hFirst
      obtain ⟨c, hc⟩ := (hNext a).ok_iff.mpr hRest
      exact ⟨c, bind_eq_ok_iff.mpr ⟨a, ha, hc⟩⟩
  error_iff e := by
    rw [mapError_bind_eq_error_iff, firstBlamed_cons_iff, hBlamed, ← hAccepted, ← exists_and_right]
    simp only [(hNext _).error_iff]

theorem Checks.number {next : Nat → Except ConfigFault Config} {vs : List Variable}
    (hNext : ∀ n, Checks env vs (next n)) (hv : v.bound? = some bound) (hBound : 0 < bound) :
    Checks env (v :: vs) (number env v bound default >>= next) :=
  .cons hNext (number_accepted_iff hv hBound) fun _ => number_blamed_iff hv hBound

theorem checks_load (env : Environment) : Checks env readingOrder (load env) := by
  refine .cons (fun _ => ?_) address_accepted_iff fun _ => address_blamed_iff
  iterate 5 refine .number (fun _ => ?_) rfl (by decide)
  exact checks_nil _

theorem load_eq_ok_iff {c : Config} : load env = .ok c ↔ c.GivenBy env := by
  simp only [load, bind_eq_ok_iff, requiredText_eq_ok_iff,
    number_eq_ok_iff (by decide : 0 < UInt32.size), number_eq_ok_iff (by decide : 0 < UInt64.size)]
  constructor
  · rintro ⟨url, hUrl, maxConnections, hMax, minConnections, hMin, maxRetries, hRetries, batch,
      hBatch, retry, hRetry, ⟨⟩⟩
    have hWord : ∀ {v default n}, (env v).Holds UInt32.size default n → default < UInt32.size →
        (env v).Holds UInt32.size default n.toUInt32.toNat := by
      intro v default n hHolds hDefault
      rwa [UInt32.toNat_ofNat_of_lt' (hHolds.lt hDefault)]
    exact {
      databaseUrl := hUrl
      limits := {
        maxConnections := hWord hMax (by decide)
        minConnections := hWord hMin (by decide)
        batchTimeout := ⟨batch, hBatch, rfl⟩
        retryTimeout := ⟨retry, hRetry, rfl⟩ }
      maxRetries := hWord hRetries (by decide)
      endpoint := rfl
      logLevel := rfl }
  · intro h
    obtain ⟨batch, hBatch, hBatchEq⟩ := h.limits.batchTimeout
    obtain ⟨retry, hRetry, hRetryEq⟩ := h.limits.retryTimeout
    refine ⟨_, h.databaseUrl, _, h.limits.maxConnections, _, h.limits.minConnections, _,
      h.maxRetries, batch, hBatch, retry, hRetry, ?_⟩
    simp only [Nat.toUInt32_eq, UInt32.ofNat_toNat, ← hBatchEq, ← hRetryEq, ← h.endpoint,
      ← h.logLevel]
    rfl

/-- Loading succeeds exactly if every variable accepts what it is set to. The configuration and the
options of the store then have these values, and otherwise the error blames the first variable that
does not accept its setting. -/
theorem load_exact (env : Environment) :
    ((∃ c, load env = .ok c) ↔ ∀ v ∈ readingOrder, v.Accepts (env v)) ∧
    (∀ c, load env = .ok c ↔ c.GivenBy env) ∧
    (∀ c, load env = .ok c → c.storeOptions.GivenBy env) ∧
    ∀ e, (load env).mapError ConfigFault.toError = .error e ↔ FirstBlamed env readingOrder e :=
  ⟨(checks_load env).ok_iff, fun _ => load_eq_ok_iff,
    fun _ hLoad => (load_eq_ok_iff.mp hLoad).limits, (checks_load env).error_iff⟩

/-- The greatest numbers that are accepted, one of them between white space. -/
def greatest : Environment
  | .databaseUrl => .text "postgres://localhost/queue"
  | .maxConnections => .text "\u3000+0004294967295\n"
  | .minConnections => .undecodable
  | .batchTimeout => .text "18446744073709551615"
  | _ => .unset

/-- Two variables at fault. -/
def excessive : Environment
  | .databaseUrl => .text ""
  | .maxRetries => .text " 4294967296"
  | .retryTimeout => .text "soon"
  | _ => .unset

theorem load_exact_greatest :
    (∃ c, load greatest = .ok c ∧ c.GivenBy greatest ∧ c.storeOptions.GivenBy greatest ∧
      c.storeOptions = ⟨4294967295, 10, .ofSeconds 18446744073709551615, .ofSeconds 10⟩) ∧
    ∃ e, (load excessive).mapError ConfigFault.toError = .error e ∧
      FirstBlamed excessive readingOrder e ∧
      e.message = "configuration error: invalid value for MAX_RETRIES (\" 4294967296\"): " ++
        "number too large to fit in target type" := by
  obtain ⟨_, hGiven, hOptions, _⟩ := load_exact greatest
  obtain ⟨_, _, _, hBlamed⟩ := load_exact excessive
  obtain ⟨c, hLoad, hLimits⟩ : ∃ c, load greatest = .ok c ∧ c.storeOptions =
    ⟨4294967295, 10, .ofSeconds 18446744073709551615, .ofSeconds 10⟩ := ⟨_, rfl, rfl⟩
  obtain ⟨e, hError, hMessage⟩ : ∃ e, (load excessive).mapError ConfigFault.toError = .error e ∧
    e.message = "configuration error: invalid value for MAX_RETRIES (\" 4294967296\"): " ++
      "number too large to fit in target type" := ⟨_, rfl, by decide⟩
  exact ⟨⟨c, hLoad, (hGiven c).mp hLoad, hOptions c hLoad, hLimits⟩, e, hError,
    (hBlamed e).mp hError, hMessage⟩

end Config

end AnchorQueue
