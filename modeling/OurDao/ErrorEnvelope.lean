import OurDao.JsNumber

/-!
# Error answers

`classifyError` turns a thrown value into a status, a text and a code. Validation errors come
first and are taken at their word; the table of SQLSTATEs is an object literal, which has the
keys that every object inherits besides its own.
-/

namespace OurDao

def ERROR_CODES : List JsStr :=
  ["BAD_REQUEST", "VALIDATION_FAILED", "UNAUTHORIZED", "FORBIDDEN", "NOT_FOUND", "ROUTE_NOT_FOUND",
    "REQUEST_TIMEOUT", "PAYLOAD_TOO_LARGE", "RATE_LIMITED", "CLIENT_ERROR", "RESOURCE_ALREADY_EXISTS",
    "RELATED_DATA_CONFLICT", "CONSTRAINT_VIOLATION", "MISSING_REQUIRED_VALUE", "DATABASE_UNAVAILABLE",
    "SERVICE_UNAVAILABLE", "INTERNAL_ERROR"]

namespace JsNumber

/-- `400 <= n && n < 500`: `NaN` and the infinities are not. -/
def isClientError : JsNumber → Bool
  | finite q => 400 ≤ q && q < 500
  | _ => false

/-- `500 <= n && n <= 599`. -/
def isServerError : JsNumber → Bool
  | finite q => 500 ≤ q && q ≤ 599
  | _ => false

end JsNumber

def codeForStatus (status : JsNumber) : JsStr :=
  if status = .finite 400 then "BAD_REQUEST"
  else if status = .finite 401 then "UNAUTHORIZED"
  else if status = .finite 403 then "FORBIDDEN"
  else if status = .finite 404 then "NOT_FOUND"
  else if status = .finite 408 then "REQUEST_TIMEOUT"
  else if status = .finite 413 then "PAYLOAD_TOO_LARGE"
  else if status = .finite 429 then "RATE_LIMITED"
  else if status = .finite 503 then "SERVICE_UNAVAILABLE"
  else if status.isClientError then "CLIENT_ERROR" else "INTERNAL_ERROR"

theorem codeForStatus_mem (status : JsNumber) : codeForStatus status ∈ ERROR_CODES := by
  unfold codeForStatus
  split_ifs <;> decide

/-- What is read of a thrown value. A value that is no object has none of the fields. -/
structure Thrown where
  /-- whether a list of schema failures is there -/
  validation : Bool := false
  code : Option JsStr := none
  statusCode : Option JsNumber := none
  message : Option JsStr := none
  deriving DecidableEq

/-- What comes of it; the fields that are left out are `undefined`. -/
structure Classified where
  status : Option JsNumber
  error : Option JsStr
  code : Option JsStr
  leak : Bool
  deriving DecidableEq

/-- A row of `PG_STATUS`. -/
structure PgStatus where
  status : JsNumber
  error : JsStr
  code : JsStr
  deriving DecidableEq

def PG_STATUS : List (JsStr × PgStatus) :=
  [("23505", ⟨.finite 409, "resource already exists", "RESOURCE_ALREADY_EXISTS"⟩),
    ("23503", ⟨.finite 409, "request conflicts with related data", "RELATED_DATA_CONFLICT"⟩),
    ("23514", ⟨.finite 422, "request violates a data constraint", "CONSTRAINT_VIOLATION"⟩),
    ("23502", ⟨.finite 422, "request is missing a required value", "MISSING_REQUIRED_VALUE"⟩)]

/-- The keys of `Object.prototype`. -/
def INHERITED_KEYS : List JsStr :=
  ["constructor", "__defineGetter__", "__defineSetter__", "hasOwnProperty", "__lookupGetter__",
    "__lookupSetter__", "isPrototypeOf", "propertyIsEnumerable", "toString", "valueOf", "__proto__",
    "toLocaleString"]

def PG_CONNECTION_CODES : List JsStr :=
  ["08000", "08003", "08006", "08001", "08004", "08007", "08P01", "57P01", "57P02", "57P03", "53300",
    "ECONNREFUSED", "ECONNRESET", "ETIMEDOUT", "ENOTFOUND", "EPIPE"]

/-- `/^[0-9A-Z]{5}$/` -/
def isSqlState (code : JsStr) : Bool :=
  !code.lone && code.text.toList.length = 5 && code.text.toList.all fun c => c.isDigit || c.isUpper

/-- `{ ...PG_STATUS[code], leak: true }`, where the property is there. What is inherited has no
properties of its own to spread. -/
def pgStatus (code : JsStr) : Option Classified :=
  match PG_STATUS.lookup code with
  | some row => some { status := some row.status, error := some row.error, code := some row.code, leak := true }
  | none => if code ∈ INHERITED_KEYS then some { status := none, error := none, code := none, leak := true } else none

/-- The rules for the errors of the database. -/
def classifyCode (code : JsStr) : Option Classified :=
  if code = JsStr.ofString "" then none
  else if code ∈ PG_CONNECTION_CODES then
    some { status := some (.finite 503), error := some "database temporarily unavailable",
           code := some "DATABASE_UNAVAILABLE", leak := true }
  else match pgStatus code with
    | some classified => some classified
    | none =>
      if isSqlState code then
        some { status := some (.finite 500), error := some "internal server error",
               code := some "INTERNAL_ERROR", leak := true }
      else none

/-- `message || fallback` -/
def messageOr (message : Option JsStr) (fallback : JsStr) : JsStr :=
  match message with
  | some message => if message = JsStr.ofString "" then fallback else message
  | none => fallback

def classifyError (e : Thrown) : Classified :=
  if e.validation then
    { status := some (e.statusCode.getD (.finite 400)), error := e.message, code := some "VALIDATION_FAILED",
      leak := false }
  else match e.code.bind classifyCode with
    | some classified => classified
    | none =>
      let status := e.statusCode.getD (.finite 500)
      if status.isClientError then
        { status := some status, error := some (messageOr e.message "bad request"),
          code := some (codeForStatus status), leak := false }
      else
        let status5xx := if status.isServerError then status else .finite 500
        { status := some status5xx, error := some "internal server error", code := some (codeForStatus status5xx),
          leak := true }

/-- The text is the message's: with another message it is another text. -/
def Discloses (e : Thrown) : Prop :=
  ∃ message, (classifyError { e with message := message }).error ≠ (classifyError e).error

def carriesPgCode (e : Thrown) : Bool := e.code.any fun code => code ∈ PG_CONNECTION_CODES || isSqlState code

structure WellClassified (e : Thrown) : Prop where
  status : ∃ q, (classifyError e).status = some (.finite q) ∧ 400 ≤ q ∧ q ≤ 599
  code : ∃ code ∈ ERROR_CODES, (classifyError e).code = some code
  text : (classifyError e).error.isSome
  discloses : Discloses e →
    (∃ q, (classifyError e).status = some (.finite q) ∧ q < 500) ∧ carriesPgCode e = false
  withheld : ¬ Discloses e → (classifyError e).leak = true

/-- A validation error has a message, a status below 500 and no code of the database; another
error has no code that is a key of every object. -/
def ClassifiedAsMeant (e : Thrown) : Prop :=
  if e.validation then
    e.message.isSome ∧ (e.statusCode.getD (.finite 400)).isClientError ∧ carriesPgCode e = false
  else ∀ code ∈ e.code, code ∉ INHERITED_KEYS

section

variable {e : Thrown} {code : JsStr} {classified : Classified} {status : JsNumber}

theorem codes_of_rows : ∀ row ∈ PG_STATUS,
    ∃ q, row.2.status = .finite q ∧ 400 ≤ q ∧ q ≤ 599 ∧ row.2.code ∈ ERROR_CODES := by
  intro row hrow
  simp only [PG_STATUS, List.mem_cons, List.not_mem_nil, or_false] at hrow
  rcases hrow with rfl | rfl | rfl | rfl
  · exact ⟨409, rfl, by norm_num, by norm_num, by decide⟩
  · exact ⟨409, rfl, by norm_num, by norm_num, by decide⟩
  · exact ⟨422, rfl, by norm_num, by norm_num, by decide⟩
  · exact ⟨422, rfl, by norm_num, by norm_num, by decide⟩

/-- The error of an inherited key is no answer at all. -/
theorem classifyCode_inherited : ∀ code ∈ INHERITED_KEYS,
    classifyCode code = some { status := none, error := none, code := none, leak := true } := by decide

/-- An answer of the rules for the database has a text of its own. -/
structure Withholding (classified : Classified) : Prop where
  status : ∃ q, classified.status = some (.finite q) ∧ 400 ≤ q ∧ q ≤ 599
  code : ∃ code ∈ ERROR_CODES, classified.code = some code
  text : classified.error.isSome
  leak : classified.leak = true

theorem pgStatus_withholding (h : pgStatus code = some classified) (hkey : code ∉ INHERITED_KEYS) :
    Withholding classified := by
  rw [pgStatus] at h
  split at h
  next row hrow =>
    cases h
    obtain ⟨before, after, hrows, -⟩ := List.lookup_eq_some_iff.mp hrow
    obtain ⟨q, hq, hlow, hhigh, hcode⟩ := codes_of_rows (code, row) (by rw [hrows]; simp)
    exact ⟨⟨q, congrArg some hq, hlow, hhigh⟩, ⟨_, hcode, rfl⟩, rfl, rfl⟩
  next =>
    rw [if_neg hkey] at h
    cases h

theorem classifyCode_withholding (h : classifyCode code = some classified) (hkey : code ∉ INHERITED_KEYS) :
    Withholding classified := by
  rw [classifyCode] at h
  split at h
  next => cases h
  next =>
    split at h
    next =>
      cases h
      exact ⟨⟨503, rfl, by norm_num, by norm_num⟩, ⟨_, by decide, rfl⟩, rfl, rfl⟩
    next =>
      split at h
      next hrow =>
        cases h
        exact pgStatus_withholding hrow hkey
      next =>
        split at h
        next =>
          cases h
          exact ⟨⟨500, rfl, by norm_num, by norm_num⟩, ⟨_, by decide, rfl⟩, rfl, rfl⟩
        next => cases h

/-- What the rules for the database let pass has no code of the database. -/
theorem carriesPgCode_of_none (h : e.code.bind classifyCode = none) : carriesPgCode e = false := by
  rw [carriesPgCode]
  cases hcode : e.code with
  | none => rfl
  | some code =>
    rw [hcode, Option.bind_some, classifyCode] at h
    rw [Option.any_some]
    split at h
    next hempty =>
      rw [hempty]
      decide
    next =>
      split at h
      next => cases h
      next hconnection =>
        split at h
        next => cases h
        next =>
          split at h
          next => cases h
          next hstate => simp [hconnection, hstate]

theorem JsNumber.isClientError_iff : status.isClientError = true ↔ ∃ q, status = .finite q ∧ 400 ≤ q ∧ q < 500 := by
  cases status <;> simp [JsNumber.isClientError]

theorem JsNumber.isServerError_iff : status.isServerError = true ↔ ∃ q, status = .finite q ∧ 500 ≤ q ∧ q ≤ 599 := by
  cases status <;> simp [JsNumber.isServerError]

theorem discloses_of_validation (h : e.validation = true) : Discloses e := by
  refine ⟨e.message.elim (some "") fun _ => none, ?_⟩
  rw [classifyError, classifyError, if_pos h, if_pos h]
  cases e.message with
  | none => exact fun heq => nomatch heq
  | some message => exact fun heq => nomatch heq

theorem wellClassified_of_validation (h : e.validation = true) : WellClassified e ↔ ClassifiedAsMeant e := by
  have hanswer : classifyError e =
      ⟨some (e.statusCode.getD (.finite 400)), e.message, some "VALIDATION_FAILED", false⟩ := if_pos h
  rw [ClassifiedAsMeant, if_pos h, JsNumber.isClientError_iff]
  constructor
  · intro hwell
    obtain ⟨q, hq, hlow, -⟩ := hwell.status
    obtain ⟨⟨r, hr, hlt⟩, hcarries⟩ := hwell.discloses (discloses_of_validation h)
    obtain rfl : q = r := by simpa [hq] using hr
    rw [hanswer] at hq
    refine ⟨?_, ⟨q, Option.some.inj hq, hlow, hlt⟩, hcarries⟩
    have htext := hwell.text
    rwa [hanswer] at htext
  · rintro ⟨hmessage, ⟨q, hq, hlow, hlt⟩, hcarries⟩
    have hstatus : (classifyError e).status = some (.finite q) := by rw [hanswer, hq]
    refine ⟨⟨q, hstatus, hlow, by linarith⟩, ⟨"VALIDATION_FAILED", by decide, ?_⟩, ?_, ?_, ?_⟩
    · rw [hanswer]
    · rw [hanswer]
      exact hmessage
    · exact fun _ => ⟨⟨q, hstatus, hlt⟩, hcarries⟩
    · exact fun hwithheld => absurd (discloses_of_validation h) hwithheld

theorem Withholding.wellClassified (h : Withholding (classifyError e)) (hsame : ¬ Discloses e) : WellClassified e :=
  ⟨h.status, h.code, h.text, fun hdiscloses => absurd hdiscloses hsame, fun _ => h.leak⟩

/-- A rule for the database does not look at the message. -/
theorem not_discloses_of_code (hvalidation : e.validation = false) (h : e.code.bind classifyCode = some classified) :
    ¬ Discloses e := by
  rintro ⟨message, hne⟩
  simp [classifyError, hvalidation, h] at hne

theorem wellClassified_of_client (hvalidation : e.validation = false) (h : e.code.bind classifyCode = none)
    (hclient : (e.statusCode.getD (.finite 500)).isClientError = true) : WellClassified e := by
  have hanswer (message : Option JsStr) : classifyError { e with message := message } =
      ⟨some (e.statusCode.getD (.finite 500)), some (messageOr message "bad request"),
        some (codeForStatus (e.statusCode.getD (.finite 500))), false⟩ := by
    simp [classifyError, hvalidation, h, hclient]
  have hdiscloses : Discloses e := by
    by_cases hsame : messageOr e.message "bad request" = "a"
    · refine ⟨some "b", ?_⟩
      rw [hanswer, hanswer e.message, hsame]
      have hne : messageOr (some "b") "bad request" ≠ "a" := by decide
      exact fun heq => hne (Option.some.inj heq)
    · refine ⟨some "a", ?_⟩
      rw [hanswer, hanswer e.message]
      exact fun heq => hsame (Option.some.inj heq).symm
  obtain ⟨q, hq, hlow, hlt⟩ := JsNumber.isClientError_iff.mp hclient
  have hstatus : (classifyError e).status = some (.finite q) := by rw [hanswer e.message, hq]
  have hcode := codeForStatus_mem (e.statusCode.getD (.finite 500))
  refine ⟨⟨q, hstatus, hlow, by linarith⟩, ⟨_, hcode, ?_⟩, ?_, ?_, ?_⟩
  · rw [hanswer e.message]
  · rw [hanswer e.message]
    rfl
  · exact fun _ => ⟨⟨q, hstatus, hlt⟩, carriesPgCode_of_none h⟩
  · exact fun hwithheld => absurd hdiscloses hwithheld

theorem wellClassified_of_internal (hvalidation : e.validation = false) (h : e.code.bind classifyCode = none)
    (hclient : (e.statusCode.getD (.finite 500)).isClientError = false) : WellClassified e := by
  have hsame : ¬ Discloses e := by
    rintro ⟨message, hne⟩
    simp [classifyError, hvalidation, h, hclient] at hne
  refine Withholding.wellClassified ?_ hsame
  rw [classifyError, hvalidation, if_neg Bool.false_ne_true, h]
  dsimp only
  rw [hclient, if_neg Bool.false_ne_true]
  refine ⟨?_, ⟨_, codeForStatus_mem _, rfl⟩, rfl, rfl⟩
  split
  next hserver =>
    obtain ⟨q, hq, hlow, hhigh⟩ := JsNumber.isServerError_iff.mp hserver
    exact ⟨q, congrArg some hq, by linarith, hhigh⟩
  next => exact ⟨500, rfl, by norm_num, by norm_num⟩

/-- Errors are well classified but for validation errors that are taken at their word too far,
and codes that the table of SQLSTATEs inherits. -/
theorem wellClassified_iff (e : Thrown) : WellClassified e ↔ ClassifiedAsMeant e := by
  by_cases hvalidation : e.validation = true
  · exact wellClassified_of_validation hvalidation
  rw [Bool.not_eq_true] at hvalidation
  rw [ClassifiedAsMeant, hvalidation, if_neg Bool.false_ne_true]
  constructor
  · intro hwell code hcode hkey
    obtain ⟨q, hq, -⟩ := hwell.status
    rw [classifyError, hvalidation, if_neg Bool.false_ne_true, Option.mem_def.mp hcode, Option.bind_some,
      classifyCode_inherited code hkey] at hq
    cases hq
  · intro hkeys
    cases hcode : e.code.bind classifyCode with
    | some classified =>
      refine Withholding.wellClassified ?_ (not_discloses_of_code hvalidation hcode)
      rw [classifyError, hvalidation, if_neg Bool.false_ne_true, hcode]
      obtain ⟨code, hthere, hclassified⟩ := Option.bind_eq_some_iff.mp hcode
      exact classifyCode_withholding hclassified (hkeys code hthere)
    | none =>
      cases hclient : (e.statusCode.getD (.finite 500)).isClientError with
      | true => exact wellClassified_of_client hvalidation hcode hclient
      | false => exact wellClassified_of_internal hvalidation hcode hclient

/-- An error whose code is `constructor` gets no status, no text and no code. -/
theorem not_wellClassified_constructor : ¬ WellClassified { code := some "constructor", message := some "boom" } := by
  rintro ⟨⟨q, hq, -⟩, -⟩
  have hnone : (classifyError { code := some "constructor", message := some "boom" }).status = none := by decide
  rw [hnone] at hq
  cases hq

end

end OurDao
