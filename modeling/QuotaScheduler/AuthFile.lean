/- Auth files and the codex credentials in them (auth.go, refresh.go, identity.go). -/

import QuotaScheduler.Identity
import QuotaScheduler.Roster

namespace QuotaScheduler.AuthFile

open Identity List

/-- A decoded JSON value. A number is the value it decodes to: one that no `float64` has is rounded
before it is one of these. -/
inductive Json
  | null
  | bool (b : Bool)
  | number (n : Int)
  | text (s : String)
  | array (items : List Json)
  | object (fields : List (String × Json))

abbrev Fields := List (String × Json)

namespace Fields

def set (fields : Fields) (key : String) (value : Json) : Fields :=
  (key, value) :: fields.filter fun field => decide (field.1 ≠ key)

variable {fields : Fields} {value : Json}

@[simp]
theorem lookup_set_self (key : String) : (fields.set key value).lookup key = some value := by
  simp [set]

theorem lookup_filter_ne {key other : String} (hne : other ≠ key) :
    (fields.filter fun field => decide (field.1 ≠ key)).lookup other = fields.lookup other := by
  induction fields with
  | nil => rfl
  | cons field rest ih =>
    by_cases hkey : field.1 = key
    · have hskip : other ≠ field.1 := by rwa [hkey]
      rw [filter_cons_of_neg (by simpa using hkey), ih, lookup_cons, beq_false_of_ne hskip]
    · rw [filter_cons_of_pos (by simpa using hkey), lookup_cons, lookup_cons, ih]

@[simp]
theorem lookup_set_ne {key other : String} (hne : other ≠ key) :
    (fields.set key value).lookup other = fields.lookup other := by
  rw [set, lookup_cons, beq_false_of_ne hne]
  exact lookup_filter_ne hne

end Fields

inductive AuthText
  | empty
  | invalid
  | json (value : Json)

mutual

def lookupStringDeep (key : String) : Json → Option String
  | .object fields =>
    match fields.lookup key with
    | some (.text s) => some s
    | _ => lookupFieldsDeep key fields
  | .array items => lookupItemsDeep key items
  | .null | .bool _ | .number _ | .text _ => none

/-- The children of an object, in the order they are met. -/
def lookupFieldsDeep (key : String) : List (String × Json) → Option String
  | [] => none
  | (_, child) :: rest => (lookupStringDeep key child).orElse fun _ => lookupFieldsDeep key rest

def lookupItemsDeep (key : String) : List Json → Option String
  | [] => none
  | child :: rest => (lookupStringDeep key child).orElse fun _ => lookupItemsDeep key rest

end

structure CodexCredentials where
  accessToken : String := ""
  refreshToken : String := ""
  idToken : String := ""
  chatGPTAccountID : String := ""
  expiresAt : Time := .zero
  deriving DecidableEq

/-- What `extractChatGPTAccountID` makes of an ID token. -/
inductive JwtAccount
  | undecodable
  | missing
  | account (id : String)
  deriving DecidableEq

/-- The text formats of the standard library: ID tokens and RFC 3339 times. -/
structure Formats where
  accountOf : String → JwtAccount
  parseAuthTime : String → Option Time
  formatTime : Time → String

def lookupTimeDeep (formats : Formats) (doc : Json) (keys : List String) : Option Time :=
  keys.findSome? fun key => (lookupStringDeep key doc).bind formats.parseAuthTime

/-- The account of `ExtractCodexCredentials`; `none`: the ID token cannot be decoded. -/
def accountID (formats : Formats) (doc : Json) (idToken : String) : Option String :=
  let direct := (lookupStringDeep "account_id" doc).getD ""
  let direct := if direct = "" then (lookupStringDeep "chatgpt_account_id" doc).getD "" else direct
  if direct ≠ "" then some direct
  else
    match formats.accountOf idToken with
    | .account id => some id
    | .missing => some ""
    | .undecodable => if idToken = "" then some "" else none

def extractCodexCredentials (formats : Formats) : AuthText → Option CodexCredentials
  | .empty | .invalid => none
  | .json doc =>
    let accessToken := (lookupStringDeep "access_token" doc).getD ""
    if accessToken = "" then none
    else
      let idToken := (lookupStringDeep "id_token" doc).getD ""
      (accountID formats doc idToken).map fun account =>
        { accessToken := accessToken
          refreshToken := (lookupStringDeep "refresh_token" doc).getD ""
          idToken := idToken
          chatGPTAccountID := account
          expiresAt := (lookupTimeDeep formats doc
            ["expired", "expire", "expires_at", "expiresAt"]).getD .zero }

/-- The fields `updateCodexAuthJSON` decodes; empty text and `null` give none. -/
def AuthText.fields : AuthText → Option Fields
  | .empty => some []
  | .invalid => none
  | .json (.object fields) => some fields
  | .json .null => some []
  | .json (.bool _) | .json (.number _) | .json (.text _) | .json (.array _) => none

def setTime (formats : Formats) (fields : Fields) (key : String) (t : Time) : Fields :=
  if t.isZero then fields else fields.set key (.text (formats.formatTime t))

def updateCodexAuthJSON (formats : Formats) (raw : AuthText) (credentials : CodexCredentials)
    (now : Time) : Option Fields :=
  raw.fields.map fun doc =>
    let doc := doc.set "access_token" (.text credentials.accessToken)
    let doc := doc.set "refresh_token" (.text credentials.refreshToken)
    let doc := doc.set "id_token" (.text credentials.idToken)
    let doc := doc.set "account_id" (.text credentials.chatGPTAccountID)
    let doc := doc.set "type" (.text "codex")
    setTime formats (setTime formats doc "expired" credentials.expiresAt) "last_refresh" now

def credentialKeys : List String :=
  ["access_token", "refresh_token", "id_token", "account_id", "type", "expired", "last_refresh"]

open Fields

theorem lookup_setTime_ne {formats : Formats} {fields : Fields} {key other : String} {t : Time}
    (hne : other ≠ key) : (setTime formats fields key t).lookup other = fields.lookup other := by
  unfold setTime
  split
  · rfl
  · exact lookup_set_ne hne

theorem updateCodexAuthJSON_spec {formats : Formats} {raw : AuthText}
    {credentials : CodexCredentials} {now : Time} {doc : Fields}
    (h : updateCodexAuthJSON formats raw credentials now = some doc) :
    doc.lookup "refresh_token" = some (.text credentials.refreshToken) ∧
      ∃ fields, raw.fields = some fields ∧
        ∀ key, key ∉ credentialKeys → doc.lookup key = fields.lookup key := by
  obtain ⟨fields, hfields, rfl⟩ := Option.map_eq_some_iff.mp h
  refine ⟨?_, fields, hfields, fun key hkey => ?_⟩
  · rw [lookup_setTime_ne (by decide), lookup_setTime_ne (by decide),
      lookup_set_ne (by decide), lookup_set_ne (by decide),
      lookup_set_ne (by decide), lookup_set_self]
  · simp only [credentialKeys, mem_cons, not_mem_nil, or_false, not_or] at hkey
    obtain ⟨haccess, hrefresh, hid, haccount, htype, hexpired, hlast⟩ := hkey
    rw [lookup_setTime_ne hlast, lookup_setTime_ne hexpired, lookup_set_ne htype,
      lookup_set_ne haccount, lookup_set_ne hid, lookup_set_ne hrefresh,
      lookup_set_ne haccess]

/-- The hashes a fingerprint is built from, none of which is all zeros. -/
structure Hashing where
  text : String → Nat
  metadata : String → Nat
  composite : Nat → Nat → Nat → Nat
  text_ne_zero : ∀ s, text s ≠ 0
  metadata_ne_zero : ∀ s, metadata s ≠ 0
  composite_ne_zero : ∀ s r m, composite s r m ≠ 0

def newCredentialFingerprint (hashing : Hashing) (subject refresh metadata : String) :
    CredentialFingerprint :=
  let s := hashing.text subject
  let r := hashing.text refresh
  let m := hashing.metadata metadata
  ⟨s, r, m, hashing.composite s r m⟩

theorem validHashes_newCredentialFingerprint (hashing : Hashing)
    (subject refresh metadata : String) :
    (newCredentialFingerprint hashing subject refresh metadata).validHashes hashing.composite =
      true := by
  simp [newCredentialFingerprint, CredentialFingerprint.validHashes, hashing.text_ne_zero,
    hashing.metadata_ne_zero, hashing.composite_ne_zero]

def plainFormats : Formats := ⟨fun _ => .missing, fun _ => none, fun _ => ""⟩

def lengthHashing : Hashing where
  text s := s.length + 1
  metadata s := s.length + 1
  composite s r m := s + 100 * r + 10000 * m + 1
  text_ne_zero s := Nat.succ_ne_zero s.length
  metadata_ne_zero s := Nat.succ_ne_zero s.length
  composite_ne_zero _ _ _ := Nat.succ_ne_zero _

end QuotaScheduler.AuthFile
