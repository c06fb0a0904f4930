/- A token refresh consumes the token before it checks the file (refresh.go). -/

import QuotaScheduler.AuthFile
import QuotaScheduler.BindingRegistry

namespace QuotaScheduler.TokenRefresh

open Identity CredentialWal BindingRegistry AuthFile Roster Option

/-- The token endpoint's answer: none usable, or the trimmed tokens. -/
inductive TokenReply
  | failed
  | tokens (accessToken refreshToken idToken accountID : String) (expiresIn : Int)

/-- Whether the host lets the request out, the answer, and how the save goes. -/
structure HostTurn where
  permitted : Bool
  reply : TokenReply
  savePermitted : Bool := true
  cut : SaveCut := .complete
  saveReply : SaveReply := .ok

structure RefreshCall where
  authID : String
  name : String
  json : AuthText
  current : CodexCredentials
  nextFence : Nat := 0
  txnToken : Option ExecutionToken := none
  now : Time

inductive RefreshError
  | refreshTokenMissing
  | requestFailed
  | accessTokenMissing
  | authJSON
  | authFileNameRequired
  | bindingNotRosterConfirmed
  | staleExecutionToken
  | saveFailed
  deriving DecidableEq

/-- The store after the call, whether the request went out, the save, and the result. -/
structure RefreshOutcome where
  store : CredentialStore
  requested : Bool
  saved : Option (String × Fields)
  result : Except RefreshError CodexCredentials

def blank (s : String) : Bool := (trimSpace s).isEmpty

def RefreshCall.fileName (call : RefreshCall) : String := String.ofList (trimSpace call.name)

def answeredAccount (formats : Formats) (accountID idToken : String) : String :=
  if accountID = "" ∧ idToken ≠ "" then
    match formats.accountOf idToken with
    | .account id => id
    | .missing | .undecodable => accountID
  else accountID

def refreshedCredentials (formats : Formats) (current : CodexCredentials) (now : Time)
    (accessToken refreshToken idToken accountID : String) (expiresIn : Int) : CodexCredentials :=
  let account := answeredAccount formats accountID idToken
  { accessToken := accessToken
    refreshToken := if refreshToken = "" then current.refreshToken else refreshToken
    idToken := if idToken = "" then current.idToken else idToken
    chatGPTAccountID := if account = "" then current.chatGPTAccountID else account
    expiresAt := if 0 < expiresIn then now + expiresIn * second else .zero }

section Save

variable (hashing : Hashing) (call : RefreshCall) (host : HostTurn) (store : CredentialStore)

def writeback (b : RuntimeBinding) : WritebackVersion :=
  ⟨call.txnToken.getD (b.executionToken call.nextFence), b.login, b.fingerprint⟩

def saveVersioned (cache : BindingTable) (refreshed : CodexCredentials) (doc : Fields) :
    RefreshOutcome :=
  match cache.lookup call.authID with
  | none => ⟨store, true, none, .error .bindingNotRosterConfirmed⟩
  | some b =>
    let write := writeback call b
    if !applyIfCurrent cache call.authID write then
      ⟨store, true, none, .error .staleExecutionToken⟩
    else
      let next := newCredentialFingerprint hashing refreshed.chatGPTAccountID
        refreshed.refreshToken b.authIndex
      let out := saveVersionedWithHost store b.inst next write.token call.now call.now host.cut
        host.saveReply
      ⟨out.store, true, if out.saved then some (call.fileName, doc) else none,
        if out.saved && decide (host.cut = .complete) && decide (host.saveReply = .ok) then
          .ok refreshed
        else .error .saveFailed⟩

def saveUnversioned (refreshed : CodexCredentials) (doc : Fields) : RefreshOutcome :=
  if host.savePermitted then
    ⟨store, true, some (call.fileName, doc),
      if host.saveReply = .ok then .ok refreshed else .error .saveFailed⟩
  else ⟨store, true, none, .error .saveFailed⟩

end Save

/-- `refreshAndSaveCredentials`; `registry` is absent when bindings are not wired. -/
def refreshAndSaveCredentials (formats : Formats) (hashing : Hashing)
    (registry : Option BindingTable) (store : CredentialStore) (call : RefreshCall)
    (host : HostTurn) : RefreshOutcome :=
  if blank call.current.refreshToken then ⟨store, false, none, .error .refreshTokenMissing⟩
  else if !host.permitted then ⟨store, false, none, .error .requestFailed⟩
  else
    match host.reply with
    | .failed => ⟨store, true, none, .error .requestFailed⟩
    | .tokens accessToken refreshToken idToken accountID expiresIn =>
      let refreshed := refreshedCredentials formats call.current call.now accessToken refreshToken
        idToken accountID expiresIn
      if refreshed.accessToken = "" then ⟨store, true, none, .error .accessTokenMissing⟩
      else
        match updateCodexAuthJSON formats call.json refreshed call.now with
        | none => ⟨store, true, none, .error .authJSON⟩
        | some doc =>
          if blank call.name then ⟨store, true, none, .error .authFileNameRequired⟩
          else
            match registry with
            | some cache => saveVersioned hashing call host store cache refreshed doc
            | none => saveUnversioned call host store refreshed doc

/-- The chain has a tail to save from and the write-back is current. -/
def Ready (cache : BindingTable) (store : CredentialStore) (call : RefreshCall) : Prop :=
  ∃ b chain, cache.lookup call.authID = some b ∧
    applyIfCurrent cache call.authID (writeback call b) = true ∧
    store.chains b.inst = some chain ∧ chain.saveTail.isSome = true

def Sent (call : RefreshCall) (host : HostTurn) : Prop :=
  blank call.current.refreshToken = false ∧ host.permitted = true

def Rotates (host : HostTurn) (token : String) : Prop :=
  token ≠ "" ∧ ∃ accessToken idToken accountID expiresIn,
    host.reply = .tokens accessToken token idToken accountID expiresIn

/-- The answer has an access token, the file is a named object, and the store takes the transition.
-/
def Storable (call : RefreshCall) (host : HostTurn) : Prop :=
  (∀ accessToken refreshToken idToken accountID expiresIn,
      host.reply = .tokens accessToken refreshToken idToken accountID expiresIn →
        accessToken ≠ "") ∧
    call.json.fields.isSome = true ∧ blank call.name = false ∧
    (host.cut = .beforeTerminal ∨ host.cut = .complete)

theorem requested_iff (formats : Formats) (hashing : Hashing) (registry : Option BindingTable)
    (store : CredentialStore) (call : RefreshCall) (host : HostTurn) :
    (refreshAndSaveCredentials formats hashing registry store call host).requested = true ↔
      Sent call host := by
  unfold refreshAndSaveCredentials Sent
  cases hblank : blank call.current.refreshToken with
  | true => simp
  | false =>
    cases hpermit : host.permitted with
    | false => simp
    | true =>
      simp only [Bool.not_true, Bool.false_eq_true, if_false, and_self, iff_true]
      unfold saveVersioned saveUnversioned
      split <;> dsimp only
      repeat' split
      all_goals rfl

theorem saved_iff (store : CredentialStore) {inst : AuthInstanceID} (next : CredentialFingerprint)
    {token : ExecutionToken} (now : Time) (cut : SaveCut) (reply : SaveReply)
    (htoken : token.inst = inst) :
    (saveVersionedWithHost store inst next token now now cut reply).saved = true ↔
      (∃ chain, store.chains inst = some chain ∧ chain.saveTail.isSome = true) ∧
        (cut = .beforeTerminal ∨ cut = .complete) := by
  unfold saveVersionedWithHost
  rw [if_neg (not_not_intro htoken)]
  cases hchain : store.chains inst with
  | none => simp
  | some chain =>
    cases htail : chain.saveTail with
    | none => simp [htail]
    | some tail => cases cut <;> simp [htail]

variable {cache : BindingTable}

theorem inst_eq_of_applyIfCurrent {authID : String} {b : RuntimeBinding} {write : WritebackVersion}
    (hb : cache.lookup authID = some b) (h : applyIfCurrent cache authID write = true) :
    write.token.inst = b.inst := by
  unfold applyIfCurrent at h
  rw [hb] at h
  simp only [validateWriteback, ExecutionToken.validFor, Bool.and_eq_true, decide_eq_true_eq] at h
  exact h.1.1.1

theorem saveVersioned_saved_iff {hashing : Hashing} {call : RefreshCall} {host : HostTurn}
    {store : CredentialStore} {refreshed : CodexCredentials} {doc : Fields}
    (saved : String × Fields) :
    (saveVersioned hashing call host store cache refreshed doc).saved = some saved ↔
      saved = (call.fileName, doc) ∧ Ready cache store call ∧
        (host.cut = .beforeTerminal ∨ host.cut = .complete) := by
  unfold saveVersioned Ready
  cases hb : cache.lookup call.authID with
  | none => simp
  | some b =>
    cases hcurrent : applyIfCurrent cache call.authID (writeback call b) with
    | false => simp [hcurrent]
    | true =>
      have hsaved := saved_iff store (newCredentialFingerprint hashing refreshed.chatGPTAccountID
        refreshed.refreshToken b.authIndex) call.now host.cut host.saveReply
        (inst_eq_of_applyIfCurrent hb hcurrent)
      dsimp only
      rw [if_neg (by simp [hcurrent])]
      simp only [some.injEq]
      constructor
      · intro h
        split at h
        case isTrue hdone =>
          obtain ⟨⟨chain, hchain, htail⟩, hcut⟩ := hsaved.mp hdone
          exact ⟨(some.inj h).symm, ⟨b, chain, rfl, hcurrent, hchain, htail⟩, hcut⟩
        · cases h
      · rintro ⟨rfl, ⟨c, chain, rfl, -, hchain, htail⟩, hcut⟩
        rw [if_pos (hsaved.mpr ⟨⟨chain, hchain, htail⟩, hcut⟩)]

theorem refresh_saved_iff {formats : Formats} {hashing : Hashing} {store : CredentialStore}
    {call : RefreshCall} {host : HostTurn} (hsent : Sent call host)
    {accessToken refreshToken idToken accountID : String} {expiresIn : Int}
    (hreply : host.reply = .tokens accessToken refreshToken idToken accountID expiresIn)
    (saved : String × Fields) :
    (refreshAndSaveCredentials formats hashing (some cache) store call host).saved = some saved ↔
      accessToken ≠ "" ∧
        updateCodexAuthJSON formats call.json (refreshedCredentials formats call.current call.now
          accessToken refreshToken idToken accountID expiresIn) call.now = some saved.2 ∧
        blank call.name = false ∧ saved.1 = call.fileName ∧ Ready cache store call ∧
        (host.cut = .beforeTerminal ∨ host.cut = .complete) := by
  unfold refreshAndSaveCredentials
  rw [if_neg (by simp [hsent.1]), if_neg (by simp [hsent.2]), hreply]
  dsimp only
  by_cases haccess : accessToken = ""
  · rw [if_pos (show (refreshedCredentials formats call.current call.now accessToken refreshToken
      idToken accountID expiresIn).accessToken = "" from haccess)]
    simp [haccess]
  · rw [if_neg (show (refreshedCredentials formats call.current call.now accessToken refreshToken
      idToken accountID expiresIn).accessToken ≠ "" from haccess)]
    cases hdoc : updateCodexAuthJSON formats call.json (refreshedCredentials formats call.current
      call.now accessToken refreshToken idToken accountID expiresIn) call.now with
    | none => simp
    | some doc =>
      cases hname : blank call.name with
      | true => simp
      | false =>
        simp only [Bool.false_eq_true, if_false]
        rw [saveVersioned_saved_iff]
        obtain ⟨name, doc'⟩ := saved
        simp only [Prod.mk.injEq, some.injEq]
        constructor
        · rintro ⟨⟨rfl, rfl⟩, hready, hcut⟩
          exact ⟨haccess, rfl, trivial, rfl, hready, hcut⟩
        · rintro ⟨-, rfl, -, rfl, hready, hcut⟩
          exact ⟨⟨rfl, rfl⟩, hready, hcut⟩

def ConsumesSafely (cache : BindingTable) (store : CredentialStore) (call : RefreshCall)
    (host : HostTurn) (out : RefreshOutcome) : Prop :=
  (out.requested = true → Ready cache store call) ∧
    ∀ token, out.requested = true → Rotates host token →
      ∃ saved, out.saved = some saved ∧ saved.2.lookup "refresh_token" = some (.text token)

/-- The token is consumed safely iff it is not sent, or the state was ready and the answer can be
stored. -/
theorem consumesSafely_iff (formats : Formats) (hashing : Hashing) (cache : BindingTable)
    (store : CredentialStore) (call : RefreshCall) (host : HostTurn) :
    ConsumesSafely cache store call host
        (refreshAndSaveCredentials formats hashing (some cache) store call host) ↔
      (Sent call host → Ready cache store call ∧
        ∀ token, Rotates host token → Storable call host) := by
  unfold ConsumesSafely
  rw [requested_iff]
  constructor
  · rintro ⟨hready, hsave⟩ hsent
    refine ⟨hready hsent, fun token hrotates => ?_⟩
    obtain ⟨saved, hsaved, -⟩ := hsave token hsent hrotates
    obtain ⟨-, accessToken, idToken, accountID, expiresIn, hreply⟩ := hrotates
    obtain ⟨haccess, hdoc, hname, -, -, hcut⟩ := (refresh_saved_iff hsent hreply saved).mp hsaved
    refine ⟨?_, ?_, hname, hcut⟩
    · intro access refresh id account expires hreply'
      cases hreply.symm.trans hreply'
      exact haccess
    · obtain ⟨fields, hfields, -⟩ := map_eq_some_iff.mp hdoc
      rw [hfields]
      rfl
  · intro h
    refine ⟨fun hsent => (h hsent).1, fun token hsent hrotates => ?_⟩
    obtain ⟨hready, hstorable⟩ := h hsent
    obtain ⟨haccess, hfields, hname, hcut⟩ := hstorable token hrotates
    obtain ⟨htoken, accessToken, idToken, accountID, expiresIn, hreply⟩ := hrotates
    obtain ⟨fields, hfields⟩ := isSome_iff_exists.mp hfields
    obtain ⟨doc, hdoc⟩ : ∃ doc, updateCodexAuthJSON formats call.json (refreshedCredentials formats
        call.current call.now accessToken token idToken accountID expiresIn)
          call.now = some doc := by
      unfold updateCodexAuthJSON
      rw [hfields]
      exact ⟨_, rfl⟩
    refine ⟨(call.fileName, doc), (refresh_saved_iff hsent hreply _).mpr
      ⟨haccess _ _ _ _ _ hreply, hdoc, hname, rfl, hready, hcut⟩, ?_⟩
    rw [(updateCodexAuthJSON_spec hdoc).1]
    simp [refreshedCredentials, htoken]

def soleBinding : BindingTable :=
  (∅ : BindingTable).insert "a" { authID := "a", inst := 1, admission := 1, generation := 1 }

def storeWith (transitions : List CredentialTransition) : CredentialStore where
  chains _ := some ⟨{}, transitions⟩

def expiredCall : RefreshCall where
  authID := "a"
  name := "a.json"
  json := .json (.object [])
  current := { refreshToken := "old" }
  now := hour

def rotatingHost : HostTurn where
  permitted := true
  reply := .tokens "access" "new" "" "" 3600

theorem settled_chain_consumes_safely :
    Sent expiredCall rotatingHost ∧
      ConsumesSafely soleBinding (storeWith []) expiredCall rotatingHost
        (refreshAndSaveCredentials plainFormats lengthHashing (some soleBinding) (storeWith [])
          expiredCall rotatingHost) := by
  refine ⟨⟨by decide +kernel, rfl⟩, (consumesSafely_iff _ _ _ _ _ _).mpr fun _ =>
    ⟨⟨_, ⟨{}, []⟩, rfl, by decide +kernel, rfl, rfl⟩, fun token _ => ⟨?_, rfl, by decide +kernel,
      .inr rfl⟩⟩⟩
  intro access refresh id account expires hreply
  cases hreply
  decide

def unresolvedSave : CredentialTransition := ⟨{}, ⟨1, 1, 1, 1⟩, 1, .outcomeUnknown, hour⟩

theorem unresolved_chain_drops_refresh_token :
    ¬ ∀ (formats : Formats) (hashing : Hashing) (cache : BindingTable) (store : CredentialStore)
      (call : RefreshCall) (host : HostTurn),
      ConsumesSafely cache store call host
        (refreshAndSaveCredentials formats hashing (some cache) store call host) := by
  intro h
  have hreply : rotatingHost.reply = .tokens "access" "new" "" "" 3600 := rfl
  obtain ⟨-, hsave⟩ := h plainFormats lengthHashing soleBinding (storeWith [unresolvedSave])
    expiredCall rotatingHost
  obtain ⟨saved, hsaved, -⟩ := hsave "new" (by decide +kernel) ⟨by decide, _, _, _, _, hreply⟩
  have hnone : (refreshAndSaveCredentials plainFormats lengthHashing (some soleBinding)
      (storeWith [unresolvedSave]) expiredCall rotatingHost).saved.isNone = true := by
    decide +kernel
  rw [hsaved] at hnone
  cases hnone

end QuotaScheduler.TokenRefresh
