import SysArmor.StoreOperations

/-! The manager's handlers for an enrollment. An installation script is fetched once with a bootstrap
ticket and carries a fresh enrollment token; with the token an agent has its key certified. -/
namespace SysArmor.Manager
open GoText

structure Failure where
  status : Nat
  message : String
  deriving DecidableEq

inductive Csr where
  | undecodable
  | unparsable (err : String)
  | unverified (err : String)
  | valid (publicKey : String)

structure CertificateRequest where
  token : String
  csr : Csr

structure CertificateTemplate where
  serialNumber : Nat
  (commonName uri : String)
  (notBefore notAfter : Int)

structure X509 where
  serialNumber : Nat
  notAfter : Time
  deriving DecidableEq

structure Signing where
  serial : Except String Nat
  parseURI : String → Except String String
  now : Int
  createCertificate : CertificateTemplate → String → Except String String
  parseCertificate : String → Except String X509
  encodePEM : String → String

structure CertificateAuthority where
  (caCertPEM trustDomain : String)

def defaultString (value fallback : String) : String := if trimSpace value = "" then fallback else value

def minute : Int := 60 * 1000000000
def day : Int := 24 * 60 * minute

/-- The certificate that `signAgentCSR` has signed: its URI names tenant and agent. -/
def certificateTemplate (ca : CertificateAuthority) (signing : Signing) (enrollment : Enrollment) :
    Except String CertificateTemplate := do
  let serial ← signing.serial.mapError ("create serial: " ++ ·)
  let tenantID := defaultString enrollment.tenantID "default"
  let trustDomain := defaultString ca.trustDomain "sysarmor.local"
  let spiffe := "spiffe://" ++ trustDomain ++ "/tenant/" ++ tenantID ++ "/agent/" ++ enrollment.agentID
  let uri ← (signing.parseURI spiffe).mapError ("build agent uri san: " ++ ·)
  return {
    serialNumber := serial
    commonName := "tenant_id:" ++ tenantID ++ ",agent_id:" ++ enrollment.agentID
    uri
    notBefore := signing.now - minute
    notAfter := signing.now + 90 * day }

section
variable (digest : String → String)

def signAgentCSR (ca : CertificateAuthority) (signing : Signing) (enrollment : Enrollment) :
    Csr → Except String (String × X509 × String)
  | .undecodable => .error "csr must be PEM encoded CERTIFICATE REQUEST"
  | .unparsable err => .error ("parse csr: " ++ err)
  | .unverified err => .error ("verify csr signature: " ++ err)
  | .valid publicKey => do
    let keyHash := digest publicKey
    let template ← certificateTemplate ca signing enrollment
    let der ← (signing.createCertificate template publicKey).mapError ("sign agent certificate: " ++ ·)
    let cert ← (signing.parseCertificate der).mapError ("parse signed certificate: " ++ ·)
    return (signing.encodePEM der,cert,keyHash)

def enrollmentTokenHash (token : String) : String := digest (trimSpace token)

/-- A call of `enrollmentCertificate` up to its commit: the clock is read at the test of the expiry,
while signing and for the time of issue. -/
structure CertificateCall where
  method : String := "POST"
  body : Except String CertificateRequest
  readAt : Int
  signing : Signing
  issuedAt : Int

structure PendingIssue where
  (tokenHash publicKey : String)
  proposed : Enrollment

def Enrollment.propose (enrollment : Enrollment) (ca : CertificateAuthority) (issuedAt : Int) (certPEM : String) (cert : X509)
    (keyHash : String) : Enrollment :=
  { enrollment with
    status := "issued"
    usedAt := some issuedAt
    issuedAt := some issuedAt
    issuedKeySHA256 := keyHash
    issuedCertificatePEM := certPEM
    issuedCAPEM := ca.caCertPEM
    issuedSerialNumber := toString cert.serialNumber
    issuedNotAfter := cert.notAfter }

def Csr.publicKey : Csr → String
  | .valid publicKey => publicKey
  | _ => ""

/-- `enrollmentCertificate` up to the commit. The store is only read here. -/
def Store.prepareIssue (st : Store) (authority : Option CertificateAuthority) (call : CertificateCall) :
    Except Failure PendingIssue := do
  if call.method ≠ "POST" then throw ⟨405,"method not allowed"⟩
  let some ca := authority | throw ⟨503,"agent certificate authority is not configured"⟩
  let req ← call.body.mapError fun err => ⟨400,"decode certificate request: " ++ err⟩
  let tokenHash := enrollmentTokenHash digest (trimSpace req.token)
  let some enrollment := st.getEnrollmentByTokenHash true tokenHash | throw ⟨404,"enrollment not found"⟩
  if enrollment.status ≠ "active" && enrollment.status ≠ "issued" then throw ⟨404,"enrollment not found"⟩
  if enrollment.status = "active" && enrollment.expiresAt ≠ none && Time.before enrollment.expiresAt (some call.readAt) then
    throw ⟨410,"enrollment expired"⟩
  let (certPEM,cert,keyHash) ← (signAgentCSR digest ca call.signing enrollment req.csr).mapError fun err => ⟨400,err⟩
  return { tokenHash, publicKey := req.csr.publicKey,
           proposed := enrollment.propose ca call.issuedAt certPEM cert keyHash }

structure CertificateAnswer where
  (tenantID agentID enrollmentID gatewayAddress gatewayServerName certificatePEM caPEM serialNumber : String)
  notAfter : Time
  deriving DecidableEq

def Enrollment.answer (enrollment : Enrollment) : CertificateAnswer where
  tenantID := defaultString enrollment.tenantID "default"
  agentID := enrollment.agentID
  enrollmentID := enrollment.enrollmentID
  gatewayAddress := enrollment.gatewayAddr
  gatewayServerName := enrollment.gatewaySNI
  certificatePEM := enrollment.issuedCertificatePEM
  caPEM := enrollment.issuedCAPEM
  serialNumber := enrollment.issuedSerialNumber
  notAfter := enrollment.issuedNotAfter

/-- The end of `enrollmentCertificate`, behind the commit; `saveErr` is the error of `Save`. -/
def answerIssue (saveErr : Option String) (enrollment : Enrollment) : EnrollmentIssueResult → Except Failure CertificateAnswer
  | .conflict => .error ⟨409,"enrollment token is already bound to another key"⟩
  | .missing => .error ⟨404,"enrollment not found"⟩
  | .issued | .replay => match saveErr with
    | some err => .error ⟨500,"save store: " ++ err⟩
    | none => .ok enrollment.answer

structure ScriptCall where
  method : String := "GET"
  ticket : String
  token : Except String String
  fetchedAt : Int
  saveErr : Option String := none
  now : Int

def tokenPreview (token : String) : String :=
  if token.length ≤ 12 then token
  else String.ofList (token.toList.take 8) ++ "..." ++ String.ofList (token.toList.drop (token.length - 4))

def Store.redeem (st : Store) (call : ScriptCall) (token : String) : Store × Option Enrollment :=
  st.consumeEnrollmentBootstrap call.fetchedAt true (enrollmentTokenHash digest (trimSpace call.ticket))
    (enrollmentTokenHash digest token) (tokenPreview token) (some call.fetchedAt)

def Store.resolveInstallEnrollment (st : Store) (call : ScriptCall) : Store × Except String (Option (String × Enrollment)) :=
  if trimSpace call.ticket = "" then (st,.ok none)
  else match call.token with
    | .error err => (st,.error ("generate enrollment token: " ++ err))
    | .ok token => match st.redeem digest call token with
      | (st,none) => (st,.ok none)
      | (st,some enrollment) => match call.saveErr with
        | some err => (st,.error ("save bootstrap redemption: " ++ err))
        | none => (st,.ok (some (token,enrollment)))

/-- `agentInstallScript`; the script is rendered from the token and the enrollment. -/
def Store.agentInstallScript (st : Store) (call : ScriptCall) : Store × Except Failure (String × Enrollment) :=
  if call.method ≠ "GET" then (st,.error ⟨405,"method not allowed"⟩)
  else match st.resolveInstallEnrollment digest call with
    | (st,.error err) => (st,.error ⟨500,err⟩)
    | (st,.ok none) => (st,.error ⟨404,"enrollment not found"⟩)
    | (st,.ok (some (token,enrollment))) =>
      if enrollment.status ≠ "active" then (st,.error ⟨404,"enrollment not found"⟩)
      else if enrollment.expiresAt ≠ none && Time.before enrollment.expiresAt (some call.now) then
        (st,.error ⟨410,"enrollment expired"⟩)
      else (st,.ok (token,enrollment))

end

/-! The creation of an enrollment from a request. Tenant and agent are checked against a pattern before
anything else. -/

structure EnrollmentRequest where
  (tenantID agentID hostID gatewayAddr gatewaySNI profile ttl : String := "")

structure Creation where
  splitHostPort : String → Option (String × String)
  parseDuration : String → Except String Int
  (token bootstrapTicket : Except String String)
  now : Int
  stamp : Int → String

def identityPattern : String := "^[A-Za-z0-9][A-Za-z0-9._-]\x7b0,127\x7d$"
def identityChar (c : Char) : Bool := c.isAlphanum || "._-".toList.contains c

def matchesIdentity (s : String) : Bool :=
  match s.toList with
  | [] => false
  | first :: rest => first.isAlphanum && rest.length ≤ 127 && rest.all identityChar

def atoi (s : String) : Option Int :=
  let (negative,digits) := match s.toList with
    | '-' :: digits => (true,digits)
    | '+' :: digits => (false,digits)
    | digits => (false,digits)
  if digits = [] || !digits.all (·.isDigit) then none
  else
    let value := digits.foldl (fun value digit => 10 * value + (digit.toNat - 48 : Int)) 0
    let value := if negative then -value else value
    if -2 ^ 63 ≤ value ∧ value < 2 ^ 63 then some value else none

def validateEnrollmentGateway (splitHostPort : String → Option (String × String)) (address serverName : String) :
    Except String Unit :=
  match splitHostPort (trimSpace address) with
  | none => .error "gateway_addr must be host:port"
  | some (host,portText) =>
    if trimSpace host = "" then .error "gateway_addr must be host:port"
    else if !(atoi portText).any (fun port => 1 ≤ port && port ≤ 65535) then
      .error "gateway_addr port must be between 1 and 65535"
    else if trimSpace serverName ≠ "" && containsAny (trimSpace serverName) ":/\\ \t" then
      .error "gateway_sni must be a host name without a port"
    else .ok ()

def normalizeInstallProfile (go : Stdlib) (profile : String) : Except String String :=
  if trimSpace profile = "" || trimSpace profile = "linux-systemd" then .ok "linux-systemd"
  else if trimSpace profile = "linux-container" then .ok "linux-container"
  else .error ("unsupported install profile " ++ go.quote profile)

def enrollmentTTL (parseDuration : String → Except String Int) (ttl : String) : Except String Int :=
  if trimSpace ttl = "" then .ok day
  else match parseDuration ttl with
    | .error err => .error ("ttl: " ++ err)
    | .ok ttl => if ttl ≤ 0 then .error "ttl must be positive" else .ok ttl

def enrollmentIdentity (req : EnrollmentRequest) : Except String (String × String) :=
  let tenantID := defaultString (trimSpace req.tenantID) "default"
  let agentID := trimSpace req.agentID
  if !matchesIdentity tenantID then .error ("tenant_id must match " ++ identityPattern)
  else if !matchesIdentity agentID then .error ("agent_id must match " ++ identityPattern)
  else .ok (tenantID,agentID)

def newEnrollment (digest : String → String) (go : Stdlib) (creation : Creation) (req : EnrollmentRequest) :
    Except String (Enrollment × String × String) := do
  let (tenantID,agentID) ← enrollmentIdentity req
  if trimSpace req.gatewayAddr = "" then throw "gateway_addr is required"
  validateEnrollmentGateway creation.splitHostPort req.gatewayAddr req.gatewaySNI
  let _ ← normalizeInstallProfile go req.profile
  let ttl ← enrollmentTTL creation.parseDuration req.ttl
  let token ← creation.token
  let bootstrapTicket ← creation.bootstrapTicket
  return ({
    enrollmentID := "enr-" ++ creation.stamp creation.now ++ "-" ++ String.ofList (token.toList.drop (token.length - 8))
    tenantID
    agentID
    hostID := defaultString req.hostID agentID
    tokenHash := enrollmentTokenHash digest token
    tokenPreview := tokenPreview token
    bootstrapTokenHash := enrollmentTokenHash digest bootstrapTicket
    gatewayAddr := req.gatewayAddr
    gatewaySNI := req.gatewaySNI
    status := "active"
    createdAt := some creation.now
    expiresAt := some (creation.now + ttl) },token,bootstrapTicket)

lemma enrollmentIdentity_ok (checked : enrollmentIdentity req = .ok (tenantID,agentID)) :
    matchesIdentity tenantID ∧ matchesIdentity agentID := by
  simp only [enrollmentIdentity] at checked
  split at checked
  · cases checked
  split at checked
  · cases checked
  · simp_all

lemma newEnrollment_identity (created : newEnrollment digest go creation req = .ok (fresh,token,ticket)) :
    matchesIdentity fresh.tenantID ∧ matchesIdentity fresh.agentID := by
  obtain ⟨⟨tenantID,agentID⟩,checked,rest⟩ := bind_eq_ok.mp created
  dsimp only at rest
  split at rest
  · cases rest
  obtain ⟨_,_,rest⟩ := bind_eq_ok.mp rest
  obtain ⟨_,_,rest⟩ := bind_eq_ok.mp rest
  obtain ⟨_,_,rest⟩ := bind_eq_ok.mp rest
  obtain ⟨_,_,rest⟩ := bind_eq_ok.mp rest
  obtain ⟨_,_,rest⟩ := bind_eq_ok.mp rest
  cases rest
  exact enrollmentIdentity_ok checked

/-! Certificate requests and script fetches that run at the same time against a store without a
database. A request reads the enrollment, signs, and commits later: other requests come in between.
An enrollment is named by its place in the table. -/
open Rows

structure EnrollmentServer where
  store : Store
  waiting : List PendingIssue := []

/-- The next thing that happens: a request is prepared, a waiting request commits and is answered, or
a script is fetched. -/
inductive EnrollmentStep where
  | prepare (call : CertificateCall)
  | commit (slot : Nat) (now : Int) (saveErr : Option String)
  | fetch (call : ScriptCall)

/-- A commit: the place of the enrollment that its token names, the key and the certificate that were
signed for it, and what came of it. -/
structure IssueEvent where
  place : Option Nat
  (publicKey certificatePEM : String)
  result : EnrollmentIssueResult
  answer : Except Failure CertificateAnswer

structure FetchEvent where
  place : Option Nat
  consumed : Bool
  answer : Except Failure (String × Enrollment)

inductive EnrollmentEvent where
  | prepared
  | refused (failure : Failure)
  | absent
  | issue (event : IssueEvent)
  | fetch (event : FetchEvent)

def Store.placeOfToken (st : Store) (tokenHash : String) : Option Nat :=
  st.enrollments.findIdx? (·.tokenHash = trimSpace tokenHash)

def Store.placeOfTicket (st : Store) (bootstrapHash : String) : Option Nat :=
  st.enrollments.findIdx? (·.bootstrapTokenHash = bootstrapHash)

def Store.consumes (digest : String → String) (st : Store) (call : ScriptCall) : Bool :=
  call.method = "GET" && trimSpace call.ticket ≠ "" && match call.token with
    | .error _ => false
    | .ok token => (st.redeem digest call token).2.isSome

namespace EnrollmentServer
variable (digest : String → String) (authority : Option CertificateAuthority)

def step (m : EnrollmentServer) : EnrollmentStep → EnrollmentServer × EnrollmentEvent
  | .prepare call => match m.store.prepareIssue digest authority call with
    | .error failure => (m,.refused failure)
    | .ok pending => ({ m with waiting := m.waiting ++ [pending] },.prepared)
  | .commit slot now saveErr => match m.waiting[slot]? with
    | none => (m,.absent)
    | some pending =>
      let (store,enrollment,result) :=
        m.store.commitEnrollmentIssue now true pending.tokenHash (digest pending.publicKey) pending.proposed
      ({ store, waiting := m.waiting.eraseIdx slot },
        .issue { place := m.store.placeOfToken pending.tokenHash, publicKey := pending.publicKey, result
                 certificatePEM := pending.proposed.issuedCertificatePEM
                 answer := answerIssue saveErr enrollment result })
  | .fetch call =>
    let (store,answer) := m.store.agentInstallScript digest call
    ({ m with store },
      .fetch { place := m.store.placeOfTicket (enrollmentTokenHash digest (trimSpace call.ticket))
               consumed := m.store.consumes digest call, answer })

def events (m : EnrollmentServer) : List EnrollmentStep → List EnrollmentEvent
  | [] => []
  | next :: steps => (m.step digest authority next).2 :: (m.step digest authority next).1.events steps

end EnrollmentServer

inductive Commits (st : Store) (tokenHash keyHash : String) (proposed : Enrollment) :
    Store × Enrollment × EnrollmentIssueResult → Prop
  | refused (unbound : result ≠ .issued ∧ result ≠ .replay) : Commits st tokenHash keyHash proposed (st,enrollment,result)
  | replayed (found : st.placeOfToken tokenHash = some place) (here : st.enrollments[place]? = some enrollment)
      (issued : enrollment.status = "issued") (key : enrollment.issuedKeySHA256 = trimSpace keyHash) :
      Commits st tokenHash keyHash proposed (st,enrollment,.replay)
  | issued (found : st.placeOfToken tokenHash = some place) (here : st.enrollments[place]? = some old)
      (active : old.status = "active") (issued : enrollment.status = "issued")
      (key : enrollment.issuedKeySHA256 = trimSpace keyHash)
      (certificate : enrollment.issuedCertificatePEM = proposed.issuedCertificatePEM) (memory : after.backend = none)
      (changed : ∀ other : Nat, after.enrollments[other]? = if other = place then some enrollment else st.enrollments[other]?) :
      Commits st tokenHash keyHash proposed (after,enrollment,.issued)

variable {current : Enrollment}

lemma issueResult_issued (issues : current.issueResult now keyHash = .issued) : current.status = "active" := by
  simp only [Enrollment.issueResult] at issues
  split at issues
  · split at issues <;> cases issues
  split at issues
  · cases issues
  · rename_i passes
    simp only [Bool.or_eq_true,not_or,decide_eq_true_eq,not_not] at passes
    exact passes.1

lemma issueResult_replay (replays : current.issueResult now keyHash = .replay) :
    current.status = "issued" ∧ current.issuedKeySHA256 = keyHash := by
  simp only [Enrollment.issueResult] at replays
  split at replays
  · rename_i issued
    split at replays
    · exact ⟨issued,‹_›⟩
    · cases replays
  · split at replays <;> cases replays

lemma commits (memory : st.backend = none) (now : Int) (written : Bool) (tokenHash keyHash : String) (proposed : Enrollment) :
    Commits st tokenHash keyHash proposed (st.commitEnrollmentIssue now written tokenHash keyHash proposed) := by
  simp only [Store.commitEnrollmentIssue,memory]
  split
  · exact .refused (by simp)
  cases found : st.enrollments.find? (·.tokenHash = trimSpace tokenHash) with
  | none => exact .refused (by simp)
  | some current =>
    obtain ⟨place,first,here,-⟩ := getElem?_updateFirst found id
    dsimp only
    cases result : current.issueResult now (trimSpace keyHash) with
    | issued =>
      obtain ⟨same,again,-,changed⟩ := getElem?_updateFirst found fun _ => proposed.issue current (trimSpace keyHash)
      cases first.symm.trans again
      exact .issued first here (issueResult_issued result) rfl rfl rfl rfl changed
    | replay => exact .replayed first here (issueResult_replay result).1 (issueResult_replay result).2
    | conflict => exact .refused (by simp)
    | missing => exact .refused (by simp)

inductive Redeems (st : Store) (bootstrapHash : String) : Store × Option Enrollment → Prop
  | refused : Redeems st bootstrapHash (st,none)
  | consumed (found : st.placeOfTicket bootstrapHash = some place) (here : st.enrollments[place]? = some old)
      (active : old.status = "active") (unfetched : old.bootstrapFetchedAt = none)
      (fetched : enrollment.bootstrapFetchedAt ≠ none) (memory : after.backend = none)
      (changed : ∀ other : Nat, after.enrollments[other]? = if other = place then some enrollment else st.enrollments[other]?) :
      Redeems st bootstrapHash (after,some enrollment)

lemma redeems {st : Store} (memory : st.backend = none) (call : ScriptCall) (token : String) :
    Redeems st (enrollmentTokenHash digest (trimSpace call.ticket)) (st.redeem digest call token) := by
  simp only [Store.redeem,Store.consumeEnrollmentBootstrap,memory]
  cases found : st.enrollments.find? (·.bootstrapTokenHash = enrollmentTokenHash digest (trimSpace call.ticket)) with
  | none => exact .refused
  | some old =>
    dsimp only
    split
    · rename_i fetchable
      simp only [Enrollment.fetchable,Bool.and_eq_true,decide_eq_true_eq] at fetchable
      obtain ⟨place,first,here,changed⟩ := getElem?_updateFirst found fun _ =>
        old.fetch (enrollmentTokenHash digest token) (tokenPreview token) (some call.fetchedAt)
      exact .consumed first here fetchable.1.1 fetchable.1.2 (by simp [Enrollment.fetch]) rfl changed
    · exact .refused

lemma agentInstallScript_redeems (digest : String → String) {st : Store} (memory : st.backend = none) (call : ScriptCall) :
    ∃ redeemed, Redeems st (enrollmentTokenHash digest (trimSpace call.ticket)) redeemed ∧
      (st.agentInstallScript digest call).1 = redeemed.1 ∧ st.consumes digest call = redeemed.2.isSome := by
  by_cases get : call.method = "GET"
  · by_cases blank : trimSpace call.ticket = ""
    · exact ⟨_,.refused,by simp [Store.agentInstallScript,Store.resolveInstallEnrollment,get,blank],
        by simp [Store.consumes,blank]⟩
    · cases token : call.token with
      | error err =>
        exact ⟨_,.refused,by simp [Store.agentInstallScript,Store.resolveInstallEnrollment,get,blank,token],
          by simp [Store.consumes,token]⟩
      | ok token' =>
        refine ⟨_,redeems memory call token',?_,by simp [Store.consumes,get,blank,token]⟩
        simp only [Store.agentInstallScript,get,ne_eq,not_true_eq_false,↓reduceIte,Store.resolveInstallEnrollment,blank,token]
        obtain ⟨after,_ | enrollment⟩ := st.redeem digest call token'
        · rfl
        dsimp only
        cases call.saveErr with
        | some err => rfl
        | none =>
          dsimp only
          split
          · rfl
          · split <;> rfl
  · exact ⟨_,.refused,by simp [Store.agentInstallScript,get],by simp [Store.consumes,get]⟩

end SysArmor.Manager
