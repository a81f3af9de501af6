import SysArmor.EnrollmentHandlers
import SysArmor.GatewayUpload
import SysArmor.GoUrl

/-! From an enrollment to the identity that the gateway reads in the agent's certificate. The manager
writes tenant and agent as segments of a path; the gateway splits the path again. -/
namespace SysArmor.Gateway
open GoText GoUrl Manager List

/-! The certificate. -/

/-- `url.Parse`, and the text that goes into the certificate for it. -/
def uriText (ipLiteral : List Char → Except ParseError (List Char)) (text : String) : Except ParseError String :=
  (parse ipLiteral text.toList).map fun url => String.ofList (string url)

def domainNameValid (host : List Char) : Bool :=
  (host.splitOn '.').all fun label => label ≠ [] && label.all fun c => 33 ≤ c.toNat && c.toNat ≤ 126

def parseSAN (ipLiteral : List Char → Except ParseError (List Char)) (uri : String) : Except ParseError URL :=
  match parse ipLiteral uri.toList with
  | .error err => .error err
  | .ok url => if url.host ≠ [] && !domainNameValid url.host then .error .invalidHost else .ok url

/-! The identity. -/

/-- The first segment behind an `agent` segment that is not empty. -/
def agentSegment : List (List Char) → Option (List Char)
  | first :: agent :: rest =>
    if first = "agent".toList && agent ≠ [] then some agent else agentSegment (agent :: rest)
  | _ => none

def tenantSegments : List (List Char) → Option (List Char × List Char)
  | first :: tenant :: rest =>
    match (if first = "tenant".toList && tenant ≠ [] then agentSegment rest else none) with
    | some agent => some (tenant,agent)
    | none => tenantSegments (tenant :: rest)
  | _ => none

def trimSlashes (path : List Char) : List Char := (path.dropWhile (· = '/')).rdropWhile (· = '/')

def identityFromURI (url : URL) : Option PeerIdentity :=
  match tenantSegments ((trimSlashes url.path).splitOn '/') with
  | some (tenant,agent) => some ⟨String.ofList tenant,String.ofList agent,String.ofList (string url)⟩
  | none =>
    let tenant := queryGet url "tenant_id".toList
    let agent := queryGet url "agent_id".toList
    if tenant ≠ [] && agent ≠ [] then some ⟨String.ofList tenant,String.ofList agent,String.ofList (string url)⟩ else none

def commonNamePart (found : String × String) (part : String) : String × String :=
  match (cut (trimSpace part) '=').or (cut (trimSpace part) ':') with
  | none => found
  | some (key,value) =>
    if trimSpace key ∈ ["tenant","tenant_id"] then (trimSpace value,found.2)
    else if trimSpace key ∈ ["agent","agent_id"] then (found.1,trimSpace value)
    else found

def identityFromCommonName (cn : String) : Option PeerIdentity :=
  let cn := trimSpace cn
  if cn = "" then none
  else match cut cn '/' with
    | some (tenant,agent) => if tenant ≠ "" && agent ≠ "" then some ⟨tenant,agent,"cn:" ++ cn⟩ else fields cn
    | none => fields cn
where
  fields (cn : String) : Option PeerIdentity :=
    let (tenant,agent) := ((cn.toList.splitOn ',').map String.ofList).foldl commonNamePart ("","")
    if tenant ≠ "" && agent ≠ "" then some ⟨tenant,agent,"cn:" ++ cn⟩ else none

/-- `PeerAgentIdentity`, for a verified certificate. -/
def peerAgentIdentity (uris : List URL) (commonName : String) : Option PeerIdentity :=
  (uris.findSome? identityFromURI).or (identityFromCommonName commonName)

def certificateIdentity (ipLiteral : List Char → Except ParseError (List Char)) (template : CertificateTemplate) :
    Except ParseError (Option PeerIdentity) :=
  (parseSAN ipLiteral template.uri).map fun url => peerAgentIdentity [url] template.commonName

/-! Accepted ids are plain segments of a path. -/

variable {s host : String}

lemma chars_of_matches (accepted : matchesIdentity s) : s.toList ≠ [] ∧ ∀ c ∈ s.toList, unreserved c := by
  rw [matchesIdentity] at accepted
  cases letters : s.toList with
  | nil => simp [letters] at accepted
  | cons first rest =>
    simp only [letters,Bool.and_eq_true,decide_eq_true_eq,all_eq_true] at accepted
    refine ⟨by simp,fun c mem => ?_⟩
    rcases mem_cons.mp mem with rfl | mem
    · simp [unreserved,accepted.1.1]
    have listed := accepted.2 c mem
    simp only [identityChar,Bool.or_eq_true] at listed
    rcases listed with alnum | mark
    · simp [unreserved,alnum]
    have mark : c ∈ ['.','_','-'] := by simpa using mark
    simp only [mem_cons,not_mem_nil,or_false] at mark
    rcases mark with rfl | rfl | rfl <;> rfl

lemma trimSpace_of_matches (accepted : matchesIdentity s) : trimSpace s = s := by
  have solid : ∀ c ∈ s.toList, isSpace c = false := by
    intro c mem
    have bounds := unreserved_toNat ((chars_of_matches accepted).2 c mem)
    exact isSpace_eq_false bounds.1 (by omega)
  exact trimSpace_eq_self s (fun c first => solid c (mem_of_mem_head? first))
    (fun c last => solid c (mem_of_getLast? last))

lemma defaultString_of_matches (accepted : matchesIdentity s) (fallback : String) : defaultString s fallback = s := by
  have some : s ≠ "" := by
    rintro rfl
    simp [matchesIdentity] at accepted
  rw [defaultString,trimSpace_of_matches accepted,if_neg some]

def tenantWord : List Char := ['t','e','n','a','n','t']
def agentWord : List Char := ['a','g','e','n','t']

def agentPath (tenant agent : List Char) : List Char :=
  '/' :: (tenantWord ++ '/' :: (tenant ++ '/' :: (agentWord ++ '/' :: agent)))

section
variable {tenant agent : List Char}

lemma agentPath_plain (plain : ∀ c ∈ tenant, unreserved c) (safe : ∀ c ∈ agent, unreserved c) :
    ∀ c ∈ agentPath tenant agent, pathChar c := by
  intro c mem
  have words : ∀ c ∈ tenantWord ++ agentWord, pathChar c := all_eq_true.mp (by decide)
  simp only [agentPath,mem_append,mem_cons] at mem
  rcases mem with rfl | mem | rfl | mem | rfl | mem | rfl | mem
  · rfl
  · exact words c (mem_append_left _ mem)
  · rfl
  · exact pathChar_of_unreserved (plain c mem)
  · rfl
  · exact words c (mem_append_right _ mem)
  · rfl
  · exact pathChar_of_unreserved (safe c mem)

lemma trimSlashes_agentPath (named : agent ≠ []) (plain : ∀ c ∈ agent, unreserved c) :
    trimSlashes (agentPath tenant agent) = ['/'].intercalate [tenantWord,tenant,agentWord,agent] := by
  have front : (agentPath tenant agent).dropWhile (· = '/') =
      tenantWord ++ '/' :: (tenant ++ '/' :: (agentWord ++ '/' :: agent)) := rfl
  have last : ∀ some : tenantWord ++ '/' :: (tenant ++ '/' :: (agentWord ++ '/' :: agent)) ≠ [],
      ¬decide ((tenantWord ++ '/' :: (tenant ++ '/' :: (agentWord ++ '/' :: agent))).getLast some = '/') = true := by
    intro some
    have same : (tenantWord ++ '/' :: (tenant ++ '/' :: (agentWord ++ '/' :: agent))).getLast some = agent.getLast named := by
      simp [named]
    rw [same]
    have plain := plain _ (getLast_mem named)
    simp only [decide_eq_true_eq]
    intro slash
    rw [slash] at plain
    exact absurd plain (by decide)
  rw [trimSlashes,front,rdropWhile_eq_self_iff.mpr last]
  simp [List.intercalate]

lemma agentPath_segments (named : agent ≠ []) (plain : ∀ c ∈ tenant, unreserved c) (safe : ∀ c ∈ agent, unreserved c) :
    (trimSlashes (agentPath tenant agent)).splitOn '/' = [tenantWord,tenant,agentWord,agent] := by
  have free : ∀ segment ∈ [tenantWord,tenant,agentWord,agent], '/' ∉ segment := by
    intro segment mem slash
    simp only [mem_cons,not_mem_nil,or_false] at mem
    rcases mem with rfl | rfl | rfl | rfl
    · exact absurd slash (by decide)
    · exact absurd (plain '/' slash) (by decide)
    · exact absurd slash (by decide)
    · exact absurd (safe '/' slash) (by decide)
  rw [trimSlashes_agentPath named safe,splitOn_intercalate _ free (by simp)]

lemma identityFromURI_agentPath (named : tenant ≠ []) (named' : agent ≠ []) (plain : ∀ c ∈ tenant, unreserved c)
    (safe : ∀ c ∈ agent, unreserved c) (url : URL) (path : url.path = agentPath tenant agent) :
    identityFromURI url = some ⟨String.ofList tenant,String.ofList agent,String.ofList (string url)⟩ := by
  have found : tenantSegments [tenantWord,tenant,agentWord,agent] = some (tenant,agent) := by
    have word : tenantWord = "tenant".toList := by decide
    have word' : agentWord = "agent".toList := by decide
    simp [tenantSegments,agentSegment,named,named',word,word']
  rw [identityFromURI,path,agentPath_segments named' plain safe,found]

end

/-! Issued certificates. -/

def hostName (host : String) : Bool :=
  (host.toList.splitOn '.').all fun label => label ≠ [] && label.all fun c => c.isAlphanum || c = '-'

/-- An accepted request for an enrollment, which was stored, and what is drawn to sign its certificate.
The trust domain is a plain host name and URIs are handled as in `net/url`. -/
structure Issuance (digest : String → String) (go : Stdlib) (ipLiteral : List Char → Except ParseError (List Char)) where
  creation : Creation
  req : EnrollmentRequest
  fresh : Enrollment
  (token ticket : String)
  created : newEnrollment digest go creation req = .ok (fresh,token,ticket)
  enrollment : Enrollment
  storedTenant : enrollment.tenantID = (normalizeEnrollment fresh).tenantID
  storedAgent : enrollment.agentID = (normalizeEnrollment fresh).agentID
  ca : CertificateAuthority
  plainDomain : hostName (defaultString ca.trustDomain "sysarmor.local")
  signing : Signing
  serial : Nat
  drawn : signing.serial = .ok serial
  parses : ∀ text uri, uriText ipLiteral text = .ok uri → signing.parseURI text = .ok uri

lemma mem_intercalate {separator c : Char} {labels : List (List Char)} (mem : c ∈ [separator].intercalate labels) :
    c = separator ∨ ∃ label ∈ labels, c ∈ label := by
  induction labels with
  | nil => cases mem
  | cons first rest ih =>
    cases rest with
    | nil => exact .inr ⟨first,mem_cons_self,by simpa using mem⟩
    | cons second rest =>
      rw [intercalate_cons_cons,append_assoc,mem_append,mem_append] at mem
      rcases mem with mem | mem | mem
      · exact .inr ⟨first,mem_cons_self,mem⟩
      · exact .inl (mem_singleton.mp mem)
      refine (ih mem).imp_right ?_
      rintro ⟨label,listed,mem⟩
      exact ⟨label,mem_cons_of_mem _ listed,mem⟩

lemma unreserved_of_label {c : Char} (letter : (c.isAlphanum || c = '-') = true) : unreserved c := by
  simp only [Bool.or_eq_true,decide_eq_true_eq] at letter
  rcases letter with alnum | rfl
  · simp [unreserved,alnum]
  · rfl

lemma hostName_unreserved (plain : hostName host) : ∀ c ∈ host.toList, unreserved c := by
  intro c mem
  rw [hostName,all_eq_true] at plain
  have split : ['.'].intercalate (host.toList.splitOn '.') = host.toList := intercalate_splitOn '.'
  rw [← split] at mem
  rcases mem_intercalate mem with rfl | ⟨label,listed,mem⟩
  · rfl
  have label_plain := plain label listed
  simp only [Bool.and_eq_true,all_eq_true] at label_plain
  exact unreserved_of_label (label_plain.2 c mem)

lemma hostName_valid (plain : hostName host) : domainNameValid host.toList := by
  rw [hostName,all_eq_true] at plain
  rw [domainNameValid,all_eq_true]
  intro label mem
  have label_plain := plain label mem
  simp only [Bool.and_eq_true,all_eq_true] at label_plain ⊢
  refine ⟨label_plain.1,fun c mem => ?_⟩
  have bounds := unreserved_toNat (unreserved_of_label (label_plain.2 c mem))
  simp
  omega

namespace Issuance
variable {digest : String → String} {go : Stdlib} {ipLiteral : List Char → Except ParseError (List Char)}
  (issue : Issuance digest go ipLiteral)

def certificate : Except String CertificateTemplate := certificateTemplate issue.ca issue.signing issue.enrollment

lemma tenant_eq : issue.enrollment.tenantID = issue.fresh.tenantID := by
  have accepted := (newEnrollment_identity issue.created).1
  have some : issue.fresh.tenantID ≠ "" := by
    intro empty
    simp [empty,matchesIdentity] at accepted
  rw [issue.storedTenant,normalizeEnrollment]
  dsimp only
  rw [trimSpace_of_matches accepted,orElse,if_neg some]

lemma agent_eq : issue.enrollment.agentID = issue.fresh.agentID := by
  rw [issue.storedAgent,normalizeEnrollment]
  exact trimSpace_of_matches (newEnrollment_identity issue.created).2

def uri : String :=
  "spiffe://" ++ defaultString issue.ca.trustDomain "sysarmor.local" ++ "/tenant/" ++ issue.fresh.tenantID ++ "/agent/" ++
    issue.fresh.agentID

def schemeWord : List Char := ['s','p','i','f','f','e']

lemma uri_toList : issue.uri.toList = plainText schemeWord (defaultString issue.ca.trustDomain "sysarmor.local").toList
    (agentPath issue.fresh.tenantID.toList issue.fresh.agentID.toList) := by
  simp [uri,plainText,agentPath,schemeWord,tenantWord,agentWord]

lemma certificate_identity : ∃ template, issue.certificate = .ok template ∧
    certificateIdentity ipLiteral template = .ok (some ⟨issue.fresh.tenantID,issue.fresh.agentID,template.uri⟩) := by
  obtain ⟨acceptedTenant,acceptedAgent⟩ := newEnrollment_identity issue.created
  obtain ⟨namedTenant,plainTenant⟩ := chars_of_matches acceptedTenant
  obtain ⟨namedAgent,plainAgent⟩ := chars_of_matches acceptedAgent
  let host := (defaultString issue.ca.trustDomain "sysarmor.local").toList
  let path := agentPath issue.fresh.tenantID.toList issue.fresh.agentID.toList
  have plainHost : ∀ c ∈ host, unreserved c := hostName_unreserved issue.plainDomain
  have plainPath : ∀ c ∈ path, pathChar c := agentPath_plain plainTenant plainAgent
  have parsed : parse ipLiteral issue.uri.toList = .ok { scheme := schemeWord, host, path } := by
    rw [uri_toList]
    exact parse_plain (all_eq_true.mp (by decide)) (by decide) plainHost plainPath rfl
  have written : String.ofList (string { scheme := schemeWord, host, path }) = issue.uri := by
    rw [string_plain (by decide) plainHost plainPath rfl,← uri_toList,String.ofList_toList]
  have text : issue.signing.parseURI issue.uri = .ok issue.uri := by
    apply issue.parses
    rw [uriText,parsed]
    exact congrArg Except.ok written
  have tenant : defaultString issue.enrollment.tenantID "default" = issue.fresh.tenantID := by
    rw [tenant_eq,defaultString_of_matches acceptedTenant]
  refine ⟨{
    serialNumber := issue.serial
    commonName := "tenant_id:" ++ issue.fresh.tenantID ++ ",agent_id:" ++ issue.fresh.agentID
    uri := issue.uri
    notBefore := issue.signing.now - minute
    notAfter := issue.signing.now + 90 * day },?_,?_⟩
  · simp only [certificate,certificateTemplate,issue.drawn,tenant,agent_eq]
    rw [uri] at text
    simp only [Except.mapError,bind,Except.bind,text]
    rfl
  · have valid : domainNameValid host = true := hostName_valid issue.plainDomain
    have read : parseSAN ipLiteral issue.uri = .ok { scheme := schemeWord, host, path } := by
      simp [parseSAN,parsed,valid]
    have identity := identityFromURI_agentPath namedTenant namedAgent plainTenant plainAgent
      { scheme := schemeWord, host, path } rfl
    rw [written,String.ofList_toList,String.ofList_toList] at identity
    rw [certificateIdentity,read]
    simp [Except.map,peerAgentIdentity,identity]

lemma signed_certificate (template : issue.certificate = .ok cert)
    (signed : signAgentCSR digest issue.ca issue.signing issue.enrollment csr = .ok (pem,parsed,keyHash)) :
    ∃ publicKey der, csr = .valid publicKey ∧ issue.signing.createCertificate cert publicKey = .ok der ∧
      pem = issue.signing.encodePEM der := by
  cases csr with
  | valid publicKey =>
    obtain ⟨other,here,rest⟩ := bind_eq_ok.mp signed
    cases template.symm.trans here
    obtain ⟨der,made,rest⟩ := bind_eq_ok.mp rest
    obtain ⟨_,_,rest⟩ := bind_eq_ok.mp rest
    cases rest
    exact ⟨publicKey,der,rfl,mapError_eq_ok.mp made,rfl⟩
  | _ => cases signed

end Issuance

/-- Every accepted pair of ids comes back from the certificate that is signed for it, so two certificates
that authenticate the same agent were issued for the same pair. -/
theorem certificate_identity_round_trip {digest : String → String} {go : Stdlib}
    {ipLiteral : List Char → Except ParseError (List Char)} (issue other : Issuance digest go ipLiteral) :
    ∃ template, issue.certificate = .ok template ∧
      certificateIdentity ipLiteral template = .ok (some ⟨issue.fresh.tenantID,issue.fresh.agentID,template.uri⟩) ∧
      (∀ csr pem parsed keyHash, signAgentCSR digest issue.ca issue.signing issue.enrollment csr = .ok (pem,parsed,keyHash) →
        ∃ publicKey der, csr = .valid publicKey ∧ issue.signing.createCertificate template publicKey = .ok der ∧
          pem = issue.signing.encodePEM der) ∧
      ∀ template' id, other.certificate = .ok template' → certificateIdentity ipLiteral template' = .ok (some id) →
        id.tenantID = issue.fresh.tenantID → id.agentID = issue.fresh.agentID →
        other.fresh.tenantID = issue.fresh.tenantID ∧ other.fresh.agentID = issue.fresh.agentID := by
  obtain ⟨template,certificate,identity⟩ := issue.certificate_identity
  refine ⟨template,certificate,identity,fun _ _ _ _ signed => issue.signed_certificate certificate signed,?_⟩
  intro template' id certificate' identity' tenant agent
  obtain ⟨again,same,identity⟩ := other.certificate_identity
  cases certificate'.symm.trans same
  cases identity'.symm.trans identity
  exact ⟨tenant,agent⟩

def sampleIssuance : Issuance id asciiStdlib fun _ => .error .invalidHost where
  creation := {
    splitHostPort := fun _ => some ("gateway","9443")
    parseDuration := fun _ => .ok 0
    token := .ok "enr_token"
    bootstrapTicket := .ok "enr_ticket"
    now := 0
    stamp := fun _ => "now" }
  req := { agentID := " web-1 ", gatewayAddr := "gateway:9443" }
  fresh := {
    enrollmentID := "enr-now-nr_token"
    tenantID := "default"
    agentID := "web-1"
    hostID := "web-1"
    tokenHash := "enr_token"
    tokenPreview := "enr_token"
    bootstrapTokenHash := "enr_ticket"
    gatewayAddr := "gateway:9443"
    status := "active"
    createdAt := some 0
    expiresAt := some day }
  token := "enr_token"
  ticket := "enr_ticket"
  created := by rfl
  enrollment := { tenantID := "default", agentID := "web-1" }
  storedTenant := by decide +kernel
  storedAgent := by decide +kernel
  ca := ⟨"",""⟩
  plainDomain := by decide +kernel
  signing := {
    serial := .ok 7
    parseURI := fun text => (uriText (fun _ => .error .invalidHost) text).mapError fun _ => ""
    now := 0
    createCertificate := fun template _ => .ok template.uri
    parseCertificate := fun _ => .ok ⟨7,none⟩
    encodePEM := fun der => der }
  serial := 7
  drawn := rfl
  parses := fun _ _ parsed => by simp only [parsed,Except.mapError]

theorem sample_identity : sampleIssuance.fresh.agentID = "web-1" ∧ ∃ template, sampleIssuance.certificate = .ok template ∧
    certificateIdentity (fun _ => .error .invalidHost) template = .ok (some ⟨"default","web-1",template.uri⟩) := by
  obtain ⟨template,certificate,identity,-⟩ := certificate_identity_round_trip sampleIssuance sampleIssuance
  exact ⟨rfl,template,certificate,identity⟩

end SysArmor.Gateway
